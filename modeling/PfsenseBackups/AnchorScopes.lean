import PfsenseBackups.AnchorEvents

/-! The part of an event log that belongs to one namespace and scope. No scope has a dash, so
the ids of two scopes never meet, and each entry of the tables can be read back alone. -/

namespace PfsenseBackups.AnchorScopes
open Value Config Diff DiffConfigs AnchorEvents

/-- `aid.startswith(f"{space}-{scope}-")`. -/
def ofScope (space scope aid : String) : Bool :=
  (space ++ "-" ++ scope ++ "-").toList.isPrefixOf aid.toList

theorem ofScope_anchorId {space space' scope scope' : String} (tail : String)
    (plainSpace : dashless space = true) (plainSpace' : dashless space' = true)
    (plain : dashless scope = true) (plain' : dashless scope' = true) :
    ofScope space scope (anchorId space' scope' tail) = true ↔ space = space' ∧ scope = scope' := by
  rw [ofScope, List.isPrefixOf_iff_prefix]
  constructor
  · rintro ⟨rest, whole⟩
    have same : anchorId space scope (String.ofList rest) = anchorId space' scope' tail := by
      apply String.toList_inj.mp
      rw [← whole]
      simp [anchorId]
    obtain ⟨spaces, scopes, -⟩ := anchorId_inj plainSpace plainSpace' plain plain' same
    exact ⟨spaces, scopes⟩
  · rintro ⟨rfl, rfl⟩
    exact ⟨tail.toList, by simp [anchorId]⟩

/-- Every event's id lies in the namespace and one of the scopes. -/
def Within (space : String) (scopes : List String) (events : List Event) : Prop :=
  ∀ event ∈ events, ∃ scope ∈ scopes, ∃ tail, event.anchorId = anchorId space scope tail

theorem Within.append {space : String} {scopes : List String} {first second : List Event}
    (left : Within space scopes first) (right : Within space scopes second) :
    Within space scopes (first ++ second) := by
  intro event member
  rcases List.mem_append.mp member with inside | inside
  · exact left event inside
  · exact right event inside

theorem Within.filter_eq_nil {space space' scope : String} {scopes : List String}
    {events : List Event} (within : Within space' scopes events) (plainSpace : dashless space = true)
    (plainSpace' : dashless space' = true) (plain : dashless scope = true)
    (plain' : ∀ other ∈ scopes, dashless other = true)
    (apart : space = space' → scope ∉ scopes) :
    (events.filter fun event => ofScope space scope event.anchorId) = [] := by
  apply List.filter_eq_nil_iff.mpr
  intro event member
  obtain ⟨other, listed, tail, spec⟩ := within event member
  rw [spec, ofScope_anchorId tail plainSpace plainSpace' plain (plain' other listed)]
  rintro ⟨spaces, rfl⟩
  exact apart spaces listed

theorem Within.filter_eq_self {space scope : String} {events : List Event}
    (within : Within space [scope] events) (plainSpace : dashless space = true)
    (plain : dashless scope = true) :
    (events.filter fun event => ofScope space scope event.anchorId) = events := by
  apply List.filter_eq_self.mpr
  intro event member
  obtain ⟨other, listed, tail, spec⟩ := within event member
  rw [List.mem_singleton] at listed
  subst listed
  rw [spec]
  exact (ofScope_anchorId tail plainSpace plainSpace plain plain).mpr ⟨rfl, rfl⟩

/-! ### The scopes of the tables -/

/-- Every event of a row section is the event of some row. -/
theorem rowEvent_of_mem {spec : RowSpec} {diff : SectionDiff} {after : List Dict} {event : Event}
    (member : event ∈ rowEvents spec diff after) :
    ∃ kind row, rowEvent spec kind row = some event := by
  simp only [rowEvents, List.mem_append, List.mem_filterMap, Option.bind_eq_some_iff] at member
  rcases member with ((⟨row, -, built⟩ | ⟨row, -, built⟩) | ⟨-, -, row, -, built⟩) |
    ⟨-, -, row, -, built⟩
  all_goals exact ⟨_, row, built⟩

theorem rowEvents_within (spec : RowSpec) (diff : SectionDiff) (after : List Dict) :
    Within "xref" [spec.anchorKind] (rowEvents spec diff after) := by
  intro event member
  obtain ⟨kind, row, built⟩ := rowEvent_of_mem member
  obtain ⟨aid, named, rfl⟩ := Option.map_eq_some_iff.mp built
  obtain ⟨key, -, rfl⟩ := Option.map_eq_some_iff.mp named
  exact ⟨_, List.mem_singleton_self _, key, rfl⟩

/-- The scopes that a singleton section's fields can go to. -/
def fieldScopes (spec : FieldSpec) : List String :=
  spec.scope :: (singletonFieldRescope spec.section_).map fun target => target.2.1

theorem fieldTarget_scope (spec : FieldSpec) (field : String) :
    (fieldTarget spec field).1 ∈ fieldScopes spec := by
  unfold fieldTarget
  cases found : (singletonFieldRescope spec.section_).lookup field with
  | none => exact List.mem_cons_self
  | some target =>
    have member : (field, target) ∈ singletonFieldRescope spec.section_ := by
      obtain ⟨left, right, same, -⟩ := List.lookup_eq_some_iff.mp found
      simp [same]
    exact List.mem_cons_of_mem _ (List.mem_map.mpr ⟨_, member, rfl⟩)

theorem fieldAnchorId_eq_some {spec : FieldSpec} {field aid : String} :
    fieldAnchorId spec field = some aid ↔ dotless field = true ∧
      anchorId "field" (fieldTarget spec field).1 (fieldTarget spec field).2 = aid := by
  unfold fieldAnchorId rescope
  split
  next plain => simp [plain]
  next dotted => simp [dotted]

theorem fieldAnchorId_scope {spec : FieldSpec} {field aid : String}
    (named : fieldAnchorId spec field = some aid) :
    ∃ scope ∈ fieldScopes spec, ∃ tail, aid = anchorId "field" scope tail := by
  obtain ⟨-, rfl⟩ := fieldAnchorId_eq_some.mp named
  exact ⟨_, fieldTarget_scope spec field, _, rfl⟩

theorem singletonEvents_within (spec : FieldSpec) (diff : SectionDiff) :
    Within "field" (fieldScopes spec) (singletonEvents spec diff) := by
  intro event member
  simp only [singletonEvents, wholeEvents, fieldEvent, List.mem_append, List.mem_flatMap,
    List.mem_filterMap, Option.map_eq_some_iff] at member
  rcases member with (⟨-, -, field, -, aid, named, rfl⟩ | ⟨-, -, field, -, aid, named, rfl⟩) |
    ⟨-, -, change, -, aid, named, rfl⟩
  all_goals exact fieldAnchorId_scope named

theorem wholePackageEvents_within (kind : Kind) (whole : Dict) :
    Within "field" (packageSingletonSpec.map Prod.snd) (wholePackageEvents kind whole) := by
  intro event member
  obtain ⟨⟨pkg, scope⟩, listed, inside⟩ := List.mem_flatMap.mp member
  simp only at inside
  split at inside
  next =>
    obtain ⟨⟨leaf, value⟩, -, built⟩ := List.mem_filterMap.mp inside
    simp only [Option.ite_none_right_eq_some, Option.some.injEq] at built
    obtain ⟨-, rfl⟩ := built
    exact ⟨scope, List.mem_map.mpr ⟨_, listed, rfl⟩, leaf, rfl⟩
  next => cases inside

theorem changeEvents_within (changes : List FieldChange) :
    Within "field" (packageSingletonSpec.map Prod.snd) (changes.filterMap packageFieldEvent) := by
  intro event member
  obtain ⟨change, -, built⟩ := List.mem_filterMap.mp member
  unfold packageFieldEvent at built
  split at built
  next pkg leaf _ =>
    obtain ⟨scope, found, rfl⟩ := Option.map_eq_some_iff.mp built
    have listed : (pkg, scope) ∈ packageSingletonSpec := by
      obtain ⟨left, right, same, -⟩ := List.lookup_eq_some_iff.mp found
      simp [same]
    exact ⟨scope, List.mem_map.mpr ⟨_, listed, rfl⟩, leaf, rfl⟩
  next => cases built

private theorem packageRowKey_listed {parts : List String} {rowKey : PackageRowSpec × String}
    (found : packageRowKey parts = some rowKey) : rowKey.1 ∈ packageRowSpec := by
  unfold packageRowKey at found
  split at found
  next =>
    simp only [Option.bind_eq_bind, Option.bind_eq_some_iff, Option.pure_def,
      Option.some.injEq] at found
    obtain ⟨spec, first, key, -, rfl⟩ := found
    exact List.mem_of_find?_eq_some first
  next => cases found

theorem rowHits_listed (changes : List FieldChange) :
    ∀ hit ∈ changes.foldl addRowHit [], hit.1.1 ∈ packageRowSpec := by
  suffices general : ∀ hits : List ((PackageRowSpec × String) × Kind),
      (∀ hit ∈ hits, hit.1.1 ∈ packageRowSpec) →
      ∀ hit ∈ changes.foldl addRowHit hits, hit.1.1 ∈ packageRowSpec from
    general [] fun hit member => nomatch member
  induction changes with
  | nil => exact fun hits listed => listed
  | cons change rest ih =>
    intro hits listed
    refine ih _ ?_
    intro hit member
    unfold addRowHit at member
    split at member
    next => exact listed hit member
    next rowKey found =>
      split at member
      next => exact listed hit member
      next =>
        rcases List.mem_append.mp member with old | new
        · exact listed hit old
        · rw [List.mem_singleton.mp new]
          exact packageRowKey_listed found

theorem packageRowEvents_within (after : Option Dict) (changes : List FieldChange) :
    Within "xref" (packageRowSpec.map PackageRowSpec.anchorKind)
      ((changes.foldl addRowHit []).map (packageRowEvent after)) := by
  intro event member
  obtain ⟨hit, inside, rfl⟩ := List.mem_map.mp member
  exact ⟨_, List.mem_map.mpr ⟨_, rowHits_listed changes hit inside, rfl⟩, _, rfl⟩

/-! ### One scope of the whole projection -/

theorem filter_flatMap_of_none {α β : Type*} {parts : List α} {f : α → List β} {p : β → Bool}
    (apart : ∀ part ∈ parts, (f part).filter p = []) : (parts.flatMap f).filter p = [] := by
  rw [List.filter_flatMap, List.flatMap_eq_nil_iff]
  exact apart

/-- Filtering a concatenation of which only one part can pass filters that part. -/
theorem filter_flatMap_of_one {α β : Type*} {parts : List α} {f : α → List β} {p : β → Bool}
    {one : α} (listed : one ∈ parts) (unique : parts.Nodup)
    (apart : ∀ other ∈ parts, other ≠ one → (f other).filter p = []) :
    (parts.flatMap f).filter p = (f one).filter p := by
  induction parts with
  | nil => cases listed
  | cons part rest ih =>
    obtain ⟨fresh, tail⟩ := List.nodup_cons.mp unique
    rw [List.flatMap_cons, List.filter_append]
    by_cases same : part = one
    · subst same
      have nothing : (rest.flatMap f).filter p = [] :=
        filter_flatMap_of_none fun other member =>
          apart other (List.mem_cons_of_mem _ member) fun same => fresh (same ▸ member)
      rw [nothing, List.append_nil]
    · have inside : one ∈ rest := by
        rcases List.mem_cons.mp listed with same' | inside
        · exact (same same'.symm).elim
        · exact inside
      rw [apart part List.mem_cons_self same, List.nil_append]
      exact ih inside tail fun other member => apart other (List.mem_cons_of_mem _ member)

/-- The anchor kind of a row section. -/
theorem anchorKind_dashless : ∀ spec ∈ sectionSpec, dashless spec.anchorKind = true := by
  decide

theorem anchorKind_inj : ∀ spec ∈ sectionSpec, ∀ other ∈ sectionSpec,
    spec.anchorKind = other.anchorKind → spec = other := by
  decide

theorem packageKind_apart : ∀ spec ∈ sectionSpec,
    spec.anchorKind ∉ packageRowSpec.map PackageRowSpec.anchorKind := by
  decide

theorem packageKind_dashless : ∀ kind ∈ packageRowSpec.map PackageRowSpec.anchorKind,
    dashless kind = true := by
  decide

theorem fieldScopes_dashless : ∀ spec ∈ singletonSpec, ∀ scope ∈ fieldScopes spec,
    dashless scope = true := by
  decide

theorem packageScope_dashless : ∀ scope ∈ packageSingletonSpec.map Prod.snd,
    dashless scope = true := by
  decide

theorem packageScope_apart : ∀ spec ∈ singletonSpec, ∀ scope ∈ packageSingletonSpec.map Prod.snd,
    scope ∉ fieldScopes spec := by
  decide

/-- The events that the projector reads off the packages' own fields. -/
def packageFieldEvents (diff : SectionDiff) : List Event :=
  diff.added.flatMap (wholePackageEvents .added) ++
    diff.removed.flatMap (wholePackageEvents .removed) ++
    (diff.modified.flatMap ItemDiff.changes).filterMap packageFieldEvent

theorem packageFieldEvents_within (diff : SectionDiff) :
    Within "field" (packageSingletonSpec.map Prod.snd) (packageFieldEvents diff) := by
  refine .append (.append ?_ ?_) (changeEvents_within _)
  all_goals
    intro event member
    obtain ⟨whole, -, inside⟩ := List.mem_flatMap.mp member
    exact wholePackageEvents_within _ whole event inside

/-- No two singleton sections share a scope. -/
theorem fieldScopes_disjoint : ∀ spec ∈ singletonSpec, ∀ scope ∈ fieldScopes spec,
    ∀ other ∈ singletonSpec, scope ∈ fieldScopes other → other = spec := by
  decide

/-- Whatever part of the projection an event comes from, its id names that part. -/
theorem Within.scope {space space' scope : String} {scopes : List String} {events : List Event}
    (within : Within space' scopes events) (plainSpace : dashless space = true)
    (plainSpace' : dashless space' = true) (plain : dashless scope = true)
    (plain' : ∀ other ∈ scopes, dashless other = true) {event : Event} (member : event ∈ events)
    (inScope : ofScope space scope event.anchorId = true) : space = space' ∧ scope ∈ scopes := by
  obtain ⟨other, listed, tail, spec⟩ := within event member
  rw [spec, ofScope_anchorId tail plainSpace plainSpace' plain (plain' other listed)] at inScope
  exact ⟨inScope.1, inScope.2 ▸ listed⟩

/-- The four parts of a walk over the tables, each within its own scopes. -/
structure Assembled (rows : RowSpec → List Event) (fields : FieldSpec → List Event)
    (packageFields packageRows : List Event) : Prop where
  rows_within : ∀ spec ∈ sectionSpec, Within "xref" [spec.anchorKind] (rows spec)
  fields_within : ∀ spec ∈ singletonSpec, Within "field" (fieldScopes spec) (fields spec)
  packageFields_within : Within "field" (packageSingletonSpec.map Prod.snd) packageFields
  packageRows_within : Within "xref" (packageRowSpec.map PackageRowSpec.anchorKind) packageRows

/-- The walk that has these parts. -/
def assemble (rows : RowSpec → List Event) (fields : FieldSpec → List Event)
    (packageFields packageRows : List Event) : List Event :=
  sectionSpec.flatMap rows ++ singletonSpec.flatMap fields ++ (packageFields ++ packageRows)

namespace Assembled

variable {rows : RowSpec → List Event} {fields : FieldSpec → List Event}
  {packageFields packageRows : List Event}
  (parts : Assembled rows fields packageFields packageRows)

include parts

private theorem rows_filter (space scope : String) (plainSpace : dashless space = true)
    (plain : dashless scope = true)
    (apart : space = "xref" → ∀ spec ∈ sectionSpec, scope ≠ spec.anchorKind) :
    ((sectionSpec.flatMap rows).filter fun event => ofScope space scope event.anchorId) = [] := by
  apply filter_flatMap_of_none
  intro spec listed
  refine (parts.rows_within spec listed).filter_eq_nil plainSpace (by decide) plain ?_ ?_
  · simpa using anchorKind_dashless spec listed
  · intro same
    simpa using apart same spec listed

private theorem fields_filter (space scope : String) (plainSpace : dashless space = true)
    (plain : dashless scope = true)
    (apart : space = "field" → ∀ spec ∈ singletonSpec, scope ∉ fieldScopes spec) :
    ((singletonSpec.flatMap fields).filter fun event => ofScope space scope event.anchorId) =
      [] := by
  apply filter_flatMap_of_none
  intro spec listed
  exact (parts.fields_within spec listed).filter_eq_nil plainSpace (by decide) plain
    (fieldScopes_dashless spec listed) fun same => apart same spec listed

/-- The part under a row section's anchor kind comes from that section. -/
theorem filter_rows {spec : RowSpec} (listed : spec ∈ sectionSpec) :
    ((assemble rows fields packageFields packageRows).filter fun event =>
        ofScope "xref" spec.anchorKind event.anchorId) = rows spec := by
  have plain := anchorKind_dashless spec listed
  have one := filter_flatMap_of_one (f := rows)
    (p := fun event => ofScope "xref" spec.anchorKind event.anchorId) listed (by decide)
    fun other member different => (parts.rows_within other member).filter_eq_nil (by decide)
      (by decide) plain (by simpa using anchorKind_dashless other member)
      fun _ same => different
        (anchorKind_inj spec listed other member (List.mem_singleton.mp same)).symm
  have own := (parts.rows_within spec listed).filter_eq_self (by decide) plain
  have noFields := parts.fields_filter "xref" spec.anchorKind (by decide) plain
    fun same => absurd same (by decide)
  have noPackages : (packageFields.filter fun event =>
      ofScope "xref" spec.anchorKind event.anchorId) = [] :=
    parts.packageFields_within.filter_eq_nil (by decide) (by decide) plain packageScope_dashless
      fun same => absurd same (by decide)
  have noHits : (packageRows.filter fun event =>
      ofScope "xref" spec.anchorKind event.anchorId) = [] :=
    parts.packageRows_within.filter_eq_nil (by decide) (by decide) plain packageKind_dashless
      fun _ => packageKind_apart spec listed
  simp only [assemble, List.filter_append, one, own, noFields, noPackages, noHits,
    List.append_nil]

/-- The part under a package's own scope comes from the package's fields. -/
theorem filter_package {scope : String} (listed : scope ∈ packageSingletonSpec.map Prod.snd) :
    ((assemble rows fields packageFields packageRows).filter fun event =>
        ofScope "field" scope event.anchorId) =
      packageFields.filter fun event => ofScope "field" scope event.anchorId := by
  have plain := packageScope_dashless scope listed
  have noRows := parts.rows_filter "field" scope (by decide) plain
    fun same => absurd same (by decide)
  have noFields := parts.fields_filter "field" scope (by decide) plain
    fun _ spec member => packageScope_apart spec member scope listed
  have noHits : (packageRows.filter fun event => ofScope "field" scope event.anchorId) = [] :=
    parts.packageRows_within.filter_eq_nil (by decide) (by decide) plain packageKind_dashless
      fun same => absurd same (by decide)
  simp only [assemble, List.filter_append, noRows, noFields, noHits, List.append_nil,
    List.nil_append]

/-- The part under a package row kind comes from the package rows. -/
theorem filter_hits {kind : String}
    (listed : kind ∈ packageRowSpec.map PackageRowSpec.anchorKind) :
    ((assemble rows fields packageFields packageRows).filter fun event =>
        ofScope "xref" kind event.anchorId) =
      packageRows.filter fun event => ofScope "xref" kind event.anchorId := by
  have plain := packageKind_dashless kind listed
  have noRows := parts.rows_filter "xref" kind (by decide) plain
    fun _ spec member same => packageKind_apart spec member (same ▸ listed)
  have noFields := parts.fields_filter "xref" kind (by decide) plain
    fun same => absurd same (by decide)
  have noPackages : (packageFields.filter fun event => ofScope "xref" kind event.anchorId) =
      [] :=
    parts.packageFields_within.filter_eq_nil (by decide) (by decide) plain packageScope_dashless
      fun same => absurd same (by decide)
  simp only [assemble, List.filter_append, noRows, noFields, noPackages, List.append_nil,
    List.nil_append]

/-- The events under a singleton section's scopes come from that section. -/
theorem mem_field {spec : FieldSpec} (listed : spec ∈ singletonSpec) {scope : String}
    (owned : scope ∈ fieldScopes spec) {event : Event}
    (inScope : ofScope "field" scope event.anchorId = true) :
    event ∈ assemble rows fields packageFields packageRows ↔ event ∈ fields spec := by
  have plain := fieldScopes_dashless spec listed scope owned
  simp only [assemble, List.mem_append, List.mem_flatMap]
  constructor
  · rintro ((⟨other, known, inside⟩ | ⟨other, known, inside⟩) | inside | inside)
    · have spaces := ((parts.rows_within other known).scope (by decide) (by decide) plain
        (by simpa using anchorKind_dashless other known) inside inScope).1
      exact absurd spaces (by decide)
    · have shared := ((parts.fields_within other known).scope (by decide) (by decide) plain
        (fieldScopes_dashless other known) inside inScope).2
      obtain rfl := fieldScopes_disjoint spec listed scope owned other known shared
      exact inside
    · have shared := (parts.packageFields_within.scope (by decide) (by decide) plain
        packageScope_dashless inside inScope).2
      exact absurd owned (packageScope_apart spec listed scope shared)
    · have spaces := (parts.packageRows_within.scope (by decide) (by decide) plain
        packageKind_dashless inside inScope).1
      exact absurd spaces (by decide)
  · exact fun inside => .inl (.inr ⟨spec, listed, inside⟩)

/-- Every event of the walk is anchored at a row or at a field. -/
theorem space_of_mem {event : Event}
    (member : event ∈ assemble rows fields packageFields packageRows) :
    ∃ space ∈ ["xref", "field"], ∃ scope, dashless scope = true ∧
      ∃ tail, event.anchorId = anchorId space scope tail := by
  simp only [assemble, List.mem_append, List.mem_flatMap] at member
  rcases member with (⟨spec, known, inside⟩ | ⟨spec, known, inside⟩) | inside | inside
  · obtain ⟨scope, owned, tail, same⟩ := parts.rows_within spec known event inside
    rw [List.mem_singleton.mp owned] at same
    exact ⟨_, by simp, _, anchorKind_dashless spec known, tail, same⟩
  · obtain ⟨scope, owned, tail, same⟩ := parts.fields_within spec known event inside
    exact ⟨_, by simp, scope, fieldScopes_dashless spec known scope owned, tail, same⟩
  · obtain ⟨scope, owned, tail, same⟩ := parts.packageFields_within event inside
    exact ⟨_, by simp, scope, packageScope_dashless scope owned, tail, same⟩
  · obtain ⟨scope, owned, tail, same⟩ := parts.packageRows_within event inside
    exact ⟨_, by simp, scope, packageKind_dashless scope owned, tail, same⟩

end Assembled

section Projection

variable (diff : ConfigDiff) (after : ParsedConfig)

/-- The events of `package_row_hits`. -/
def packageRowEvents : List Event :=
  ((diff.installedpackages.modified.flatMap ItemDiff.changes).foldl addRowHit []).map
    (packageRowEvent (after.model .installedpackages))

theorem diffToAnchorEvents_eq : diffToAnchorEvents diff after = assemble
    (fun spec => rowEvents spec (diff.list spec.section_) (after.rows spec.section_))
    (fun spec => ((diff.model spec.section_).map (singletonEvents spec)).getD [])
    (packageFieldEvents diff.installedpackages) (packageRowEvents diff after) :=
  rfl

theorem diffToAnchorEvents_assembled : Assembled
    (fun spec => rowEvents spec (diff.list spec.section_) (after.rows spec.section_))
    (fun spec => ((diff.model spec.section_).map (singletonEvents spec)).getD [])
    (packageFieldEvents diff.installedpackages) (packageRowEvents diff after) where
  rows_within spec _ := rowEvents_within spec _ _
  fields_within := by
    intro spec _
    cases diff.model spec.section_ with
    | none => exact fun event member => nomatch member
    | some inner => exact singletonEvents_within spec inner
  packageFields_within := packageFieldEvents_within _
  packageRows_within := packageRowEvents_within _ _

theorem diffToAnchorEvents_rows {spec : RowSpec} (listed : spec ∈ sectionSpec) :
    ((diffToAnchorEvents diff after).filter fun event =>
        ofScope "xref" spec.anchorKind event.anchorId) =
      rowEvents spec (diff.list spec.section_) (after.rows spec.section_) := by
  rw [diffToAnchorEvents_eq, (diffToAnchorEvents_assembled diff after).filter_rows listed]

theorem diffToAnchorEvents_package {scope : String}
    (listed : scope ∈ packageSingletonSpec.map Prod.snd) :
    ((diffToAnchorEvents diff after).filter fun event => ofScope "field" scope event.anchorId) =
      (packageFieldEvents diff.installedpackages).filter fun event =>
        ofScope "field" scope event.anchorId := by
  rw [diffToAnchorEvents_eq, (diffToAnchorEvents_assembled diff after).filter_package listed]

theorem diffToAnchorEvents_hits {kind : String}
    (listed : kind ∈ packageRowSpec.map PackageRowSpec.anchorKind) :
    ((diffToAnchorEvents diff after).filter fun event => ofScope "xref" kind event.anchorId) =
      (packageRowEvents diff after).filter fun event => ofScope "xref" kind event.anchorId := by
  rw [diffToAnchorEvents_eq, (diffToAnchorEvents_assembled diff after).filter_hits listed]

/-- The events under a singleton section's scopes come from that section. -/
theorem mem_diffToAnchorEvents_field {spec : FieldSpec} (listed : spec ∈ singletonSpec)
    {scope : String} (owned : scope ∈ fieldScopes spec) {event : Event}
    (inScope : ofScope "field" scope event.anchorId = true) :
    event ∈ diffToAnchorEvents diff after ↔
      ∃ inner ∈ diff.model spec.section_, event ∈ singletonEvents spec inner := by
  rw [diffToAnchorEvents_eq,
    (diffToAnchorEvents_assembled diff after).mem_field listed owned inScope]
  cases diff.model spec.section_ <;> simp

end Projection

/-! ### The seeds -/

/-- What `_seed_anchor_events` stores, as events. -/
def seeds (config : ParsedConfig) : List Event :=
  (enumerateAnchors config).map fun entry => ⟨entry.1, .added, entry.2⟩

/-- The seeds of one row section. -/
def seedRows (config : ParsedConfig) (spec : RowSpec) : List Event :=
  (config.rows spec.section_).filterMap (rowEvent spec .added)

/-- The seeds of one singleton section. -/
def seedFields (config : ParsedConfig) (spec : FieldSpec) : List Event :=
  wholeEvents spec .added ((config.model spec.section_).getD [])

/-- The seeds of the packages' own fields. -/
def seedPackages (config : ParsedConfig) : List Event :=
  wholePackageEvents .added ((config.model .installedpackages).getD [])

/-- The seeds of the packages' rows. -/
def seedPackageRows (config : ParsedConfig) : List Event :=
  packageRowSpec.flatMap fun spec =>
    (rowsAt ((config.model .installedpackages).getD []) spec.listPath).filterMap fun row =>
      (rowAnchorId spec.anchorKind row spec.anchorKeyField).map fun aid => ⟨aid, .added, .dict row⟩

theorem seeds_eq (config : ParsedConfig) : seeds config =
    assemble (seedRows config) (seedFields config) (seedPackages config)
      (seedPackageRows config) := by
  simp only [seeds, enumerateAnchors, assemble, List.map_append, List.append_assoc,
    List.map_flatMap]
  congr 1
  · congr 1
    funext spec
    simp only [seedRows, enumerateRows, List.map_filterMap, Option.map_map, Function.comp_def]
    rfl
  congr 1
  · congr 1
    funext spec
    simp [seedFields, wholeEvents, List.map_filterMap, Function.comp_def]
  congr 1
  · unfold seedPackages wholePackageEvents
    congr 1
    funext ⟨pkg, scope⟩
    dsimp only
    split
    · rw [List.map_filterMap]
      congr 1
      funext ⟨leaf, value⟩
      cases dotless leaf <;> rfl
    · rfl
  · unfold seedPackageRows
    congr 1
    funext spec
    simp [List.map_filterMap, Function.comp_def]

theorem seeds_assembled (config : ParsedConfig) : Assembled (seedRows config) (seedFields config)
    (seedPackages config) (seedPackageRows config) where
  rows_within := by
    intro spec _ event member
    obtain ⟨row, -, built⟩ := List.mem_filterMap.mp member
    obtain ⟨aid, named, rfl⟩ := Option.map_eq_some_iff.mp built
    obtain ⟨key, -, rfl⟩ := Option.map_eq_some_iff.mp named
    exact ⟨_, List.mem_singleton_self _, key, rfl⟩
  fields_within := by
    intro spec _ event member
    obtain ⟨field, -, built⟩ := List.mem_filterMap.mp member
    obtain ⟨aid, named, rfl⟩ := Option.map_eq_some_iff.mp built
    exact fieldAnchorId_scope named
  packageFields_within := wholePackageEvents_within _ _
  packageRows_within := by
    intro event member
    obtain ⟨spec, listed, inside⟩ := List.mem_flatMap.mp member
    obtain ⟨row, -, built⟩ := List.mem_filterMap.mp inside
    obtain ⟨aid, named, rfl⟩ := Option.map_eq_some_iff.mp built
    obtain ⟨key, -, rfl⟩ := Option.map_eq_some_iff.mp named
    exact ⟨_, List.mem_map.mpr ⟨spec, listed, rfl⟩, key, rfl⟩

end PfsenseBackups.AnchorScopes

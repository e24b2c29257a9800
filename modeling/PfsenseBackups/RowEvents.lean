import PfsenseBackups.AnchorScopes

/-! Which rows of two uniquely keyed lists the projector reports, and as what. -/

namespace PfsenseBackups.RowEvents
open Value Keyed Config Diff DiffConfigs AnchorEvents AnchorScopes

/-! ### Facts about the table -/

/-- The table's diff key is the one that `diff_configs` matches on. -/
theorem diffKeyField_eq {spec : RowSpec} (listed : spec ∈ sectionSpec) :
    spec.diffKeyField = rowKey spec.section_ := by
  revert spec
  decide

/-- In all sections but one the anchor is built from the diff key. -/
theorem anchorKeyField_eq {spec : RowSpec} (listed : spec ∈ sectionSpec)
    (others : spec.section_ ≠ .vlans) : spec.anchorKeyField = spec.diffKeyField := by
  revert spec
  decide

theorem diffKeyField_str : ∀ spec ∈ sectionSpec,
    spec.section_.model.fieldType spec.diffKeyField = some .str := by
  simp only [sectionSpec, List.forall_mem_cons, List.not_mem_nil, false_implies, implies_true,
    and_true]
  exact ⟨rfl, rfl, rfl, rfl, rfl, rfl, rfl, rfl, rfl, rfl, rfl, rfl, rfl, rfl, rfl, rfl, rfl, rfl,
    rfl, rfl, rfl⟩

/-- Diff keys are never missing: all of them are declared `str`. -/
theorem diffKey_present {spec : RowSpec} (listed : spec ∈ sectionSpec) (config : ParsedConfig) :
    ∀ row ∈ config.rows spec.section_, Dict.get row spec.diffKeyField ≠ .none := by
  intro row member absent
  have typed := (config.rows_conform _ row member).get (diffKeyField_str spec listed)
  simp [absent, FieldType.conforms] at typed

/-! ### Reports -/

/-- The row that an event of this kind carries, for the step from `a` to `b`. -/
def Reports (key : String) (orderSensitive : Bool) (a b : List Dict) : Kind → Dict → Prop
  | .added, row => row ∈ b ∧ diffKey key row ∉ keys (diffKey key) a
  | .removed, row => row ∈ a ∧ diffKey key row ∉ keys (diffKey key) b
  | .modified, row => row ∈ b ∧ ∃ old ∈ a, diffKey key old = diffKey key row ∧
      fieldChanges old row "" ≠ []
  | .reordered, row => row ∈ b ∧ diffKey key row ∈ keys (diffKey key) a ∧
      orderSensitive = true ∧ indexAt key a (diffKey key row) ≠ indexAt key b (diffKey key row)

section

variable {key : String} {a b : List Dict} {labelFn : Dict → String} {orderSensitive : Bool}

theorem mem_added_iff (ub : Unique (diffKey key) b) (row : Dict) :
    row ∈ (diffList key a b labelFn orderSensitive).added ↔
      Reports key orderSensitive a b .added row := by
  rw [mem_added, Reports]
  constructor
  · rintro ⟨k, inB, notA, rfl⟩
    obtain ⟨member, same⟩ := rowAt_spec inB
    exact ⟨member, by rwa [same]⟩
  · rintro ⟨member, notA⟩
    exact ⟨_, mem_keys.mpr ⟨row, member, rfl⟩, notA, rowAt_unique ub member⟩

theorem mem_removed_iff (ua : Unique (diffKey key) a) (row : Dict) :
    row ∈ (diffList key a b labelFn orderSensitive).removed ↔
      Reports key orderSensitive a b .removed row := by
  rw [mem_removed, Reports]
  constructor
  · rintro ⟨k, inA, notB, rfl⟩
    obtain ⟨member, same⟩ := rowAt_spec inA
    exact ⟨member, by rwa [same]⟩
  · rintro ⟨member, notB⟩
    exact ⟨_, mem_keys.mpr ⟨row, member, rfl⟩, notB, rowAt_unique ua member⟩

theorem mem_modified_iff (ua : Unique (diffKey key) a) (ub : Unique (diffKey key) b) (row : Dict) :
    (∃ item ∈ (diffList key a b labelFn orderSensitive).modified,
        lastBy (diffKey key) b item.key = some row) ↔
      Reports key orderSensitive a b .modified row := by
  rw [Reports]
  constructor
  · rintro ⟨item, listed, found⟩
    obtain ⟨k, ⟨inB, inA⟩, loud, rfl⟩ := mem_modified.mp listed
    obtain ⟨member, rfl⟩ := lastBy_spec found
    obtain ⟨old, same⟩ := rowAt_spec inA
    rw [changesAt, rowAt_unique ub member] at loud
    exact ⟨member, _, old, same, loud⟩
  · rintro ⟨member, old, oldMember, same, loud⟩
    have inB : diffKey key row ∈ keys (diffKey key) b := mem_keys.mpr ⟨row, member, rfl⟩
    have inA : diffKey key row ∈ keys (diffKey key) a := mem_keys.mpr ⟨old, oldMember, same⟩
    refine ⟨_, mem_modified.mpr ⟨_, ⟨inB, inA⟩, ?_, rfl⟩, ub.lastBy member⟩
    rw [changesAt, ← same, rowAt_unique ua oldMember, same, rowAt_unique ub member]
    exact loud

theorem mem_reordered_iff (ub : Unique (diffKey key) b) (row : Dict) :
    (∃ event ∈ (diffList key a b labelFn orderSensitive).reordered,
        lastBy (diffKey key) b event.key = some row) ↔
      Reports key orderSensitive a b .reordered row := by
  rw [Reports]
  constructor
  · rintro ⟨event, listed, found⟩
    obtain ⟨k, ⟨-, inA⟩, moved, rfl⟩ := mem_reordered.mp listed
    obtain ⟨member, rfl⟩ := lastBy_spec found
    exact ⟨member, inA, moved⟩
  · rintro ⟨member, inA, moved⟩
    have inB : diffKey key row ∈ keys (diffKey key) b := mem_keys.mpr ⟨row, member, rfl⟩
    exact ⟨_, mem_reordered.mpr ⟨_, ⟨inB, inA⟩, moved, rfl⟩, ub.lastBy member⟩

end

theorem byDiffKey_eq (spec : RowSpec) {rows : List Dict}
    (present : ∀ row ∈ rows, Dict.get row spec.diffKeyField ≠ .none) (key : String) :
    byDiffKey spec rows key = lastBy (diffKey spec.diffKeyField) rows key := by
  have all : (rows.filter fun row => decide (Dict.get row spec.diffKeyField ≠ .none)) = rows :=
    List.filter_eq_self.mpr fun row member => by simp [present row member]
  rw [byDiffKey, all]

/-- The events of a section are those of the rows it reports. -/
theorem mem_rowEvents (spec : RowSpec) {a b : List Dict} (labelFn : Dict → String)
    (orderSensitive : Bool) (ua : Unique (diffKey spec.diffKeyField) a)
    (ub : Unique (diffKey spec.diffKeyField) b)
    (present : ∀ row ∈ b, Dict.get row spec.diffKeyField ≠ .none) (event : Event) :
    event ∈ rowEvents spec (diffList spec.diffKeyField a b labelFn orderSensitive) b ↔
      ∃ kind row, Reports spec.diffKeyField orderSensitive a b kind row ∧
        rowEvent spec kind row = some event := by
  simp only [rowEvents, List.mem_append, List.mem_filterMap, byDiffKey_eq spec present,
    Option.bind_eq_some_iff, mem_added_iff ub, mem_removed_iff ua]
  constructor
  · rintro (((⟨row, reported, built⟩ | ⟨row, reported, built⟩) | ⟨item, listed, row, found, built⟩) |
      ⟨item, listed, row, found, built⟩)
    · exact ⟨.added, row, reported, built⟩
    · exact ⟨.removed, row, reported, built⟩
    · exact ⟨.modified, row, (mem_modified_iff ua ub row).mp ⟨item, listed, found⟩, built⟩
    · exact ⟨.reordered, row, (mem_reordered_iff ub row).mp ⟨item, listed, found⟩, built⟩
  · rintro ⟨kind, row, reported, built⟩
    cases kind with
    | added => exact .inl (.inl (.inl ⟨row, reported, built⟩))
    | removed => exact .inl (.inl (.inr ⟨row, reported, built⟩))
    | modified =>
      obtain ⟨item, listed, found⟩ := (mem_modified_iff ua ub row).mpr reported
      exact .inl (.inr ⟨item, listed, row, found, built⟩)
    | reordered =>
      obtain ⟨item, listed, found⟩ := (mem_reordered_iff ub row).mpr reported
      exact .inr ⟨item, listed, row, found, built⟩

/-! ### One section of the whole projection -/

theorem rowEvent_ofScope {spec : RowSpec} (listed : spec ∈ sectionSpec) {kind : Kind} {row : Dict}
    {event : Event} (built : rowEvent spec kind row = some event) :
    ofScope "xref" spec.anchorKind event.anchorId = true := by
  have plain := anchorKind_dashless spec listed
  obtain ⟨aid, named, rfl⟩ := Option.map_eq_some_iff.mp built
  obtain ⟨key, -, rfl⟩ := Option.map_eq_some_iff.mp named
  exact (ofScope_anchorId key (by decide) (by decide) plain plain).mpr ⟨rfl, rfl⟩

section Section

variable {spec : RowSpec} (listed : spec ∈ sectionSpec)

include listed

/-- The events of a step under a section's anchor kind. -/
theorem mem_diffToAnchorEvents_row {a b : ParsedConfig}
    (ua : Unique (diffKey spec.diffKeyField) (a.rows spec.section_))
    (ub : Unique (diffKey spec.diffKeyField) (b.rows spec.section_)) (event : Event) :
    event ∈ diffToAnchorEvents (diffConfigs a b) b ∧
        ofScope "xref" spec.anchorKind event.anchorId = true ↔
      ∃ kind row, Reports spec.diffKeyField (orderSensitive spec.section_) (a.rows spec.section_)
        (b.rows spec.section_) kind row ∧ rowEvent spec kind row = some event := by
  have own := diffToAnchorEvents_rows (diffConfigs a b) b listed
  rw [diffConfigs_list, ← diffKeyField_eq listed] at own
  rw [← mem_rowEvents spec _ _ ua ub (diffKey_present listed b), ← own, List.mem_filter]

/-- The seeds under a section's anchor kind. -/
theorem mem_seeds_row (config : ParsedConfig) (event : Event) :
    event ∈ seeds config ∧ ofScope "xref" spec.anchorKind event.anchorId = true ↔
      ∃ row ∈ config.rows spec.section_, rowEvent spec .added row = some event := by
  have own := (seeds_assembled config).filter_rows listed
  rw [← seeds_eq] at own
  rw [← List.mem_filterMap, ← seedRows, ← own, List.mem_filter]

end Section

end PfsenseBackups.RowEvents

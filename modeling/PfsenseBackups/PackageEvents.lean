import PfsenseBackups.FieldEvents
import Mathlib.Data.List.Perm.Subperm

/-! Packages in the event log. `_field_changes` reports a whole list, and a whole package
that comes or goes, as one change; the projector looks for the paths of what is inside. -/

namespace PfsenseBackups.PackageEvents
open Value Keyed Config Diff DiffConfigs AnchorEvents AnchorScopes FieldEvents

/-! ### Paths of changes -/

theorem splitPath_of_dotless {name : String} (plain : dotless name = true) :
    splitPath name = [name] := by
  simp only [dotless, decide_eq_true_eq] at plain
  simp [splitPath, List.splitOn_eq_singleton plain]

theorem splitPath_dot {name : String} (plain : dotless name = true) (rest : String) :
    splitPath (name ++ "." ++ rest) = name :: splitPath rest := by
  simp only [dotless, decide_eq_true_eq] at plain
  have lists : (name ++ "." ++ rest).toList = name.toList ++ '.' :: rest.toList := by simp
  simp [splitPath, lists, List.splitOn_append_cons_self_of_not_mem plain]

/-- A change below a field has the field as the first segment of its path. -/
theorem splitPath_changesBetween {name : String} (plain : dotless name = true) {before after : Val}
    {change : FieldChange} (member : change ∈ changesBetween name before after) :
    ∃ rest, splitPath change.field = name :: rest := by
  by_cases same : before = after
  · simp [same] at member
  · by_cases nested : ∃ x y, before = .dict x ∧ after = .dict y
    · obtain ⟨x, y, rfl, rfl⟩ := nested
      rw [changesBetween_dict] at member
      obtain ⟨rest, spec⟩ := field_of_mem_fieldChanges member
      exact ⟨_, by rw [spec, splitPath_dot plain]⟩
    · rw [changesBetween_leaf _ same fun x y left right => nested ⟨x, y, left, right⟩] at member
      rw [List.mem_singleton.mp member]
      exact ⟨[], splitPath_of_dotless plain⟩

/-! ### Flat packages -/

/-- A package of which each field is reported as a whole. -/
def flat (fields : Model) : Bool :=
  fields.all fun field => dotless field.1 && field.2.isLeaf

theorem flat_field {fields : Model} (plain : flat fields = true) {name : String}
    {type : FieldType} (declared : fields.fieldType name = some type) :
    dotless name = true ∧ type.isLeaf = true := by
  obtain ⟨left, right, same, -⟩ := List.lookup_eq_some_iff.mp declared
  have listed : (name, type) ∈ fields := by simp [same]
  simpa using List.all_eq_true.mp plain _ listed

section Flat

variable {fields : Model} {x y : Dict}

theorem mem_keys_iff (fitsX : fields.Conforms x) (fitsY : fields.Conforms y) (leaf : String) :
    (leaf ∈ Dict.keys x ∨ leaf ∈ Dict.keys y) ↔ leaf ∈ fields.names := by
  rw [fitsX.keys, fitsY.keys, or_self]

/-- Below a flat package, a field that differs makes exactly one change. -/
theorem changesBetween_flat (plain : flat fields = true) (fitsX : fields.Conforms x) (y : Dict)
    (path : String) {leaf : String} (member : leaf ∈ fields.names) :
    changesBetween path (Dict.get x leaf) (Dict.get y leaf) =
      if Dict.get x leaf = Dict.get y leaf then []
      else [⟨path, Dict.get x leaf, Dict.get y leaf⟩] := by
  obtain ⟨type, declared⟩ := Model.fieldType_isSome member
  have leafType := (flat_field plain declared).2
  split
  next same => simp [same]
  next differ =>
    exact changesBetween_leaf _ differ fun inner _ left _ =>
      FieldType.not_dict leafType (fitsX.get declared) inner left

theorem flat_dotless (plain : flat fields = true) {leaf : String} (member : leaf ∈ fields.names) :
    dotless leaf = true := by
  obtain ⟨type, declared⟩ := Model.fieldType_isSome member
  exact (flat_field plain declared).1

/-- Paths below a flat package have two segments. -/
theorem splitPath_flat (plain : flat fields = true) (fitsX : fields.Conforms x)
    (fitsY : fields.Conforms y) {pkg : String} (dotfree : dotless pkg = true)
    {change : FieldChange} (member : change ∈ changesBetween pkg (.dict x) (.dict y)) :
    ∃ leaf, splitPath change.field = [pkg, leaf] := by
  rw [changesBetween_dict, mem_fieldChanges] at member
  obtain ⟨leaf, known, inside⟩ := member
  have named := (mem_keys_iff fitsX fitsY leaf).mp known
  rw [changesBetween_flat plain fitsX y _ named] at inside
  split at inside
  next => cases inside
  next =>
    rw [List.mem_singleton.mp inside, splitPath_dot dotfree,
      splitPath_of_dotless (flat_dotless plain named)]
    exact ⟨leaf, rfl⟩

end Flat

/-! ### What the claims of the two tables come to -/

/-- The dump of the `installedpackages` block. -/
def packages (config : ParsedConfig) : Dict :=
  (config.model .installedpackages).getD []

/-- The class of a package. -/
def packageModel (pkg : String) : Model :=
  match Models.InstalledPackages.fieldType pkg with
  | some (.optModel fields) => fields
  | _ => []

/-- The value of a package's field, `None` where the package is absent. -/
def packageValue (config : ParsedConfig) (pkg leaf : String) : Val :=
  match Dict.get (packages config) pkg with
  | .dict fields => Dict.get fields leaf
  | _ => .none

def events (a b : ParsedConfig) : List Event :=
  diffToAnchorEvents (diffConfigs a b) b

/-- Each field of the package that differs yields exactly one event, of the matching kind. -/
def FieldsReported (a b : ParsedConfig) (pkg : String) : Prop :=
  ∀ leaf ∈ (packageModel pkg).names, packageValue a pkg leaf ≠ packageValue b pkg leaf →
    ((events a b).filter fun event => event.anchorId = anchorId "field" pkg leaf).map Event.kind =
      [changeKind (packageValue a pkg leaf) (packageValue b pkg leaf)]

/-- The HAProxy backends of a config. -/
def backends (config : ParsedConfig) : List Dict :=
  rowsAt (packages config) "haproxy.backends"

/-- The anchor of a backend. -/
def backendId (row : Dict) : String :=
  anchorId "xref" "haproxy_backend" (safe (diffKey "name" row))

/-- One event for each backend added, removed or changed. -/
def expectedBackends (a b : ParsedConfig) : List (String × Kind) :=
  let gone := fun (others : List Dict) (row : Dict) =>
    diffKey "name" row ∉ keys (diffKey "name") others
  ((backends b).filter fun row => gone (backends a) row).map (backendId ·, .added) ++
    ((backends a).filter fun row => gone (backends b) row).map (backendId ·, .removed) ++
    ((backends b).filter fun row => ¬gone (backends a) row ∧ row ∉ backends a).map
      (backendId ·, .modified)

/-- The events of backends are the expected ones. -/
def BackendsReported (a b : ParsedConfig) : Prop :=
  (((events a b).filter fun event => ofScope "xref" "haproxy_backend" event.anchorId).map
    fun event => (event.anchorId, event.kind)).Perm (expectedBackends a b)

/-! ### The diff of two blocks -/

section Blocks

variable {a b : ParsedConfig} {pa pb : Dict}

theorem packages_conform (config : ParsedConfig) {dump : Dict}
    (present : config.model .installedpackages = some dump) :
    Models.InstalledPackages.Conforms dump :=
  config.model_conforms .installedpackages dump present

/-- Two blocks are compared field by field; neither side is reported whole. -/
theorem installedpackages_diff (presentA : a.model .installedpackages = some pa)
    (presentB : b.model .installedpackages = some pb) :
    (diffConfigs a b).installedpackages.added = [] ∧
      (diffConfigs a b).installedpackages.removed = [] ∧
      (diffConfigs a b).installedpackages.modified.flatMap ItemDiff.changes =
        fieldChanges pa pb "" := by
  have spec := diffConfigs_model a b .installedpackages _ rfl
  rw [presentA, presentB] at spec
  rw [spec]
  exact diffOptionalModel_some pa pb _

theorem packageFieldEvents_eq (presentA : a.model .installedpackages = some pa)
    (presentB : b.model .installedpackages = some pb) :
    packageFieldEvents (diffConfigs a b).installedpackages =
      (sortedKeys pa pb).flatMap fun name =>
        (changesBetween name (Dict.get pa name) (Dict.get pb name)).filterMap packageFieldEvent := by
  obtain ⟨added, removed, changes⟩ := installedpackages_diff presentA presentB
  rw [packageFieldEvents, added, removed, changes, fieldChanges_eq, List.filterMap_flatMap]
  simp

/-- What the four packages of the table have in common. -/
theorem package_facts : ∀ pkg ∈ packageSingletonSpec.map Prod.snd,
    packageSingletonSpec.lookup pkg = some pkg ∧ dotless pkg = true ∧
      flat (packageModel pkg) = true ∧
      Models.InstalledPackages.fieldType pkg = some (.optModel (packageModel pkg)) ∧
      ∃ leaf ∈ (packageModel pkg).names, (packageModel pkg).fieldType leaf = some .bool := by
  simp only [packageSingletonSpec, List.map_cons, List.map_nil, List.forall_mem_cons,
    List.not_mem_nil, false_implies, implies_true, and_true]
  refine ⟨⟨rfl, rfl, rfl, rfl, "enable", ?_, rfl⟩, ⟨rfl, rfl, rfl, rfl, "enable", ?_, rfl⟩,
    ⟨rfl, rfl, rfl, rfl, "silent_install", ?_, rfl⟩, ⟨rfl, rfl, rfl, rfl, "enabled", ?_, rfl⟩⟩
  all_goals decide

/-- A field's event carries the first segment of the change's path as its scope. -/
theorem packageFieldEvent_scope {change : FieldChange} {event : Event} {name : String}
    {rest : List String} (path : splitPath change.field = name :: rest)
    (built : packageFieldEvent change = some event) :
    ∃ leaf, packageSingletonSpec.lookup name = some name ∧
      event.anchorId = anchorId "field" name leaf := by
  unfold packageFieldEvent at built
  split at built
  next pkg leaf shape =>
    obtain ⟨rfl, -⟩ := List.cons.inj (shape.symm.trans path)
    obtain ⟨scope, found, rfl⟩ := Option.map_eq_some_iff.mp built
    have listed : scope ∈ packageSingletonSpec.map Prod.snd ∧ pkg = scope := by
      obtain ⟨left, right, same, -⟩ := List.lookup_eq_some_iff.mp found
      have member : (pkg, scope) ∈ packageSingletonSpec := by simp [same]
      refine ⟨List.mem_map.mpr ⟨_, member, rfl⟩, ?_⟩
      simp only [packageSingletonSpec, List.mem_cons, Prod.mk.injEq, List.not_mem_nil,
        or_false] at member
      rcases member with ⟨rfl, rfl⟩ | ⟨rfl, rfl⟩ | ⟨rfl, rfl⟩ | ⟨rfl, rfl⟩ <;> rfl
    obtain ⟨listed, rfl⟩ := listed
    exact ⟨leaf, found, rfl⟩
  next => cases built

/-- The events under one id of a package come from the changes below that package. -/
theorem filter_events (presentA : a.model .installedpackages = some pa)
    (presentB : b.model .installedpackages = some pb) {pkg : String}
    (listed : pkg ∈ packageSingletonSpec.map Prod.snd) (leaf : String) :
    ((events a b).filter fun event => event.anchorId = anchorId "field" pkg leaf) =
      ((changesBetween pkg (Dict.get pa pkg) (Dict.get pb pkg)).filterMap
        packageFieldEvent).filter fun event => event.anchorId = anchorId "field" pkg leaf := by
  obtain ⟨-, dotfree, -, declared, -⟩ := package_facts pkg listed
  have plain := packageScope_dashless pkg listed
  have inScope : ofScope "field" pkg (anchorId "field" pkg leaf) = true :=
    (ofScope_anchorId leaf (by decide) (by decide) plain plain).mpr ⟨rfl, rfl⟩
  have narrowed : ∀ all : List Event,
      (all.filter fun event => event.anchorId = anchorId "field" pkg leaf) =
        ((all.filter fun event => ofScope "field" pkg event.anchorId).filter fun event =>
          event.anchorId = anchorId "field" pkg leaf) := by
    intro all
    rw [List.filter_filter]
    apply List.filter_congr
    intro event _
    by_cases same : event.anchorId = anchorId "field" pkg leaf
    · simp [same, inScope]
    · simp [same]
  rw [narrowed, events, diffToAnchorEvents_package _ _ listed, ← narrowed,
    packageFieldEvents_eq presentA presentB]
  have member : pkg ∈ sortedKeys pa pb := by
    apply mem_sortedKeys.mpr
    left
    rw [(packages_conform a presentA).keys]
    obtain ⟨left, right, same, -⟩ := List.lookup_eq_some_iff.mp declared
    simp [Model.names, same]
  apply filter_flatMap_of_one member (sortedKeys_nodup pa pb)
  intro other known different
  apply List.filter_eq_nil_iff.mpr
  intro event inside
  obtain ⟨change, below, built⟩ := List.mem_filterMap.mp inside
  have named : other ∈ Models.InstalledPackages.names := by
    rcases mem_sortedKeys.mp known with known | known
    · exact (packages_conform a presentA).keys ▸ known
    · exact (packages_conform b presentB).keys ▸ known
  obtain ⟨rest, path⟩ := splitPath_changesBetween
    ((modelSection_wellNamed .installedpackages).dotless named) below
  obtain ⟨tail, found, spec⟩ := packageFieldEvent_scope path built
  have otherListed : other ∈ packageSingletonSpec.map Prod.snd := by
    obtain ⟨left, right, same, -⟩ := List.lookup_eq_some_iff.mp found
    simp [same]
  simp only [spec, decide_eq_true_eq]
  intro same
  exact different (anchorId_inj (by decide) (by decide) (packageScope_dashless other otherListed)
    plain same).2.1

/-- A package's field in the block, as the dump of the package or nothing. -/
theorem package_dump (config : ParsedConfig) {dump : Dict}
    (present : config.model .installedpackages = some dump) {pkg : String} {fields : Model}
    (declared : Models.InstalledPackages.fieldType pkg = some (.optModel fields)) :
    Dict.get dump pkg = .none ∨
      ∃ inner, Dict.get dump pkg = .dict inner ∧ fields.Conforms inner := by
  have fits := (packages_conform config present).get declared
  cases found : Dict.get dump pkg with
  | none => exact .inl rfl
  | dict inner =>
    rw [found] at fits
    exact .inr ⟨inner, rfl, fits⟩
  | _ => simp [found, FieldType.conforms] at fits

/-- With the package on both sides, a field has one event if it differs. -/
theorem filter_events_both (presentA : a.model .installedpackages = some pa)
    (presentB : b.model .installedpackages = some pb) {pkg : String}
    (listed : pkg ∈ packageSingletonSpec.map Prod.snd) {x y : Dict}
    (holdsA : Dict.get pa pkg = .dict x) (holdsB : Dict.get pb pkg = .dict y)
    (fitsX : (packageModel pkg).Conforms x) (fitsY : (packageModel pkg).Conforms y) {leaf : String}
    (member : leaf ∈ (packageModel pkg).names) :
    ((events a b).filter fun event => event.anchorId = anchorId "field" pkg leaf) =
      if Dict.get x leaf = Dict.get y leaf then []
      else [⟨anchorId "field" pkg leaf, changeKind (Dict.get x leaf) (Dict.get y leaf),
        changeValue (Dict.get x leaf) (Dict.get y leaf)⟩] := by
  obtain ⟨known, dotfree, plain, -, -⟩ := package_facts pkg listed
  rw [filter_events presentA presentB listed, holdsA, holdsB, changesBetween_dict,
    fieldChanges_eq, List.filterMap_flatMap]
  -- One leaf of the package contributes the event, and the other leaves have other ids.
  have single : ∀ other ∈ (packageModel pkg).names,
      (changesBetween (pkg ++ "." ++ other) (Dict.get x other) (Dict.get y other)).filterMap
          packageFieldEvent =
        if Dict.get x other = Dict.get y other then []
        else [⟨anchorId "field" pkg other, changeKind (Dict.get x other) (Dict.get y other),
          changeValue (Dict.get x other) (Dict.get y other)⟩] := by
    intro other named
    rw [changesBetween_flat plain fitsX y _ named]
    split
    next => rfl
    next =>
      have path : splitPath (pkg ++ "." ++ other) = [pkg, other] := by
        rw [splitPath_dot dotfree, splitPath_of_dotless (flat_dotless plain named)]
      simp [packageFieldEvent, path, known]
  have inside : leaf ∈ sortedKeys x y :=
    mem_sortedKeys.mpr ((mem_keys_iff fitsX fitsY leaf).mpr member)
  rw [filter_flatMap_of_one inside (sortedKeys_nodup x y)]
  · rw [single leaf member]
    split
    next => rfl
    next => simp
  · intro other known different
    have named := (mem_keys_iff fitsX fitsY other).mp (mem_sortedKeys.mp known)
    rw [single other named]
    split
    next => rfl
    next =>
      have scope := packageScope_dashless pkg listed
      have apart : anchorId "field" pkg other ≠ anchorId "field" pkg leaf := fun same =>
        different (anchorId_inj (by decide) (by decide) scope scope same).2.2
      simp [apart]

theorem fieldsReported_of_both (presentA : a.model .installedpackages = some pa)
    (presentB : b.model .installedpackages = some pb) {pkg : String}
    (listed : pkg ∈ packageSingletonSpec.map Prod.snd) {x y : Dict}
    (holdsA : Dict.get pa pkg = .dict x) (holdsB : Dict.get pb pkg = .dict y)
    (fitsX : (packageModel pkg).Conforms x) (fitsY : (packageModel pkg).Conforms y) :
    FieldsReported a b pkg := by
  intro leaf member differ
  simp only [packageValue, packages, presentA, presentB, Option.getD_some, holdsA, holdsB]
    at differ ⊢
  rw [filter_events_both presentA presentB listed holdsA holdsB fitsX fitsY member, if_neg differ]
  rfl

/-- A package that comes or goes is one change with a path of one segment: no event. -/
theorem not_fieldsReported_of_one (presentA : a.model .installedpackages = some pa)
    (presentB : b.model .installedpackages = some pb) {pkg : String}
    (listed : pkg ∈ packageSingletonSpec.map Prod.snd) {x : Dict}
    (fits : (packageModel pkg).Conforms x)
    (one : (Dict.get pa pkg = .none ∧ Dict.get pb pkg = .dict x) ∨
      (Dict.get pa pkg = .dict x ∧ Dict.get pb pkg = .none)) : ¬FieldsReported a b pkg := by
  obtain ⟨-, dotfree, -, -, leaf, member, flag⟩ := package_facts pkg listed
  intro reported
  have single : splitPath pkg = [pkg] := splitPath_of_dotless dotfree
  have boolean : Dict.get x leaf ≠ .none := by
    intro absent
    have typed := fits.get flag
    simp [absent, FieldType.conforms] at typed
  have once := reported leaf member
  rw [filter_events presentA presentB listed] at once
  rcases one with ⟨left, right⟩ | ⟨left, right⟩
  all_goals
    have silent : (changesBetween pkg (Dict.get pa pkg) (Dict.get pb pkg)).filterMap
        packageFieldEvent = [] := by
      rw [left, right, changesBetween_leaf _ (by simp) (by simp)]
      simp [packageFieldEvent, single]
    rw [silent] at once
    simp only [packageValue, packages, presentA, presentB, Option.getD_some, left, right,
      List.filter_nil, List.map_nil, List.nil_eq, reduceCtorEq, imp_false, not_not] at once
  · exact boolean once.symm
  · exact boolean once

theorem fieldsReported_iff (presentA : a.model .installedpackages = some pa)
    (presentB : b.model .installedpackages = some pb) {pkg : String}
    (listed : pkg ∈ packageSingletonSpec.map Prod.snd) :
    FieldsReported a b pkg ↔ (Dict.get pa pkg = .none ↔ Dict.get pb pkg = .none) := by
  obtain ⟨-, -, -, declared, -⟩ := package_facts pkg listed
  rcases package_dump a presentA declared with absentA | ⟨x, holdsA, fitsX⟩ <;>
    rcases package_dump b presentB declared with absentB | ⟨y, holdsB, fitsY⟩
  · simp only [absentA, absentB, iff_true]
    intro leaf _ differ
    simp [packageValue, packages, presentA, presentB, absentA, absentB] at differ
  · have missed := not_fieldsReported_of_one presentA presentB listed fitsY (.inl ⟨absentA, holdsB⟩)
    simp [missed, absentA, holdsB]
  · have missed := not_fieldsReported_of_one presentA presentB listed fitsX (.inr ⟨holdsA, absentB⟩)
    simp [missed, holdsA, absentB]
  · have both := fieldsReported_of_both presentA presentB listed holdsA holdsB fitsX fitsY
    simp [both, holdsA, holdsB]

/-! ### The events of one leaf -/

/-- The value of a package's field, where the package is there. -/
def packageState (pkg leaf : String) (config : ParsedConfig) : Option Val :=
  match Dict.get (packages config) pkg with
  | .dict fields => some (Dict.get fields leaf)
  | _ => none

/-- The package does not come or go within a block that stays. -/
def PackageSteady (pkg : String) (a b : ParsedConfig) : Prop :=
  (a.model .installedpackages).isSome = true → (b.model .installedpackages).isSome = true →
    (Dict.get (packages a) pkg = .none ↔ Dict.get (packages b) pkg = .none)

theorem packageModel_nodup {pkg : String} (listed : pkg ∈ packageSingletonSpec.map Prod.snd) :
    (packageModel pkg).names.Nodup := by
  obtain ⟨-, -, -, declared, -⟩ := package_facts pkg listed
  have named := ((modelSection_wellNamed .installedpackages).fieldType declared).2
  simp only [wellNamed, Bool.and_eq_true, decide_eq_true_eq] at named
  exact named.1

theorem leaf_ofScope {pkg : String} (listed : pkg ∈ packageSingletonSpec.map Prod.snd)
    (leaf : String) : ofScope "field" pkg (anchorId "field" pkg leaf) = true := by
  have plain := packageScope_dashless pkg listed
  exact (ofScope_anchorId leaf (by decide) (by decide) plain plain).mpr ⟨rfl, rfl⟩

section Leaf

variable {pkg : String} (listed : pkg ∈ packageSingletonSpec.map Prod.snd) {leaf : String}
  (member : leaf ∈ (packageModel pkg).names)

include listed member

theorem mem_wholePackage (kind : Kind) {config : ParsedConfig} {whole : Dict}
    (present : config.model .installedpackages = some whole) (event : Event) :
    (event ∈ wholePackageEvents kind whole ∧ event.anchorId = anchorId "field" pkg leaf) ↔
      ∃ value, packageState pkg leaf config = some value ∧
        event = ⟨anchorId "field" pkg leaf, kind, value⟩ := by
  obtain ⟨known, -, plain, declared, -⟩ := package_facts pkg listed
  have nodup := packageModel_nodup listed
  have scope := packageScope_dashless pkg listed
  have entry : ∀ entry ∈ packageSingletonSpec, entry.1 = entry.2 := by decide
  rw [wholePackageEvents, List.mem_flatMap, packageState, packages, present, Option.getD_some]
  constructor
  · rintro ⟨⟨⟨other, target⟩, inSpec, inside⟩, same⟩
    obtain rfl : other = target := entry _ inSpec
    simp only at inside
    split at inside
    next fields holds =>
      obtain ⟨⟨name, value⟩, inDump, built⟩ := List.mem_filterMap.mp inside
      simp only [Option.ite_none_right_eq_some, Option.some.injEq] at built
      obtain ⟨-, rfl⟩ := built
      have otherListed : other ∈ packageSingletonSpec.map Prod.snd :=
        List.mem_map_of_mem (f := Prod.snd) inSpec
      obtain ⟨-, rfl, rfl⟩ := anchorId_inj (by decide) (by decide)
        (packageScope_dashless other otherListed) scope same
      have fits : (packageModel other).Conforms fields := by
        rcases package_dump config present declared with absent | ⟨inner, found, fits⟩
        · rw [absent] at holds
          cases holds
        · rw [found] at holds
          cases holds
          exact fits
      have value_eq : Dict.get fields name = value :=
        Dict.get_of_mem (fits.keys ▸ nodup) inDump
      exact ⟨value, by simp only [holds, value_eq], rfl⟩
    next => cases inside
  · rintro ⟨value, held, rfl⟩
    rcases package_dump config present declared with absent | ⟨inner, found, fits⟩
    · rw [absent] at held
      cases held
    · rw [found] at held
      cases held
      obtain ⟨left, right, split, -⟩ := List.lookup_eq_some_iff.mp known
      refine ⟨⟨(pkg, pkg), by simp [split], ?_⟩, rfl⟩
      simp only [found]
      refine List.mem_filterMap.mpr
        ⟨(leaf, Dict.get inner leaf), Dict.mem_of_mem_keys (fits.keys ▸ member), ?_⟩
      simp [flat_dotless plain member]

/-- The seed of a package's field. -/
theorem mem_package_seeds (config : ParsedConfig) (event : Event) :
    (event ∈ seeds config ∧ event.anchorId = anchorId "field" pkg leaf) ↔
      fieldReport (anchorId "field" pkg leaf) none (packageState pkg leaf config) = some event := by
  have reduced : (event ∈ seeds config ∧ event.anchorId = anchorId "field" pkg leaf) ↔
      event ∈ seedPackages config ∧ event.anchorId = anchorId "field" pkg leaf := by
    apply and_congr_left
    intro same
    have inScope := leaf_ofScope listed leaf
    rw [← same] at inScope
    have own := (seeds_assembled config).filter_package listed
    rw [← seeds_eq] at own
    have inside := congrArg (event ∈ ·) own
    simpa [inScope] using inside
  rw [reduced, seedPackages]
  cases held : config.model .installedpackages with
  | none =>
    have empty : packageState pkg leaf config = none := by
      simp [packageState, packages, held]
    simp [empty, fieldReport, wholePackageEvents]
  | some whole =>
    rw [Option.getD_some, mem_wholePackage listed member _ held]
    cases packageState pkg leaf config <;> simp [fieldReport, eq_comm]

/-- One step gives the anchor of a package's field at most one event. -/
theorem mem_package_events (a b : ParsedConfig) (steady : PackageSteady pkg a b) (event : Event) :
    (event ∈ events a b ∧ event.anchorId = anchorId "field" pkg leaf) ↔
      fieldReport (anchorId "field" pkg leaf) (packageState pkg leaf a) (packageState pkg leaf b) =
        some event := by
  obtain ⟨-, -, plain, declared, -⟩ := package_facts pkg listed
  have inFilter : (event ∈ events a b ∧ event.anchorId = anchorId "field" pkg leaf) ↔
      event ∈ (events a b).filter fun event => event.anchorId = anchorId "field" pkg leaf := by
    simp
  have reduced : (event ∈ events a b ∧ event.anchorId = anchorId "field" pkg leaf) ↔
      event ∈ packageFieldEvents (diffConfigs a b).installedpackages ∧
        event.anchorId = anchorId "field" pkg leaf := by
    apply and_congr_left
    intro same
    have inScope := leaf_ofScope listed leaf
    rw [← same] at inScope
    have inside := congrArg (event ∈ ·) (diffToAnchorEvents_package (diffConfigs a b) b listed)
    simpa [inScope, events] using inside
  have block := diffConfigs_model a b .installedpackages _ rfl
  have vacant : ∀ config : ParsedConfig, config.model .installedpackages = none →
      packageState pkg leaf config = none := by
    intro config absent
    simp [packageState, packages, absent]
  cases heldA : a.model .installedpackages with
  | none =>
    rw [reduced, block, heldA, vacant a heldA]
    cases heldB : b.model .installedpackages with
    | none => simp [diffOptionalModel, packageFieldEvents, vacant b heldB, fieldReport]
    | some pb =>
      have whole := mem_wholePackage listed member .added heldB event
      simp only [diffOptionalModel, packageFieldEvents, List.flatMap_nil, List.flatMap_cons,
        List.append_nil, List.filterMap_nil, whole]
      cases packageState pkg leaf b <;> simp [fieldReport, eq_comm]
  | some pa =>
    cases heldB : b.model .installedpackages with
    | none =>
      rw [reduced, block, heldA, heldB, vacant b heldB]
      have whole := mem_wholePackage listed member .removed heldA event
      simp only [diffOptionalModel, packageFieldEvents, List.flatMap_nil, List.flatMap_cons,
        List.nil_append, List.append_nil, List.filterMap_nil, whole]
      cases packageState pkg leaf a <;> simp [fieldReport, eq_comm]
    | some pb =>
      have same := steady (by simp [heldA]) (by simp [heldB])
      rw [inFilter]
      simp only [packageState, packages, heldA, heldB, Option.getD_some] at same ⊢
      rcases package_dump a heldA declared with absentA | ⟨x, holdsA, fitsX⟩
      · have absentB := same.mp absentA
        simp [filter_events heldA heldB listed, absentA, absentB, fieldReport]
      · rcases package_dump b heldB declared with absentB | ⟨y, holdsB, fitsY⟩
        · rw [same.mpr absentB] at holdsA
          cases holdsA
        · obtain ⟨type, typed⟩ := Model.fieldType_isSome member
          have whole : nested (Dict.get x leaf) (Dict.get y leaf) = false := by
            rw [Bool.eq_false_iff, Ne, nested_iff]
            rintro ⟨u, v, left, -⟩
            exact FieldType.not_dict (flat_field plain typed).2 (fitsX.get typed) u left
          rw [filter_events_both heldA heldB listed holdsA holdsB fitsX fitsY member, holdsA, holdsB]
          simp only [fieldReport, whole, Bool.false_eq_true, or_false]
          split
          next => simp
          next => simp [eq_comm]

end Leaf

/-! ### Backends -/

/-- A row key is found only on a path of four segments or more below HAProxy. -/
theorem packageRowKey_shape {parts : List String} {found : PackageRowSpec × String}
    (hit : packageRowKey parts = some found) :
    4 ≤ parts.length ∧ parts.head? = some "haproxy" := by
  unfold packageRowKey at hit
  split at hit
  next long =>
    simp only [Option.bind_eq_bind, Option.bind_eq_some_iff] at hit
    obtain ⟨spec, first, -⟩ := hit
    have listed := List.mem_of_find?_eq_some first
    have leading := List.find?_some first
    rw [packageRowSpec, List.mem_singleton] at listed
    subst listed
    have path : splitPath "haproxy.backends" = ["haproxy", "backends"] := by decide
    simp only [path, decide_eq_true_eq, List.length_cons, List.length_nil] at leading
    refine ⟨long, ?_⟩
    cases parts with
    | nil => simp at leading
    | cons part rest =>
      rw [List.take_succ_cons, List.cons.injEq] at leading
      rw [leading.1]
      rfl
  next => cases hit

theorem haproxy_facts : dotless "haproxy" = true ∧ flat (packageModel "haproxy") = true ∧
    Models.InstalledPackages.fieldType "haproxy" = some (.optModel (packageModel "haproxy")) :=
  ⟨by decide, by decide, rfl⟩

/-- No change of two blocks has a path that names a row. -/
theorem packageRowKey_eq_none (presentA : a.model .installedpackages = some pa)
    (presentB : b.model .installedpackages = some pb) {change : FieldChange}
    (member : change ∈ fieldChanges pa pb "") : packageRowKey (splitPath change.field) = none := by
  by_contra some
  obtain ⟨found, hit⟩ := Option.ne_none_iff_exists'.mp some
  obtain ⟨long, first⟩ := packageRowKey_shape hit
  obtain ⟨dotfree, plain, declared⟩ := haproxy_facts
  obtain ⟨name, known, below⟩ := mem_fieldChanges.mp member
  simp only [String.empty_append] at below
  have named : name ∈ Models.InstalledPackages.names := by
    rcases known with known | known
    · exact (packages_conform a presentA).keys ▸ known
    · exact (packages_conform b presentB).keys ▸ known
  obtain ⟨rest, path⟩ := splitPath_changesBetween
    ((modelSection_wellNamed .installedpackages).dotless named) below
  rw [path, List.head?_cons, Option.some.injEq] at first
  subst first
  by_cases both : ∃ x y, Dict.get pa "haproxy" = .dict x ∧ Dict.get pb "haproxy" = .dict y
  · obtain ⟨x, y, holdsA, holdsB⟩ := both
    have fitsX := (packages_conform a presentA).get declared
    have fitsY := (packages_conform b presentB).get declared
    rw [holdsA] at fitsX below
    rw [holdsB] at fitsY below
    obtain ⟨leaf, two⟩ := splitPath_flat plain fitsX fitsY dotfree below
    rw [two] at long
    simp at long
  · have differ : Dict.get pa "haproxy" ≠ Dict.get pb "haproxy" := by
      intro same
      simp [same] at below
    rw [changesBetween_leaf _ differ fun x y left right => both ⟨x, y, left, right⟩] at below
    rw [List.mem_singleton.mp below, splitPath_of_dotless dotfree] at long
    simp at long

theorem packageRowEvents_eq_nil (presentA : a.model .installedpackages = some pa)
    (presentB : b.model .installedpackages = some pb) :
    packageRowEvents (diffConfigs a b) b = [] := by
  obtain ⟨-, -, changes⟩ := installedpackages_diff presentA presentB
  rw [packageRowEvents, changes]
  have silent : ∀ changes : List FieldChange,
      (∀ change ∈ changes, packageRowKey (splitPath change.field) = none) →
        changes.foldl addRowHit [] = [] := by
    intro changes none
    induction changes with
    | nil => rfl
    | cons change rest ih =>
      rw [List.foldl_cons, addRowHit, none change List.mem_cons_self]
      exact ih fun other member => none other (List.mem_cons_of_mem _ member)
  rw [silent _ fun change member => packageRowKey_eq_none presentA presentB member]
  rfl

theorem expectedBackends_eq_nil (uniqueA : Unique (diffKey "name") (backends a)) :
    expectedBackends a b = [] ↔ ∀ row, row ∈ backends a ↔ row ∈ backends b := by
  simp only [expectedBackends, List.append_eq_nil_iff, List.map_eq_nil_iff,
    List.filter_eq_nil_iff, decide_eq_true_eq, not_and, not_not]
  constructor
  · rintro ⟨⟨added, removed⟩, changed⟩ row
    have back : ∀ other ∈ backends b, other ∈ backends a := fun other inB =>
      changed other inB (added other inB)
    refine ⟨fun inA => ?_, back row⟩
    obtain ⟨other, inB, same⟩ := mem_keys.mp (removed row inA)
    exact uniqueA.injOn (back other inB) inA same ▸ inB
  · intro same
    refine ⟨⟨?_, ?_⟩, ?_⟩
    · exact fun row inB => mem_keys.mpr ⟨row, (same row).mpr inB, rfl⟩
    · exact fun row inA => mem_keys.mpr ⟨row, (same row).mp inA, rfl⟩
    · exact fun row inB _ => (same row).mpr inB

/-- Backends are never reported, so the log is right when there is nothing to report. -/
theorem backendsReported_iff (presentA : a.model .installedpackages = some pa)
    (presentB : b.model .installedpackages = some pb)
    (uniqueA : Unique (diffKey "name") (backends a)) :
    BackendsReported a b ↔ ∀ row, row ∈ backends a ↔ row ∈ backends b := by
  have listed : "haproxy_backend" ∈ packageRowSpec.map PackageRowSpec.anchorKind := by decide
  rw [← expectedBackends_eq_nil uniqueA, BackendsReported, events,
    diffToAnchorEvents_hits _ _ listed, packageRowEvents_eq_nil presentA presentB]
  simp only [List.filter_nil, List.map_nil, List.nil_perm]

end Blocks

/-- Package changes reach the log exactly when no backend is added, removed or changed and
each of the four packages is on both sides or on neither. -/
theorem package_changes_reported_iff (a b : ParsedConfig)
    (presentA : (a.model .installedpackages).isSome = true)
    (presentB : (b.model .installedpackages).isSome = true)
    (uniqueA : Unique (diffKey "name") (backends a)) :
    (BackendsReported a b ∧ ∀ pkg ∈ packageSingletonSpec.map Prod.snd, FieldsReported a b pkg) ↔
      (∀ row, row ∈ backends a ↔ row ∈ backends b) ∧
        ∀ pkg ∈ packageSingletonSpec.map Prod.snd,
          (Dict.get (packages a) pkg = .none ↔ Dict.get (packages b) pkg = .none) := by
  obtain ⟨pa, holdsA⟩ := Option.isSome_iff_exists.mp presentA
  obtain ⟨pb, holdsB⟩ := Option.isSome_iff_exists.mp presentB
  rw [backendsReported_iff holdsA holdsB uniqueA]
  simp only [packages, holdsA, holdsB, Option.getD_some]
  constructor
  · rintro ⟨rows, fields⟩
    exact ⟨rows, fun pkg listed => (fieldsReported_iff holdsA holdsB listed).mp (fields pkg listed)⟩
  · rintro ⟨rows, both⟩
    exact ⟨rows, fun pkg listed => (fieldsReported_iff holdsA holdsB listed).mpr (both pkg listed)⟩

/-! ### A backend is added, and Telegraf installed -/

def haproxyWith (names : List String) : Val :=
  .dict (Models.HaProxyConfig.dumpWith [("backends", .list (names.map fun name =>
    .dict (Models.HaProxyBackend.dumpWith [("name", .str name)])))])

/-- One backend, no Telegraf. -/
def webOnly : ParsedConfig where
  installedpackages := some
    { dump := Models.InstalledPackages.dumpWith [("haproxy", haproxyWith ["web-back"])]
      conforms := by decide }

/-- A second backend, and Telegraf enabled. -/
def webAndApi : ParsedConfig where
  installedpackages := some
    { dump := Models.InstalledPackages.dumpWith [("haproxy", haproxyWith ["web-back", "api-back"]),
        ("telegraf", .dict (Models.TelegrafConfig.dumpWith [("enabled", .bool true)]))]
      conforms := by decide }

theorem webOnly_unique : Unique (diffKey "name") (backends webOnly) := by
  decide

theorem webAndApi_unique : Unique (diffKey "name") (backends webAndApi) := by
  decide

theorem webOnly_reported :
    (BackendsReported webOnly webOnly ∧
        ∀ pkg ∈ packageSingletonSpec.map Prod.snd, FieldsReported webOnly webOnly pkg) ↔
      (∀ row, row ∈ backends webOnly ↔ row ∈ backends webOnly) ∧
        ∀ pkg ∈ packageSingletonSpec.map Prod.snd,
          (Dict.get (packages webOnly) pkg = .none ↔ Dict.get (packages webOnly) pkg = .none) :=
  package_changes_reported_iff webOnly webOnly rfl rfl webOnly_unique

/-- The new backend has no event and neither have Telegraf's fields. -/
theorem webAndApi_unreported :
    Unique (diffKey "name") (backends webOnly) ∧ Unique (diffKey "name") (backends webAndApi) ∧
      ¬BackendsReported webOnly webAndApi ∧ ¬FieldsReported webOnly webAndApi "telegraf" := by
  refine ⟨webOnly_unique, webAndApi_unique, ?_, ?_⟩
  · rw [backendsReported_iff rfl rfl webOnly_unique]
    intro same
    have grown : (backends webAndApi).length ≤ (backends webOnly).length :=
      (List.subperm_of_subset webAndApi_unique.nodup fun row inB => (same row).mpr inB).length_le
    revert grown
    decide
  · rw [fieldsReported_iff rfl rfl (by decide)]
    decide

end PfsenseBackups.PackageEvents

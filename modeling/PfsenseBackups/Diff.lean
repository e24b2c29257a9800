import PfsenseBackups.Keyed
import PfsenseBackups.Value
import Mathlib.Data.String.Basic

/-! `pfsense_diff.py`, the building blocks: `_field_changes`, `_diff_scalar`,
`_diff_optional_model` and `_diff_list`. The differ indexes both lists by key in a dict, so
of the rows that share a key only the last is compared. -/

namespace PfsenseBackups.Diff
open Value Keyed

structure FieldChange where
  field : String
  before : Val
  after : Val
  deriving DecidableEq

structure ItemDiff where
  key : String
  label : String
  changes : List FieldChange
  deriving DecidableEq

structure ReorderEvent where
  key : String
  label : String
  oldIndex : Nat
  newIndex : Nat
  deriving DecidableEq

structure SectionDiff where
  added : List Dict := []
  removed : List Dict := []
  modified : List ItemDiff := []
  reordered : List ReorderEvent := []
  unchangedCount : Nat := 0
  deriving DecidableEq

/-- `SectionDiff.is_empty`. -/
def SectionDiff.isEmpty (diff : SectionDiff) : Bool :=
  diff.added.isEmpty && diff.removed.isEmpty && diff.modified.isEmpty && diff.reordered.isEmpty

theorem SectionDiff.isEmpty_iff (diff : SectionDiff) : diff.isEmpty = true ↔
    diff.added = [] ∧ diff.removed = [] ∧ diff.modified = [] ∧ diff.reordered = [] := by
  simp [SectionDiff.isEmpty, and_assoc]

/-! ### Field changes -/

/-- `sorted(a.keys() | b.keys())`. -/
def sortedKeys (a b : Dict) : List String :=
  (Dict.keys a ++ Dict.keys b).dedup.insertionSort (· ≤ ·)

theorem mem_sortedKeys {a b : Dict} {name : String} :
    name ∈ sortedKeys a b ↔ name ∈ Dict.keys a ∨ name ∈ Dict.keys b := by
  simp [sortedKeys]

theorem sortedKeys_nodup (a b : Dict) : (sortedKeys a b).Nodup :=
  (List.perm_insertionSort _ _).nodup_iff.mpr (List.nodup_dedup _)

/-- The recursion of `_field_changes`, which descends while both sides hold a dict. The
fuel bounds the nesting. -/
def fieldChangesWithin : Nat → Dict → Dict → String → List FieldChange
  | 0, _, _, _ => []
  | fuel + 1, a, b, path =>
    (sortedKeys a b).flatMap fun name =>
      if Dict.get a name = Dict.get b name then []
      else match Dict.get a name, Dict.get b name with
        | .dict x, .dict y => fieldChangesWithin fuel x y (path ++ name ++ ".")
        | before, after => [⟨path ++ name, before, after⟩]

/-- Recursively compare two dicts. Keys missing on either side count. -/
def fieldChanges (a b : Dict) (path : String) : List FieldChange :=
  fieldChangesWithin (Val.fieldsDepth a + 1) a b path

/-- What one field contributes to `_field_changes`. -/
def changesBetween (field : String) (before after : Val) : List FieldChange :=
  if before = after then []
  else match before, after with
    | .dict x, .dict y => fieldChanges x y (field ++ ".")
    | before, after => [⟨field, before, after⟩]

private theorem depth_of_get {fields inner : Dict} {name : String}
    (holds : Dict.get fields name = .dict inner) :
    Val.fieldsDepth inner < Val.fieldsDepth fields := by
  have bound := Val.depth_get_le fields name
  rw [holds, Val.depth] at bound
  omega

/-- More fuel than the nesting needs changes nothing. -/
theorem fieldChangesWithin_fuel (n m : Nat) (a b : Dict) (path : String)
    (enough : Val.fieldsDepth a < n) (plenty : Val.fieldsDepth a < m) :
    fieldChangesWithin n a b path = fieldChangesWithin m a b path := by
  induction n generalizing m a b path with
  | zero => omega
  | succ n ih =>
    cases m with
    | zero => omega
    | succ m =>
      simp only [fieldChangesWithin]
      congr 1
      funext name
      split
      · rfl
      · split
        next x y left right =>
          have deeper := depth_of_get left
          exact ih m x y _ (by omega) (by omega)
        next => rfl

theorem fieldChanges_eq (a b : Dict) (path : String) :
    fieldChanges a b path = (sortedKeys a b).flatMap fun name =>
      changesBetween (path ++ name) (Dict.get a name) (Dict.get b name) := by
  rw [fieldChanges, fieldChangesWithin]
  congr 1
  funext name
  unfold changesBetween
  split
  · rfl
  · cases left : Dict.get a name <;> cases right : Dict.get b name <;> try rfl
    exact fieldChangesWithin_fuel _ _ _ _ _ (depth_of_get left) (Nat.lt_succ_self _)

theorem mem_fieldChanges {a b : Dict} {path : String} {change : FieldChange} :
    change ∈ fieldChanges a b path ↔ ∃ name, (name ∈ Dict.keys a ∨ name ∈ Dict.keys b) ∧
      change ∈ changesBetween (path ++ name) (Dict.get a name) (Dict.get b name) := by
  simp only [fieldChanges_eq, List.mem_flatMap, mem_sortedKeys]

@[simp] theorem changesBetween_self (field : String) (value : Val) :
    changesBetween field value value = [] := by
  simp [changesBetween]

@[simp] theorem fieldChanges_self (fields : Dict) (path : String) :
    fieldChanges fields fields path = [] := by
  simp [fieldChanges_eq]

/-- Unless both sides are dicts, differing values are reported as one change. -/
theorem changesBetween_leaf (field : String) {before after : Val} (differ : before ≠ after)
    (leaf : ∀ x y, before = .dict x → after = .dict y → False) :
    changesBetween field before after = [⟨field, before, after⟩] := by
  unfold changesBetween
  rw [if_neg differ]
  cases before <;> cases after <;> try rfl
  exact (leaf _ _ rfl rfl).elim

theorem changesBetween_dict (field : String) (x y : Dict) :
    changesBetween field (.dict x) (.dict y) = fieldChanges x y (field ++ ".") := by
  unfold changesBetween
  split
  next same =>
    cases same
    simp
  next => rfl

/-- Every change below a field carries that field's path as a prefix. -/
theorem field_of_mem_fieldChanges {a b : Dict} {path : String} {change : FieldChange}
    (member : change ∈ fieldChanges a b path) : ∃ rest, change.field = path ++ rest := by
  induction depth : Val.fieldsDepth a using Nat.strong_induction_on generalizing a b path with
  | _ n ih =>
    obtain ⟨name, -, inside⟩ := mem_fieldChanges.mp member
    by_cases nested : ∃ x y, Dict.get a name = .dict x ∧ Dict.get b name = .dict y
    · obtain ⟨x, y, left, right⟩ := nested
      rw [left, right, changesBetween_dict] at inside
      obtain ⟨rest, spec⟩ := ih _ (depth ▸ depth_of_get left) inside rfl
      exact ⟨name ++ "." ++ rest, by rw [spec]; simp [String.append_assoc]⟩
    · by_cases same : Dict.get a name = Dict.get b name
      · simp [same] at inside
      · rw [changesBetween_leaf _ same (fun x y left right => nested ⟨x, y, left, right⟩)] at inside
        exact ⟨name, by rw [List.mem_singleton.mp inside]⟩

/-! ### Completeness on dumps of one model -/

def dotless (name : String) : Bool :=
  decide ('.' ∉ name.toList)

mutual

/-- Field names are distinct and free of dots, at every level a dict can nest. -/
def wellNamed : FieldType → Bool
  | .model fields => decide (Model.names fields).Nodup && fieldsWellNamed fields
  | .optModel fields => decide (Model.names fields).Nodup && fieldsWellNamed fields
  | _ => true

def fieldsWellNamed : List (String × FieldType) → Bool
  | [] => true
  | (name, type) :: rest => dotless name && wellNamed type && fieldsWellNamed rest

end

/-- The whole model is well named. -/
abbrev WellNamed (model : Model) : Prop :=
  wellNamed (.model model) = true

theorem WellNamed.nodup {model : Model} (named : WellNamed model) : model.names.Nodup := by
  simp only [WellNamed, wellNamed, Bool.and_eq_true, decide_eq_true_eq] at named
  exact named.1

private theorem fieldsWellNamed_lookup {fields : List (String × FieldType)} {name : String}
    {type : FieldType} (named : fieldsWellNamed fields = true)
    (declared : Model.fieldType fields name = some type) :
    dotless name = true ∧ wellNamed type = true := by
  induction fields with
  | nil => simp [Model.fieldType] at declared
  | cons field rest ih =>
    obtain ⟨first, firstType⟩ := field
    simp only [fieldsWellNamed, Bool.and_eq_true] at named
    simp only [Model.fieldType, List.lookup_cons] at declared
    split at declared
    next same =>
      cases declared
      exact (eq_of_beq same) ▸ ⟨named.1.1, named.1.2⟩
    next => exact ih named.2 declared

theorem WellNamed.fieldType {model : Model} (named : WellNamed model) {name : String}
    {type : FieldType} (declared : model.fieldType name = some type) :
    dotless name = true ∧ wellNamed type = true := by
  simp only [WellNamed, wellNamed, Bool.and_eq_true] at named
  exact fieldsWellNamed_lookup named.2 declared

theorem WellNamed.dotless {model : Model} (named : WellNamed model) {name : String}
    (member : name ∈ model.names) : dotless name = true := by
  obtain ⟨type, declared⟩ := Model.fieldType_isSome member
  exact (named.fieldType declared).1

theorem strictlySorted_pairwise (names : List String) (sorted : strictlySorted names = true) :
    names.Pairwise (· < ·) := by
  induction names with
  | nil => exact .nil
  | cons first rest ih =>
    cases rest with
    | nil => simp
    | cons second rest =>
      simp only [strictlySorted, Bool.and_eq_true, decide_eq_true_eq] at sorted
      have tail := ih sorted.2
      refine List.pairwise_cons.mpr ⟨?_, tail⟩
      intro name member
      rcases List.mem_cons.mp member with rfl | later
      · exact sorted.1
      · exact sorted.1.trans ((List.pairwise_cons.mp tail).1 name later)

private theorem strictlySorted_ext (a b : List String) (sortedA : strictlySorted a = true)
    (sortedB : strictlySorted b = true) (same : ∀ name, name ∈ a ↔ name ∈ b) : a = b := by
  have orderA := strictlySorted_pairwise a sortedA
  have orderB := strictlySorted_pairwise b sortedB
  have perm : a.Perm b :=
    (List.perm_ext_iff_of_nodup (orderA.imp ne_of_lt) (orderB.imp ne_of_lt)).mpr same
  exact perm.eq_of_pairwise (fun _ _ _ _ lt gt => (lt_asymm lt gt).elim) orderA orderB

/-- A key of a `dict[str, str]` reads as a string. -/
private theorem get_of_strDict {fields : Dict} {name : String}
    (fits : FieldType.strDict.conforms (.dict fields) = true) (member : name ∈ Dict.keys fields) :
    ∃ text, Dict.get fields name = .str text := by
  simp only [FieldType.conforms, Bool.and_eq_true, List.all_eq_true] at fits
  have values := fits.2
  clear fits
  induction fields with
  | nil => simp [Dict.keys] at member
  | cons field rest ih =>
    obtain ⟨first, value⟩ := field
    rw [Dict.get_cons]
    split
    next same =>
      have head := values (first, value) List.mem_cons_self
      cases value with
      | str text => exact ⟨text, rfl⟩
      | _ => simp at head
    next apart =>
      apply ih
      · simpa [Dict.keys, apart] using member
      · exact fun entry later => values entry (List.mem_cons_of_mem _ later)

private theorem mem_keys_of_strDict {fields : Dict} {name : String}
    (fits : FieldType.strDict.conforms (.dict fields) = true) :
    name ∈ Dict.keys fields ↔ Dict.get fields name ≠ .none := by
  constructor
  · intro member
    obtain ⟨text, holds⟩ := get_of_strDict fits member
    simp [holds]
  · intro present
    by_contra absent
    exact present (Dict.get_of_not_mem fields name absent)

private theorem strDict_ext {x y : Dict} (path : String)
    (fitsX : FieldType.strDict.conforms (.dict x) = true)
    (fitsY : FieldType.strDict.conforms (.dict y) = true)
    (silent : fieldChanges x y path = []) : x = y := by
  rw [fieldChanges_eq, List.flatMap_eq_nil_iff] at silent
  have values : ∀ name, Dict.get x name = Dict.get y name := by
    intro name
    by_contra unequal
    have known : name ∈ Dict.keys x ∨ name ∈ Dict.keys y := by
      by_contra neither
      push Not at neither
      exact unequal ((Dict.get_of_not_mem x name neither.1).trans
        (Dict.get_of_not_mem y name neither.2).symm)
    have nothing := silent name (mem_sortedKeys.mpr known)
    rw [changesBetween_leaf _ unequal] at nothing
    · cases nothing
    · intro u v holds _
      have member : name ∈ Dict.keys x := by
        rw [mem_keys_of_strDict fitsX, holds]
        simp
      obtain ⟨text, string⟩ := get_of_strDict fitsX member
      rw [holds] at string
      cases string
  have sortedX := fitsX
  have sortedY := fitsY
  simp only [FieldType.conforms, Bool.and_eq_true] at sortedX sortedY
  have order : Dict.keys x = Dict.keys y := by
    apply strictlySorted_ext _ _ sortedX.1 sortedY.1
    intro name
    rw [mem_keys_of_strDict fitsX, mem_keys_of_strDict fitsY, values name]
  have unique := (strictlySorted_pairwise _ sortedX.1).imp ne_of_lt
  exact Dict.ext_of_get x y order unique (fun name _ => values name)

/-- On two dumps of one well named model, no field change means equality. The induction is
on the nesting of the dumps; a `dict[str, str]` can miss a key but never holds `None`. -/
theorem eq_of_fieldChanges_nil (model : Model) (a b : Dict) (path : String)
    (named : WellNamed model) (fitsA : model.Conforms a) (fitsB : model.Conforms b)
    (silent : fieldChanges a b path = []) : a = b := by
  induction depth : Val.fieldsDepth a using Nat.strong_induction_on
    generalizing model a b path with
  | _ n ih =>
    rw [fieldChanges_eq, List.flatMap_eq_nil_iff] at silent
    have keysA := fitsA.keys
    have keysB := fitsB.keys
    apply Dict.ext_of_get a b (keysA.trans keysB.symm) (keysA ▸ named.nodup)
    intro name member
    have quiet := silent name (mem_sortedKeys.mpr (.inl member))
    obtain ⟨type, declared⟩ := Model.fieldType_isSome (keysA ▸ member)
    have left := fitsA.get declared
    have right := fitsB.get declared
    have inner := (named.fieldType declared).2
    by_contra differ
    by_cases nested : ∃ x y, Dict.get a name = .dict x ∧ Dict.get b name = .dict y
    · obtain ⟨x, y, holdsA, holdsB⟩ := nested
      have deeper := depth ▸ depth_of_get holdsA
      rw [holdsA, holdsB, changesBetween_dict] at quiet
      rw [holdsA] at left
      rw [holdsB] at right
      apply differ
      rw [holdsA, holdsB, Val.dict.injEq]
      cases type with
      | model fields => exact ih _ deeper fields x y _ inner left right quiet rfl
      | optModel fields => exact ih _ deeper fields x y _ inner left right quiet rfl
      | strDict => exact strDict_ext _ left right quiet
      | _ => simp [FieldType.conforms] at left
    · rw [changesBetween_leaf _ differ (fun x y left right => nested ⟨x, y, left, right⟩)] at quiet
      cases quiet

/-- `_diff_scalar`, at an optional text. -/
def diffScalar (a b : Val) (field : String) : SectionDiff :=
  if a = b then { unchangedCount := 1 }
  else { modified := [⟨field, field, [⟨field, a, b⟩]⟩] }

theorem diffScalar_isEmpty (a b : Val) (field : String) :
    (diffScalar a b field).isEmpty = true ↔ a = b := by
  unfold diffScalar
  split <;> simp_all [SectionDiff.isEmpty]

/-- Diff two optional models as a single pseudo-item. -/
def diffOptionalModel (a b : Option Dict) (label : String) : SectionDiff :=
  match a, b with
  | none, none => {}
  | none, some after => { added := [after] }
  | some before, none => { removed := [before] }
  | some before, some after =>
    let changes := fieldChanges before after ""
    if changes = [] then { unchangedCount := 1 }
    else { modified := [⟨label, label, changes⟩] }

theorem diffOptionalModel_isEmpty {model : Model} (named : WellNamed model) (a b : Option Dict)
    (label : String) (fitsA : ∀ dump ∈ a, model.Conforms dump)
    (fitsB : ∀ dump ∈ b, model.Conforms dump) :
    (diffOptionalModel a b label).isEmpty = true ↔ a = b := by
  cases a with
  | none => cases b <;> simp [diffOptionalModel, SectionDiff.isEmpty]
  | some before =>
    cases b with
    | none => simp [diffOptionalModel, SectionDiff.isEmpty]
    | some after =>
      simp only [diffOptionalModel, Option.some.injEq]
      constructor
      · intro empty
        split at empty
        next silent =>
          exact eq_of_fieldChanges_nil model before after "" named (fitsA before rfl)
            (fitsB after rfl) silent
        next => simp [SectionDiff.isEmpty] at empty
      · rintro rfl
        simp [SectionDiff.isEmpty]

/-- Two present models are compared field by field; neither side is reported whole. -/
theorem diffOptionalModel_some (before after : Dict) (label : String) :
    (diffOptionalModel (some before) (some after) label).added = [] ∧
      (diffOptionalModel (some before) (some after) label).removed = [] ∧
      (diffOptionalModel (some before) (some after) label).modified.flatMap ItemDiff.changes =
        fieldChanges before after "" := by
  rw [diffOptionalModel]
  split
  next silent => exact ⟨rfl, rfl, silent.symm⟩
  next => exact ⟨rfl, rfl, List.append_nil _⟩

section ListSections

variable (key : String)

/-- `str(d.get(key))`. -/
def diffKey (dump : Dict) : String :=
  (Dict.get dump key).text

/-- `a_by[k]`, for a key the list has. -/
def rowAt (rows : List Dict) (k : String) : Dict :=
  (lastBy (diffKey key) rows k).getD []

/-- `a_index[k]`, for a key the list has. -/
def indexAt (rows : List Dict) (k : String) : Nat :=
  (lastIndexBy (diffKey key) rows k).getD 0

/-- What changed between the two rows that the dicts hold under `k`. -/
def changesAt (a b : List Dict) (k : String) : List FieldChange :=
  fieldChanges (rowAt key a k) (rowAt key b k) ""

/-- Diff two lists of dumped models keyed by `key`. -/
def diffList (a b : List Dict) (labelFn : Dict → String) (orderSensitive : Bool) : SectionDiff :=
  let added := (newKeys (diffKey key) a b).map (rowAt key b)
  let removed := (newKeys (diffKey key) b a).map (rowAt key a)
  let shared := sharedKeys (diffKey key) a b
  let modified := (shared.filter fun k => changesAt key a b k ≠ []).map fun k =>
    ⟨k, labelFn (rowAt key b k), changesAt key a b k⟩
  let reordered := (shared.filter fun k =>
    orderSensitive ∧ indexAt key a k ≠ indexAt key b k).map fun k =>
      ⟨k, labelFn (rowAt key b k), indexAt key a k, indexAt key b k⟩
  { added := added.insertionSort fun x y => diffKey key x ≤ diffKey key y
    removed := removed.insertionSort fun x y => diffKey key x ≤ diffKey key y
    modified := modified.insertionSort fun x y => x.key ≤ y.key
    reordered := reordered.insertionSort fun x y => x.newIndex ≤ y.newIndex
    unchangedCount := (shared.filter fun k => changesAt key a b k = []).length }

variable {key} {a b : List Dict} {labelFn : Dict → String} {orderSensitive : Bool}

theorem rowAt_spec {rows : List Dict} {k : String} (member : k ∈ keys (diffKey key) rows) :
    rowAt key rows k ∈ rows ∧ diffKey key (rowAt key rows k) = k := by
  obtain ⟨row, found⟩ := lastBy_isSome member
  rw [rowAt, found]
  exact lastBy_spec found

theorem rowAt_unique {rows : List Dict} (unique : Unique (diffKey key) rows) {row : Dict}
    (member : row ∈ rows) : rowAt key rows (diffKey key row) = row := by
  rw [rowAt, unique.lastBy member, Option.getD_some]

theorem mem_added {row : Dict} : row ∈ (diffList key a b labelFn orderSensitive).added ↔
    ∃ k, k ∈ keys (diffKey key) b ∧ k ∉ keys (diffKey key) a ∧ rowAt key b k = row := by
  simp [diffList, mem_newKeys, and_assoc]

theorem mem_removed {row : Dict} : row ∈ (diffList key a b labelFn orderSensitive).removed ↔
    ∃ k, k ∈ keys (diffKey key) a ∧ k ∉ keys (diffKey key) b ∧ rowAt key a k = row := by
  simp [diffList, mem_newKeys, and_assoc]

theorem mem_modified {item : ItemDiff} :
    item ∈ (diffList key a b labelFn orderSensitive).modified ↔
      ∃ k, (k ∈ keys (diffKey key) b ∧ k ∈ keys (diffKey key) a) ∧ changesAt key a b k ≠ [] ∧
        ⟨k, labelFn (rowAt key b k), changesAt key a b k⟩ = item := by
  simp [diffList, mem_sharedKeys, and_assoc]

theorem mem_reordered {event : ReorderEvent} :
    event ∈ (diffList key a b labelFn orderSensitive).reordered ↔
      ∃ k, (k ∈ keys (diffKey key) b ∧ k ∈ keys (diffKey key) a) ∧
        (orderSensitive = true ∧ indexAt key a k ≠ indexAt key b k) ∧
        ⟨k, labelFn (rowAt key b k), indexAt key a k, indexAt key b k⟩ = event := by
  simp [diffList, mem_sharedKeys, and_assoc]

private theorem length_modified_add_unchanged :
    (diffList key a b labelFn orderSensitive).modified.length +
      (diffList key a b labelFn orderSensitive).unchangedCount =
        (sharedKeys (diffKey key) a b).length := by
  have split := List.length_eq_length_filter_add (l := sharedKeys (diffKey key) a b)
    (fun k => decide (changesAt key a b k = []))
  simp only [diffList, List.length_insertionSort, List.length_map, ne_eq, decide_not]
  omega

/-- Every key of the new list is reported once: added, modified or unchanged. -/
theorem length_added_modified_unchanged :
    (diffList key a b labelFn orderSensitive).added.length +
      (diffList key a b labelFn orderSensitive).modified.length +
      (diffList key a b labelFn orderSensitive).unchangedCount = (keys (diffKey key) b).length := by
  have shared := @length_modified_add_unchanged key a b labelFn orderSensitive
  have total : (newKeys (diffKey key) a b).length + (sharedKeys (diffKey key) a b).length =
      (keys (diffKey key) b).length := length_newKeys_add_sharedKeys a b
  have added : (diffList key a b labelFn orderSensitive).added.length =
      (newKeys (diffKey key) a b).length := by simp [diffList]
  omega

/-- Every key of the old list is reported once: removed, modified or unchanged. -/
theorem length_removed_modified_unchanged :
    (diffList key a b labelFn orderSensitive).removed.length +
      (diffList key a b labelFn orderSensitive).modified.length +
      (diffList key a b labelFn orderSensitive).unchangedCount = (keys (diffKey key) a).length := by
  have shared := @length_modified_add_unchanged key a b labelFn orderSensitive
  have swap : (sharedKeys (diffKey key) a b).length = (sharedKeys (diffKey key) b a).length :=
    (sharedKeys_perm a b).length_eq
  have total : (newKeys (diffKey key) b a).length + (sharedKeys (diffKey key) b a).length =
      (keys (diffKey key) a).length := length_newKeys_add_sharedKeys b a
  have removed : (diffList key a b labelFn orderSensitive).removed.length =
      (newKeys (diffKey key) b a).length := by simp [diffList]
  omega

/-- The two dicts hold the same rows, whatever the lists' duplicates. -/
private theorem lastBy_eq_of_isEmpty {model : Model} (named : WellNamed model)
    (fitsA : ∀ row ∈ a, model.Conforms row) (fitsB : ∀ row ∈ b, model.Conforms row)
    (empty : (diffList key a b labelFn orderSensitive).isEmpty = true) (k : String) :
    lastBy (diffKey key) a k = lastBy (diffKey key) b k := by
  obtain ⟨noneAdded, noneRemoved, noneModified, -⟩ := (SectionDiff.isEmpty_iff _).mp empty
  by_cases inA : k ∈ keys (diffKey key) a
  · by_cases inB : k ∈ keys (diffKey key) b
    · have silent : changesAt key a b k = [] := by
        by_contra loud
        have listed : (⟨k, labelFn (rowAt key b k), changesAt key a b k⟩ : ItemDiff) ∈
            (diffList key a b labelFn orderSensitive).modified :=
          mem_modified.mpr ⟨k, ⟨inB, inA⟩, loud, rfl⟩
        rw [noneModified] at listed
        cases listed
      have same := eq_of_fieldChanges_nil model _ _ _ named (fitsA _ (rowAt_spec inA).1)
        (fitsB _ (rowAt_spec inB).1) silent
      obtain ⟨rowA, foundA⟩ := lastBy_isSome inA
      obtain ⟨rowB, foundB⟩ := lastBy_isSome inB
      simp only [rowAt, foundA, foundB, Option.getD_some] at same
      rw [foundA, foundB, same]
    · have listed : rowAt key a k ∈ (diffList key a b labelFn orderSensitive).removed :=
        mem_removed.mpr ⟨k, inA, inB, rfl⟩
      rw [noneRemoved] at listed
      cases listed
  · by_cases inB : k ∈ keys (diffKey key) b
    · have listed : rowAt key b k ∈ (diffList key a b labelFn orderSensitive).added :=
        mem_added.mpr ⟨k, inB, inA, rfl⟩
      rw [noneAdded] at listed
      cases listed
    · rw [lastBy_eq_none inA, lastBy_eq_none inB]

private theorem eq_of_isEmpty (ua : Unique (diffKey key) a) (ub : Unique (diffKey key) b)
    (perm : a.Perm b) (empty : (diffList key a b labelFn true).isEmpty = true) : a = b := by
  obtain ⟨-, -, -, noneReordered⟩ := (SectionDiff.isEmpty_iff _).mp empty
  apply ua.eq_of_lastIndexBy ub perm
  intro k inA
  have inB : k ∈ keys (diffKey key) b := by
    obtain ⟨row, member, same⟩ := mem_keys.mp inA
    exact mem_keys.mpr ⟨row, perm.mem_iff.mp member, same⟩
  have still : indexAt key a k = indexAt key b k := by
    by_contra moved
    have listed : (⟨k, labelFn (rowAt key b k), indexAt key a k, indexAt key b k⟩ : ReorderEvent)
        ∈ (diffList key a b labelFn true).reordered :=
      mem_reordered.mpr ⟨k, ⟨inB, inA⟩, ⟨rfl, moved⟩, rfl⟩
    rw [noneReordered] at listed
    cases listed
  obtain ⟨i, indexA⟩ := lastIndexBy_isSome inA
  obtain ⟨j, indexB⟩ := lastIndexBy_isSome inB
  simp only [indexAt, indexA, indexB, Option.getD_some] at still
  rw [indexA, indexB, still]

private theorem isEmpty_of_perm (ua : Unique (diffKey key) a) (perm : a.Perm b)
    (order : orderSensitive = true → a = b) :
    (diffList key a b labelFn orderSensitive).isEmpty = true := by
  have same : ∀ k, lastBy (diffKey key) a k = lastBy (diffKey key) b k :=
    (ua.perm_iff (ua.of_perm perm)).mp perm
  have known : ∀ k, k ∈ keys (diffKey key) a ↔ k ∈ keys (diffKey key) b := by
    intro k
    simp only [mem_keys, perm.mem_iff]
  refine (SectionDiff.isEmpty_iff _).mpr ⟨?_, ?_, ?_, ?_⟩ <;>
    apply List.eq_nil_iff_forall_not_mem.mpr
  · intro row member
    obtain ⟨k, inB, notA, -⟩ := mem_added.mp member
    exact notA ((known k).mpr inB)
  · intro row member
    obtain ⟨k, inA, notB, -⟩ := mem_removed.mp member
    exact notB ((known k).mp inA)
  · intro item member
    obtain ⟨k, -, loud, -⟩ := mem_modified.mp member
    apply loud
    simp [changesAt, rowAt, same k]
  · intro event member
    obtain ⟨k, -, ⟨sensitive, moved⟩, -⟩ := mem_reordered.mp member
    exact moved (by rw [order sensitive])

/-- With unique keys the section diff is empty exactly for the same rows, in the same order
where order matters. -/
theorem diffList_isEmpty {model : Model} (named : WellNamed model)
    (fitsA : ∀ row ∈ a, model.Conforms row) (fitsB : ∀ row ∈ b, model.Conforms row)
    (ua : Unique (diffKey key) a) (ub : Unique (diffKey key) b) :
    (diffList key a b labelFn orderSensitive).isEmpty = true ↔
      a.Perm b ∧ (orderSensitive = true → a = b) := by
  constructor
  · intro empty
    have perm : a.Perm b := (ua.perm_iff ub).mpr (lastBy_eq_of_isEmpty named fitsA fitsB empty)
    refine ⟨perm, ?_⟩
    rintro rfl
    exact eq_of_isEmpty ua ub perm empty
  · rintro ⟨perm, order⟩
    exact isEmpty_of_perm ua perm order

/-! ### No row is lost -/

/-- What a reader expects of a section diff: each row of both lists is accounted for, and
nothing is reported only when there is nothing to report. -/
def LosesNoRow (key : String) (a b : List Dict) (labelFn : Dict → String)
    (orderSensitive : Bool) : Prop :=
  let diff := diffList key a b labelFn orderSensitive
  diff.added.length + diff.modified.length + diff.unchangedCount = b.length ∧
    diff.removed.length + diff.modified.length + diff.unchangedCount = a.length ∧
    (diff.isEmpty = true → a.Perm b ∧ (orderSensitive = true → a = b))

/-- The differ loses no row exactly when the keys are unique within each list. -/
theorem losesNoRow_iff_unique {model : Model} (named : WellNamed model)
    (fitsA : ∀ row ∈ a, model.Conforms row) (fitsB : ∀ row ∈ b, model.Conforms row) :
    LosesNoRow key a b labelFn orderSensitive ↔
      Unique (diffKey key) a ∧ Unique (diffKey key) b := by
  have after := @length_added_modified_unchanged key a b labelFn orderSensitive
  have before := @length_removed_modified_unchanged key a b labelFn orderSensitive
  unfold LosesNoRow
  constructor
  · rintro ⟨countB, countA, -⟩
    exact ⟨(length_keys_eq_iff a).mp (before.symm.trans countA),
      (length_keys_eq_iff b).mp (after.symm.trans countB)⟩
  · rintro ⟨ua, ub⟩
    exact ⟨after.trans ((length_keys_eq_iff b).mpr ub), before.trans ((length_keys_eq_iff a).mpr ua),
      (diffList_isEmpty named fitsA fitsB ua ub).mp⟩

end ListSections

end PfsenseBackups.Diff

import PfsenseBackups.Journal
import PfsenseBackups.PackageEvents
import Mathlib.Data.List.Pairwise

/-! Section diffs as patches: the changes of a row, made to the row at their paths, lead from
one row to the other, and the diff of two lists leads from the one map of rows to the other. -/

namespace PfsenseBackups.DiffPatches
open Value Keyed Journal Diff AnchorEvents PackageEvents

/-! ### Fields set in place -/

/-- `fields[name] = value`, for a name that is there. -/
def setField (name : String) (value : Val) (fields : Dict) : Dict :=
  fields.map fun field => if field.1 = name then (name, value) else field

@[simp] theorem keys_setField (name : String) (value : Val) (fields : Dict) :
    Dict.keys (setField name value fields) = Dict.keys fields := by
  rw [Dict.keys, Dict.keys, setField, List.map_map]
  refine List.map_congr_left fun field _ => ?_
  by_cases same : field.1 = name <;> simp [same]

theorem get_setField_self {name : String} {fields : Dict} (member : name ∈ Dict.keys fields)
    (value : Val) : Dict.get (setField name value fields) name = value := by
  induction fields with
  | nil => cases member
  | cons field rest ih =>
    obtain ⟨first, held⟩ := field
    rw [setField, List.map_cons]
    by_cases same : first = name
    · rw [if_pos same, Dict.get_cons, if_pos rfl]
    · rw [if_neg same, Dict.get_cons, if_neg (Ne.symm same)]
      refine ih ?_
      simpa [Dict.keys, Ne.symm same] using member

theorem get_setField_of_ne {name other : String} (apart : other ≠ name) (value : Val)
    (fields : Dict) : Dict.get (setField name value fields) other = Dict.get fields other := by
  induction fields with
  | nil => rfl
  | cons field rest ih =>
    obtain ⟨first, held⟩ := field
    rw [setField, List.map_cons]
    by_cases same : first = name
    · rw [if_pos same, Dict.get_cons, if_neg apart, Dict.get_cons, if_neg (same ▸ apart)]
      exact ih
    · rw [if_neg same, Dict.get_cons, Dict.get_cons]
      by_cases found : other = first
      · rw [if_pos found, if_pos found]
      · rw [if_neg found, if_neg found]
        exact ih

theorem setField_setField (name : String) (first second : Val) (fields : Dict) :
    setField name second (setField name first fields) = setField name second fields := by
  rw [setField, setField, setField, List.map_map]
  refine List.map_congr_left fun field _ => ?_
  by_cases same : field.1 = name <;> simp [same]

theorem setField_comm {name other : String} (apart : name ≠ other) (value held : Val)
    (fields : Dict) :
    setField name value (setField other held fields) =
      setField other held (setField name value fields) := by
  rw [setField, setField, setField, setField, List.map_map, List.map_map]
  refine List.map_congr_left fun field _ => ?_
  by_cases same : field.1 = name
  · simp [same, apart]
  · by_cases same' : field.1 = other <;> simp [same, same', apart.symm]

theorem setField_get {fields : Dict} (unique : (Dict.keys fields).Nodup) (name : String) :
    setField name (Dict.get fields name) fields = fields := by
  refine Dict.ext_of_get _ _ (keys_setField _ _ _) (by rwa [keys_setField]) fun other member => ?_
  rw [keys_setField] at member
  by_cases same : other = name
  · subst same
    exact get_setField_self member _
  · exact get_setField_of_ne same _ _

/-! ### Values replaced at a path -/

/-- The value with the one at a path replaced, if that one is there. -/
def replaceAt : List String → Val → Val → Val → Option Val
  | [], before, after, held => if held = before then some after else none
  | name :: rest, before, after, .dict fields =>
    if name ∈ Dict.keys fields then
      (replaceAt rest before after (Dict.get fields name)).map fun value =>
        .dict (setField name value fields)
    else none
  | _ :: _, _, _, _ => none

/-- A change with its path cut at the dots. -/
abbrev Step := List String × Val × Val

def stepOf (change : FieldChange) : Step :=
  (splitPath change.field, change.before, change.after)

def replaceStep (step : Step) (value : Val) : Option Val :=
  replaceAt step.1 step.2.1 step.2.2 value

/-- The steps made one after the other. -/
def replaceAll (steps : List Step) (value : Val) : Option Val :=
  steps.foldl (fun value step => value.bind (replaceStep step)) (some value)

@[simp] theorem replaceAll_nil (value : Val) : replaceAll [] value = some value := rfl

theorem foldl_none (steps : List Step) :
    steps.foldl (fun value step => value.bind (replaceStep step)) none = none := by
  induction steps with
  | nil => rfl
  | cons step rest ih => exact ih

theorem replaceAll_cons (step : Step) (rest : List Step) (value : Val) :
    replaceAll (step :: rest) value = (replaceStep step value).bind (replaceAll rest) := by
  rw [replaceAll, List.foldl_cons, Option.bind_some]
  cases replaceStep step value with
  | none => exact foldl_none rest
  | some changed => rfl

theorem replaceAll_append (first second : List Step) (value : Val) :
    replaceAll (first ++ second) value = (replaceAll first value).bind (replaceAll second) := by
  induction first generalizing value with
  | nil => rfl
  | cons step rest ih =>
    rw [List.cons_append, replaceAll_cons, replaceAll_cons]
    cases replaceStep step value with
    | none => rfl
    | some changed => exact ih changed

/-- A step one level below a field. -/
def below (name : String) (step : Step) : Step :=
  (name :: step.1, step.2)

theorem replaceStep_below {name : String} {fields : Dict} (listed : name ∈ Dict.keys fields)
    (step : Step) :
    replaceStep (below name step) (.dict fields) =
      (replaceStep step (Dict.get fields name)).map fun value =>
        .dict (setField name value fields) := by
  rw [replaceStep, below, replaceAt, if_pos listed]
  rfl

/-- Steps below a field change the value in the field. -/
theorem replaceAll_below {name : String} {fields : Dict} (listed : name ∈ Dict.keys fields)
    (unique : (Dict.keys fields).Nodup) (steps : List Step) :
    replaceAll (steps.map (below name)) (.dict fields) =
      (replaceAll steps (Dict.get fields name)).map fun value =>
        .dict (setField name value fields) := by
  induction steps generalizing fields with
  | nil => simp [setField_get unique]
  | cons step rest ih =>
    rw [List.map_cons, replaceAll_cons, replaceAll_cons, replaceStep_below listed]
    cases replaceStep step (Dict.get fields name) with
    | none => rfl
    | some changed =>
      have listed' : name ∈ Dict.keys (setField name changed fields) := by
        rwa [keys_setField]
      have unique' : (Dict.keys (setField name changed fields)).Nodup := by
        rwa [keys_setField]
      rw [Option.map_some, Option.bind_some, Option.bind_some, ih listed' unique',
        get_setField_self listed]
      congr 1
      funext last
      rw [setField_setField]

/-! ### The steps between two rows -/

/-- Two dumps with the same keys, each once and free of dots, wherever both hold a dict. -/
inductive Comparable : Dict → Dict → Prop where
  | mk {x y : Dict} (order : Dict.keys x = Dict.keys y) (unique : (Dict.keys x).Nodup)
    (plain : ∀ name ∈ Dict.keys x, dotless name = true)
    (inner : ∀ name u v, Dict.get x name = .dict u → Dict.get y name = .dict v → Comparable u v) :
    Comparable x y

theorem Comparable.symm {x y : Dict} (comparable : Comparable x y) : Comparable y x := by
  induction comparable with
  | mk order unique plain inner ih =>
    refine .mk order.symm (order ▸ unique) (fun name member => plain name (order ▸ member)) ?_
    exact fun name u v left right => ih name v u right left

/-- The levels of two dumps checked one by one. The fuel bounds the nesting. -/
def comparableWithin : Nat → Dict → Dict → Bool
  | 0, _, _ => false
  | fuel + 1, x, y =>
    decide (Dict.keys x = Dict.keys y) && decide (Dict.keys x).Nodup &&
      (Dict.keys x).all fun name =>
        dotless name && match Dict.get x name, Dict.get y name with
          | .dict u, .dict v => comparableWithin fuel u v
          | _, _ => true

theorem Comparable.of_within {fuel : Nat} {x y : Dict}
    (checked : comparableWithin fuel x y = true) : Comparable x y := by
  induction fuel generalizing x y with
  | zero => cases checked
  | succ fuel ih =>
    simp only [comparableWithin, Bool.and_eq_true, decide_eq_true_eq, List.all_eq_true] at checked
    obtain ⟨⟨order, unique⟩, each⟩ := checked
    refine .mk order unique (fun name member => (each name member).1) fun name u v left right => ?_
    have member : name ∈ Dict.keys x := by
      by_contra absent
      rw [Dict.get_of_not_mem x name absent] at left
      cases left
    have inner := (each name member).2
    rw [left, right] at inner
    exact ih inner

def steps (a b : Dict) : List Step :=
  (fieldChanges a b "").map stepOf

/-- The steps from one value to another. -/
def valueSteps (before after : Val) : List Step :=
  if before = after then []
  else match before, after with
    | .dict x, .dict y => steps x y
    | before, after => [([], before, after)]

@[simp] theorem valueSteps_self (value : Val) : valueSteps value value = [] := by
  simp [valueSteps]

theorem valueSteps_dict (x y : Dict) : valueSteps (.dict x) (.dict y) = steps x y := by
  unfold valueSteps
  split
  next same =>
    cases same
    simp [steps]
  next => rfl

theorem valueSteps_leaf {before after : Val} (differ : before ≠ after)
    (leaf : ∀ x y, before = .dict x → after = .dict y → False) :
    valueSteps before after = [([], before, after)] := by
  unfold valueSteps
  rw [if_neg differ]
  cases before <;> cases after <;> try rfl
  exact (leaf _ _ rfl rfl).elim

theorem fieldChanges_path {a b : Dict} (comparable : Comparable a b) (path : String) :
    fieldChanges a b path = (fieldChanges a b "").map fun change =>
      ⟨path ++ change.field, change.before, change.after⟩ := by
  induction comparable generalizing path with
  | @mk a b order unique plain inner ih =>
    rw [fieldChanges_eq, fieldChanges_eq, List.map_flatMap]
    congr 1
    funext name
    by_cases same : Dict.get a name = Dict.get b name
    · simp [same]
    · by_cases nested : ∃ x y, Dict.get a name = .dict x ∧ Dict.get b name = .dict y
      · obtain ⟨x, y, left, right⟩ := nested
        rw [left, right, changesBetween_dict, changesBetween_dict, ih name x y left right,
          ih name x y left right ("" ++ name ++ "."), List.map_map]
        refine List.map_congr_left fun change _ => ?_
        simp [String.append_assoc]
      · have leaf := fun x y left right => nested ⟨x, y, left, right⟩
        rw [changesBetween_leaf _ same leaf, changesBetween_leaf _ same leaf]
        simp

theorem steps_eq {a b : Dict} (comparable : Comparable a b) :
    steps a b = (sortedKeys a b).flatMap fun name =>
      (valueSteps (Dict.get a name) (Dict.get b name)).map (below name) := by
  cases comparable with
  | mk order unique plain inner =>
    rw [steps, fieldChanges_eq, List.map_flatMap]
    refine List.flatMap_congr fun name member => ?_
    have dotfree : dotless name = true := by
      rcases mem_sortedKeys.mp member with listed | listed
      · exact plain name listed
      · exact plain name (order ▸ listed)
    rw [String.empty_append]
    by_cases same : Dict.get a name = Dict.get b name
    · simp [same]
    · by_cases nested : ∃ x y, Dict.get a name = .dict x ∧ Dict.get b name = .dict y
      · obtain ⟨x, y, left, right⟩ := nested
        rw [left, right, changesBetween_dict, valueSteps_dict,
          fieldChanges_path (inner name x y left right), steps, List.map_map, List.map_map]
        refine List.map_congr_left fun change _ => ?_
        simp [stepOf, below, splitPath_dot dotfree]
      · have leaf := fun x y left right => nested ⟨x, y, left, right⟩
        rw [changesBetween_leaf _ same leaf, valueSteps_leaf same leaf]
        simp [stepOf, below, splitPath_of_dotless dotfree]

/-! ### Steps lead from one row to the other -/

/-- The fields set one after the other to their values in another dict. -/
def setAll (names : List String) (other fields : Dict) : Dict :=
  names.foldl (fun fields name => setField name (Dict.get other name) fields) fields

theorem keys_setAll (names : List String) (other fields : Dict) :
    Dict.keys (setAll names other fields) = Dict.keys fields := by
  induction names generalizing fields with
  | nil => rfl
  | cons name rest ih => exact (ih _).trans (keys_setField name _ fields)

theorem get_setAll {names : List String} {other fields : Dict}
    (listed : ∀ name ∈ names, name ∈ Dict.keys fields) (name : String) :
    Dict.get (setAll names other fields) name =
      if name ∈ names then Dict.get other name else Dict.get fields name := by
  induction names generalizing fields with
  | nil => simp [setAll]
  | cons first rest ih =>
    have kept : ∀ later ∈ rest,
        later ∈ Dict.keys (setField first (Dict.get other first) fields) := by
      intro later member
      rw [keys_setField]
      exact listed later (List.mem_cons_of_mem _ member)
    have step := ih kept
    rw [setAll, List.foldl_cons]
    refine step.trans ?_
    by_cases later : name ∈ rest
    · simp [later]
    · rw [if_neg later]
      by_cases same : name = first
      · rw [same, get_setField_self (listed first List.mem_cons_self),
          if_pos List.mem_cons_self]
      · rw [get_setField_of_ne same, if_neg (by simp [same, later])]

theorem replaceAll_values {before after : Val}
    (inner : ∀ x y, before = .dict x → after = .dict y →
      replaceAll (steps x y) (.dict x) = some (.dict y)) :
    replaceAll (valueSteps before after) before = some after := by
  by_cases same : before = after
  · rw [same, valueSteps_self, replaceAll_nil]
  · by_cases nested : ∃ x y, before = .dict x ∧ after = .dict y
    · obtain ⟨x, y, rfl, rfl⟩ := nested
      rw [valueSteps_dict]
      exact inner x y rfl rfl
    · rw [valueSteps_leaf same fun x y left right => nested ⟨x, y, left, right⟩, replaceAll_cons]
      simp [replaceStep, replaceAt]

theorem replaceAll_names {names : List String} {fields a b : Dict} (distinct : names.Nodup)
    (listed : ∀ name ∈ names, name ∈ Dict.keys fields) (unique : (Dict.keys fields).Nodup)
    (held : ∀ name ∈ names, Dict.get fields name = Dict.get a name)
    (each : ∀ name, replaceAll (valueSteps (Dict.get a name) (Dict.get b name)) (Dict.get a name) =
      some (Dict.get b name)) :
    replaceAll (names.flatMap fun name =>
        (valueSteps (Dict.get a name) (Dict.get b name)).map (below name)) (.dict fields) =
      some (.dict (setAll names b fields)) := by
  induction names generalizing fields with
  | nil => rfl
  | cons name rest ih =>
    rw [List.nodup_cons] at distinct
    rw [List.flatMap_cons, replaceAll_append,
      replaceAll_below (listed name List.mem_cons_self) unique,
      held name List.mem_cons_self, each name, Option.map_some, Option.bind_some]
    refine ih distinct.2 ?_ ?_ ?_
    · intro later member
      rw [keys_setField]
      exact listed later (List.mem_cons_of_mem _ member)
    · rwa [keys_setField]
    · intro later member
      have apart : later ≠ name := fun same => distinct.1 (same ▸ member)
      rw [get_setField_of_ne apart]
      exact held later (List.mem_cons_of_mem _ member)

/-- The changes of a row, made at their paths, lead to the other row. -/
theorem replaceAll_steps {a b : Dict} (comparable : Comparable a b) :
    replaceAll (steps a b) (.dict a) = some (.dict b) := by
  induction comparable with
  | @mk a b order unique plain inner ih =>
    have listed : ∀ name ∈ sortedKeys a b, name ∈ Dict.keys a := by
      intro name member
      rcases mem_sortedKeys.mp member with inside | inside
      · exact inside
      · exact order ▸ inside
    have each : ∀ name, replaceAll (valueSteps (Dict.get a name) (Dict.get b name))
        (Dict.get a name) = some (Dict.get b name) :=
      fun name => replaceAll_values (ih name)
    rw [steps_eq (.mk order unique plain inner),
      replaceAll_names (sortedKeys_nodup a b) listed unique (fun _ _ => rfl) each, Option.some.injEq, Val.dict.injEq]
    refine Dict.ext_of_get _ _ ((keys_setAll _ _ _).trans order) (by rwa [keys_setAll]) ?_
    intro name member
    rw [keys_setAll] at member
    rw [get_setAll listed, if_pos (mem_sortedKeys.mpr (.inl member))]

/-- No change is missing: without any, the rows are equal. -/
theorem fieldChanges_eq_nil_iff {a b : Dict} (comparable : Comparable a b) :
    fieldChanges a b "" = [] ↔ a = b := by
  constructor
  · intro silent
    have reached := replaceAll_steps comparable
    rw [steps, silent, List.map_nil, replaceAll_nil] at reached
    exact Val.dict.inj (Option.some.inj reached)
  · rintro rfl
    exact fieldChanges_self a ""

/-! ### Paths of one row -/

/-- Neither path leads through the other. -/
def Apart (first second : List String) : Prop :=
  ¬first <+: second ∧ ¬second <+: first

theorem Apart.symm {first second : List String} (apart : Apart first second) :
    Apart second first :=
  ⟨apart.2, apart.1⟩

theorem apart_of_heads {name other : String} (differ : name ≠ other) (first second : List String) :
    Apart (name :: first) (other :: second) := by
  simp [Apart, List.cons_prefix_cons, differ, differ.symm]

theorem apart_cons {name : String} {first second : List String} :
    Apart (name :: first) (name :: second) ↔ Apart first second := by
  simp [Apart, List.cons_prefix_cons]

theorem steps_apart {a b : Dict} (comparable : Comparable a b) :
    (steps a b).Pairwise fun step other => Apart step.1 other.1 := by
  induction comparable with
  | @mk a b order unique plain inner ih =>
    rw [steps_eq (.mk order unique plain inner), List.pairwise_flatMap]
    constructor
    · intro name _
      rw [List.pairwise_map]
      refine List.Pairwise.imp apart_cons.mpr ?_
      by_cases same : Dict.get a name = Dict.get b name
      · simp [same]
      · by_cases nested : ∃ x y, Dict.get a name = .dict x ∧ Dict.get b name = .dict y
        · obtain ⟨x, y, left, right⟩ := nested
          rw [left, right, valueSteps_dict]
          exact ih name x y left right
        · rw [valueSteps_leaf same fun x y left right => nested ⟨x, y, left, right⟩]
          exact List.pairwise_singleton _ _
    · refine (sortedKeys_nodup a b).imp fun {name other} differ step here later there => ?_
      obtain ⟨inner, -, rfl⟩ := List.mem_map.mp here
      obtain ⟨inner', -, rfl⟩ := List.mem_map.mp there
      exact apart_of_heads differ inner.1 inner'.1

/-! ### Steps in any order -/

theorem replaceAt_twice {name : String} {fields : Dict} (listed : name ∈ Dict.keys fields)
    (first second : List String) (before after before' after' : Val) :
    (replaceAt (name :: first) before after (.dict fields)).bind
        (replaceAt (name :: second) before' after') =
      ((replaceAt first before after (Dict.get fields name)).bind
        (replaceAt second before' after')).map fun value => .dict (setField name value fields) := by
  rw [replaceAt, if_pos listed]
  cases replaceAt first before after (Dict.get fields name) with
  | none => rfl
  | some value =>
    have listed' : name ∈ Dict.keys (setField name value fields) := by
      rwa [keys_setField]
    rw [Option.map_some, Option.bind_some, Option.bind_some, replaceAt, if_pos listed',
      get_setField_self listed]
    simp [setField_setField]

theorem replaceAt_both {name other : String} (differ : other ≠ name) (fields : Dict)
    (first second : List String) (before after before' after' : Val) :
    (replaceAt (name :: first) before after (.dict fields)).bind
        (replaceAt (other :: second) before' after') =
      if name ∈ Dict.keys fields ∧ other ∈ Dict.keys fields then
        (replaceAt first before after (Dict.get fields name)).bind fun value =>
          (replaceAt second before' after' (Dict.get fields other)).map fun value' =>
            .dict (setField other value' (setField name value fields))
      else none := by
  rw [replaceAt]
  by_cases listed : name ∈ Dict.keys fields
  · rw [if_pos listed]
    cases replaceAt first before after (Dict.get fields name) with
    | none => simp
    | some value =>
      rw [Option.map_some, Option.bind_some, Option.bind_some, replaceAt, keys_setField,
        get_setField_of_ne differ]
      simp [listed]
  · simp [listed]

/-- Two steps whose paths are apart can be exchanged. -/
theorem replaceAt_comm {first second : List String} (apart : Apart first second)
    (before after before' after' value : Val) :
    (replaceAt first before after value).bind (replaceAt second before' after') =
      (replaceAt second before' after' value).bind (replaceAt first before after) := by
  induction first generalizing second value with
  | nil => exact absurd List.nil_prefix apart.1
  | cons name rest ih =>
    cases second with
    | nil => exact absurd List.nil_prefix apart.2
    | cons other rest' =>
      cases value with
      | dict fields =>
        by_cases same : name = other
        · subst same
          by_cases listed : name ∈ Dict.keys fields
          · rw [replaceAt_twice listed, replaceAt_twice listed, ih (apart_cons.mp apart)]
          · rw [replaceAt, replaceAt, if_neg listed, if_neg listed]
            rfl
        · rw [replaceAt_both (Ne.symm same), replaceAt_both same]
          by_cases listed : name ∈ Dict.keys fields ∧ other ∈ Dict.keys fields
          · rw [if_pos listed, if_pos listed.symm]
            cases replaceAt rest before after (Dict.get fields name) with
            | none => cases replaceAt rest' before' after' (Dict.get fields other) <;> rfl
            | some held =>
              cases replaceAt rest' before' after' (Dict.get fields other) with
              | none => rfl
              | some held' => simp [setField_comm same]
          · rw [if_neg listed, if_neg fun both => listed both.symm]
      | _ => rfl

/-- Steps with paths apart can be made in any order. -/
theorem replaceAll_perm {first second : List Step} (perm : first.Perm second)
    (apart : first.Pairwise fun step other => Apart step.1 other.1) (value : Val) :
    replaceAll first value = replaceAll second value := by
  have symmetric : Std.Symm fun step other : Step => Apart step.1 other.1 :=
    ⟨fun _ _ => Apart.symm⟩
  refine perm.foldl_eq' (fun step member other member' value => ?_) (some value)
  by_cases same : step = other
  · rw [same]
  · have exchange := apart.forall member member' same
    cases value with
    | none => rfl
    | some value => exact replaceAt_comm exchange _ _ _ _ value

/-! ### Mirror images -/

/-- The change seen from the other side. -/
def mirrored (change : FieldChange) : FieldChange :=
  ⟨change.field, change.after, change.before⟩

theorem fieldChanges_mirror {a b : Dict} (comparable : Comparable a b) (path : String) :
    fieldChanges b a path = (fieldChanges a b path).map mirrored := by
  induction comparable generalizing path with
  | @mk a b order unique plain inner ih =>
    have keys : sortedKeys b a = sortedKeys a b := by
      rw [sortedKeys, sortedKeys, order]
    rw [fieldChanges_eq, fieldChanges_eq, keys, List.map_flatMap]
    congr 1
    funext name
    by_cases same : Dict.get a name = Dict.get b name
    · simp [same]
    · by_cases nested : ∃ x y, Dict.get a name = .dict x ∧ Dict.get b name = .dict y
      · obtain ⟨x, y, left, right⟩ := nested
        rw [left, right, changesBetween_dict, changesBetween_dict]
        exact ih name x y left right _
      · rw [changesBetween_leaf _ same fun x y left right => nested ⟨x, y, left, right⟩,
          changesBetween_leaf _ (Ne.symm same) fun x y left right => nested ⟨y, x, right, left⟩]
        rfl

/-! ### Rows -/

/-- The changes made to a row at their paths. -/
def patchRow (changes : List FieldChange) (row : Dict) : Option Dict :=
  match replaceAll (changes.map stepOf) (.dict row) with
  | some (.dict changed) => some changed
  | _ => none

/-- What the changes between two rows come to: they lead from the one to the other, in
whatever order they are made, and taken backwards they lead back; no path leads through
another one, and there are none exactly if the rows are equal. -/
structure Patches (changes : List FieldChange) (before after : Dict) : Prop where
  forward : ∀ order, order.Perm changes → patchRow order before = some after
  backward : ∀ order, order.Perm (changes.map mirrored) → patchRow order after = some before
  apart : changes.Pairwise fun change other =>
    Apart (splitPath change.field) (splitPath other.field)
  silent : changes = [] ↔ before = after

theorem patchRow_perm {a b : Dict} (comparable : Comparable a b) {order : List FieldChange}
    (perm : order.Perm (fieldChanges a b "")) : patchRow order a = some b := by
  have same := replaceAll_perm (perm.symm.map stepOf) (steps_apart comparable) (.dict a)
  rw [patchRow, ← same]
  change (match replaceAll (steps a b) (.dict a) with
    | some (.dict changed) => some changed
    | _ => none) = some b
  rw [replaceAll_steps comparable]

theorem fieldChanges_patches {a b : Dict} (comparable : Comparable a b) :
    Patches (fieldChanges a b "") a b where
  forward order perm := patchRow_perm comparable perm
  backward order perm := by
    rw [← fieldChanges_mirror comparable] at perm
    exact patchRow_perm comparable.symm perm
  apart := by
    have paths := steps_apart comparable
    rwa [steps, List.pairwise_map] at paths
  silent := fieldChanges_eq_nil_iff comparable

/-! ### Lists of rows -/

section Sections

variable (key : String) (labelFn : Dict → String) (orderSensitive : Bool)

/-- The rows deleted, one after the other. -/
def deleteRows (rows : List Dict) (store : Store String Dict) : Store String Dict :=
  replay (rows.map fun row => .erase (diffKey key row)) store

/-- The rows inserted, one after the other. -/
def insertRows (rows : List Dict) (store : Store String Dict) : Store String Dict :=
  replay (rows.map fun row => .put (diffKey key row) row) store

/-- The rows with changes, each changed. -/
def changeRows (items : List ItemDiff) (store : Store String Dict) : Option (Store String Dict) :=
  alter ItemDiff.key (fun item => patchRow item.changes) items store

/-- The diff of a section, made to a map of rows. -/
def patchSection (diff : SectionDiff) (store : Store String Dict) : Option (Store String Dict) :=
  changeRows diff.modified (insertRows key diff.added (deleteRows key diff.removed store))

/-- An item seen from the other side, where the row has another label. -/
def mirrorItem (labels : String → String) (item : ItemDiff) : ItemDiff :=
  ⟨item.key, labels item.key, item.changes.map mirrored⟩

/-- The steps of a section's diff taken back. -/
def revertSection (diff : SectionDiff) (store : Store String Dict) : Option (Store String Dict) :=
  (changeRows (diff.modified.map (mirrorItem id)) store).map fun store =>
    insertRows key diff.removed (deleteRows key diff.added store)

variable {key}

theorem deleteRows_of_mem {rows : List Dict} {row : Dict} (member : row ∈ rows)
    (store : Store String Dict) : deleteRows key rows store (diffKey key row) = none := by
  apply replay_agreed
  · intro entry listed _
    obtain ⟨other, -, rfl⟩ := List.mem_map.mp listed
    rfl
  · exact ⟨.erase (diffKey key row), List.mem_map.mpr ⟨row, member, rfl⟩, rfl⟩

theorem deleteRows_of_absent {rows : List Dict} {k : String}
    (absent : ∀ row ∈ rows, diffKey key row ≠ k) (store : Store String Dict) :
    deleteRows key rows store k = store k := by
  apply replay_untouched
  intro entry listed
  obtain ⟨row, member, rfl⟩ := List.mem_map.mp listed
  exact absent row member

theorem insertRows_of_mem {rows : List Dict} {row : Dict} (member : row ∈ rows)
    (only : ∀ other ∈ rows, diffKey key other = diffKey key row → other = row)
    (store : Store String Dict) : insertRows key rows store (diffKey key row) = some row := by
  apply replay_agreed
  · intro entry listed same
    obtain ⟨other, inside, rfl⟩ := List.mem_map.mp listed
    rw [only other inside same]
    rfl
  · exact ⟨.put (diffKey key row) row, List.mem_map.mpr ⟨row, member, rfl⟩, rfl⟩

theorem insertRows_of_absent {rows : List Dict} {k : String}
    (absent : ∀ row ∈ rows, diffKey key row ≠ k) (store : Store String Dict) :
    insertRows key rows store k = store k := by
  apply replay_untouched
  intro entry listed
  obtain ⟨row, member, rfl⟩ := List.mem_map.mp listed
  exact absent row member

/-- The map of rows under a key. -/
theorem snapshot_keyed {rows : List Dict} (unique : Unique (diffKey key) rows) {k : String}
    (member : k ∈ keys (diffKey key) rows) :
    snapshot (diffKey key) rows k = some (rowAt key rows k) := by
  obtain ⟨inside, same⟩ := rowAt_spec member
  have held := snapshot_of_mem unique inside
  rwa [same] at held

theorem snapshot_unkeyed {rows : List Dict} {k : String}
    (absent : k ∉ keys (diffKey key) rows) : snapshot (diffKey key) rows k = none :=
  snapshot_of_absent fun row member same => absent (mem_keys.mpr ⟨row, member, same⟩)

/-- The rows of one list taken in and those that the other has alone taken out. -/
theorem exchange_rows {gone arrived rows : List Dict} (unique : Unique (diffKey key) rows)
    (arrives : ∀ row ∈ arrived, row ∈ rows) (store : Store String Dict) (k : String) :
    insertRows key arrived (deleteRows key gone store) k =
      if k ∈ arrived.map (diffKey key) then some (rowAt key rows k)
      else if k ∈ gone.map (diffKey key) then none else store k := by
  by_cases comes : k ∈ arrived.map (diffKey key)
  · rw [if_pos comes]
    obtain ⟨row, member, rfl⟩ := List.mem_map.mp comes
    rw [rowAt_unique unique (arrives row member)]
    exact insertRows_of_mem member (fun other inside same =>
      unique.injOn (arrives other inside) (arrives row member) same) _
  · have absent : ∀ row ∈ arrived, diffKey key row ≠ k := fun row member same =>
      comes (List.mem_map.mpr ⟨row, member, same⟩)
    rw [if_neg comes, insertRows_of_absent absent]
    by_cases goes : k ∈ gone.map (diffKey key)
    · obtain ⟨row, member, rfl⟩ := List.mem_map.mp goes
      rw [if_pos goes, deleteRows_of_mem member]
    · rw [if_neg goes]
      exact deleteRows_of_absent (fun row member same =>
        goes (List.mem_map.mpr ⟨row, member, same⟩)) _

variable {labelFn orderSensitive} {a b : List Dict}

theorem added_keys {k : String} :
    k ∈ (diffList key a b labelFn orderSensitive).added.map (diffKey key) ↔
      k ∈ keys (diffKey key) b ∧ k ∉ keys (diffKey key) a := by
  rw [List.mem_map]
  constructor
  · rintro ⟨row, member, rfl⟩
    obtain ⟨k, inB, notA, rfl⟩ := mem_added.mp member
    rw [(rowAt_spec inB).2]
    exact ⟨inB, notA⟩
  · rintro ⟨inB, notA⟩
    exact ⟨rowAt key b k, mem_added.mpr ⟨k, inB, notA, rfl⟩, (rowAt_spec inB).2⟩

theorem removed_keys {k : String} :
    k ∈ (diffList key a b labelFn orderSensitive).removed.map (diffKey key) ↔
      k ∈ keys (diffKey key) a ∧ k ∉ keys (diffKey key) b :=
  @added_keys key labelFn orderSensitive b a k

theorem modified_keys {k : String} :
    k ∈ (diffList key a b labelFn orderSensitive).modified.map ItemDiff.key ↔
      (k ∈ keys (diffKey key) b ∧ k ∈ keys (diffKey key) a) ∧ changesAt key a b k ≠ [] := by
  rw [List.mem_map]
  constructor
  · rintro ⟨item, member, rfl⟩
    obtain ⟨k, both, loud, rfl⟩ := mem_modified.mp member
    exact ⟨both, loud⟩
  · rintro ⟨both, loud⟩
    exact ⟨_, mem_modified.mpr ⟨k, both, loud, rfl⟩, rfl⟩

theorem modified_keys_nodup :
    ((diffList key a b labelFn orderSensitive).modified.map ItemDiff.key).Nodup := by
  have perm := ((List.perm_insertionSort (fun x y : ItemDiff => x.key ≤ y.key)
    (((sharedKeys (diffKey key) a b).filter fun k => changesAt key a b k ≠ []).map fun k =>
      ⟨k, labelFn (rowAt key b k), changesAt key a b k⟩)).map ItemDiff.key)
  refine perm.nodup_iff.mpr ?_
  have distinct : (sharedKeys (diffKey key) a b).Nodup := sharedKeys_nodup a b
  rw [List.map_map]
  simpa [Function.comp_def] using distinct.filter _

theorem mem_rows_of_added {row : Dict}
    (member : row ∈ (diffList key a b labelFn orderSensitive).added) : row ∈ b := by
  obtain ⟨k, inB, -, rfl⟩ := mem_added.mp member
  exact (rowAt_spec inB).1

/-- The map once the rows of one side alone are exchanged and no row is changed yet. -/
def midway (key : String) (a b : List Dict) : Store String Dict := fun k =>
  if k ∈ keys (diffKey key) a ∧ k ∈ keys (diffKey key) b then snapshot (diffKey key) a k
  else snapshot (diffKey key) b k

theorem exchange_forward (ub : Unique (diffKey key) b) :
    insertRows key (diffList key a b labelFn orderSensitive).added
        (deleteRows key (diffList key a b labelFn orderSensitive).removed
          (snapshot (diffKey key) a)) = midway key a b := by
  funext k
  rw [exchange_rows ub fun row => mem_rows_of_added]
  simp only [midway, added_keys, removed_keys]
  by_cases inA : k ∈ keys (diffKey key) a
  · by_cases inB : k ∈ keys (diffKey key) b
    · simp [inA, inB]
    · simp [inA, inB, snapshot_unkeyed inB]
  · by_cases inB : k ∈ keys (diffKey key) b
    · simp [inA, inB, snapshot_keyed ub inB]
    · simp [inA, inB, snapshot_unkeyed inA, snapshot_unkeyed inB]

theorem exchange_backward (ua : Unique (diffKey key) a) :
    insertRows key (diffList key a b labelFn orderSensitive).removed
        (deleteRows key (diffList key a b labelFn orderSensitive).added (midway key a b)) =
      snapshot (diffKey key) a := by
  have arrives : ∀ row ∈ (diffList key a b labelFn orderSensitive).removed, row ∈ a := by
    intro row member
    obtain ⟨k, inA, -, rfl⟩ := mem_removed.mp member
    exact (rowAt_spec inA).1
  funext k
  rw [exchange_rows ua arrives]
  simp only [midway, added_keys, removed_keys]
  by_cases inA : k ∈ keys (diffKey key) a
  · by_cases inB : k ∈ keys (diffKey key) b
    · simp [inA, inB]
    · simp [inA, inB, snapshot_keyed ua inA]
  · by_cases inB : k ∈ keys (diffKey key) b
    · simp [inA, inB, snapshot_unkeyed inA]
    · simp [inA, inB, snapshot_unkeyed inA, snapshot_unkeyed inB]

/-- Rows of the two lists are dumps that can be compared. -/
def RowsComparable (a b : List Dict) : Prop :=
  ∀ x ∈ a, ∀ y ∈ b, Comparable x y

theorem changesAt_patches (comparable : RowsComparable a b) {k : String}
    (inA : k ∈ keys (diffKey key) a) (inB : k ∈ keys (diffKey key) b) :
    Patches (changesAt key a b k) (rowAt key a k) (rowAt key b k) :=
  fieldChanges_patches (comparable _ (rowAt_spec inA).1 _ (rowAt_spec inB).1)

theorem midway_eq_of_unchanged (ua : Unique (diffKey key) a) (ub : Unique (diffKey key) b)
    (comparable : RowsComparable a b) {k : String}
    (unchanged : k ∉ (diffList key a b labelFn orderSensitive).modified.map ItemDiff.key) :
    midway key a b k = snapshot (diffKey key) b k := by
  rw [midway]
  split
  next both =>
    obtain ⟨inA, inB⟩ := both
    have silent : changesAt key a b k = [] := by
      by_contra loud
      exact unchanged (modified_keys.mpr ⟨⟨inB, inA⟩, loud⟩)
    rw [snapshot_keyed ua inA, snapshot_keyed ub inB,
      (changesAt_patches comparable inA inB).silent.mp silent]
  next => rfl

theorem change_forward (ua : Unique (diffKey key) a) (ub : Unique (diffKey key) b)
    (comparable : RowsComparable a b) :
    changeRows (diffList key a b labelFn orderSensitive).modified (midway key a b) =
      some (snapshot (diffKey key) b) := by
  refine alter_eq modified_keys_nodup (fun item member => ?_) fun k unchanged =>
    midway_eq_of_unchanged ua ub comparable unchanged
  obtain ⟨k, ⟨inB, inA⟩, -, rfl⟩ := mem_modified.mp member
  have spec := changesAt_patches comparable inA inB
  exact ⟨rowAt key a k, by rw [midway, if_pos ⟨inA, inB⟩, snapshot_keyed ua inA], rowAt key b k,
    spec.forward _ (.refl _), snapshot_keyed ub inB⟩

theorem change_backward (ua : Unique (diffKey key) a) (ub : Unique (diffKey key) b)
    (comparable : RowsComparable a b) (labels : String → String) :
    changeRows ((diffList key a b labelFn orderSensitive).modified.map (mirrorItem labels))
        (snapshot (diffKey key) b) = some (midway key a b) := by
  have sameKeys : ((diffList key a b labelFn orderSensitive).modified.map
      (mirrorItem labels)).map ItemDiff.key =
        (diffList key a b labelFn orderSensitive).modified.map ItemDiff.key := by
    rw [List.map_map]
    rfl
  refine alter_eq (sameKeys ▸ modified_keys_nodup) (fun item member => ?_) fun k unchanged => ?_
  · obtain ⟨original, listed, rfl⟩ := List.mem_map.mp member
    obtain ⟨k, ⟨inB, inA⟩, -, rfl⟩ := mem_modified.mp listed
    have spec := changesAt_patches comparable inA inB
    exact ⟨rowAt key b k, snapshot_keyed ub inB, rowAt key a k, spec.backward _ (.refl _),
      by rw [midway]; exact (if_pos ⟨inA, inB⟩).trans (snapshot_keyed ua inA)⟩
  · rw [sameKeys] at unchanged
    exact (midway_eq_of_unchanged ua ub comparable unchanged).symm

/-! ### The diff from the other side -/

/-- Items sorted by key come in one order, whatever order they had. -/
theorem sort_items {first second : List ItemDiff} (perm : first.Perm second)
    (distinct : (first.map ItemDiff.key).Nodup) :
    first.insertionSort (fun x y => x.key ≤ y.key) =
      second.insertionSort fun x y => x.key ≤ y.key := by
  have total : Std.Total fun x y : ItemDiff => x.key ≤ y.key := ⟨fun x y => le_total x.key y.key⟩
  have trans : IsTrans ItemDiff fun x y => x.key ≤ y.key := ⟨fun _ _ _ => le_trans⟩
  have sorted := fun items : List ItemDiff =>
    List.pairwise_insertionSort (fun x y : ItemDiff => x.key ≤ y.key) items
  have same : (first.insertionSort fun x y => x.key ≤ y.key).Perm
      (second.insertionSort fun x y => x.key ≤ y.key) :=
    ((List.perm_insertionSort _ first).trans perm).trans (List.perm_insertionSort _ second).symm
  refine same.eq_of_pairwise (fun x y inside inside' before after => ?_) (sorted first)
    (sorted second)
  have left : x ∈ first := (List.perm_insertionSort _ first).mem_iff.mp inside
  have right : y ∈ first := perm.mem_iff.mpr ((List.perm_insertionSort _ second).mem_iff.mp inside')
  exact List.inj_on_of_nodup_map distinct left right (le_antisymm before after)

theorem changesAt_mirror (comparable : RowsComparable a b) {k : String}
    (member : k ∈ sharedKeys (diffKey key) a b) :
    changesAt key b a k = (changesAt key a b k).map mirrored := by
  obtain ⟨inB, inA⟩ := mem_sharedKeys.mp member
  exact fieldChanges_mirror (comparable _ (rowAt_spec inA).1 _ (rowAt_spec inB).1) ""

theorem loud_mirror (comparable : RowsComparable a b) {k : String}
    (member : k ∈ sharedKeys (diffKey key) a b) :
    changesAt key b a k = [] ↔ changesAt key a b k = [] := by
  rw [changesAt_mirror comparable member, List.map_eq_nil_iff]

theorem modified_mirror (comparable : RowsComparable a b) :
    (diffList key b a labelFn orderSensitive).modified =
      (diffList key a b labelFn orderSensitive).modified.map
        (mirrorItem fun k => labelFn (rowAt key a k)) := by
  have items : ((sharedKeys (diffKey key) b a).filter fun k => changesAt key b a k ≠ []).map
      (fun k => (⟨k, labelFn (rowAt key a k), changesAt key b a k⟩ : ItemDiff)) |>.Perm
      ((((sharedKeys (diffKey key) a b).filter fun k => changesAt key a b k ≠ []).map fun k =>
        (⟨k, labelFn (rowAt key b k), changesAt key a b k⟩ : ItemDiff)).map
          (mirrorItem fun k => labelFn (rowAt key a k))) := by
    have loud : ((sharedKeys (diffKey key) a b).filter fun k => changesAt key b a k ≠ []) =
        (sharedKeys (diffKey key) a b).filter fun k => changesAt key a b k ≠ [] :=
      List.filter_congr fun k member => by simp [loud_mirror comparable member]
    have mirror : ((((sharedKeys (diffKey key) a b).filter fun k => changesAt key a b k ≠ []).map
        fun k => (⟨k, labelFn (rowAt key b k), changesAt key a b k⟩ : ItemDiff)).map
          (mirrorItem fun k => labelFn (rowAt key a k))) =
        ((sharedKeys (diffKey key) a b).filter fun k => changesAt key b a k ≠ []).map fun k =>
          (⟨k, labelFn (rowAt key a k), changesAt key b a k⟩ : ItemDiff) := by
      rw [loud, List.map_map]
      refine List.map_congr_left fun k member => ?_
      simp [mirrorItem, changesAt_mirror comparable (List.mem_of_mem_filter member)]
    rw [mirror]
    exact ((sharedKeys_perm b a).filter _).map _
  have distinct : ((((sharedKeys (diffKey key) b a).filter fun k => changesAt key b a k ≠ []).map
      fun k => (⟨k, labelFn (rowAt key a k), changesAt key b a k⟩ : ItemDiff)).map
        ItemDiff.key).Nodup := by
    have shared : (sharedKeys (diffKey key) b a).Nodup := sharedKeys_nodup b a
    rw [List.map_map]
    simpa [Function.comp_def] using shared.filter _
  refine (sort_items items distinct).trans ?_
  exact (List.map_insertionSort (fun x y : ItemDiff => x.key ≤ y.key)
    (fun x y : ItemDiff => x.key ≤ y.key) (mirrorItem fun k => labelFn (rowAt key a k)) _
    fun _ _ _ _ => Iff.rfl).symm

/-- The move seen from the other side. -/
def mirrorMove (labels : String → String) (move : ReorderEvent) : ReorderEvent :=
  ⟨move.key, labels move.key, move.newIndex, move.oldIndex⟩

theorem reordered_mirror :
    (diffList key b a labelFn orderSensitive).reordered.Perm
      ((diffList key a b labelFn orderSensitive).reordered.map
        (mirrorMove fun k => labelFn (rowAt key a k))) := by
  have moved : ((sharedKeys (diffKey key) b a).filter fun k =>
      orderSensitive ∧ indexAt key b k ≠ indexAt key a k) =
      (sharedKeys (diffKey key) b a).filter fun k =>
        orderSensitive ∧ indexAt key a k ≠ indexAt key b k :=
    List.filter_congr fun k _ => by simp [ne_comm]
  refine (List.perm_insertionSort _ _).trans ?_
  rw [moved]
  refine (((sharedKeys_perm b a).filter _).map _).trans ?_
  refine .trans (.of_eq ?_) ((List.perm_insertionSort _ _).map _).symm
  rw [List.map_map]
  rfl

theorem unchanged_mirror (comparable : RowsComparable a b) :
    (diffList key b a labelFn orderSensitive).unchangedCount =
      (diffList key a b labelFn orderSensitive).unchangedCount := by
  have silent : ((sharedKeys (diffKey key) a b).filter fun k => changesAt key b a k = []) =
      (sharedKeys (diffKey key) a b).filter fun k => changesAt key a b k = [] :=
    List.filter_congr fun k member => by simp [loud_mirror comparable member]
  have perm : (sharedKeys (diffKey key) b a).Perm (sharedKeys (diffKey key) a b) :=
    sharedKeys_perm b a
  have same := (perm.filter fun k => changesAt key b a k = []).length_eq
  rw [silent] at same
  exact same

/-- The diff of a section seen from the other side, where the rows have other labels. -/
structure Mirror (labels : String → String) (diff other : SectionDiff) : Prop where
  added : other.added = diff.removed
  removed : other.removed = diff.added
  modified : other.modified = diff.modified.map (mirrorItem labels)
  reordered : other.reordered.Perm (diff.reordered.map (mirrorMove labels))
  unchanged : other.unchangedCount = diff.unchangedCount

theorem diffList_mirror (comparable : RowsComparable a b) :
    Mirror (fun k => labelFn (rowAt key a k)) (diffList key a b labelFn orderSensitive)
      (diffList key b a labelFn orderSensitive) where
  added := rfl
  removed := rfl
  modified := modified_mirror comparable
  reordered := reordered_mirror
  unchanged := unchanged_mirror comparable

theorem patchSection_diffList (ua : Unique (diffKey key) a) (ub : Unique (diffKey key) b)
    (comparable : RowsComparable a b) :
    patchSection key (diffList key a b labelFn orderSensitive) (snapshot (diffKey key) a) =
      some (snapshot (diffKey key) b) := by
  rw [patchSection, exchange_forward ub]
  exact change_forward ua ub comparable

theorem revertSection_diffList (ua : Unique (diffKey key) a) (ub : Unique (diffKey key) b)
    (comparable : RowsComparable a b) :
    revertSection key (diffList key a b labelFn orderSensitive) (snapshot (diffKey key) b) =
      some (snapshot (diffKey key) a) := by
  rw [revertSection, change_backward ua ub comparable, Option.map_some, exchange_backward ua]

/-! ### Sections as patches -/

/-- A section's diff is a patch between two maps of rows, and the diff the other way round is
its mirror image. -/
structure SectionPatch (key : String) (labels : String → String) (diff other : SectionDiff)
    (before after : Store String Dict) : Prop where
  forward : patchSection key diff before = some after
  backward : revertSection key diff after = some before
  loud : ∀ item ∈ diff.modified, ∃ x y, before item.key = some x ∧ after item.key = some y ∧
    x ≠ y ∧ Patches item.changes x y
  quiet : ∀ k, k ∉ diff.modified.map ItemDiff.key → ∀ x y, before k = some x →
    after k = some y → x = y
  mirror : Mirror labels diff other

theorem diffList_patch (ua : Unique (diffKey key) a) (ub : Unique (diffKey key) b)
    (comparable : RowsComparable a b) :
    SectionPatch key (fun k => labelFn (rowAt key a k)) (diffList key a b labelFn orderSensitive)
      (diffList key b a labelFn orderSensitive) (snapshot (diffKey key) a)
      (snapshot (diffKey key) b) where
  forward := patchSection_diffList ua ub comparable
  backward := revertSection_diffList ua ub comparable
  loud item member := by
    obtain ⟨k, ⟨inB, inA⟩, changed, rfl⟩ := mem_modified.mp member
    have spec := changesAt_patches comparable inA inB
    exact ⟨rowAt key a k, rowAt key b k, snapshot_keyed ua inA, snapshot_keyed ub inB,
      fun same => changed (spec.silent.mpr same), spec⟩
  quiet k unchanged x y left right := by
    have inA : k ∈ keys (diffKey key) a := by
      by_contra absent
      rw [snapshot_unkeyed absent] at left
      cases left
    have inB : k ∈ keys (diffKey key) b := by
      by_contra absent
      rw [snapshot_unkeyed absent] at right
      cases right
    have same := midway_eq_of_unchanged ua ub comparable unchanged
    rw [midway, if_pos ⟨inA, inB⟩, left, right] at same
    exact Option.some.inj same
  mirror := diffList_mirror comparable

/-- The map of a section that is one model. -/
def modelAt (label : String) (dump : Dict) : Store String Dict :=
  Function.update (fun _ => none) label (some dump)

@[simp] theorem modelAt_self (label : String) (dump : Dict) :
    modelAt label dump label = some dump :=
  Function.update_self _ _ _

theorem modelAt_eq_some {label k : String} {dump row : Dict}
    (held : modelAt label dump k = some row) : k = label ∧ row = dump := by
  by_cases same : k = label
  · rw [same, modelAt_self] at held
    exact ⟨same, (Option.some.inj held).symm⟩
  · rw [modelAt, Function.update_of_ne same] at held
    cases held

theorem changeModel {changes : List FieldChange} {before after : Dict}
    (leads : patchRow changes before = some after) (label shown : String) :
    changeRows [⟨label, shown, changes⟩] (modelAt label before) = some (modelAt label after) := by
  simp [changeRows, alter, leads, modelAt]

theorem diffOptionalModel_patch {before after : Dict} (comparable : Comparable before after)
    (key label : String) :
    SectionPatch key id (diffOptionalModel (some before) (some after) label)
      (diffOptionalModel (some after) (some before) label) (modelAt label before)
      (modelAt label after) := by
  have spec := fieldChanges_patches comparable
  have mirror := fieldChanges_mirror comparable ""
  by_cases same : before = after
  · subst same
    have silent : diffOptionalModel (some before) (some before) label =
        { unchangedCount := 1 } := by
      simp [diffOptionalModel]
    rw [silent]
    exact
      { forward := rfl
        backward := rfl
        loud := by simp
        quiet := fun k _ x y left right =>
          (modelAt_eq_some left).2.trans (modelAt_eq_some right).2.symm
        mirror := ⟨rfl, rfl, rfl, .refl _, rfl⟩ }
  · have loud : fieldChanges before after "" ≠ [] := fun silent => same (spec.silent.mp silent)
    have loud' : fieldChanges after before "" ≠ [] := by
      rwa [mirror, ne_eq, List.map_eq_nil_iff]
    simp only [diffOptionalModel, if_neg loud, if_neg loud']
    refine ⟨changeModel (spec.forward _ (.refl _)) label label, ?_, ?_, ?_, ?_⟩
    · exact congrArg _ (changeModel (spec.backward _ (.refl _)) label label)
    · intro item member
      rw [List.mem_singleton] at member
      subst member
      exact ⟨before, after, modelAt_self _ _, modelAt_self _ _, same, spec⟩
    · intro k unchanged x y left right
      exact absurd (by simp [(modelAt_eq_some left).1]) unchanged
    · exact ⟨rfl, rfl, by simp [mirrorItem, mirror], .refl _, rfl⟩

/-- Section diffs are patches: of two lists of rows with unique keys, and of two models that are
both there. -/
theorem section_patches (ua : Unique (diffKey key) a) (ub : Unique (diffKey key) b)
    (rows : RowsComparable a b) {before after : Dict} (models : Comparable before after)
    (label : String) :
    SectionPatch key (fun k => labelFn (rowAt key a k)) (diffList key a b labelFn orderSensitive)
        (diffList key b a labelFn orderSensitive) (snapshot (diffKey key) a)
        (snapshot (diffKey key) b) ∧
      SectionPatch key id (diffOptionalModel (some before) (some after) label)
        (diffOptionalModel (some after) (some before) label) (modelAt label before)
        (modelAt label after) :=
  ⟨diffList_patch ua ub rows, diffOptionalModel_patch models key label⟩

def endpoint (network port : Val) : Val :=
  .dict [("network", network), ("port", port)]

def rule (tracker : String) (source destination : Val) : Dict :=
  [("tracker", .str tracker), ("source", source), ("destination", destination)]

/-- One rule goes, one comes, and the third has a port changed and a destination taken away. -/
theorem section_patches_rules :
    let a := [rule "100" (endpoint (.str "lan") .none) (endpoint (.str "wan") .none),
      rule "200" .none .none]
    let b := [rule "300" .none .none, rule "100" (endpoint (.str "lan") (.str "443")) .none]
    (Unique (diffKey "tracker") a ∧ Unique (diffKey "tracker") b ∧ RowsComparable a b) ∧
      SectionPatch "tracker" (fun k => diffKey "tracker" (rowAt "tracker" a k))
        (diffList "tracker" a b (diffKey "tracker") true)
        (diffList "tracker" b a (diffKey "tracker") true) (snapshot (diffKey "tracker") a)
        (snapshot (diffKey "tracker") b) ∧
      SectionPatch "tracker" id
        (diffOptionalModel (some [("enabled", .bool true)]) (some [("enabled", .none)]) "ntp")
        (diffOptionalModel (some [("enabled", .none)]) (some [("enabled", .bool true)]) "ntp")
        (modelAt "ntp" [("enabled", .bool true)]) (modelAt "ntp" [("enabled", .none)]) := by
  intro a b
  have ua : Unique (diffKey "tracker") a := by decide +kernel
  have ub : Unique (diffKey "tracker") b := by decide +kernel
  have rows : RowsComparable a b := by
    have checked : ∀ x ∈ a, ∀ y ∈ b, comparableWithin 2 x y = true := by decide +kernel
    exact fun x left y right => .of_within (checked x left y right)
  have models : Comparable [("enabled", .bool true)] [("enabled", .none)] :=
    .of_within (by decide +kernel : comparableWithin 1 _ _ = true)
  exact ⟨⟨ua, ub, rows⟩, section_patches ua ub rows models "ntp"⟩

end Sections

end PfsenseBackups.DiffPatches

import PfsenseBackups.DiffConfigs

/-! A pair of backups may be compared in either order. The diff from the later config back to the
earlier one is the diff between them read backwards: what was added is removed, every change and
every move goes the other way, and the labels are those of the earlier rows. -/

namespace PfsenseBackups.DiffReversal
open Value Keyed Config Diff DiffConfigs

/-! ### Sorted by a key -/

section Sorted

variable {α κ : Type*} [LinearOrder κ] {key : α → κ}

/-- Rows with distinct keys have one order by key. -/
theorem insertionSort_eq {rows sorted : List α} (perm : rows.Perm sorted)
    (order : sorted.Pairwise fun x y => key x ≤ key y) (unique : Unique key rows) :
    (rows.insertionSort fun x y => key x ≤ key y) = sorted := by
  have permuted := (List.perm_insertionSort (fun x y => key x ≤ key y) rows).trans perm
  have ordered := List.pairwise_insertionSort (fun x y : α => key x ≤ key y) rows
  refine permuted.eq_of_pairwise ?_ ordered order
  intro x y memberX memberY below above
  have inX : x ∈ rows := (List.perm_insertionSort _ _).mem_iff.mp memberX
  have inY : y ∈ rows := perm.mem_iff.mpr memberY
  exact unique.injOn inX inY (le_antisymm below above)

theorem insertionSort_perm {rows others : List α} (perm : rows.Perm others)
    (unique : Unique key rows) :
    (rows.insertionSort fun x y => key x ≤ key y) =
      others.insertionSort fun x y => key x ≤ key y :=
  insertionSort_eq (perm.trans (List.perm_insertionSort _ _).symm)
    (List.pairwise_insertionSort _ _) unique

/-- Sorted in between or not, the images of the same keys are the same rows. -/
theorem map_perm {ι β : Type*} {first second : List ι} (perm : first.Perm second) {f : ι → α}
    {g : ι → β} {h : α → β} (each : ∀ k, g k = h (f k)) :
    (first.map g).Perm (((second.map f).insertionSort fun x y => key x ≤ key y).map h) := by
  have images : second.map g = (second.map f).map h := by
    rw [List.map_map]
    exact List.map_congr_left fun k _ => each k
  refine (perm.map g).trans (images ▸ ?_)
  exact (List.perm_insertionSort _ _).symm.map h

end Sorted

/-! ### Field changes -/

def reverseChange (change : FieldChange) : FieldChange :=
  ⟨change.field, change.after, change.before⟩

theorem sortedKeys_comm (a b : Dict) : sortedKeys b a = sortedKeys a b := by
  have perm : (Dict.keys b ++ Dict.keys a).dedup.Perm (Dict.keys a ++ Dict.keys b).dedup :=
    List.perm_append_comm.dedup
  have unique : Unique id (Dict.keys b ++ Dict.keys a).dedup := by
    rw [Keyed.Unique, List.map_id]
    exact List.nodup_dedup _
  exact insertionSort_perm perm unique

theorem fieldChanges_reversed (a b : Dict) (path : String) :
    fieldChanges b a path = (fieldChanges a b path).map reverseChange := by
  induction depth : Val.fieldsDepth a using Nat.strong_induction_on generalizing a b path with
  | _ n ih =>
    rw [fieldChanges_eq, fieldChanges_eq, sortedKeys_comm, List.map_flatMap]
    refine List.flatMap_congr fun name _ => ?_
    by_cases same : Dict.get a name = Dict.get b name
    · rw [same, changesBetween_self]
      rfl
    · by_cases nested : ∃ x y, Dict.get a name = .dict x ∧ Dict.get b name = .dict y
      · obtain ⟨x, y, left, right⟩ := nested
        have deeper := Val.depth_get_le a name
        rw [left, Val.depth] at deeper
        rw [left, right, changesBetween_dict, changesBetween_dict]
        exact ih _ (by omega) x y _ rfl
      · have leaf : ∀ x y, Dict.get a name = .dict x → Dict.get b name = .dict y → False :=
          fun x y left right => nested ⟨x, y, left, right⟩
        rw [changesBetween_leaf _ same leaf,
          changesBetween_leaf _ (Ne.symm same) fun x y right left => leaf y x left right]
        rfl

/-! ### Sections -/

section Sections

-- The label of the pseudo-item or of the row under a key.
variable (label : String → String)

def reverseItem (item : ItemDiff) : ItemDiff :=
  ⟨item.key, label item.key, item.changes.map reverseChange⟩

def reverseMove (event : ReorderEvent) : ReorderEvent :=
  ⟨event.key, label event.key, event.newIndex, event.oldIndex⟩

/-- The section diff in the other direction, with the given labels. -/
def reverse (diff : SectionDiff) : SectionDiff where
  added := diff.removed
  removed := diff.added
  modified := diff.modified.map (reverseItem label)
  reordered := (diff.reordered.map (reverseMove label)).insertionSort fun x y =>
    x.newIndex ≤ y.newIndex
  unchangedCount := diff.unchangedCount

end Sections

theorem diffScalar_reversed (a b : Val) (field : String) :
    diffScalar b a field = reverse id (diffScalar a b field) := by
  rw [diffScalar, diffScalar]
  by_cases same : a = b
  · rw [if_pos same, if_pos same.symm]
    rfl
  · rw [if_neg same, if_neg (Ne.symm same)]
    rfl

theorem diffOptionalModel_reversed (a b : Option Dict) (name : String) :
    diffOptionalModel b a name = reverse id (diffOptionalModel a b name) := by
  cases a with
  | none => cases b <;> rfl
  | some before =>
    cases b with
    | none => rfl
    | some after =>
      have same : fieldChanges after before "" = [] ↔ fieldChanges before after "" = [] := by
        rw [fieldChanges_reversed before after, List.map_eq_nil_iff]
      simp only [diffOptionalModel, same]
      by_cases silent : fieldChanges before after "" = []
      · rw [if_pos silent, if_pos silent]
        rfl
      · rw [if_neg silent, if_neg silent, fieldChanges_reversed before after]
        rfl

section ListSections

variable {key : String} {a b : List Dict}

/-- The row at the position that a dict of positions holds. -/
theorem key_at_indexAt {rows : List Dict} {k : String} (member : k ∈ keys (diffKey key) rows) :
    rows[indexAt key rows k]?.map (diffKey key) = some k := by
  obtain ⟨i, index⟩ := lastIndexBy_isSome member
  rw [indexAt, index, Option.getD_some]
  rw [lastIndexBy, Option.map_eq_some_iff] at index
  obtain ⟨entry, found, rfl⟩ := index
  obtain ⟨listed, same⟩ := lastBy_spec found
  rw [List.mem_zipIdx_iff_getElem?.mp listed, Option.map_some, same]

theorem indexAt_inj {rows : List Dict} {k l : String} (memberK : k ∈ keys (diffKey key) rows)
    (memberL : l ∈ keys (diffKey key) rows) (same : indexAt key rows k = indexAt key rows l) :
    k = l := by
  have atK := key_at_indexAt memberK
  rw [same, key_at_indexAt memberL] at atK
  exact (Option.some.inj atK).symm

theorem changesAt_reversed (k : String) :
    changesAt key b a k = (changesAt key a b k).map reverseChange :=
  fieldChanges_reversed _ _ _

theorem changesAt_nil_comm (k : String) : changesAt key b a k = [] ↔ changesAt key a b k = [] := by
  rw [changesAt_reversed, List.map_eq_nil_iff]

variable (labelFn : Dict → String) (orderSensitive : Bool)

/-- The label of the row under a key. -/
def labelAt (key : String) (rows : List Dict) (k : String) : String :=
  labelFn (rowAt key rows k)

def itemAt (key : String) (a b : List Dict) (k : String) : ItemDiff :=
  ⟨k, labelAt labelFn key b k, changesAt key a b k⟩

def moveAt (key : String) (a b : List Dict) (k : String) : ReorderEvent :=
  ⟨k, labelAt labelFn key b k, indexAt key a k, indexAt key b k⟩

theorem itemAt_reversed (k : String) :
    itemAt labelFn key b a k = reverseItem (labelAt labelFn key a) (itemAt labelFn key a b k) := by
  rw [itemAt, changesAt_reversed]
  rfl

theorem modified_reversed :
    (diffList key b a labelFn orderSensitive).modified =
      (diffList key a b labelFn orderSensitive).modified.map
        (reverseItem (labelAt labelFn key a)) := by
  have listed : (diffList key b a labelFn orderSensitive).modified =
      (((sharedKeys (diffKey key) b a).filter fun k => changesAt key a b k ≠ []).map
        (itemAt labelFn key b a)).insertionSort fun x y => x.key ≤ y.key := by
    simp only [diffList, ne_eq, changesAt_nil_comm]
    rfl
  rw [listed]
  apply insertionSort_eq
  · exact map_perm ((sharedKeys_perm b a).filter _) (itemAt_reversed labelFn)
  · rw [List.pairwise_map]
    exact List.pairwise_insertionSort (fun x y : ItemDiff => x.key ≤ y.key) _
  · rw [Keyed.Unique, List.map_map]
    exact ((sharedKeys_nodup b a).filter _).map_on fun _ _ _ _ same => same

theorem reordered_reversed :
    (diffList key b a labelFn orderSensitive).reordered =
      ((diffList key a b labelFn orderSensitive).reordered.map
        (reverseMove (labelAt labelFn key a))).insertionSort fun x y =>
          x.newIndex ≤ y.newIndex := by
  have listed : (diffList key b a labelFn orderSensitive).reordered =
      (((sharedKeys (diffKey key) b a).filter fun k =>
        orderSensitive ∧ indexAt key a k ≠ indexAt key b k).map
          (moveAt labelFn key b a)).insertionSort fun x y => x.newIndex ≤ y.newIndex := by
    simp only [diffList, ne_comm (b := indexAt key a _)]
    rfl
  rw [listed]
  apply insertionSort_perm
  · exact map_perm ((sharedKeys_perm b a).filter _) fun _ => rfl
  · rw [Keyed.Unique, List.map_map]
    refine ((sharedKeys_nodup b a).filter _).map_on fun k memberK l memberL same => ?_
    exact indexAt_inj (mem_sharedKeys.mp (List.mem_of_mem_filter memberK)).1
      (mem_sharedKeys.mp (List.mem_of_mem_filter memberL)).1 same

/-- The sections of a list: the labels are those of the rows of the first list, which is the later
one on the way back. -/
theorem diffList_reversed :
    diffList key b a labelFn orderSensitive =
      reverse (labelAt labelFn key a) (diffList key a b labelFn orderSensitive) := by
  have unchanged : (diffList key b a labelFn orderSensitive).unchangedCount =
      (diffList key a b labelFn orderSensitive).unchangedCount := by
    simp only [diffList, changesAt_nil_comm]
    exact ((sharedKeys_perm b a).filter _).length_eq
  have modified := @modified_reversed key a b labelFn orderSensitive
  have reordered := @reordered_reversed key a b labelFn orderSensitive
  rw [reverse, ← modified, ← reordered, ← unchanged]
  rfl

end ListSections

/-- Two configs compared in either order have one diff, read forwards or backwards. -/
theorem diffConfigs_reversed (a b : ParsedConfig) :
    (∀ section_, (diffConfigs b a).list section_ =
      reverse (labelAt (rowLabel section_) (rowKey section_) (a.rows section_))
        ((diffConfigs a b).list section_)) ∧
      (∀ section_, (diffConfigs b a).model section_ =
        ((diffConfigs a b).model section_).map (reverse id)) ∧
      (diffConfigs b a).configVersion = reverse id (diffConfigs a b).configVersion := by
  refine ⟨fun section_ => ?_, fun section_ => ?_, diffScalar_reversed _ _ _⟩
  · rw [diffConfigs_list, diffConfigs_list]
    exact diffList_reversed _ _
  · cases section_ <;> first | rfl | exact congrArg some (diffOptionalModel_reversed _ _ _)

end PfsenseBackups.DiffReversal

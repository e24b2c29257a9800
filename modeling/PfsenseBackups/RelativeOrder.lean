import Mathlib.Data.List.Basic
import Mathlib.Data.List.Nodup
import Mathlib.Data.List.Perm.Basic

/-! Two orders of overlapping sets: what the common elements of two lists without duplicates
have to do with their positions. A position counts common elements and others alike, so it
moves with every insertion and deletion before it. -/

namespace PfsenseBackups.RelativeOrder

variable {κ : Type*} [DecidableEq κ]

/-- The elements of `xs` that `ys` has too, in the order of `xs`. -/
def common (xs ys : List κ) : List κ :=
  xs.filter (· ∈ ys)

/-- The two lists disagree on which of `x` and `y` comes first. -/
def Swapped (xs ys : List κ) (x y : κ) : Prop :=
  ¬(xs.idxOf x < xs.idxOf y ↔ ys.idxOf x < ys.idxOf y)

/-- `x` changed place with some common element. -/
def Displaced (xs ys : List κ) (x : κ) : Prop :=
  ∃ y ∈ common xs ys, Swapped xs ys x y

/-- How many elements stand before `x` in `xs` that `ys` does not have. -/
def othersBefore (xs ys : List κ) (x : κ) : Nat :=
  (xs.take (xs.idxOf x)).countP (· ∉ ys)

instance (xs ys : List κ) (x y : κ) : Decidable (Swapped xs ys x y) :=
  inferInstanceAs (Decidable (¬_))

instance (xs ys : List κ) (x : κ) : Decidable (Displaced xs ys x) :=
  inferInstanceAs (Decidable (∃ y ∈ common xs ys, Swapped xs ys x y))

variable {xs ys : List κ} {x y : κ}

theorem mem_common : x ∈ common xs ys ↔ x ∈ xs ∧ x ∈ ys := by
  simp [common]

theorem mem_common_comm : x ∈ common xs ys ↔ x ∈ common ys xs := by
  rw [mem_common, mem_common, and_comm]

theorem common_nodup (distinct : xs.Nodup) : (common xs ys).Nodup :=
  distinct.filter _

theorem common_perm (left : xs.Nodup) (right : ys.Nodup) :
    (common xs ys).Perm (common ys xs) :=
  (List.perm_ext_iff_of_nodup (common_nodup left) (common_nodup right)).mpr
    fun _ => mem_common_comm

theorem Swapped.symm (swapped : Swapped xs ys x y) : Swapped ys xs x y :=
  fun agree => swapped agree.symm

theorem Displaced.symm (displaced : Displaced xs ys x) : Displaced ys xs x := by
  obtain ⟨y, member, swapped⟩ := displaced
  exact ⟨y, mem_common_comm.mp member, swapped.symm⟩

/-! ### Positions -/

private theorem length_take_idxOf (member : x ∈ xs) :
    (xs.take (xs.idxOf x)).length = xs.idxOf x := by
  rw [List.length_take]
  exact Nat.min_eq_left (Nat.le_of_lt (List.idxOf_lt_length_iff.mpr member))

/-- A position counts the common elements and the others that stand before it. -/
theorem idxOf_eq_add (ys : List κ) (member : x ∈ xs) : xs.idxOf x =
    (common (xs.take (xs.idxOf x)) ys).length + othersBefore xs ys x := by
  have split := List.length_eq_countP_add_countP (l := xs.take (xs.idxOf x)) (· ∈ ys)
  rw [length_take_idxOf member, List.countP_eq_length_filter] at split
  simpa [common, othersBefore] using split

private theorem mem_common_take : y ∈ common (xs.take (xs.idxOf x)) ys ↔
    y ∈ common xs ys ∧ xs.idxOf y < xs.idxOf x := by
  rw [mem_common, mem_common]
  constructor
  · intro inside
    have member := List.mem_of_mem_take inside.1
    exact ⟨⟨member, inside.2⟩, (List.mem_take_iff_idxOf_lt member).mp inside.1⟩
  · intro inside
    exact ⟨(List.mem_take_iff_idxOf_lt inside.1.1).mpr inside.2, inside.1.2⟩

/-- In place of `idxOf x < idxOf y`, for two elements of the list. -/
private theorem idxOf_lt_iff_not (hx : x ∈ xs) :
    xs.idxOf y < xs.idxOf x ↔ ¬xs.idxOf x < xs.idxOf y ∧ y ≠ x := by
  have same := List.idxOf_inj (y := y) hx
  constructor
  · intro before
    refine ⟨by omega, ?_⟩
    intro equal
    rw [equal] at before
    omega
  · intro apart
    have differ : xs.idxOf x ≠ xs.idxOf y := fun equal => apart.2 (same.mp equal).symm
    omega

/-- An element that changed place with no common one has the same common elements before it
on both sides. -/
theorem common_take_length (left : xs.Nodup) (right : ys.Nodup) (member : x ∈ common xs ys)
    (still : ¬Displaced xs ys x) : (common (xs.take (xs.idxOf x)) ys).length =
      (common (ys.take (ys.idxOf x)) xs).length := by
  have here := mem_common.mp member
  apply List.Perm.length_eq
  apply (List.perm_ext_iff_of_nodup (common_nodup (left.sublist (List.take_sublist _ _)))
    (common_nodup (right.sublist (List.take_sublist _ _)))).mpr
  intro y
  rw [mem_common_take, mem_common_take, @mem_common_comm _ _ ys xs]
  apply and_congr_right
  intro shared
  have agree : xs.idxOf x < xs.idxOf y ↔ ys.idxOf x < ys.idxOf y := by
    by_contra swapped
    exact still ⟨y, shared, swapped⟩
  rw [idxOf_lt_iff_not here.1, idxOf_lt_iff_not here.2, agree]

/-- Such an element keeps its position exactly when as many others left before it as came. -/
theorem idxOf_eq_iff (left : xs.Nodup) (right : ys.Nodup) (member : x ∈ common xs ys)
    (still : ¬Displaced xs ys x) :
    xs.idxOf x = ys.idxOf x ↔ othersBefore xs ys x = othersBefore ys xs x := by
  have here := mem_common.mp member
  have same := common_take_length left right member still
  have before := idxOf_eq_add ys here.1
  have after := idxOf_eq_add xs here.2
  omega

/-! ### Relative order -/

private theorem common_sorted (ys : List κ) (distinct : xs.Nodup) :
    (common xs ys).Pairwise fun x y => xs.idxOf x < xs.idxOf y := by
  apply List.Pairwise.filter
  apply List.pairwise_iff_getElem.mpr
  intro i j hi hj before
  rw [distinct.idxOf_getElem, distinct.idxOf_getElem]
  exact before

private theorem idxOf_lt_of_common (distinct : xs.Nodup) (hx : x ∈ common xs ys)
    (hy : y ∈ common xs ys) (before : (common xs ys).idxOf x < (common xs ys).idxOf y) :
    xs.idxOf x < xs.idxOf y := by
  have sorted := List.pairwise_iff_getElem.mp (common_sorted ys distinct)
  have apart := sorted _ _ (List.idxOf_lt_length_iff.mpr hx) (List.idxOf_lt_length_iff.mpr hy) before
  rw [List.getElem_idxOf, List.getElem_idxOf] at apart
  exact apart

/-- Taking out the elements of one list only keeps the order of those that stay. -/
theorem idxOf_common_lt (distinct : xs.Nodup) (hx : x ∈ common xs ys) (hy : y ∈ common xs ys) :
    (common xs ys).idxOf x < (common xs ys).idxOf y ↔ xs.idxOf x < xs.idxOf y := by
  constructor
  · exact idxOf_lt_of_common distinct hx hy
  · intro before
    by_contra notBefore
    by_cases equal : (common xs ys).idxOf x = (common xs ys).idxOf y
    · rw [(List.idxOf_inj hx).mp equal] at before
      omega
    · have after := idxOf_lt_of_common distinct hy hx (by omega)
      omega

/-- The common elements stand in one order exactly when none of them is displaced. -/
theorem common_eq_iff (left : xs.Nodup) (right : ys.Nodup) :
    common xs ys = common ys xs ↔ ∀ x ∈ common xs ys, ¬Displaced xs ys x := by
  constructor
  · intro same x hx displaced
    obtain ⟨y, hy, swapped⟩ := displaced
    apply swapped
    rw [← idxOf_common_lt left hx hy, same]
    exact idxOf_common_lt right (mem_common_comm.mp hx) (mem_common_comm.mp hy)
  · intro still
    have moved : (common ys xs).Pairwise fun x y => xs.idxOf x < xs.idxOf y := by
      apply (common_sorted xs right).imp_of_mem
      intro x y hx hy before
      by_contra later
      apply still x (mem_common_comm.mp hx)
      exact ⟨y, mem_common_comm.mp hy, fun agree => later (agree.mpr before)⟩
    exact (common_perm left right).eq_of_pairwise
      (fun _ _ _ _ lt gt => absurd lt (Nat.lt_asymm gt)) (common_sorted ys left) moved

/-- Where every common element keeps its position, none is displaced. -/
theorem not_displaced_of_idxOf_eq (same : ∀ x ∈ common xs ys, xs.idxOf x = ys.idxOf x)
    (member : x ∈ common xs ys) : ¬Displaced xs ys x := by
  intro displaced
  obtain ⟨y, other, swapped⟩ := displaced
  apply swapped
  rw [same x member, same y other]

end PfsenseBackups.RelativeOrder

import PfsenseBackups.Selections
import Mathlib.Data.Set.Card

/-! What is selected from a list whose elements come newest first, told without the list. -/

namespace PfsenseBackups.Newest
open Selections

variable {α β τ : Type*} [LinearOrder τ]

/-- The elements of a set that are newer than one of them. -/
def newer (time : α → τ) (set : Set α) (element : α) : Set α :=
  {other ∈ set | time element < time other}

/-- The newest elements of a set, so many of them. -/
def newest (time : α → τ) (count : Nat) (set : Set α) : Set α :=
  {element ∈ set | (newer time set element).ncard < count}

/-- The newest element of each group in a set. -/
def newestOfGroup (time : α → τ) (group : α → β) (set : Set α) : Set α :=
  {element ∈ set | ∀ other ∈ set, group other = group element → time other ≤ time element}

/-- The elements of a list. -/
def elements (list : List α) : Set α :=
  {element | element ∈ list}

section

variable {time : α → τ} {first : α} {rest : List α}
  (order : (first :: rest).Pairwise fun one other => time other < time one)
include order

theorem newer_first : newer time (elements (first :: rest)) first = ∅ := by
  apply Set.eq_empty_of_forall_notMem
  intro other given
  obtain ⟨member, above⟩ := given
  rcases List.mem_cons.mp member with rfl | member
  · exact lt_irrefl _ above
  · exact lt_asymm above ((List.pairwise_cons.mp order).1 other member)

theorem ncard_newer_rest {element : α} (member : element ∈ rest) :
    (newer time (elements (first :: rest)) element).ncard =
      (newer time (elements rest) element).ncard + 1 := by
  have below := (List.pairwise_cons.mp order).1
  have step : newer time (elements (first :: rest)) element =
      insert first (newer time (elements rest) element) := by
    ext other
    constructor
    · intro given
      obtain ⟨listed, above⟩ := given
      exact (List.mem_cons.mp listed).imp id fun later => ⟨later, above⟩
    · intro inserted
      rcases inserted with rfl | ⟨later, above⟩
      · exact ⟨List.mem_cons_self, below element member⟩
      · exact ⟨List.mem_cons_of_mem _ later, above⟩
  have fresh : first ∉ newer time (elements rest) element := fun inside =>
    lt_irrefl _ (below first inside.1)
  have finite : (newer time (elements rest) element).Finite :=
    (List.finite_toSet rest).subset fun _ inside => inside.1
  rw [step, Set.ncard_insert_of_notMem fresh finite]

end

variable {time : α → τ} {sorted : List α}

theorem mem_take_iff (order : sorted.Pairwise fun one other => time other < time one)
    (count : Nat) (element : α) :
    element ∈ sorted.take count ↔ element ∈ newest time count (elements sorted) := by
  induction sorted generalizing count with
  | nil => simp [newest, elements]
  | cons first rest ih =>
    cases count with
    | zero => simp [newest]
    | succ count =>
      rw [List.take_succ_cons, List.mem_cons, ih (List.pairwise_cons.mp order).2]
      constructor
      · intro taken
        rcases taken with rfl | ⟨member, few⟩
        · refine ⟨List.mem_cons_self, ?_⟩
          rw [newer_first order, Set.ncard_empty]
          exact Nat.succ_pos count
        · refine ⟨List.mem_cons_of_mem _ member, ?_⟩
          rw [ncard_newer_rest order member]
          exact Nat.succ_lt_succ few
      · intro given
        obtain ⟨listed, few⟩ := given
        rcases List.mem_cons.mp listed with rfl | member
        · exact .inl rfl
        · rw [ncard_newer_rest order member] at few
          exact .inr ⟨member, Nat.lt_of_succ_lt_succ few⟩

/-- The first elements of their groups are the newest ones. -/
theorem mem_firsts_iff [DecidableEq β] {group : α → β}
    (order : sorted.Pairwise fun one other => time other < time one) (seen : List β)
    (element : α) : element ∈ firsts group seen sorted ↔
      group element ∉ seen ∧ element ∈ newestOfGroup time group (elements sorted) := by
  induction sorted generalizing seen with
  | nil => simp [firsts, newestOfGroup, elements]
  | cons first rest ih =>
    obtain ⟨below, later⟩ := List.pairwise_cons.mp order
    -- An element behind the first one is the newest of its group if it is of another group.
    have behind (member : element ∈ rest) :
        element ∈ newestOfGroup time group (elements (first :: rest)) ↔
          group element ≠ group first ∧ element ∈ newestOfGroup time group (elements rest) := by
      constructor
      · intro given
        obtain ⟨_, top⟩ := given
        refine ⟨fun same => ?_, member, fun other listed =>
          top other (List.mem_cons_of_mem _ listed)⟩
        exact absurd (top first List.mem_cons_self same.symm) (not_le.mpr (below element member))
      · intro given
        obtain ⟨apart, _, top⟩ := given
        refine ⟨List.mem_cons_of_mem _ member, fun other listed same => ?_⟩
        rcases List.mem_cons.mp listed with rfl | listed
        · exact absurd same.symm apart
        · exact top other listed same
    have head : first ∈ newestOfGroup time group (elements (first :: rest)) := by
      refine ⟨List.mem_cons_self, fun other listed _ => ?_⟩
      rcases List.mem_cons.mp listed with rfl | listed
      · exact le_rfl
      · exact (below other listed).le
    rw [firsts]
    split
    case isTrue known =>
      rw [ih later]
      constructor
      · intro given
        obtain ⟨fresh, inside⟩ := given
        exact ⟨fresh, (behind inside.1).mpr ⟨fun same => fresh (same ▸ known), inside⟩⟩
      · intro given
        obtain ⟨fresh, inside⟩ := given
        rcases List.mem_cons.mp inside.1 with rfl | member
        · exact absurd known fresh
        · exact ⟨fresh, ((behind member).mp inside).2⟩
    case isFalse unknown =>
      rw [List.mem_cons, ih later]
      constructor
      · intro taken
        rcases taken with rfl | ⟨fresh, inside⟩
        · exact ⟨unknown, head⟩
        · rw [List.mem_cons, not_or] at fresh
          exact ⟨fresh.2, (behind inside.1).mpr ⟨fresh.1, inside⟩⟩
      · intro given
        obtain ⟨fresh, inside⟩ := given
        rcases List.mem_cons.mp inside.1 with rfl | member
        · exact .inl rfl
        · obtain ⟨apart, inside⟩ := (behind member).mp inside
          exact .inr ⟨fun listed => (List.mem_cons.mp listed).elim apart fresh, inside⟩

end PfsenseBackups.Newest

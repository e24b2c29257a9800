import Mathlib.Data.List.Count
import Mathlib.Data.List.Nodup
import Mathlib.Logic.Function.Basic

/-! Repeated names made unique by numbers: the first of its kind keeps its name, the later ones are
numbered from two on. A numbered name may be another one's own. -/

namespace PfsenseBackups.Numbering

variable {κ : Type*} [DecidableEq κ] (numbered : κ → Nat → κ)

/-- The names given out, after those that were counted before. -/
def numberFrom (seen : κ → Option Nat) : List κ → List κ
  | [] => []
  | name :: rest =>
    match seen name with
    | some count =>
      numbered name (count + 1) :: numberFrom (Function.update seen name (some (count + 1))) rest
    | none => name :: numberFrom (Function.update seen name (some 1)) rest

/-- The counts of a list of names. -/
def counts (names : List κ) (name : κ) : Option Nat :=
  if name ∈ names then some (names.count name) else none

/-- The name that is given out at its so many-th occurrence. -/
def label (occurrence : κ × Nat) : κ :=
  if occurrence.2 = 1 then occurrence.1 else numbered occurrence.1 occurrence.2

/-- The names with the number of their occurrence, after those before. -/
def occurrences (before : List κ) : List κ → List (κ × Nat)
  | [] => []
  | name :: rest => (name, before.count name + 1) :: occurrences (before ++ [name]) rest

theorem counts_snoc (before : List κ) (name : κ) :
    Function.update (counts before) name (some (before.count name + 1)) =
      counts (before ++ [name]) := by
  funext other
  by_cases same : other = name
  · subst same
    rw [Function.update_self, counts, if_pos (by simp), List.count_append,
      List.count_singleton_self]
  · rw [Function.update_of_ne same, counts, counts, List.count_append]
    simp [same, Ne.symm same]

theorem numberFrom_eq (before names : List κ) :
    numberFrom numbered (counts before) names =
      (occurrences before names).map (label numbered) := by
  induction names generalizing before with
  | nil => rfl
  | cons name rest ih =>
    have step := ih (before ++ [name])
    rw [← counts_snoc] at step
    rw [numberFrom, occurrences, List.map_cons, label]
    by_cases known : name ∈ before
    · have found : counts before name = some (before.count name) := if_pos known
      have positive : 0 < before.count name := List.count_pos_iff.mpr known
      rw [found, if_neg (Nat.ne_of_gt (Nat.succ_lt_succ positive))]
      exact congrArg _ step
    · have unfound : counts before name = none := if_neg known
      have zero : before.count name = 0 := List.count_eq_zero.mpr known
      rw [zero] at step
      rw [unfound, zero, if_pos rfl]
      exact congrArg _ step

theorem mem_occurrences {before names : List κ} {name : κ} {count : Nat} :
    (name, count) ∈ occurrences before names ↔
      before.count name < count ∧ count ≤ before.count name + names.count name := by
  induction names generalizing before with
  | nil =>
    simp only [occurrences, List.not_mem_nil, List.count_nil, false_iff]
    omega
  | cons first rest ih =>
    rw [occurrences, List.mem_cons, Prod.mk.injEq, ih, List.count_append, List.count_singleton]
    by_cases same : name = first
    · subst same
      simp only [true_and, beq_self_eq_true, if_true, List.count_cons_self]
      omega
    · simp [same, Ne.symm same]

theorem occurrences_nodup (before names : List κ) : (occurrences before names).Nodup := by
  induction names generalizing before with
  | nil => exact List.nodup_nil
  | cons first rest ih =>
    refine List.nodup_cons.mpr ⟨fun again => ?_, ih _⟩
    have later := (mem_occurrences.mp again).1
    rw [List.count_append, List.count_singleton_self] at later
    omega

variable {numbered}

/-- The names given out are distinct exactly if no numbered name of one that is repeated so often
is among the names. -/
theorem numberFrom_nodup_iff
    (injective : ∀ name count other count', 2 ≤ count → 2 ≤ count' →
      numbered name count = numbered other count' → name = other ∧ count = count')
    (names : List κ) :
    (numberFrom numbered (fun _ => none) names).Nodup ↔
      ∀ name count, 2 ≤ count → count ≤ names.count name → numbered name count ∉ names := by
  have start : (fun _ => none) = counts ([] : List κ) := by
    funext name
    exact (if_neg List.not_mem_nil).symm
  rw [start, numberFrom_eq, List.nodup_map_iff_inj_on (occurrences_nodup [] names)]
  have listed {name : κ} {count : Nat} : (name, count) ∈ occurrences [] names ↔
      0 < count ∧ count ≤ names.count name := by
    simpa using @mem_occurrences _ _ [] names name count
  constructor
  · intro distinct name count repeated enough member
    have first : (numbered name count, 1) ∈ occurrences [] names :=
      listed.mpr ⟨Nat.one_pos, List.count_pos_iff.mpr member⟩
    have later : (name, count) ∈ occurrences [] names := listed.mpr ⟨by omega, enough⟩
    have unlike : count ≠ 1 := by omega
    have same := distinct _ later _ first (by rw [label, label, if_neg unlike, if_pos rfl])
    rw [Prod.mk.injEq] at same
    exact unlike same.2
  · intro apart occurrence member other member' same
    obtain ⟨name, count⟩ := occurrence
    obtain ⟨name', count'⟩ := other
    obtain ⟨positive, enough⟩ := listed.mp member
    obtain ⟨positive', enough'⟩ := listed.mp member'
    rw [label, label] at same
    by_cases first : count = 1
    · by_cases first' : count' = 1
      · rw [if_pos first, if_pos first'] at same
        exact Prod.ext same (first.trans first'.symm)
      · rw [if_pos first, if_neg first'] at same
        have inside : name ∈ names := List.count_pos_iff.mp (by omega)
        exact absurd (same ▸ inside) (apart name' count' (by omega) enough')
    · by_cases first' : count' = 1
      · rw [if_neg first, if_pos first'] at same
        have inside : name' ∈ names := List.count_pos_iff.mp (by omega)
        exact absurd (same.symm ▸ inside) (apart name count (by omega) enough)
      · rw [if_neg first, if_neg first'] at same
        obtain ⟨rfl, rfl⟩ := injective _ _ _ _ (by omega) (by omega) same
        rfl

end PfsenseBackups.Numbering

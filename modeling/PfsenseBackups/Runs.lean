import Mathlib.Logic.Relation

/-! Runs of a system whose operations change a shared state, and the rules that carry an
invariant along them. Each operation may be guarded by a condition on the state it starts
from. -/

namespace PfsenseBackups.Runs

variable {State Op : Type*}

/-- A state is followed by another through an operation that its guard allows. -/
def GuardedStep (step : State → Op → State → Prop) (guard : State → Op → Prop)
    (before after : State) : Prop :=
  ∃ op, guard before op ∧ step before op after

/-- The states of all runs from a start, every step of which its guard allows. -/
def Reach (step : State → Op → State → Prop) (guard : State → Op → Prop) (start : State) :
    State → Prop :=
  Relation.ReflTransGen (GuardedStep step guard) start

/-- No condition on the operations. -/
def unguarded : State → Op → Prop :=
  fun _ _ => True

variable {step : State → Op → State → Prop} {guard : State → Op → Prop} {start : State}

/-- What holds at the start and is kept by each allowed step holds in every state reached. -/
theorem Reach.invariant {inv : State → Prop} (first : inv start)
    (keeps : ∀ before op after, inv before → guard before op → step before op after → inv after)
    {state : State} (reached : Reach step guard start state) : inv state := by
  induction reached with
  | refl => exact first
  | tail _ last ih =>
    obtain ⟨op, allowed, taken⟩ := last
    exact keeps _ op _ ih allowed taken

theorem Reach.snoc {state after : State} {op : Op} (reached : Reach step guard start state)
    (allowed : guard state op) (taken : step state op after) : Reach step guard start after :=
  Relation.ReflTransGen.tail reached ⟨op, allowed, taken⟩

theorem Reach.trans {middle state : State} (first : Reach step guard start middle)
    (second : Reach step guard middle state) : Reach step guard start state :=
  Relation.ReflTransGen.trans first second

/-- A guarded run is a run. -/
theorem Reach.unguard {state : State} (reached : Reach step guard start state) :
    Reach step unguarded start state := by
  induction reached with
  | refl => exact .refl
  | tail _ last ih =>
    obtain ⟨op, -, taken⟩ := last
    exact ih.snoc trivial taken

/-- A guard that nothing fails does not cut a run short. -/
theorem Reach.allow (always : ∀ state op, guard state op) {state : State}
    (reached : Reach step unguarded start state) : Reach step guard start state := by
  induction reached with
  | refl => exact .refl
  | tail _ last ih =>
    obtain ⟨op, -, taken⟩ := last
    exact ih.snoc (always _ op) taken

/-! ### Single runs -/

/-- One run, with each operation and the state it starts from. -/
inductive Path (step : State → Op → State → Prop) (start : State) :
    List (State × Op) → State → Prop
  | nil : Path step start [] start
  | snoc {path : List (State × Op)} {state after : State} {op : Op}
      (before : Path step start path state) (taken : step state op after) :
      Path step start (path ++ [(state, op)]) after

/-- What holds at the start and is kept by each step that meets a condition holds where a run ends
whose steps all do. -/
theorem Path.invariant (guard : State → Op → Prop) {inv : State → Prop}
    {path : List (State × Op)} {state : State} (run : Path step start path state) (first : inv start)
    (keeps : ∀ before op after, inv before → guard before op → step before op after → inv after)
    (allowed : ∀ move ∈ path, guard move.1 move.2) : inv state := by
  induction run with
  | nil => exact first
  | @snoc path state after op before taken ih =>
    apply keeps state op after _ _ taken
    · exact ih fun move member => allowed move (List.mem_append_left _ member)
    · exact allowed (state, op) (List.mem_append_right _ (List.mem_singleton_self _))

theorem Path.forall_snoc (guard : State → Op → Prop) {path : List (State × Op)} {state : State}
    {op : Op} :
    (∀ move ∈ path ++ [(state, op)], guard move.1 move.2) ↔
      (∀ move ∈ path, guard move.1 move.2) ∧ guard state op := by
  simp [or_imp, forall_and]

/-- A property of states that every step keeps or breaks by a condition, while an invariant holds:
it holds all along a run exactly if every step of the run meets the condition. -/
theorem Path.holds_iff (guard : State → Op → Prop) {inv holds : State → Prop}
    {path : List (State × Op)} {state : State} (run : Path step start path state)
    (first : inv start ∧ holds start)
    (keeps : ∀ before op after, inv before → step before op after → inv after)
    (decides : ∀ before op after, inv before → holds before → step before op after →
      (holds after ↔ guard before op)) :
    inv state ∧ (((∀ move ∈ path, holds move.1) ∧ holds state) ↔
      ∀ move ∈ path, guard move.1 move.2) := by
  induction run with
  | nil => exact ⟨first.1, by simp [first.2]⟩
  | @snoc path state after op before taken ih =>
    obtain ⟨invariant, ih⟩ := ih
    refine ⟨keeps state op after invariant taken, ?_⟩
    rw [Path.forall_snoc guard, ← ih]
    have split : (∀ move ∈ path ++ [(state, op)], holds move.1) ↔
        (∀ move ∈ path, holds move.1) ∧ holds state :=
      Path.forall_snoc fun state _ => holds state
    rw [split]
    apply and_congr_right
    intro held
    exact decides state op after invariant held.2 taken

/-! ### Pending work -/

section Pending

variable {Task : Type*} {pending front back : List Task} {task other : Task}

theorem mem_of_pending (split : pending = front ++ task :: back) : task ∈ pending := by
  rw [split]
  exact List.mem_append_right front List.mem_cons_self

/-- What is left after a task was pending before. -/
theorem mem_of_split (split : pending = front ++ task :: back) (member : other ∈ front ++ back) :
    other ∈ pending := by
  rw [split]
  exact (List.mem_append.mp member).elim (List.mem_append_left _)
    fun later => List.mem_append_right front (List.mem_cons_of_mem task later)

end Pending

end PfsenseBackups.Runs

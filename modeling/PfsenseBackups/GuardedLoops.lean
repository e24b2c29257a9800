import Mathlib.Data.List.Nodup
import Mathlib.Data.List.TakeWhile

/-! Loops whose bodies prepare a job for a row and then do it. What is raised while a job is done is
logged and the loop goes on; what is raised while a job is prepared ends the loop. -/

namespace PfsenseBackups.GuardedLoops

variable {Row Job Fault Failure : Type*}

structure Outcome (Job Fault Failure : Type*) where
  /-- The jobs that were begun, in order. -/
  attempts : List Job
  logged : List (Job × Failure)
  raised : Option Fault

section

variable (prepare : Row → Except Fault (Option Job)) (perform : Job → Except Failure Unit)

def loop : List Row → Outcome Job Fault Failure
  | [] => ⟨[], [], none⟩
  | row :: rest =>
    match prepare row with
    | .error fault => ⟨[], [], some fault⟩
    | .ok none => loop rest
    | .ok (some job) =>
      let later := loop rest
      match perform job with
      | .ok () => ⟨job :: later.attempts, later.logged, later.raised⟩
      | .error failure => ⟨job :: later.attempts, (job, failure) :: later.logged, later.raised⟩

/-- What is raised while the job of a row is prepared. -/
def faultOf (row : Row) : Option Fault :=
  match prepare row with
  | .error fault => some fault
  | .ok _ => none

def jobOf (row : Row) : Option Job :=
  match prepare row with
  | .error _ => none
  | .ok job => job

variable {prepare}

theorem fault_eq_none {row : Row} : faultOf prepare row = none ↔ ∃ job, prepare row = .ok job := by
  unfold faultOf
  cases prepare row with
  | error fault => simp
  | ok job => simp

theorem job_eq_some {row : Row} {job : Job} :
    jobOf prepare row = some job ↔ prepare row = .ok (some job) := by
  unfold jobOf
  cases prepare row with
  | error fault => simp
  | ok job => simp

variable {perform}

/-- The jobs of the rows before the first one at which the preparation raises are begun, whatever
happens to them. -/
theorem loop_attempts (rows : List Row) : (loop prepare perform rows).attempts =
    (rows.takeWhile fun row => (faultOf prepare row).isNone).filterMap (jobOf prepare) := by
  induction rows with
  | nil => rfl
  | cons row rows ih =>
    rw [loop, List.takeWhile_cons]
    cases prepared : prepare row with
    | error fault => simp [faultOf, prepared]
    | ok found =>
      cases found with
      | none => simp [faultOf, jobOf, prepared, ih]
      | some job => cases done : perform job <;> simp [done, faultOf, jobOf, prepared, ih]

theorem loop_raised (rows : List Row) :
    (loop prepare perform rows).raised = rows.findSome? (faultOf prepare) := by
  induction rows with
  | nil => rfl
  | cons row rows ih =>
    rw [loop, List.findSome?_cons]
    cases prepared : prepare row with
    | error fault => simp [faultOf, prepared]
    | ok found =>
      cases found with
      | none => simp [faultOf, prepared, ih]
      | some job => cases done : perform job <;> simp [done, faultOf, prepared, ih]

theorem raised_eq_none {rows : List Row} :
    (loop prepare perform rows).raised = none ↔
      ∀ row ∈ rows, ∃ job, prepare row = .ok job := by
  rw [loop_raised, List.findSome?_eq_none_iff]
  exact forall₂_congr fun _ _ => fault_eq_none

theorem attempts_of_raised {rows : List Row} (quiet : (loop prepare perform rows).raised = none) :
    (loop prepare perform rows).attempts = rows.filterMap (jobOf prepare) := by
  have whole : (rows.takeWhile fun row => (faultOf prepare row).isNone) = rows := by
    rw [List.takeWhile_eq_self_iff]
    intro row mem
    rw [fault_eq_none.mpr (raised_eq_none.mp quiet row mem)]
    rfl
  rw [loop_attempts, whole]

/-! ### Jobs that keep the keys of their rows -/

variable {Key : Type*} {key : Row → Key} {origin : Job → Key}
  (keeps : ∀ row job, prepare row = .ok (some job) → origin job = key row)
include keeps

theorem keys_sublist (rows : List Row) :
    ((rows.filterMap (jobOf prepare)).map origin).Sublist (rows.map key) := by
  induction rows with
  | nil => exact List.Sublist.slnil
  | cons row rows ih =>
    cases found : jobOf prepare row with
    | none =>
      rw [List.filterMap_cons_none found]
      exact ih.cons _
    | some job =>
      rw [List.filterMap_cons_some found, List.map_cons, keeps _ _ (job_eq_some.mp found)]
      exact ih.cons_cons _

/-- A loop over rows with distinct keys that does not raise begins a row's job once. -/
theorem attempted_once [DecidableEq Key] {rows : List Row} (distinct : (rows.map key).Nodup)
    (quiet : (loop prepare perform rows).raised = none) {row : Row} (mem : row ∈ rows) {job : Job}
    (wanted : prepare row = .ok (some job)) :
    ((loop prepare perform rows).attempts.map origin).count (key row) = 1 := by
  rw [attempts_of_raised quiet]
  apply List.count_eq_one_of_mem (distinct.sublist (keys_sublist keeps rows))
  rw [← keeps row job wanted]
  exact List.mem_map_of_mem (List.mem_filterMap.mpr ⟨row, mem, job_eq_some.mpr wanted⟩)

/-- Every job that is begun comes from a row. -/
theorem origin_mem {rows : List Row} {job : Job}
    (begun : job ∈ (loop prepare perform rows).attempts) : origin job ∈ rows.map key := by
  rw [loop_attempts, List.mem_filterMap] at begun
  obtain ⟨row, inside, wanted⟩ := begun
  rw [keeps row job (job_eq_some.mp wanted)]
  exact List.mem_map_of_mem ((List.takeWhile_sublist _).mem inside)

/-- A row's job is begun exactly when there is one and nothing raises before it. -/
theorem attempted_iff [DecidableEq Key] {rows : List Row} (distinct : (rows.map key).Nodup)
    {row : Row} (mem : row ∈ rows) :
    (∃ job ∈ (loop prepare perform rows).attempts, origin job = key row) ↔
      (∃ job, prepare row = .ok (some job)) ∧
        ∀ other ∈ rows.takeWhile fun other => key other ≠ key row,
          ∃ job, prepare other = .ok job := by
  induction rows with
  | nil => cases mem
  | cons first rows ih =>
    have apart := List.nodup_cons.mp distinct
    cases List.mem_cons.mp mem with
    | inl same =>
      subst same
      have none_later : ¬∃ job ∈ (loop prepare perform rows).attempts, origin job = key row := by
        intro ⟨job, begun, same⟩
        exact apart.1 (same ▸ origin_mem keeps begun)
      cases prepared : prepare row with
      | error fault => simp [loop, prepared]
      | ok found =>
        cases found with
        | none => simpa [loop, prepared] using none_later
        | some job =>
          have own := keeps row job prepared
          cases done : perform job <;> simp [loop, prepared, done, own]
    | inr later =>
      have differ : key first ≠ key row := by
        intro same
        exact apart.1 (same ▸ List.mem_map_of_mem later)
      have rest := ih apart.2 later
      rw [List.takeWhile_cons_of_pos (by simpa using differ), List.forall_mem_cons]
      cases prepared : prepare first with
      | error fault => simp [loop, prepared]
      | ok found =>
        have usable : ∃ job, Except.ok found = (.ok job : Except Fault (Option Job)) := ⟨_, rfl⟩
        rw [and_iff_right usable, ← rest]
        cases found with
        | none => simp [loop, prepared]
        | some job =>
          have own : origin job ≠ key row := keeps first job prepared ▸ differ
          cases done : perform job <;> simp [loop, prepared, done, own]

end

end PfsenseBackups.GuardedLoops

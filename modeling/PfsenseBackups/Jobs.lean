import Mathlib.Data.List.Basic

/-! Jobs and their marks: what the worker's functions make of a job's status, on every way through
them. -/

namespace PfsenseBackups.Jobs

inductive JobStatus where
  | queued | running | success | failure
  deriving DecidableEq, Repr

def JobStatus.terminal : JobStatus → Bool
  | .success | .failure => true
  | .queued | .running => false

/-- A run of a function: the statuses it has marked its job with, in their order, and what it
returns, unless it raises. -/
structure Marking (α : Type) where
  marks : List JobStatus
  result : Option α

namespace Marking

variable {α β : Type}

instance : Monad Marking where
  pure value := ⟨[], some value⟩
  bind first next :=
    match first.result with
    | none => ⟨first.marks, none⟩
    | some value => ⟨first.marks ++ (next value).marks, (next value).result⟩

/-- `try` with an `except Exception` clause. -/
def orExcept (body handler : Marking α) : Marking α :=
  match body.result with
  | some _ => body
  | none => ⟨body.marks ++ handler.marks, handler.result⟩

/-- `finally`, for a clause that marks nothing. -/
def andFinally (body : Marking α) (raises : Bool) : Marking α :=
  if raises then ⟨body.marks, none⟩ else body

/-- The status that a job is left in. -/
def status (run : Marking α) (before : JobStatus) : JobStatus :=
  run.marks.getLast?.getD before

@[simp] theorem pure_def (value : α) : (pure value : Marking α) = ⟨[], some value⟩ :=
  rfl

@[simp] theorem bind_some (marks : List JobStatus) (value : α) (next : α → Marking β) :
    (⟨marks, some value⟩ >>= next : Marking β) =
      ⟨marks ++ (next value).marks, (next value).result⟩ :=
  rfl

@[simp] theorem bind_none (marks : List JobStatus) (next : α → Marking β) :
    (⟨marks, none⟩ >>= next : Marking β) = ⟨marks, none⟩ :=
  rfl

end Marking

/-- `_mark_job`; `_fail_job` marks a failure. -/
def markJob (status : JobStatus) : Marking Unit :=
  ⟨[status], some ()⟩

/-- A call that raises or returns. -/
def call (raises : Bool) : Marking Unit :=
  ⟨[], if raises then none else some ()⟩

@[simp] theorem call_true : call true = ⟨[], none⟩ :=
  rfl

@[simp] theorem call_false : call false = ⟨[], some ()⟩ :=
  rfl

/-! ### One instance's backup -/

/-- The calls of `backup_instance` whose exceptions it does not catch on the spot. A login that is
refused and a download without content raise. -/
inductive InstanceStep where
  | snapshot | publishRefused | crossProcessLock | publishStarted | recordAttempt
  | hostSemaphore | publishAuth | authenticate | publishDownload | download
  | publishSave | save | publishCleanup | cleanup | recordCleaned | countRetained
  | recordSuccess | writeHistory | publishFinished
  | recordFailure | writeFailedHistory | publishFailed | release
  deriving DecidableEq

/-- What happens to a call of `backup_instance`. -/
structure InstanceEvents where
  raises : InstanceStep → Bool
  /-- The instance is there. -/
  found : Bool
  /-- Encryption is on, and there is no password for it. -/
  refused : Bool

/-- The work between the start of a backup and its success. -/
def workSteps : List InstanceStep :=
  [.hostSemaphore, .publishAuth, .authenticate, .publishDownload, .download, .publishSave, .save,
    .publishCleanup, .cleanup, .recordCleaned, .countRetained, .recordSuccess, .writeHistory]

def calls (raises : InstanceStep → Bool) : List InstanceStep → Marking Unit
  | [] => pure ()
  | step :: steps => do
    call (raises step)
    calls raises steps

/-- The body of the `try` of `backup_instance`. Its diffs, off-site copies and notifications catch
their own exceptions. -/
def backupWork (raises : InstanceStep → Bool) : Marking Bool := do
  calls raises workSteps
  markJob .success
  call (raises .publishFinished)
  return true

/-- The `except` clause of `backup_instance`. -/
def backupFailed (raises : InstanceStep → Bool) : Marking Bool := do
  call (raises .recordFailure)
  markJob .failure
  -- A history row that cannot be written is told in the message of a second mark.
  (call (raises .writeFailedHistory)).orExcept (markJob .failure)
  call (raises .publishFailed)
  return false

/-- `backup_instance`. -/
def backupInstance (events : InstanceEvents) : Marking Bool := do
  call (events.raises .snapshot)
  if !events.found then
    markJob .failure
    return false
  else if events.refused then
    call (events.raises .publishRefused)
    markJob .failure
    return false
  else
    call (events.raises .crossProcessLock)
    markJob .running
    call (events.raises .publishStarted)
    call (events.raises .recordAttempt)
    ((backupWork events.raises).orExcept (backupFailed events.raises)).andFinally
      (events.raises .release)

namespace InstanceEvents

variable (events : InstanceEvents)

/-- The call comes to its first mark as running. -/
def starts : Bool :=
  !events.raises .snapshot && events.found && !events.refused && !events.raises .crossProcessLock

/-- The call is told off before it starts. -/
def turnedAway : Bool :=
  !events.raises .snapshot && (!events.found || events.refused && !events.raises .publishRefused)

def announces : Bool :=
  !events.raises .publishStarted && !events.raises .recordAttempt

def works : Bool :=
  workSteps.all fun step => !events.raises step

/-- The configuration is saved and listed. -/
def completes : Bool :=
  events.starts && events.announces && events.works

/-- The call goes on to its end without an exception. -/
def succeeds : Bool :=
  events.completes && !events.raises .publishFinished && !events.raises .release

/-- The call raises before it has marked an end. -/
def stopsShort : Bool :=
  !events.turnedAway && (!events.starts || !events.announces ||
    !events.works && events.raises .recordFailure)

end InstanceEvents

theorem calls_eq (raises : InstanceStep → Bool) (steps : List InstanceStep) :
    calls raises steps = ⟨[], if steps.all fun step => !raises step then some () else none⟩ := by
  induction steps with
  | nil => rfl
  | cons step steps ih =>
    rw [calls, List.all_cons]
    cases raises step with
    | true => rfl
    | false =>
      rw [call_false, Marking.bind_some, ih]
      rfl

variable {events : InstanceEvents}

/-- The marks of the `except` clause, which are the last ones. -/
def failureMarks (raises : InstanceStep → Bool) : List JobStatus :=
  if raises .recordFailure then []
  else if raises .writeFailedHistory then [.failure, .failure] else [.failure]

theorem marks_backupFailed (raises : InstanceStep → Bool) :
    (backupFailed raises).marks = failureMarks raises := by
  rw [backupFailed, failureMarks]
  cases raises .recordFailure with
  | true => rfl
  | false =>
    cases raises .writeFailedHistory <;> cases raises .publishFailed <;> rfl

theorem result_backupFailed (raises : InstanceStep → Bool) :
    (backupFailed raises).result ≠ some true := by
  rw [backupFailed]
  cases raises .recordFailure with
  | true => exact nofun
  | false =>
    cases raises .writeFailedHistory <;> cases raises .publishFailed <;> exact nofun

theorem backupWork_eq (raises : InstanceStep → Bool) :
    backupWork raises =
      if workSteps.all fun step => !raises step then
        ⟨[.success], if raises .publishFinished then none else some true⟩
      else ⟨[], none⟩ := by
  rw [backupWork, calls_eq]
  split
  · cases raises .publishFinished <;> rfl
  · rfl

/-! ### The ways through a backup -/

theorem backupInstance_turnedAway (away : events.turnedAway) :
    backupInstance events = ⟨[.failure], some false⟩ := by
  simp only [InstanceEvents.turnedAway, Bool.and_eq_true, Bool.or_eq_true, Bool.not_eq_true'] at away
  obtain ⟨read, absent | ⟨noPassword, told⟩⟩ := away
  · rw [backupInstance, read, absent]
    rfl
  · rw [backupInstance, read, noPassword, told]
    cases events.found <;> rfl

theorem backupInstance_silent (stays : events.turnedAway = false) (unstarted : events.starts = false) :
    backupInstance events = ⟨[], none⟩ := by
  simp only [InstanceEvents.turnedAway, InstanceEvents.starts] at stays unstarted
  rw [backupInstance]
  cases read : events.raises .snapshot with
  | true => rfl
  | false =>
    rw [read] at stays unstarted
    cases found : events.found with
    | false =>
      rw [found] at stays
      cases stays
    | true =>
      rw [found] at stays unstarted
      cases refused : events.refused with
      | true =>
        rw [refused] at stays
        cases told : events.raises .publishRefused with
        | true => rfl
        | false =>
          rw [told] at stays
          cases stays
      | false =>
        rw [refused] at unstarted
        cases locked : events.raises .crossProcessLock with
        | true => rfl
        | false =>
          rw [locked] at unstarted
          cases unstarted

theorem backupInstance_starts (starts : events.starts) :
    backupInstance events =
      if events.announces then
        let backup := ((backupWork events.raises).orExcept (backupFailed events.raises)).andFinally
          (events.raises .release)
        ⟨.running :: backup.marks, backup.result⟩
      else ⟨[.running], none⟩ := by
  simp only [InstanceEvents.starts, Bool.and_eq_true, Bool.not_eq_true'] at starts
  obtain ⟨⟨⟨read, found⟩, stays⟩, locked⟩ := starts
  rw [backupInstance, read, found, stays, locked, InstanceEvents.announces]
  cases events.raises .publishStarted with
  | true => rfl
  | false => cases events.raises .recordAttempt <;> rfl

theorem turnedAway_of_starts (starts : events.starts) : events.turnedAway = false := by
  simp only [InstanceEvents.starts, Bool.and_eq_true, Bool.not_eq_true'] at starts
  obtain ⟨⟨⟨read, found⟩, stays⟩, -⟩ := starts
  rw [InstanceEvents.turnedAway, read, found, stays]
  rfl

/-- The marks of a call that has announced its start. -/
theorem marks_announced (starts : events.starts) (announces : events.announces) :
    (backupInstance events).marks =
      if events.works then
        if events.raises .publishFinished then
          .running :: .success :: failureMarks events.raises
        else [.running, .success]
      else .running :: failureMarks events.raises := by
  rw [backupInstance_starts starts, if_pos announces, backupWork_eq, InstanceEvents.works]
  dsimp only [Marking.andFinally, Marking.orExcept]
  cases workSteps.all fun step => !events.raises step with
  | true =>
    cases events.raises .publishFinished <;> cases events.raises .release <;>
      simp [marks_backupFailed]
  | false => cases events.raises .release <;> simp [marks_backupFailed]

theorem success_mem : .success ∈ (backupInstance events).marks ↔ events.completes := by
  rw [InstanceEvents.completes]
  by_cases starts : events.starts = true
  · by_cases announces : events.announces = true
    · have absent : .success ∉ failureMarks events.raises := by
        rw [failureMarks]
        split
        · exact nofun
        · split <;> simp
      rw [marks_announced starts announces, starts, announces]
      cases events.works with
      | true => cases events.raises .publishFinished <;> simp
      | false => simpa using absent
    · rw [backupInstance_starts starts, if_neg announces]
      simp [announces]
  · rw [Bool.not_eq_true] at starts
    rw [starts]
    by_cases away : events.turnedAway = true
    · rw [backupInstance_turnedAway away]
      simp
    · rw [backupInstance_silent (Bool.eq_false_iff.mpr away) starts]
      simp

/-- What is marked after the start is an end, and there is such a mark unless the call stops
short. -/
theorem marks_starts (starts : events.starts) : ∃ ends,
    (backupInstance events).marks = .running :: ends ∧ (∀ status ∈ ends, status.terminal) ∧
      (ends = [] ↔ events.stopsShort) := by
  have failures : ∀ status ∈ failureMarks events.raises, status.terminal := by
    rw [failureMarks]
    split
    · exact nofun
    · split <;> simp [JobStatus.terminal]
  rw [InstanceEvents.stopsShort, turnedAway_of_starts starts, starts]
  by_cases announces : events.announces = true
  · rw [marks_announced starts announces, announces]
    cases events.works with
    | true =>
      cases events.raises .publishFinished with
      | true =>
        refine ⟨.success :: failureMarks events.raises, rfl, ?_, by simp⟩
        exact List.forall_mem_cons.mpr ⟨rfl, failures⟩
      | false => exact ⟨[.success], rfl, by simp [JobStatus.terminal], by simp⟩
    | false =>
      refine ⟨failureMarks events.raises, rfl, failures, ?_⟩
      rw [failureMarks]
      cases events.raises .recordFailure <;> cases events.raises .writeFailedHistory <;> simp
  · rw [backupInstance_starts starts, if_neg announces]
    exact ⟨[], rfl, nofun, by simp [announces]⟩

/-- A call that has nothing to mark raises before its start. -/
theorem marks_cases (events : InstanceEvents) :
    (events.turnedAway ∧ backupInstance events = ⟨[.failure], some false⟩) ∨
      (events.stopsShort ∧ backupInstance events = ⟨[], none⟩) ∨ events.starts := by
  by_cases starts : events.starts = true
  · exact .inr (.inr starts)
  · by_cases away : events.turnedAway = true
    · exact .inl ⟨away, backupInstance_turnedAway away⟩
    · rw [Bool.not_eq_true] at starts away
      refine .inr (.inl ⟨?_, backupInstance_silent away starts⟩)
      rw [InstanceEvents.stopsShort, away, starts]
      rfl

theorem queued_not_mem : .queued ∉ (backupInstance events).marks := by
  rcases marks_cases events with ⟨-, away⟩ | ⟨-, silent⟩ | starts
  · rw [away]
    simp
  · rw [silent]
    exact nofun
  · obtain ⟨ends, marks, terminal, -⟩ := marks_starts starts
    rw [marks, List.mem_cons]
    rintro (same | member)
    · cases same
    · cases terminal _ member

theorem result_of_stopsShort (short : events.stopsShort) : (backupInstance events).result = none := by
  rcases marks_cases events with ⟨away, -⟩ | ⟨-, silent⟩ | starts
  · rw [InstanceEvents.stopsShort, away] at short
    cases short
  · rw [silent]
  · rw [InstanceEvents.stopsShort, turnedAway_of_starts starts, starts] at short
    rw [backupInstance_starts starts]
    by_cases announces : events.announces = true
    · rw [announces] at short
      cases works : events.works with
      | true =>
        rw [works] at short
        cases short
      | false =>
        rw [works] at short
        have unrecorded : events.raises .recordFailure = true := by simpa using short
        rw [if_pos announces, backupWork_eq, ← InstanceEvents.works, works]
        rw [backupFailed, unrecorded]
        cases events.raises .release <;> rfl
    · rw [if_neg announces]

/-- A job that one call has marked is left at its end, unless the call stops short. -/
theorem getLast?_terminal {last : JobStatus} (marked : (backupInstance events).marks.getLast? = some last)
    : last.terminal ↔ ¬ events.stopsShort := by
  rcases marks_cases events with ⟨away, marks⟩ | ⟨-, silent⟩ | starts
  · rw [marks] at marked
    cases marked
    simp [JobStatus.terminal, InstanceEvents.stopsShort, away]
  · rw [silent] at marked
    cases marked
  · obtain ⟨ends, marks, terminal, short⟩ := marks_starts starts
    rw [marks] at marked
    rw [← short]
    cases ends with
    | nil =>
      cases marked
      simp [JobStatus.terminal]
    | cons first ends =>
      rw [List.getLast?_cons_cons] at marked
      exact iff_of_true (terminal last (List.mem_of_getLast? marked)) (List.cons_ne_nil _ _)

theorem exists_getLast? (whole : ¬ events.stopsShort) :
    ∃ last, (backupInstance events).marks.getLast? = some last := by
  rcases marks_cases events with ⟨-, marks⟩ | ⟨short, -⟩ | starts
  · exact ⟨.failure, by rw [marks]; rfl⟩
  · exact absurd short whole
  · obtain ⟨ends, marks, -, -⟩ := marks_starts starts
    rw [marks]
    exact ⟨_, List.getLast?_eq_some_getLast (List.cons_ne_nil _ _)⟩

theorem terminal_status :
    ((backupInstance events).status .queued).terminal ↔ ¬ events.stopsShort := by
  rw [Marking.status]
  cases marked : (backupInstance events).marks.getLast? with
  | some last => exact getLast?_terminal marked
  | none =>
    refine iff_of_false nofun fun whole => ?_
    obtain ⟨last, found⟩ := exists_getLast? whole
    rw [marked] at found
    cases found

/-- A backup returns true after its two marks. -/
theorem backupInstance_succeeds (succeeds : events.succeeds) :
    backupInstance events = ⟨[.running, .success], some true⟩ := by
  simp only [InstanceEvents.succeeds, InstanceEvents.completes, Bool.and_eq_true,
    Bool.not_eq_true'] at succeeds
  obtain ⟨⟨⟨⟨starts, announces⟩, works⟩, finished⟩, released⟩ := succeeds
  rw [backupInstance_starts starts, if_pos announces, backupWork_eq, ← InstanceEvents.works, works,
    finished, released]
  rfl

theorem result_iff : (backupInstance events).result = some true ↔ events.succeeds := by
  refine ⟨fun returns => ?_, fun succeeds => by rw [backupInstance_succeeds succeeds]⟩
  rcases marks_cases events with ⟨-, away⟩ | ⟨-, silent⟩ | starts
  · rw [away] at returns
    cases returns
  · rw [silent] at returns
    cases returns
  · rw [backupInstance_starts starts] at returns
    rw [InstanceEvents.succeeds, InstanceEvents.completes, starts]
    by_cases announces : events.announces = true
    · rw [if_pos announces, backupWork_eq, ← InstanceEvents.works] at returns
      rw [announces]
      dsimp only [Marking.andFinally] at returns
      cases released : events.raises .release with
      | true =>
        rw [released] at returns
        cases returns
      | false =>
        rw [released] at returns
        cases works : events.works with
        | true =>
          rw [works] at returns
          cases finished : events.raises .publishFinished with
          | true =>
            rw [finished] at returns
            exact absurd returns (result_backupFailed _)
          | false => rfl
        | false =>
          rw [works] at returns
          exact absurd returns (result_backupFailed _)
    · rw [if_neg announces] at returns
      cases returns

end PfsenseBackups.Jobs

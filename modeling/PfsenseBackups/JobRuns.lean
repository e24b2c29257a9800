import Mathlib.Logic.Function.Basic
import PfsenseBackups.Dispatch
import PfsenseBackups.Runs

/-! Jobs over whole runs of the web service and its workers: commands wait in a queue, handlers mark
their jobs, workers crash and boot at any time. -/

namespace PfsenseBackups.JobRuns
open BackupAll Dispatch Jobs Runs

/-! ### Marks -/

/-- What a handler writes to its job: `_mark_job` sets a status, whichever the job has. -/
inductive Mark where
  | set (status : JobStatus)
  | failOrphaned
  deriving DecidableEq

def Mark.on : Mark → JobStatus → JobStatus
  | .set status, _ => status
  | .failOrphaned, status => failOrphanedJob status

/-- The marks of `_dispatch`. -/
def dispatchMarks (command : Command) (invalid : Bool) : List Mark :=
  let run : Marking Unit := if invalid then ⟨[], none⟩ else handler command
  run.marks.map .set ++ if run.result.isNone then [.failOrphaned] else []

/-- The marks of `_fire`, for a job that it makes. -/
def fireMarks (readJobRaises : Bool) (events : InstanceEvents) : List Mark :=
  let run : Marking Unit := do
    call readJobRaises
    let _ ← backupInstance events
    return ()
  run.marks.map .set

/-- The status after all marks. -/
def marked (status : JobStatus) (marks : List Mark) : JobStatus :=
  marks.foldl (fun status mark => mark.on status) status

/-- No mark moves a terminal status. -/
def Settled : JobStatus → List Mark → Prop
  | _, [] => True
  | status, mark :: marks => Sweep.Holds status (mark.on status) ∧ Settled (mark.on status) marks

theorem marked_set (status : JobStatus) (statuses : List JobStatus) :
    marked status (statuses.map .set) = statuses.getLast?.getD status := by
  induction statuses generalizing status with
  | nil => rfl
  | cons first rest ih =>
    change marked first (rest.map .set) = _
    rw [ih, List.getLast?_cons]
    rfl

/-- One uninterrupted handler leaves its job as a dispatched command does. -/
theorem marked_dispatchMarks (command : Command) (invalid : Bool) :
    marked .queued (dispatchMarks command invalid) = dispatch command invalid := by
  rw [dispatchMarks, dispatch, marked, List.foldl_append]
  change List.foldl _ (marked .queued _) _ = _
  rw [marked_set]
  cases (if invalid then ⟨[], none⟩ else handler command : Marking Unit).result <;> rfl

theorem marked_fireMarks (readJobRaises : Bool) (events : InstanceEvents) :
    some (marked .queued (fireMarks readJobRaises events)) = fire true readJobRaises events := by
  rw [fireMarks, marked_set]
  rfl

theorem holds_failOrphanedJob (status : JobStatus) : Sweep.Holds status (failOrphanedJob status) := by
  intro terminal
  cases status <;> first | rfl | cases terminal

theorem settled_set (status : JobStatus) (statuses : List JobStatus) (ends : Bool) :
    Settled status (statuses.map .set ++ if ends then [.failOrphaned] else []) ↔
      List.IsChain Sweep.Holds (status :: statuses) := by
  induction statuses generalizing status with
  | nil =>
    cases ends with
    | true => simp [Settled, Mark.on, holds_failOrphanedJob]
    | false => simp [Settled]
  | cons first rest ih =>
    rw [List.isChain_cons_cons, ← ih]
    rfl

/-! ### Settled handlers -/

/-- Statuses hold if and only if nothing starts after an end and one kind of end is all there is. -/
theorem pairwise_holds_iff {statuses : List JobStatus} (unqueued : .queued ∉ statuses) :
    statuses.Pairwise Sweep.Holds ↔
      statuses.Pairwise (fun earlier later => earlier.terminal → later ≠ .running) ∧
        (.success ∉ statuses ∨ .failure ∉ statuses) := by
  constructor
  · intro holds
    refine ⟨holds.imp fun held terminal running => ?_, ?_⟩
    · rw [← held terminal, running] at terminal
      cases terminal
    · by_contra both
      simp only [not_or, not_not] at both
      have last := Sweep.last_of_holds holds rfl both.1
      rw [Sweep.last_of_holds holds rfl both.2] at last
      cases last
  · rintro ⟨first, kinds⟩
    refine first.imp_of_mem fun {earlier later} before after starts terminal => ?_
    cases later with
    | queued => exact absurd after unqueued
    | running => exact absurd rfl (starts terminal)
    | success =>
      cases earlier with
      | success => rfl
      | failure => exact (kinds.elim (· after) (· before)).elim
      | queued | running => cases terminal
    | failure =>
      cases earlier with
      | failure => rfl
      | success => exact (kinds.elim (· before) (· after)).elim
      | queued | running => cases terminal

/-- A call that is told off, or fails after its start and records it. -/
def marksFailure (events : InstanceEvents) : Bool :=
  events.turnedAway || events.starts && events.announces &&
    (!events.works || events.raises .publishFinished) && !events.raises .recordFailure

theorem failure_mem {events : InstanceEvents} :
    .failure ∈ (backupInstance events).marks ↔ marksFailure events := by
  have failures : .failure ∈ failureMarks events.raises ↔ events.raises .recordFailure = false := by
    rw [failureMarks]
    cases events.raises .recordFailure <;> cases events.raises .writeFailedHistory <;> simp
  rw [marksFailure]
  by_cases starts : events.starts = true
  · rw [turnedAway_of_starts starts, starts, Bool.false_or, Bool.true_and]
    by_cases announces : events.announces = true
    · rw [marks_announced starts announces, announces]
      cases events.works <;> cases events.raises .publishFinished <;> simp [failures]
    · rw [backupInstance_starts starts, if_neg announces]
      simp [announces]
  · rw [Bool.not_eq_true] at starts
    rw [starts]
    by_cases away : events.turnedAway = true
    · rw [backupInstance_turnedAway away, away]
      simp
    · rw [backupInstance_silent (Bool.eq_false_iff.mpr away) starts]
      simp [away]

/-- Nothing starts in one call after it has ended. -/
theorem pairwise_marks (events : InstanceEvents) : (backupInstance events).marks.Pairwise
    fun earlier later => earlier.terminal → later ≠ .running := by
  rcases marks_cases events with ⟨-, marks⟩ | ⟨-, silent⟩ | starts
  · rw [marks]
    exact List.pairwise_singleton _ _
  · rw [silent]
    exact List.Pairwise.nil
  · obtain ⟨ends, marks, terminal, -⟩ := marks_starts starts
    rw [marks, List.pairwise_cons]
    refine ⟨fun _ _ ended => absurd ended Bool.false_ne_true, ?_⟩
    refine List.pairwise_of_forall_mem_list fun _ _ later member _ running => ?_
    rw [running] at member
    cases terminal _ member

theorem settled_queued {statuses : List JobStatus} {ends : Bool} :
    Settled .queued (statuses.map .set ++ if ends then [.failOrphaned] else []) ↔
      statuses.Pairwise Sweep.Holds := by
  rw [settled_set, List.isChain_iff_pairwise, List.pairwise_cons]
  exact and_iff_right fun _ _ ended => absurd ended Bool.false_ne_true

theorem holds_backupInstance (events : InstanceEvents) :
    (backupInstance events).marks.Pairwise Sweep.Holds ↔
      ¬ (events.completes ∧ marksFailure events) := by
  rw [pairwise_holds_iff queued_not_mem, and_iff_right (pairwise_marks events), success_mem,
    failure_mem, not_and_or]

/-- The sweep's job holds. -/
def SweepSettles (sweep : Sweep) : Prop :=
  sweep.StartsFirst ∧ ((∀ inst ∈ sweep.enabled, ¬ (sweep.events inst.id).completes) ∨
    ∀ inst ∈ sweep.enabled, ¬ marksFailure (sweep.events inst.id))

theorem order_not_mem {sweep : Sweep} {status : JobStatus} :
    status ∉ sweep.order.map Prod.snd ↔
      ∀ inst ∈ sweep.enabled, status ∉ (backupInstance (sweep.events inst.id)).marks := by
  constructor
  · intro absent inst listed marks
    exact absent (List.mem_map_of_mem (f := Prod.snd) (Sweep.order_mem listed marks))
  · intro absent member
    obtain ⟨event, written, rfl⟩ := List.mem_map.mp member
    obtain ⟨inst, listed, -, marks⟩ := Sweep.mem_order written
    exact absent inst listed marks

theorem holds_order (sweep : Sweep) :
    (sweep.order.map Prod.snd).Pairwise Sweep.Holds ↔ SweepSettles sweep := by
  have unqueued : .queued ∉ sweep.order.map Prod.snd :=
    order_not_mem.mpr fun _ _ => queued_not_mem
  rw [pairwise_holds_iff unqueued, List.pairwise_map, order_not_mem, order_not_mem]
  simp only [success_mem, failure_mem]
  rfl

/-- A command's handler never moves its job from an end. -/
def CommandSettles : Command → Prop
  | .runBackup events => ¬ (events.completes ∧ marksFailure events)
  | .runBackupAll sweep => sweep.readRaises ∨ SweepSettles sweep
  | .testConnection _ | .sendTestNotification _ _ | .reencryptBackups _ | .reencryptAllBackups _
  | .retrieveReplica _ => True

theorem holds_two {first last : JobStatus} (start : first.terminal = false) :
    [first, last].Pairwise Sweep.Holds := by
  rw [List.pairwise_pair]
  intro terminal
  rw [start] at terminal
  cases terminal

theorem holds_handler (command : Command) :
    (handler command).marks.Pairwise Sweep.Holds ↔ CommandSettles command := by
  cases command with
  | runBackup events =>
    rw [handler, bind_unit]
    exact holds_backupInstance events
  | runBackupAll sweep =>
    rw [handler, bind_unit, Sweep.backupAll, CommandSettles, ← holds_order]
    cases sweep.readRaises with
    | true => exact iff_of_true List.Pairwise.nil (.inl rfl)
    | false =>
      cases sweep.collect ⟨0, [], []⟩ sweep.completed <;> simp
  | testConnection events =>
    refine iff_of_true ?_ trivial
    obtain ⟨snapshotRaises, found, authenticates, publishRaises⟩ := events
    cases snapshotRaises <;> cases found <;> first
      | exact List.Pairwise.nil
      | cases publishRaises <;> first | exact List.Pairwise.nil | exact holds_two rfl
  | sendTestNotification sendRaises publishRaises =>
    refine iff_of_true ?_ trivial
    cases sendRaises <;> cases publishRaises <;> exact List.Pairwise.nil
  | reencryptBackups events =>
    refine iff_of_true ?_ trivial
    obtain ⟨readRaises, found, configured, decryptRaises, total, counts⟩ := events
    cases readRaises <;> cases found <;> cases configured <;> cases decryptRaises <;>
      cases counts <;> first | exact holds_two rfl | exact List.pairwise_singleton _ _
  | reencryptAllBackups events =>
    refine iff_of_true ?_ trivial
    obtain ⟨passwordRaises, instancesRaise, readRaises, decryptRaises, total, counts, rotation⟩ :=
      events
    cases passwordRaises <;> cases instancesRaise <;> cases readRaises <;> cases decryptRaises <;>
      cases counts <;> first
        | exact holds_two rfl
        | exact List.pairwise_singleton _ _
        | exact List.Pairwise.nil
  | retrieveReplica events =>
    refine iff_of_true ?_ trivial
    obtain ⟨readRaises, found, retrieveRaises⟩ := events
    cases readRaises <;> cases found <;> cases retrieveRaises <;>
      first | exact holds_two rfl | exact List.Pairwise.nil

theorem settled_dispatchMarks (command : Command) (invalid : Bool) :
    Settled .queued (dispatchMarks command invalid) ↔ invalid ∨ CommandSettles command := by
  rw [dispatchMarks, settled_queued]
  cases invalid with
  | true => exact iff_of_true List.Pairwise.nil (.inl rfl)
  | false => exact (holds_handler command).trans (by simp)

theorem settled_fireMarks (readJobRaises : Bool) (events : InstanceEvents) :
    Settled .queued (fireMarks readJobRaises events) ↔
      readJobRaises ∨ ¬ (events.completes ∧ marksFailure events) := by
  have settled := @settled_queued (do
    call readJobRaises
    let _ ← backupInstance events
    return () : Marking Unit).marks false
  rw [if_neg Bool.false_ne_true, List.append_nil] at settled
  rw [fireMarks]
  refine settled.trans ?_
  rw [bind_unit]
  cases readJobRaises with
  | true => exact iff_of_true List.Pairwise.nil (.inl rfl)
  | false => exact (holds_backupInstance events).trans (by simp)

/-! ### Runs -/

/-- Where a job's command is: with the web service, in a queue, or at its handler in a worker. -/
inductive Stage where
  | unsent | undelivered
  | handled (worker : Nat)
  deriving DecidableEq

/-- A job's command, with the marks that are still to come. -/
structure Task where
  stage : Stage
  marks : List Mark
  deriving DecidableEq

structure State where
  jobs : Nat → Option JobStatus
  tasks : Nat → Option Task

/-- `_mark_stale_jobs`. -/
def markStaleJobs (jobs : Nat → Option JobStatus) : Nat → Option JobStatus :=
  fun job => (jobs job).map fun status =>
    if status = .running ∨ status = .queued then .failure else status

/-- What is left of the commands when a worker crashes. -/
def withoutWorker (tasks : Nat → Option Task) (worker : Nat) : Nat → Option Task :=
  fun job => (tasks job).filter fun task => task.stage ≠ .handled worker

inductive Op where
  | enqueue (job : Nat) (command : Command) (invalid : Bool)
  | send (job : Nat)
  | lose (job : Nat)
  | deliver (job worker : Nat)
  | fire (job worker : Nat) (readJobRaises : Bool) (events : InstanceEvents)
  | mark (job : Nat)
  | finish (job : Nat)
  | crash (worker : Nat)
  | boot (worker : Nat)

open Function in
inductive Step : State → Op → State → Prop
  | enqueue {state : State} {job : Nat} (command : Command) (invalid : Bool)
      (fresh : state.jobs job = none) :
      Step state (.enqueue job command invalid)
        ⟨update state.jobs job (some .queued),
          update state.tasks job (some ⟨.unsent, dispatchMarks command invalid⟩)⟩
  | send {state : State} {job : Nat} {marks : List Mark}
      (task : state.tasks job = some ⟨.unsent, marks⟩) :
      Step state (.send job) { state with tasks := update state.tasks job (some ⟨.undelivered, marks⟩) }
  -- A command goes down with the process that has it in a socket's buffer.
  | lose {state : State} {job : Nat} {task : Task} (found : state.tasks job = some task)
      (unhandled : ∀ worker, task.stage ≠ .handled worker) :
      Step state (.lose job) { state with tasks := update state.tasks job none }
  | deliver {state : State} {job : Nat} {marks : List Mark} (worker : Nat)
      (task : state.tasks job = some ⟨.undelivered, marks⟩) :
      Step state (.deliver job worker)
        { state with tasks := update state.tasks job (some ⟨.handled worker, marks⟩) }
  -- `_fire` makes its job in the worker.
  | fire {state : State} {job : Nat} (worker : Nat) (readJobRaises : Bool) (events : InstanceEvents)
      (fresh : state.jobs job = none) :
      Step state (.fire job worker readJobRaises events)
        ⟨update state.jobs job (some .queued),
          update state.tasks job (some ⟨.handled worker, fireMarks readJobRaises events⟩)⟩
  | mark {state : State} {job worker : Nat} {mark : Mark} {marks : List Mark}
      (task : state.tasks job = some ⟨.handled worker, mark :: marks⟩) :
      Step state (.mark job)
        ⟨update state.jobs job ((state.jobs job).map mark.on),
          update state.tasks job (some ⟨.handled worker, marks⟩)⟩
  | finish {state : State} {job worker : Nat}
      (task : state.tasks job = some ⟨.handled worker, []⟩) :
      Step state (.finish job) { state with tasks := update state.tasks job none }
  | crash {state : State} (worker : Nat) :
      Step state (.crash worker) { state with tasks := withoutWorker state.tasks worker }
  -- A worker that boots has no handlers yet.
  | boot {state : State} {worker : Nat}
      (new : ∀ job task, state.tasks job = some task → task.stage ≠ .handled worker) :
      Step state (.boot worker) { state with jobs := markStaleJobs state.jobs }

/-- A database with its jobs, before any command and any worker. -/
def start (jobs : Nat → Option JobStatus) : State :=
  ⟨jobs, fun _ => none⟩

/-- Handlers that never move their jobs from an end, and boots while every job with a command in
its queue or at its handler has ended. -/
def Allowed (state : State) : Op → Prop
  | .enqueue _ command invalid => invalid ∨ CommandSettles command
  | .fire _ _ readJobRaises events => readJobRaises ∨ ¬ (events.completes ∧ marksFailure events)
  | .boot _ => ∀ job status, state.tasks job ≠ none → state.jobs job = some status → status.terminal
  | .send _ | .lose _ | .deliver _ _ | .mark _ | .finish _ | .crash _ => True

/-- Each job with a command is there, and the marks to come leave its end alone. -/
def AllSettled (state : State) : Prop :=
  ∀ job task, state.tasks job = some task →
    ∃ status, state.jobs job = some status ∧ Settled status task.marks

/-- Jobs that have ended stay as they are. -/
def Keeps (before after : State) : Prop :=
  ∀ job status, status.terminal → before.jobs job = some status → after.jobs job = some status

theorem Keeps.trans {before middle after : State} (first : Keeps before middle)
    (second : Keeps middle after) : Keeps before after :=
  fun job status terminal found => second job status terminal (first job status terminal found)

section Updates

variable {state : State} {job : Nat} {row : Option JobStatus}

theorem AllSettled.update (settled : AllSettled state) {task : Option Task}
    (own : ∀ found, task = some found → ∃ status, row = some status ∧ Settled status found.marks) :
    AllSettled ⟨Function.update state.jobs job row, Function.update state.tasks job task⟩ := by
  intro other found member
  by_cases same : other = job
  · subst same
    dsimp only at member ⊢
    rw [Function.update_self] at member ⊢
    exact own found member
  · dsimp only at member ⊢
    rw [Function.update_of_ne same] at member ⊢
    exact settled other found member

/-- The command moves on, and its job is left alone. -/
theorem AllSettled.move (settled : AllSettled state) {task : Option Task}
    (own : ∀ found, task = some found → ∃ before, state.tasks job = some before ∧
      before.marks = found.marks) :
    AllSettled { state with tasks := Function.update state.tasks job task } := by
  have updated := @settled.update _ job (state.jobs job) task fun found here => by
    obtain ⟨before, member, same⟩ := own found here
    exact same ▸ settled job before member
  rwa [Function.update_eq_self] at updated

theorem keeps_update {tasks : Nat → Option Task}
    (own : ∀ status, status.terminal → state.jobs job = some status → row = some status) :
    Keeps state ⟨Function.update state.jobs job row, tasks⟩ := by
  intro other status terminal found
  by_cases same : other = job
  · subst same
    dsimp only
    rw [Function.update_self]
    exact own status terminal found
  · dsimp only
    rwa [Function.update_of_ne same]

end Updates

theorem markStaleJobs_terminal {jobs : Nat → Option JobStatus} {job : Nat} {status : JobStatus}
    (terminal : status.terminal) (found : jobs job = some status) :
    markStaleJobs jobs job = some status := by
  rw [markStaleJobs, found]
  cases status with
  | success | failure => rfl
  | queued | running => cases terminal

variable {before after : State} {op : Op}

theorem allSettled_step (settled : AllSettled before) (allowed : Allowed before op)
    (taken : Step before op after) : AllSettled after := by
  cases taken with
  | enqueue command invalid fresh =>
    refine settled.update fun found here => ?_
    cases here
    exact ⟨.queued, rfl, (settled_dispatchMarks command invalid).mpr allowed⟩
  | fire worker readJobRaises events fresh =>
    refine settled.update fun found here => ?_
    cases here
    exact ⟨.queued, rfl, (settled_fireMarks readJobRaises events).mpr allowed⟩
  | send task =>
    refine settled.move fun found here => ?_
    cases here
    exact ⟨_, task, rfl⟩
  | deliver worker task =>
    refine settled.move fun found here => ?_
    cases here
    exact ⟨_, task, rfl⟩
  | lose found unhandled => exact settled.move fun _ here => by cases here
  | finish task => exact settled.move fun _ here => by cases here
  | mark task =>
    obtain ⟨status, row, -, rest⟩ := settled _ _ task
    refine settled.update fun found here => ?_
    cases here
    exact ⟨_, by rw [row, Option.map_some], rest⟩
  | crash worker =>
    intro job task found
    obtain ⟨member, -⟩ := Option.filter_eq_some_iff.mp found
    exact settled job task member
  | boot new =>
    intro job task found
    obtain ⟨status, row, marks⟩ := settled job task found
    have terminal := allowed job status (by rw [found]; exact Option.some_ne_none _) row
    exact ⟨status, markStaleJobs_terminal terminal row, marks⟩

theorem keeps_step (settled : AllSettled before) (taken : Step before op after) :
    Keeps before after := by
  cases taken with
  | enqueue command invalid fresh =>
    exact keeps_update fun _ _ found => absurd (fresh.symm.trans found) (Option.some_ne_none _).symm
  | fire worker readJobRaises events fresh =>
    exact keeps_update fun _ _ found => absurd (fresh.symm.trans found) (Option.some_ne_none _).symm
  | mark task =>
    obtain ⟨status, row, held, -⟩ := settled _ _ task
    refine keeps_update fun old terminal found => ?_
    rw [row] at found ⊢
    obtain rfl := Option.some.inj found
    rw [Option.map_some, held terminal]
  | boot new => exact fun _ _ terminal found => markStaleJobs_terminal terminal found
  | send | deliver | lose | finish | crash => exact fun _ _ _ found => found

theorem allSettled_start (jobs : Nat → Option JobStatus) : AllSettled (start jobs) := by
  intro job task found
  cases found

theorem AllSettled.reach {state : State} (settled : AllSettled before)
    (reached : Reach Step Allowed before state) : AllSettled state :=
  reached.invariant settled fun _ _ _ kept allowed taken => allSettled_step kept allowed taken

theorem AllSettled.keeps {state : State} (settled : AllSettled before)
    (reached : Reach Step Allowed before state) : Keeps before state := by
  induction reached with
  | refl => exact fun _ _ _ found => found
  | tail earlier last ih =>
    obtain ⟨op, -, taken⟩ := last
    exact ih.trans (keeps_step (settled.reach earlier) taken)

/-- Where no handler moves its job from an end, and each worker boots while every job with a
command on its way or in hand has ended, jobs that have ended stay as they are, and a boot fails
none that has a command. -/
theorem ended_jobs_stay {jobs : Nat → Option JobStatus} {state : State}
    (reached : Reach Step Allowed (start jobs) state) :
    (∀ later, Reach Step Allowed state later → Keeps state later) ∧
      ∀ worker after, Allowed state (.boot worker) → Step state (.boot worker) after →
        ∀ job, state.tasks job ≠ none → after.jobs job = state.jobs job := by
  have settled := (allSettled_start jobs).reach reached
  refine ⟨fun later more => settled.keeps more, fun worker after allowed taken job live => ?_⟩
  obtain ⟨task, found⟩ := Option.ne_none_iff_exists'.mp live
  obtain ⟨status, row, -⟩ := settled job task found
  rw [row]
  exact keeps_step settled taken job status (allowed job status live row) row

/-! ### One job -/

/-- A database with nothing but one job. -/
def one (row : Option JobStatus) (task : Option Task) : State :=
  ⟨Function.update (fun _ => none) 1 row, Function.update (fun _ => none) 1 task⟩

theorem one_none : one none none = start fun _ => none := by
  rw [one, start, Function.update_eq_self, Function.update_eq_self]

theorem one_update (row row' : Option JobStatus) (task task' : Option Task) :
    (⟨Function.update (one row task).jobs 1 row', Function.update (one row task).tasks 1 task'⟩ :
      State) = one row' task' := by
  rw [one, one, Function.update_idem, Function.update_idem]

theorem one_move (row : Option JobStatus) (task task' : Option Task) :
    ({ one row task with tasks := Function.update (one row task).tasks 1 task' } : State) =
      one row task' := by
  rw [one, one, Function.update_idem]

theorem one_boot (row : Option JobStatus) (task : Option Task) :
    ({ one row task with jobs := markStaleJobs (one row task).jobs } : State) =
      one (markStaleJobs (fun _ => row) 1) task := by
  rw [one, one, State.mk.injEq]
  refine ⟨funext fun job => ?_, rfl⟩
  by_cases same : job = 1
  · rw [same, Function.update_self]
    rfl
  · rw [markStaleJobs, Function.update_of_ne same]
    dsimp only
    rw [Function.update_of_ne same]
    rfl

theorem one_job {row : Option JobStatus} {task : Option Task} {job : Nat} {status : JobStatus}
    (found : (one row task).jobs job = some status) : row = some status := by
  by_cases same : job = 1
  · rw [one, same] at found
    exact found
  · rw [one] at found
    dsimp only at found
    rw [Function.update_of_ne same] at found
    cases found

theorem one_mark (status : JobStatus) (worker : Nat) (mark : Mark) (marks : List Mark) :
    Step (one (some status) (some ⟨.handled worker, mark :: marks⟩)) (.mark 1)
      (one (some (mark.on status)) (some ⟨.handled worker, marks⟩)) := by
  have taken : Step (one (some status) (some ⟨.handled worker, mark :: marks⟩)) (.mark 1) _ :=
    .mark rfl
  rwa [one_update] at taken

/-- The marks of a backup without incidents. -/
theorem fireMarks_smooth : fireMarks false smooth = [.set .running, .set .success] :=
  rfl

theorem smooth_fired :
    Step (start fun _ => none) (.fire 1 0 false smooth)
      (one (some .queued) (some ⟨.handled 0, [.set .running, .set .success]⟩)) := by
  have taken : Step (one none none) (.fire 1 0 false smooth) _ := .fire 0 false smooth rfl
  rwa [one_update, one_none, fireMarks_smooth] at taken

/-- A cron job runs to its success before another worker boots. -/
theorem smooth_stays : ∃ state, Reach Step Allowed (start fun _ => none) state ∧
    state.jobs 1 = some .success ∧ state.tasks 1 ≠ none ∧ Allowed state (.boot 1) ∧
      ((∀ later, Reach Step Allowed state later → Keeps state later) ∧
        ∀ worker after, Allowed state (.boot worker) → Step state (.boot worker) after →
          ∀ job, state.tasks job ≠ none → after.jobs job = state.jobs job) := by
  have allowed : Allowed (start fun _ => none) (.fire 1 0 false smooth) := Or.inr (by decide)
  have fired := Reach.snoc .refl allowed smooth_fired
  have running : Reach Step Allowed _ _ :=
    fired.tail ⟨.mark 1, trivial, one_mark .queued 0 (.set .running) [.set .success]⟩
  have ended : Reach Step Allowed _ _ :=
    running.tail ⟨.mark 1, trivial, one_mark .running 0 (.set .success) []⟩
  refine ⟨_, ended, rfl, Option.some_ne_none _, fun job status _ row => ?_, ended_jobs_stay ended⟩
  cases one_job row
  rfl

/-- A worker that boots before a command is delivered fails the command's job, and the handler
moves the job on from there. -/
theorem undelivered_failed : ∃ queued booted later : State,
    Reach Step unguarded (start fun _ => none) queued ∧
      queued.tasks 1 ≠ none ∧ queued.jobs 1 = some .queued ∧
      Step queued (.boot 0) booted ∧ booted.jobs 1 = some .failure ∧
      Reach Step unguarded booted later ∧ later.jobs 1 = some .running := by
  let marks := [Mark.set .running, .set .success]
  have enqueued : Step (start fun _ => none) (.enqueue 1 (.runBackup smooth) false)
      (one (some .queued) (some ⟨.unsent, marks⟩)) := by
    have taken : Step (one none none) (.enqueue 1 (.runBackup smooth) false) _ :=
      .enqueue (.runBackup smooth) false rfl
    rwa [one_update, one_none] at taken
  have sent : Step (one (some .queued) (some ⟨.unsent, marks⟩)) (.send 1)
      (one (some .queued) (some ⟨.undelivered, marks⟩)) := by
    have taken : Step (one (some .queued) (some ⟨.unsent, marks⟩)) (.send 1) _ := .send rfl
    rwa [one_move] at taken
  have booted : Step (one (some .queued) (some ⟨.undelivered, marks⟩)) (.boot 0)
      (one (some .failure) (some ⟨.undelivered, marks⟩)) := by
    have taken : Step (one (some .queued) (some ⟨.undelivered, marks⟩)) (.boot 0) _ :=
      .boot fun job task found => by
        by_cases same : job = 1
        · subst same
          cases found
          exact Stage.noConfusion
        · rw [one] at found
          dsimp only at found
          rw [Function.update_of_ne same] at found
          cases found
    rwa [one_boot] at taken
  have delivered : Step (one (some .failure) (some ⟨.undelivered, marks⟩)) (.deliver 1 0)
      (one (some .failure) (some ⟨.handled 0, marks⟩)) := by
    have taken : Step (one (some .failure) (some ⟨.undelivered, marks⟩)) (.deliver 1 0) _ :=
      .deliver 0 rfl
    rwa [one_move] at taken
  refine ⟨_, _, _, (Reach.snoc .refl trivial enqueued).snoc trivial sent, Option.some_ne_none _, rfl, booted, rfl,
    (Reach.snoc .refl trivial delivered).snoc trivial (one_mark .failure 0 _ _), rfl⟩

end PfsenseBackups.JobRuns

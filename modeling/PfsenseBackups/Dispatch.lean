import PfsenseBackups.BackupAll

/-! The worker's commands and cron jobs, and whether each one brings its job to an end. -/

namespace PfsenseBackups.Dispatch
open BackupAll Jobs

/-! ### Handlers -/

/-- What happens to `test_connection`. -/
structure TestEvents where
  snapshotRaises : Bool
  found : Bool
  authenticates : Bool
  publishRaises : Bool

/-- What happens to a re-encryption, whose counts are those that `_reencrypt_rows` returns unless
it raises. -/
structure ReencryptEvents where
  readRaises : Bool
  found : Bool
  configured : Bool
  decryptRaises : Bool
  total : Nat
  counts : Option (Nat × Nat)

/-- What happens to `_handle_reencrypt_all_backups`. -/
structure ReencryptAllEvents where
  passwordRaises : Bool
  instancesRaise : Bool
  readRaises : Bool
  decryptRaises : Bool
  total : Nat
  counts : Option (Nat × Nat)
  /-- The instances' passwords are to be changed too, and cannot be. -/
  rotationFails : Bool

structure RetrieveEvents where
  readRaises : Bool
  found : Bool
  retrieveRaises : Bool

/-- The commands that carry a job's id, each with what happens while it is handled. -/
inductive Command where
  | runBackup (events : InstanceEvents)
  | runBackupAll (sweep : Sweep)
  | testConnection (events : TestEvents)
  | sendTestNotification (sendRaises publishRaises : Bool)
  | reencryptBackups (events : ReencryptEvents)
  | reencryptAllBackups (events : ReencryptAllEvents)
  | retrieveReplica (events : RetrieveEvents)

def testConnection (events : TestEvents) : Marking Unit := do
  call events.snapshotRaises
  if !events.found then
    call events.publishRaises
  else
    markJob .running
    markJob (if events.authenticates then .success else .failure)
    call events.publishRaises

def finalizeReencryptJob (success failure totalTasks : Nat) : Marking Unit :=
  let unprocessed := totalTasks - (success + failure)
  markJob (if failure = 0 ∧ unprocessed = 0 then .success else .failure)

def reencryptBackups (events : ReencryptEvents) : Marking Unit := do
  markJob .running
  call events.readRaises
  if !events.found then
    markJob .failure
  else if !events.configured then
    markJob .failure
  else
    call events.decryptRaises
    -- The job is finalized before an exception goes on.
    let (success, failure) := events.counts.getD (0, 0)
    finalizeReencryptJob success failure events.total
    call events.counts.isNone

def reencryptAllBackups (events : ReencryptAllEvents) : Marking Unit := do
  call events.passwordRaises
  call events.instancesRaise
  markJob .running
  call events.readRaises
  call events.decryptRaises
  let (success, failure) := events.counts.getD (0, 0)
  let more := if events.counts.isSome ∧ events.rotationFails then 1 else 0
  finalizeReencryptJob success (failure + more) (events.total + more)
  call events.counts.isNone

def retrieveReplica (events : RetrieveEvents) : Marking Unit := do
  call events.readRaises
  markJob .running
  let retrieval : Marking Unit := do
    call (!events.found)
    call events.retrieveRaises
    markJob .success
  retrieval.orExcept (markJob .failure)

def sendTestNotification (sendRaises publishRaises : Bool) : Marking Unit := do
  call sendRaises
  call publishRaises

def handler : Command → Marking Unit
  | .runBackup events => do
    let _ ← backupInstance events
    return ()
  | .runBackupAll sweep => do
    let _ ← sweep.backupAll
    return ()
  | .testConnection events => testConnection events
  | .sendTestNotification sendRaises publishRaises => sendTestNotification sendRaises publishRaises
  | .reencryptBackups events => reencryptBackups events
  | .reencryptAllBackups events => reencryptAllBackups events
  | .retrieveReplica events => retrieveReplica events

/-- `_fail_orphaned_job`. -/
def failOrphanedJob (status : JobStatus) : JobStatus :=
  if status = .queued ∨ status = .running then .failure else status

/-- The status in which `_dispatch` leaves the queued job of a command. -/
def dispatch (command : Command) (invalid : Bool) : JobStatus :=
  let run : Marking Unit := if invalid then ⟨[], none⟩ else handler command
  match run.result with
  | none => failOrphanedJob (run.status .queued)
  | some _ => run.status .queued

/-- The status in which `_fire` leaves the job that it makes, if it makes one. -/
def fire (usable readJobRaises : Bool) (events : InstanceEvents) : Option JobStatus :=
  if !usable then none
  else
    let run : Marking Unit := do
      call readJobRaises
      let _ ← backupInstance events
      return ()
    some (run.status .queued)

/-! ### Ends -/

theorem terminal_failOrphanedJob (status : JobStatus) : (failOrphanedJob status).terminal := by
  cases status <;> rfl

/-- A handler leaves an end behind, or leaves its job to `_dispatch`. -/
def Resolved (run : Marking Unit) : Prop :=
  run.result = none ∨ (run.status .queued).terminal

theorem terminal_dispatch {command : Command} {invalid : Bool} :
    (dispatch command invalid).terminal ↔ invalid ∨ Resolved (handler command) := by
  cases invalid with
  | true => simp [dispatch, terminal_failOrphanedJob]
  | false =>
    rw [dispatch, Resolved, if_neg (by simp)]
    cases (handler command).result with
    | none => simp [terminal_failOrphanedJob]
    | some _ => simp

theorem bind_unit {α : Type} (run : Marking α) :
    (do
      let _ ← run
      return ()) = (⟨run.marks, run.result.map fun _ => ()⟩ : Marking Unit) := by
  obtain ⟨marks, result⟩ := run
  cases result with
  | none => rfl
  | some value => simp

theorem resolved_backupInstance (events : InstanceEvents) :
    Resolved (handler (.runBackup events)) := by
  rw [handler, bind_unit, Resolved, Option.map_eq_none_iff]
  by_cases short : events.stopsShort = true
  · exact .inl (result_of_stopsShort short)
  · exact .inr (terminal_status.mpr short)

theorem collect_eq_none {sweep : Sweep} {tally : Tally} {rest : List Instance} :
    sweep.collect tally rest = none ↔
      ∃ inst ∈ rest, sweep.outcome inst ≠ none ∧ sweep.lookupRaises inst.id := by
  induction rest generalizing tally with
  | nil => exact iff_of_false nofun nofun
  | cons inst rest ih =>
    rw [Sweep.collect, List.exists_mem_cons_iff]
    cases outcome : sweep.outcome inst with
    | none => simpa using ih
    | some ok =>
      cases raises : sweep.lookupRaises inst.id with
      | true => simp
      | false =>
        dsimp only
        split
        · contradiction
        · split
          · simpa using ih
          · split <;> simpa using ih

/-- The sweep breaks off, or the call that marks the job last goes on to its end. -/
def SweepResolves (sweep : Sweep) : Prop :=
  sweep.readRaises ∨
    (∃ inst ∈ sweep.completed, sweep.outcome inst ≠ none ∧ sweep.lookupRaises inst.id) ∨
      ∃ last, sweep.order.getLast? = some last ∧ ¬ (sweep.events last.1).stopsShort

theorem terminal_order (sweep : Sweep) :
    ((sweep.order.map Prod.snd).getLast?.getD .queued).terminal ↔
      ∃ last, sweep.order.getLast? = some last ∧ ¬ (sweep.events last.1).stopsShort := by
  rw [List.getLast?_map]
  cases found : sweep.order.getLast? with
  | none => exact iff_of_false nofun nofun
  | some last =>
    have own := getLast?_terminal (sweep.interleaves.getLast? found)
    exact own.trans ⟨fun whole => ⟨last, rfl, whole⟩, fun ⟨_, same, whole⟩ =>
      Option.some.inj same ▸ whole⟩

theorem resolved_backupAll (sweep : Sweep) :
    Resolved (handler (.runBackupAll sweep)) ↔ SweepResolves sweep := by
  have broken : sweep.collect ⟨0, [], []⟩ sweep.completed = none ↔
      ∃ inst ∈ sweep.completed, sweep.outcome inst ≠ none ∧ sweep.lookupRaises inst.id :=
    collect_eq_none
  rw [handler, bind_unit, Resolved, Option.map_eq_none_iff, SweepResolves, ← broken,
    ← terminal_order, Sweep.backupAll, Marking.status]
  cases sweep.readRaises with
  | true => simp
  | false =>
    cases sweep.collect ⟨0, [], []⟩ sweep.completed with
    | none => simp
    | some tally => simp

theorem finalizeReencryptJob_eq (success failure totalTasks : Nat) : ∃ status,
    finalizeReencryptJob success failure totalTasks = markJob status ∧ status.terminal := by
  refine ⟨_, rfl, ?_⟩
  split <;> rfl

theorem resolved_reencryptBackups (events : ReencryptEvents) :
    Resolved (handler (.reencryptBackups events)) := by
  obtain ⟨status, finalized, terminal⟩ := finalizeReencryptJob_eq
    (events.counts.getD (0, 0)).1 (events.counts.getD (0, 0)).2 events.total
  rw [handler, reencryptBackups, Resolved]
  cases events.readRaises with
  | true => exact .inl rfl
  | false =>
    cases events.found with
    | false => exact .inr rfl
    | true =>
      cases events.configured with
      | false => exact .inr rfl
      | true =>
        cases events.decryptRaises with
        | true => exact .inl rfl
        | false =>
          dsimp only
          rw [finalized]
          cases events.counts with
          | none => exact .inl rfl
          | some _ => exact .inr terminal

theorem resolved_reencryptAllBackups (events : ReencryptAllEvents) :
    Resolved (handler (.reencryptAllBackups events)) := by
  rw [handler, reencryptAllBackups, Resolved]
  cases events.passwordRaises with
  | true => exact .inl rfl
  | false =>
    cases events.instancesRaise with
    | true => exact .inl rfl
    | false =>
      cases events.readRaises with
      | true => exact .inl rfl
      | false =>
        cases events.decryptRaises with
        | true => exact .inl rfl
        | false =>
          dsimp only
          generalize (if events.counts.isSome ∧ events.rotationFails then 1 else 0) = more
          obtain ⟨status, finalized, terminal⟩ := finalizeReencryptJob_eq
            (events.counts.getD (0, 0)).1 ((events.counts.getD (0, 0)).2 + more)
            (events.total + more)
          rw [finalized]
          cases events.counts with
          | none => exact .inl rfl
          | some _ => exact .inr terminal

/-- What has to happen for a command to bring its job to an end. -/
def Resolves : Command → Prop
  | .runBackupAll sweep => SweepResolves sweep
  | .testConnection events => events.found ∨ events.snapshotRaises ∨ events.publishRaises
  | .sendTestNotification sendRaises publishRaises => sendRaises ∨ publishRaises
  | .runBackup _ | .reencryptBackups _ | .reencryptAllBackups _ | .retrieveReplica _ => True

theorem resolved_iff (command : Command) : Resolved (handler command) ↔ Resolves command := by
  cases command with
  | runBackup events => exact iff_of_true (resolved_backupInstance events) trivial
  | runBackupAll sweep => exact resolved_backupAll sweep
  | testConnection events =>
    obtain ⟨snapshotRaises, found, authenticates, publishRaises⟩ := events
    cases snapshotRaises <;> cases found <;> cases authenticates <;> cases publishRaises <;>
      simp [Resolved, Resolves, handler, testConnection, markJob, Marking.status, JobStatus.terminal]
  | sendTestNotification sendRaises publishRaises =>
    cases sendRaises <;> cases publishRaises <;>
      simp [Resolved, Resolves, handler, sendTestNotification, Marking.status, JobStatus.terminal]
  | reencryptBackups events => exact iff_of_true (resolved_reencryptBackups events) trivial
  | reencryptAllBackups events => exact iff_of_true (resolved_reencryptAllBackups events) trivial
  | retrieveReplica events =>
    obtain ⟨readRaises, found, retrieveRaises⟩ := events
    cases readRaises <;> cases found <;> cases retrieveRaises <;>
      simp [Resolved, Resolves, handler, retrieveReplica, markJob, Marking.status,
        Marking.orExcept, JobStatus.terminal]

/-- A cron job that runs ends unless its backup stops short, since nothing catches its exceptions. -/
theorem terminal_fire {usable readJobRaises : Bool} {events : InstanceEvents} {status : JobStatus}
    (fired : fire usable readJobRaises events = some status) :
    status.terminal ↔ readJobRaises = false ∧ ¬ events.stopsShort := by
  rw [fire] at fired
  split at fired
  · cases fired
  · obtain rfl := Option.some.inj fired
    rw [bind_unit]
    cases readJobRaises with
    | true => exact iff_of_false nofun nofun
    | false =>
      have own : ((backupInstance events).status .queued).terminal ↔ ¬ events.stopsShort :=
        terminal_status
      exact own.trans (by simp)

/-- What sets off a job: a command from the queue, or a cron schedule. -/
inductive Trigger where
  | dispatched (command : Command) (invalid : Bool)
  | scheduled (usable readJobRaises : Bool) (events : InstanceEvents)

/-- The status in which a trigger leaves its job, if there is one. -/
def Trigger.leaves : Trigger → Option JobStatus
  | .dispatched command invalid => some (dispatch command invalid)
  | .scheduled usable readJobRaises events => fire usable readJobRaises events

def Trigger.Resolves : Trigger → Prop
  | .dispatched command invalid => invalid ∨ Dispatch.Resolves command
  | .scheduled _ readJobRaises events => readJobRaises = false ∧ ¬ events.stopsShort

/-- Which commands and cron jobs bring their jobs to an end, and when. -/
theorem jobs_end_iff (trigger : Trigger) {status : JobStatus}
    (left : trigger.leaves = some status) : status.terminal ↔ trigger.Resolves := by
  cases trigger with
  | dispatched command invalid =>
    obtain rfl := Option.some.inj left
    exact terminal_dispatch.trans (or_congr_right (resolved_iff command))
  | scheduled usable readJobRaises events => exact terminal_fire left

def emptySweep : Sweep where
  instances := .empty
  readRaises := false
  events _ := smooth
  order := []
  completed := []
  lookupRaises _ := false
  present _ := true
  interleaves := ⟨nofun, nofun⟩
  completes := .refl _

/-- Jobs that are left queued or running. -/
theorem jobs_left :
    ¬ (dispatch (.runBackupAll emptySweep) false).terminal ∧
      ¬ (dispatch (.sendTestNotification false false) false).terminal ∧
      ¬ (dispatch (.testConnection ⟨false, false, false, false⟩) false).terminal ∧
      ∃ status, fire true false undecryptable = some status ∧ ¬ status.terminal :=
  ⟨nofun, nofun, nofun, _, rfl, nofun⟩

theorem smooth_ends :
    JobStatus.success.terminal ↔ (Trigger.scheduled true false smooth).Resolves :=
  jobs_end_iff (.scheduled true false smooth) rfl

end PfsenseBackups.Dispatch

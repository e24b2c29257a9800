import PfsenseBackups.EffectTraces
import PfsenseBackups.Jobs
import PfsenseBackups.Notifications

/-! `backup_instance` with all that others see of it: the marks of its job, its events, its metrics,
its rows in the history and what it tells the notifier. Any of its calls may raise, and a call that
raises has left nothing. -/

namespace PfsenseBackups.BackupRun
open EffectTraces Jobs
open Notifications (ChangeSummary)

inductive Phase where
  | auth | download | save | cleanup | replicate
  deriving DecidableEq

/-- The events of a backup, without their times. -/
inductive IpcEvent where
  | started (jobId instanceId : Nat) (instanceName : String)
  | progress (jobId instanceId : Nat) (phase : Phase)
  | finished (jobId instanceId : Nat) (filename : String) (sizeBytes : Nat)
  | failed (jobId instanceId : Nat) (error : String)
  deriving DecidableEq

inductive Effect where
  | pingStarts (instanceId : Nat)
  | markJob (jobId : Nat) (status : JobStatus) (message : Option String)
  | publish (event : IpcEvent)
  | recordBackupAttempt (instanceName : String)
  | recordFilesCleaned (instanceName : String) (count : Nat)
  | recordBackupSuccess (instanceName : String)
  | recordBackupFailure (instanceName : String)
  /-- A row of the history. -/
  | addBackup (jobId instanceId : Nat) (success : Bool) (error : Option String)
  | send (isSuccess : Bool) (details : String) (changes : Option ChangeSummary)
  | sendChangeOnly (instanceName : String) (changes : ChangeSummary)
  | sendStale (instanceId : Nat) (detail : String)

/-- The calls that may raise. -/
inductive Call where
  | snapshot | markMissing | publishRefused | markRefused | openSession | pingStarts
  | crossProcessLock | markRunning | publishStarted | recordAttempt
  | hostSemaphore | publishAuth | authenticate | publishDownload | download | publishSave | save
  | publishCleanup | cleanup | recordCleaned | countRetained | recordSuccess | writeHistory
  | loadReplication | publishReplicate | markPending | upload | markSuccess | clearStale
  | publishFinished
  | recordFailure | markFailure | writeFailedHistory | remark | publishFailed | release
  deriving DecidableEq

/-- What `_snapshot` reads of an instance, as far as it decides what others see. -/
structure Snapshot where
  name : String
  backupEncrypt : Bool
  backupEncryptPassword : Option String
  replicate : Bool

/-- What comes of the calls of one run. -/
structure World where
  /-- The text of what a call raises. -/
  failure : Call → Option String
  snapshot : Option Snapshot
  /-- Several worker processes share the volume. -/
  crossProcess : Bool
  authenticated : Bool
  downloaded : Bool
  filename : String
  sizeBytes : Nat
  cleaned : Nat
  /-- What the diffs come to; nothing when they raise. -/
  changes : Option ChangeSummary
  /-- Replication is set up, the new row is still there, and the upload goes through. -/
  replicationOn : Bool
  rowFound : Bool
  uploaded : Bool
  /-- The instance is there, and an alert about its silence has been sent. -/
  staleNotified : Bool
  /-- `f"{duration:.1f}s"`. -/
  duration : String

/-- The arguments of `backup_instance`. -/
structure Request where
  instanceId : Nat
  jobId : Nat
  notify : Bool

section Program

variable (world : World) (request : Request)

/-- A call with an effect. -/
def does (call : Call) (effect : Effect) : Run Effect Unit := do
  Run.call (world.failure call)
  Run.perform effect

/-- `_emit_progress` -/
def emitProgress (call : Call) (phase : Phase) : Run Effect Unit :=
  does world call (.publish (.progress request.jobId request.instanceId phase))

/-- `_notify_result`. What the notifier raises is caught, too. -/
def notifyResult (name : String) (ok : Bool) (detail : String) (changes : Option ChangeSummary) :
    Run Effect Unit :=
  Run.orExcept
    (do
      Run.call (world.failure .openSession)
      if request.notify then Run.perform (.send ok detail changes)
      else
        match changes with
        | none => return
        | some summary => Run.perform (.sendChangeOnly name summary))
    fun _ => return

/-- `_replicate_new_backup`: a note for the job, unless the upload goes through. -/
def replicateNewBackup : Run Effect (Option String) :=
  Run.orExcept
    (do
      Run.call (world.failure .loadReplication)
      if !world.replicationOn then return none
      else
        emitProgress world request .publishReplicate .replicate
        Run.call (world.failure .markPending)
        if !world.rowFound then return none
        else
          Run.call (world.failure .upload)
          if world.uploaded then return none
          else return some "off-site replication failed — queued for retry")
    fun _ => return some "off-site replication errored — queued for retry"

def replicationNote (snap : Snapshot) : Run Effect (Option String) :=
  if snap.replicate then replicateNewBackup world request else pure none

/-- `_clear_stale_flag` -/
def clearStaleFlag (name : String) : Run Effect Unit :=
  Run.orExcept
    (do
      Run.call (world.failure .clearStale)
      Run.onlyIf world.staleNotified (Run.perform
        (.sendStale request.instanceId ("Backups for '" ++ name ++ "' have recovered."))))
    fun _ => return

/-- The phases up to the saved file. -/
def fetchBackup : Run Effect Unit := do
  Run.call (world.failure .hostSemaphore)
  emitProgress world request .publishAuth .auth
  Run.call (world.failure .authenticate)
  if !world.authenticated then Run.raise "authentication failed"
  else
    emitProgress world request .publishDownload .download
    Run.call (world.failure .download)
    if !world.downloaded then Run.raise "config download failed"
    else
      emitProgress world request .publishSave .save
      Run.call (world.failure .save)

def tidyBackups (snap : Snapshot) : Run Effect Unit := do
  emitProgress world request .publishCleanup .cleanup
  Run.call (world.failure .cleanup)
  Run.onlyIf (0 < world.cleaned)
    (does world .recordCleaned (.recordFilesCleaned snap.name world.cleaned))
  Run.call (world.failure .countRetained)

/-- From the metric of the success to its event. -/
def concludeBackup (snap : Snapshot) : Run Effect Bool := do
  does world .recordSuccess (.recordBackupSuccess snap.name)
  does world .writeHistory (.addBackup request.jobId request.instanceId true none)
  let note ← replicationNote world request snap
  does world .markSuccess (.markJob request.jobId .success note)
  clearStaleFlag world request snap.name
  does world .publishFinished
    (.publish (.finished request.jobId request.instanceId world.filename world.sizeBytes))
  notifyResult world request snap.name true
    ("Backup succeeded for " ++ snap.name ++ " in " ++ world.duration ++ " (" ++
      toString world.sizeBytes ++ " bytes)") world.changes
  return true

/-- The `except` clause. -/
def failBackup (snap : Snapshot) (error : String) : Run Effect Bool := do
  does world .recordFailure (.recordBackupFailure snap.name)
  does world .markFailure (.markJob request.jobId .failure (some error))
  Run.orExcept
    (does world .writeFailedHistory
      (.addBackup request.jobId request.instanceId false (some error)))
    fun historyError =>
      Run.orExcept
        (does world .remark (.markJob request.jobId .failure
          (some (error ++ " (history row not written: " ++ historyError ++ ")"))))
        fun _ => return
  does world .publishFailed (.publish (.failed request.jobId request.instanceId error))
  notifyResult world request snap.name false
    ("Backup failed for " ++ snap.name ++ ": " ++ error) none
  return false

def refusal (name : String) : String :=
  "Backup refused: encryption is on for '" ++ name ++ "' but no encryption password is configured."

/-- `backup_instance` -/
def backupInstance : Run Effect Bool := do
  Run.call (world.failure .snapshot)
  match world.snapshot with
  | none =>
    does world .markMissing (.markJob request.jobId .failure
      (some ("Instance " ++ toString request.instanceId ++ " not found")))
    return false
  | some snap =>
    if snap.backupEncrypt && snap.backupEncryptPassword.getD "" = "" then
      does world .publishRefused
        (.publish (.failed request.jobId request.instanceId (refusal snap.name)))
      does world .markRefused (.markJob request.jobId .failure (some (refusal snap.name)))
      notifyResult world request snap.name false (refusal snap.name) none
      return false
    else
      Run.onlyIf request.notify
        (Run.orExcept (does world .pingStarts (.pingStarts request.instanceId)) fun _ => return)
      Run.onlyIf world.crossProcess (Run.call (world.failure .crossProcessLock))
      does world .markRunning (.markJob request.jobId .running none)
      does world .publishStarted (.publish (.started request.jobId request.instanceId snap.name))
      does world .recordAttempt (.recordBackupAttempt snap.name)
      Run.andFinally
        (Run.orExcept
          (do
            fetchBackup world request
            tidyBackups world request snap
            concludeBackup world request snap)
          (failBackup world request snap))
        (Run.call (if world.crossProcess then world.failure .release else none))

end Program

/-! ### The protocol of a run -/

/-- How far a run has come, for those who watch it. -/
inductive Stage where
  | idle | missing
  | refused | refusalMarked | refusalTold
  | pinged | running | started | attempted
  | phase (phase : Phase)
  | tidied | counted | listed | marked | recovered | finished | finishedTold
  | failing
  | failed (error : String) | rowed (error : String) | remarked (error : String)
  | closed (error : String) | closedTold

/-- The `try` has been entered, and the end is not announced. -/
def Stage.Working : Stage → Prop
  | .attempted | .phase _ | .tidied | .counted | .listed | .marked | .recovered => True
  | _ => False

/-- What the watchers were told in the end. -/
def Stage.outcome : Stage → Option Bool
  | .finished | .finishedTold => some true
  | .missing | .refusalMarked | .refusalTold | .closed _ | .closedTold => some false
  | _ => none

/-- The protocol for an instance of this name, or for a missing one: what may be seen after what. -/
inductive Next (request : Request) : Option String → Stage → Effect → Stage → Prop where
  | missing : Next request none .idle
      (.markJob request.jobId .failure
        (some ("Instance " ++ toString request.instanceId ++ " not found"))) .missing
  | refused {name : String} : Next request (some name) .idle
      (.publish (.failed request.jobId request.instanceId (refusal name))) .refused
  | refusalMarked {name : String} : Next request (some name) .refused
      (.markJob request.jobId .failure (some (refusal name))) .refusalMarked
  | refusalTold {name : String} : request.notify = true → Next request (some name) .refusalMarked
      (.send false (refusal name) none) .refusalTold
  | pinged {name : String} : request.notify = true → Next request (some name) .idle
      (.pingStarts request.instanceId) .pinged
  | running {name : String} {stage : Stage} : stage = .idle ∨ stage = .pinged →
      Next request (some name) stage (.markJob request.jobId .running none) .running
  | started {name : String} : Next request (some name) .running
      (.publish (.started request.jobId request.instanceId name)) .started
  | attempted {name : String} : Next request (some name) .started
      (.recordBackupAttempt name) .attempted
  | auth {name : String} : Next request (some name) .attempted
      (.publish (.progress request.jobId request.instanceId .auth)) (.phase .auth)
  | download {name : String} : Next request (some name) (.phase .auth)
      (.publish (.progress request.jobId request.instanceId .download)) (.phase .download)
  | save {name : String} : Next request (some name) (.phase .download)
      (.publish (.progress request.jobId request.instanceId .save)) (.phase .save)
  | cleanup {name : String} : Next request (some name) (.phase .save)
      (.publish (.progress request.jobId request.instanceId .cleanup)) (.phase .cleanup)
  | tidied {name : String} (count : Nat) : 0 < count → Next request (some name) (.phase .cleanup)
      (.recordFilesCleaned name count) .tidied
  | counted {name : String} {stage : Stage} : stage = .phase .cleanup ∨ stage = .tidied →
      Next request (some name) stage (.recordBackupSuccess name) .counted
  | listed {name : String} : Next request (some name) .counted
      (.addBackup request.jobId request.instanceId true none) .listed
  | replicate {name : String} : Next request (some name) .listed
      (.publish (.progress request.jobId request.instanceId .replicate)) (.phase .replicate)
  | marked {name : String} {stage : Stage} (note : Option String) :
      stage = .listed ∨ stage = .phase .replicate →
        Next request (some name) stage (.markJob request.jobId .success note) .marked
  | recovered {name : String} (detail : String) : Next request (some name) .marked
      (.sendStale request.instanceId detail) .recovered
  | finished {name : String} {stage : Stage} (filename : String) (sizeBytes : Nat) :
      stage = .marked ∨ stage = .recovered → Next request (some name) stage
        (.publish (.finished request.jobId request.instanceId filename sizeBytes)) .finished
  | finishedTold {name : String} (detail : String) (changes : Option ChangeSummary) :
      request.notify = true →
        Next request (some name) .finished (.send true detail changes) .finishedTold
  | changesTold {name : String} (changes : ChangeSummary) : request.notify = false →
      Next request (some name) .finished (.sendChangeOnly name changes) .finishedTold
  | failing {name : String} {stage : Stage} : stage.Working →
      Next request (some name) stage (.recordBackupFailure name) .failing
  | failed {name : String} (error : String) : Next request (some name) .failing
      (.markJob request.jobId .failure (some error)) (.failed error)
  | rowed {name : String} (error : String) : Next request (some name) (.failed error)
      (.addBackup request.jobId request.instanceId false (some error)) (.rowed error)
  | remarked {name : String} (error historyError : String) :
      Next request (some name) (.failed error)
        (.markJob request.jobId .failure
          (some (error ++ " (history row not written: " ++ historyError ++ ")"))) (.remarked error)
  | closed {name : String} {stage : Stage} (error : String) :
      stage = .failed error ∨ stage = .rowed error ∨ stage = .remarked error →
        Next request (some name) stage
          (.publish (.failed request.jobId request.instanceId error)) (.closed error)
  | closedTold {name : String} (error : String) : request.notify = true →
      Next request (some name) (.closed error)
        (.send false ("Backup failed for " ++ name ++ ": " ++ error) none) .closedTold

section Follows

open Protocol

variable (world : World) (request : Request)

section Steps

variable (name : Option String)

theorem does_triple {before after : Stage → Prop} {raised : String → Stage → Prop} {call : Call}
    {effect : Effect}
    (accepts : ∀ stage, before stage → ∃ last, Next request name stage effect last ∧ after last)
    (fails : ∀ text stage, before stage → raised text stage) :
    Triple (Next request name) before (does world call effect) (fun _ => after) raised :=
  .bind (fun _ => before) (.call (fun _ holds => holds) fun text stage _ => fails text stage)
    fun _ => .perform accepts

/-- A step inside the `try`. -/
theorem does_working {first last : Stage} {call : Call} {effect : Effect} (working : first.Working)
    (step : Next request name first effect last) :
    Triple (Next request name) (· = first) (does world call effect) (fun _ => (· = last))
      (fun _ => Stage.Working) :=
  does_triple world request name (fun _ here => ⟨last, here ▸ step, rfl⟩)
    fun _ _ here => here ▸ working

theorem call_working {before : Stage → Prop} (failure : Option String)
    (working : ∀ stage, before stage → stage.Working) :
    Triple (Next request name) before (Run.call failure) (fun _ => before)
      (fun _ => Stage.Working) :=
  .call (fun _ holds => holds) fun _ stage _ holds => working stage holds

theorem call_working_at {first : Stage} (failure : Option String) (working : first.Working) :
    Triple (Next request name) (· = first) (Run.call failure) (fun _ => (· = first))
      (fun _ => Stage.Working) :=
  call_working request name failure fun _ here => here ▸ working

end Steps

section Parts

variable (name : String)

theorem fetchBackup_triple :
    Triple (Next request (some name)) (· = .attempted) (fetchBackup world request)
      (fun _ => (· = .phase .save)) (fun _ => Stage.Working) := by
  rw [fetchBackup]
  refine .bind _ (call_working_at request _ _ trivial) fun _ => ?_
  refine .bind _ (does_working world request _ trivial .auth) fun _ => ?_
  refine .bind _ (call_working_at request _ _ trivial) fun _ => ?_
  refine .ite (fun _ => .raise fun _ here => here ▸ trivial) fun _ => ?_
  refine .bind _ (does_working world request _ trivial .download) fun _ => ?_
  refine .bind _ (call_working_at request _ _ trivial) fun _ => ?_
  refine .ite (fun _ => .raise fun _ here => here ▸ trivial) fun _ => ?_
  refine .bind _ (does_working world request _ trivial .save) fun _ => ?_
  exact call_working_at request _ _ trivial

theorem tidyBackups_triple (snap : Snapshot) :
    Triple (Next request (some snap.name)) (· = .phase .save) (tidyBackups world request snap)
      (fun _ stage => stage = .phase .cleanup ∨ stage = .tidied) (fun _ => Stage.Working) := by
  have working : ∀ stage : Stage, stage = .phase .cleanup ∨ stage = .tidied → stage.Working := by
    rintro _ (rfl | rfl) <;> trivial
  rw [tidyBackups]
  refine .bind _ (does_working world request _ trivial .cleanup) fun _ => ?_
  refine .bind _ (call_working_at request _ _ trivial) fun _ => ?_
  refine .bind _ (.onlyIf (fun some => ?_) fun _ stage here => .inl here) fun _ =>
    call_working request _ _ working
  exact does_triple world request _
    (by rintro _ rfl; exact ⟨_, .tidied _ (of_decide_eq_true some), .inr rfl⟩)
    fun _ _ here => here ▸ trivial

/-- The hook leaves the run where it was, or behind the phase of its own. -/
theorem replicateNewBackup_triple :
    Triple (Next request (some name)) (· = .listed) (replicateNewBackup world request)
      (fun _ stage => stage = .listed ∨ stage = .phase .replicate) (fun _ => Stage.Working) := by
  rw [replicateNewBackup]
  refine .orExcept (fun _ stage => stage = .listed ∨ stage = .phase .replicate) ?_
    fun _ => .pure fun _ here => here
  refine .bind (fun _ => (· = .listed))
    (.call (fun _ here => here) fun _ _ _ here => .inl here) fun _ => ?_
  refine .ite (fun _ => .pure fun _ here => .inl here) fun _ => ?_
  refine .bind (fun _ => (· = .phase .replicate)) ?_ fun _ => ?_
  · exact does_triple world request _ (by rintro _ rfl; exact ⟨_, .replicate, rfl⟩)
      fun _ _ here => .inl here
  refine .bind (fun _ => (· = .phase .replicate))
    (.call (fun _ here => here) fun _ _ _ here => .inr here) fun _ => ?_
  refine .ite (fun _ => .pure fun _ here => .inr here) fun _ => ?_
  refine .bind (fun _ => (· = .phase .replicate))
    (.call (fun _ here => here) fun _ _ _ here => .inr here) fun _ => ?_
  exact .ite (fun _ => .pure fun _ here => .inr here) fun _ => .pure fun _ here => .inr here

theorem clearStaleFlag_triple :
    Triple (Next request (some name)) (· = .marked) (clearStaleFlag world request name)
      (fun _ stage => stage = .marked ∨ stage = .recovered) (fun _ => Stage.Working) := by
  rw [clearStaleFlag]
  refine .orExcept (fun _ => (· = .marked)) ?_ fun _ => .pure fun _ here => .inl here
  refine .bind (fun _ => (· = .marked)) (.call (fun _ here => here) fun _ _ _ here => here)
    fun _ => ?_
  exact .onlyIf (fun _ => .perform fun _ here => ⟨_, here ▸ .recovered _, .inr rfl⟩)
    fun _ _ here => .inl here

/-- The notifier is told once, after the end was announced. -/
theorem notifyResult_triple {before after : Stage → Prop} {raised : String → Stage → Prop}
    (ok : Bool) (detail : String) (changes : Option ChangeSummary)
    (untold : ∀ stage, before stage → after stage)
    (told : request.notify = true → ∀ stage, before stage →
      ∃ last, Next request (some name) stage (.send ok detail changes) last ∧ after last)
    (changed : request.notify = false → ∀ summary ∈ changes, ∀ stage, before stage →
      ∃ last, Next request (some name) stage (.sendChangeOnly name summary) last ∧ after last) :
    Triple (Next request (some name)) before (notifyResult world request name ok detail changes)
      (fun _ => after) raised := by
  unfold notifyResult
  refine .orExcept (fun _ => before) ?_ fun _ => .pure untold
  refine .bind (fun _ => before) (.call (fun _ here => here) fun _ _ _ here => here) fun _ => ?_
  refine .ite (fun notify => .perform (told notify)) fun silent => ?_
  cases changes with
  | none => exact .pure untold
  | some summary => exact .perform (changed (by simpa using silent) summary rfl)

theorem concludeBackup_triple (snap : Snapshot) :
    Triple (Next request (some snap.name))
      (fun stage => stage = .phase .cleanup ∨ stage = .tidied) (concludeBackup world request snap)
      (fun ok stage => stage.outcome = some ok) (fun _ => Stage.Working) := by
  rw [concludeBackup]
  refine .bind (fun _ => (· = .counted)) ?_ fun _ => ?_
  · refine does_triple world request _ (fun _ here => ⟨_, .counted here, rfl⟩) ?_
    rintro _ _ (rfl | rfl) <;> trivial
  refine .bind _ (does_working world request _ trivial .listed) fun _ => ?_
  refine .bind (fun _ stage => stage = .listed ∨ stage = .phase .replicate) ?_ fun note => ?_
  · unfold replicationNote
    exact .ite (fun _ => replicateNewBackup_triple world request snap.name)
      fun _ => .pure fun _ here => .inl here
  refine .bind (fun _ => (· = .marked)) ?_ fun _ => ?_
  · refine does_triple world request _ (fun _ here => ⟨_, .marked note here, rfl⟩) ?_
    rintro _ _ (rfl | rfl) <;> trivial
  refine .bind _ (clearStaleFlag_triple world request snap.name) fun _ => ?_
  refine .bind (fun _ => (· = .finished)) ?_ fun _ => ?_
  · refine does_triple world request _ (fun _ here => ⟨_, .finished _ _ here, rfl⟩) ?_
    rintro _ _ (rfl | rfl) <;> trivial
  refine .bind (fun _ stage => stage.outcome = some true) ?_ fun _ => .pure fun _ here => here
  refine notifyResult_triple world request snap.name true _ world.changes ?_ ?_ ?_
  · rintro _ rfl
    rfl
  · rintro notify _ rfl
    exact ⟨_, .finishedTold _ _ notify, rfl⟩
  · rintro silent summary _ _ rfl
    exact ⟨_, .changesTold summary silent, rfl⟩

theorem failBackup_triple (snap : Snapshot) (error : String) :
    Triple (Next request (some snap.name)) Stage.Working (failBackup world request snap error)
      (fun ok stage => stage.outcome = some ok) (fun _ stage => stage.outcome = none) := by
  have working : ∀ stage : Stage, stage.Working → stage.outcome = none := by
    intro stage working
    cases stage <;> first | rfl | exact working.elim
  rw [failBackup]
  refine .bind (fun _ => (· = .failing)) ?_ fun _ => ?_
  · exact does_triple world request _ (fun _ here => ⟨_, .failing here, rfl⟩)
      fun _ => working
  refine .bind (fun _ => (· = .failed error)) ?_ fun _ => ?_
  · exact does_triple world request _ (by rintro _ rfl; exact ⟨_, .failed error, rfl⟩)
      (by rintro _ _ rfl; rfl)
  refine .bind (fun _ stage => stage = .failed error ∨ stage = .rowed error ∨
    stage = .remarked error) ?_ fun _ => ?_
  · refine .orExcept (fun _ => (· = .failed error)) ?_ fun historyError => ?_
    · exact does_triple world request _
        (by rintro _ rfl; exact ⟨_, .rowed error, .inr (.inl rfl)⟩) fun _ _ here => here
    · refine .orExcept (fun _ => (· = .failed error)) ?_ fun _ => .pure fun _ here => .inl here
      exact does_triple world request _
        (by rintro _ rfl; exact ⟨_, .remarked error historyError, .inr (.inr rfl)⟩)
        fun _ _ here => here
  refine .bind (fun _ => (· = .closed error)) ?_ fun _ => ?_
  · refine does_triple world request _ (fun _ here => ⟨_, .closed error here, rfl⟩) ?_
    rintro _ _ (rfl | rfl | rfl) <;> rfl
  refine .bind (fun _ stage => stage.outcome = some false) ?_ fun _ => .pure fun _ here => here
  refine notifyResult_triple world request snap.name false _ none ?_ ?_ nofun
  · rintro _ rfl
    rfl
  · rintro notify _ rfl
    exact ⟨_, .closedTold error notify, rfl⟩

end Parts

/-- What a run that raises leaves: nothing was announced, or the refusal was and could not be
marked, or the lock could not be given back. -/
def Stopped (stage : Stage) : Prop :=
  stage.outcome = none ∨ ∃ text, world.failure .release = some text

theorem backupInstance_triple :
    Triple (Next request (world.snapshot.map Snapshot.name)) (· = .idle)
      (backupInstance world request) (fun ok stage => stage.outcome = some ok)
      (fun _ stage => Stopped world stage) := by
  rw [backupInstance]
  refine .bind (fun _ => (· = .idle)) ?_ fun _ => ?_
  · exact .call (fun _ here => here) (by rintro _ _ _ rfl; exact .inl rfl)
  cases found : world.snapshot with
  | none =>
    refine .bind (fun _ stage => stage.outcome = some false) ?_ fun _ => .pure fun _ here => here
    exact does_triple world request _ (by rintro _ rfl; exact ⟨_, .missing, rfl⟩)
      (by rintro _ _ rfl; exact .inl rfl)
  | some snap =>
    refine .ite (fun _ => ?_) fun _ => ?_
    · refine .bind (fun _ => (· = .refused)) ?_ fun _ => ?_
      · exact does_triple world request _ (by rintro _ rfl; exact ⟨_, .refused, rfl⟩)
          (by rintro _ _ rfl; exact .inl rfl)
      refine .bind (fun _ => (· = .refusalMarked)) ?_ fun _ => ?_
      · exact does_triple world request _ (by rintro _ rfl; exact ⟨_, .refusalMarked, rfl⟩)
          (by rintro _ _ rfl; exact .inl rfl)
      refine .bind (fun _ stage => stage.outcome = some false) ?_ fun _ => .pure fun _ here => here
      refine notifyResult_triple world request snap.name false _ none ?_ ?_ nofun
      · rintro _ rfl
        rfl
      · rintro notify _ rfl
        exact ⟨_, .refusalTold notify, rfl⟩
    · refine .bind (fun _ stage => stage = .idle ∨ stage = .pinged) ?_ fun _ => ?_
      · refine .onlyIf (fun notify => ?_) fun _ _ here => .inl here
        refine .orExcept (fun _ => (· = .idle)) ?_ fun _ => .pure fun _ here => .inl here
        exact does_triple world request _ (by rintro _ rfl; exact ⟨_, .pinged notify, .inr rfl⟩)
          fun _ _ here => here
      have waiting : ∀ stage : Stage, stage = .idle ∨ stage = .pinged → stage.outcome = none := by
        rintro _ (rfl | rfl) <;> rfl
      refine .bind (fun _ stage => stage = .idle ∨ stage = .pinged) ?_ fun _ => ?_
      · exact .onlyIf (fun _ => .call (fun _ here => here) fun _ _ _ here => .inl (waiting _ here))
          fun _ _ here => here
      refine .bind (fun _ => (· = .running)) ?_ fun _ => ?_
      · exact does_triple world request _ (fun _ here => ⟨_, .running here, rfl⟩)
          fun _ _ here => .inl (waiting _ here)
      refine .bind (fun _ => (· = .started)) ?_ fun _ => ?_
      · exact does_triple world request _ (by rintro _ rfl; exact ⟨_, .started, rfl⟩)
          (by rintro _ _ rfl; exact .inl rfl)
      refine .bind (fun _ => (· = .attempted)) ?_ fun _ => ?_
      · exact does_triple world request _ (by rintro _ rfl; exact ⟨_, .attempted, rfl⟩)
          (by rintro _ _ rfl; exact .inl rfl)
      refine .andFinally (.orExcept (fun _ => Stage.Working) ?_ fun error => ?_) ?_
      · refine .bind _ (fetchBackup_triple world request snap.name) fun _ => ?_
        exact .bind _ (tidyBackups_triple world request snap) fun _ =>
          concludeBackup_triple world request snap
      · exact (failBackup_triple world request snap error).weaken (fun _ here => here)
          (fun _ _ here => here) fun _ _ here => .inl here
      · intro text _ raises
        split at raises
        · exact .inr ⟨text, raises⟩
        · cases raises

end Follows

/-! ### What goes on beside a backup -/

section Aside

variable (world : World) (request : Request) (snap : Snapshot) {kind : Effect → Prop}

theorem does_all (call : Call) {effect : Effect} (holds : kind effect) :
    (does world call effect).All kind :=
  .bind (.call _) fun _ => .perform holds

theorem notifyResult_all (name : String) (ok : Bool) (detail : String)
    (changes : Option ChangeSummary) (sent : kind (.send ok detail changes))
    (changed : ∀ summary, kind (.sendChangeOnly name summary)) :
    (notifyResult world request name ok detail changes).All kind := by
  refine .orExcept (.bind (.call _) fun _ => .ite (.perform sent) ?_) fun _ => .pure ()
  cases changes with
  | none => exact .pure ()
  | some summary => exact .perform (changed summary)

theorem replicationNote_all
    (progress : ∀ phase, kind (.publish (.progress request.jobId request.instanceId phase))) :
    (replicationNote world request snap).All kind :=
  .ite (.orExcept (.bind (.call _) fun _ => .ite (.pure none) <|
    .bind (does_all world _ (progress _)) fun _ => .bind (.call _) fun _ => .ite (.pure none) <|
      .bind (.call _) fun _ => .ite (.pure none) (.pure _)) fun _ => .pure _) (.pure none)

theorem clearStaleFlag_all (name : String)
    (sent : ∀ detail, kind (.sendStale request.instanceId detail)) :
    (clearStaleFlag world request name).All kind :=
  .orExcept (.bind (.call _) fun _ => .onlyIf (.perform (sent _))) fun _ => .pure ()

theorem notifyResult_returns (name : String) (ok : Bool) (detail : String)
    (changes : Option ChangeSummary) :
    (notifyResult world request name ok detail changes).result = .ok () := by
  have returns : ∃ value, (notifyResult world request name ok detail changes).result = .ok value :=
    Run.orExcept_returns _ fun _ => ⟨(), rfl⟩
  exact returns.choose_spec

theorem replicationNote_returns :
    ∃ note, (replicationNote world request snap).result = .ok note := by
  rw [replicationNote]
  split
  · exact Run.orExcept_returns _ fun _ => ⟨_, rfl⟩
  · exact ⟨none, rfl⟩

theorem clearStaleFlag_returns (name : String) :
    (clearStaleFlag world request name).result = .ok () := by
  have returns : ∃ value, (clearStaleFlag world request name).result = .ok value :=
    Run.orExcept_returns _ fun _ => ⟨(), rfl⟩
  exact returns.choose_spec

end Aside

end PfsenseBackups.BackupRun

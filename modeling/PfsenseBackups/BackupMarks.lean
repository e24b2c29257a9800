import PfsenseBackups.BackupRun

/-! What a run of `backup_instance` marks its job with is what the model of its marks alone says. -/

namespace PfsenseBackups.BackupRun
open EffectTraces Jobs

/-- The status that an effect marks the job with. -/
def Effect.mark : Effect → Option JobStatus
  | .markJob _ status _ => some status
  | _ => none

/-- What the job sees of a run. -/
def marking {α : Type} (run : Run Effect α) : Marking α :=
  ⟨run.trace.filterMap Effect.mark, run.result.toOption⟩

/-- What the calls come to, for the job. -/
def eventsOf (world : World) : InstanceEvents where
  raises
    | .snapshot => (world.failure .snapshot).isSome
    | .publishRefused => (world.failure .publishRefused).isSome
    | .crossProcessLock => world.crossProcess && (world.failure .crossProcessLock).isSome
    | .publishStarted => (world.failure .publishStarted).isSome
    | .recordAttempt => (world.failure .recordAttempt).isSome
    | .hostSemaphore => (world.failure .hostSemaphore).isSome
    | .publishAuth => (world.failure .publishAuth).isSome
    | .authenticate => (world.failure .authenticate).isSome || !world.authenticated
    | .publishDownload => (world.failure .publishDownload).isSome
    | .download => (world.failure .download).isSome || !world.downloaded
    | .publishSave => (world.failure .publishSave).isSome
    | .save => (world.failure .save).isSome
    | .publishCleanup => (world.failure .publishCleanup).isSome
    | .cleanup => (world.failure .cleanup).isSome
    | .recordCleaned => 0 < world.cleaned && (world.failure .recordCleaned).isSome
    | .countRetained => (world.failure .countRetained).isSome
    | .recordSuccess => (world.failure .recordSuccess).isSome
    | .writeHistory => (world.failure .writeHistory).isSome
    | .publishFinished => (world.failure .publishFinished).isSome
    | .recordFailure => (world.failure .recordFailure).isSome
    | .writeFailedHistory => (world.failure .writeFailedHistory).isSome
    | .publishFailed => (world.failure .publishFailed).isSome
    | .release => world.crossProcess && (world.failure .release).isSome
  found := world.snapshot.isSome
  refused := world.snapshot.any fun snap =>
    snap.backupEncrypt && snap.backupEncryptPassword.getD "" = ""

section Marking

variable {α β : Type}

theorem marking_bind (first : Run Effect α) (next : α → Run Effect β) :
    marking (first >>= next) = marking first >>= fun value => marking (next value) := by
  obtain ⟨trace, result⟩ := first
  cases result with
  | error text => rfl
  | ok value =>
    rw [Run.bind_ok, marking, List.filterMap_append]
    rfl

theorem marking_pure (value : α) : marking (pure value : Run Effect α) = pure value := rfl

theorem marking_call (failure : Option String) :
    marking (Run.call failure) = Jobs.call failure.isSome := by
  cases failure <;> rfl

theorem marking_orExcept {body : Run Effect α} {handler : String → Run Effect α}
    {caught : Marking α} (same : ∀ text, marking (handler text) = caught) :
    marking (body.orExcept handler) = (marking body).orExcept caught := by
  obtain ⟨trace, result⟩ := body
  cases result with
  | ok value => rfl
  | error text =>
    rw [Run.orExcept_error, marking, List.filterMap_append, ← same text]
    rfl

theorem marking_andFinally (body : Run Effect α) (failure : Option String) :
    marking (body.andFinally (Run.call failure)) =
      (marking body).andFinally failure.isSome := by
  cases failure <;> simp [marking, Run.andFinally, Run.call, Marking.andFinally, Except.toOption]

variable (world : World) (request : Request)

theorem marking_does (call : Call) (effect : Effect) :
    marking (does world call effect) =
      Jobs.call (world.failure call).isSome >>= fun _ => ⟨effect.mark.toList, some ()⟩ := by
  rw [does, marking_bind, marking_call]
  cases found : effect.mark <;> simp [marking, Run.perform, found, Except.toOption]

theorem Marking.bind_assoc {α β γ : Type} (first : Marking α) (second : α → Marking β)
    (third : β → Marking γ) :
    first >>= second >>= third = first >>= fun value => second value >>= third := by
  obtain ⟨marks, _ | value⟩ := first
  · rfl
  rw [Marking.bind_some, Marking.bind_some]
  obtain ⟨later, _ | value⟩ := second value
  · rfl
  · rw [Marking.bind_some, Marking.bind_some, List.append_assoc]

theorem call_or (first second : Bool) :
    Jobs.call (first || second) = Jobs.call first >>= fun _ => Jobs.call second := by
  cases first <;> rfl

theorem marking_raise_or {α : Type} (condition : Bool) (text : String) (run : Run Effect α) :
    marking (if condition then Run.raise text else run) =
      Jobs.call condition >>= fun _ => marking run := by
  cases condition <;> rfl

theorem calls_append (raises : InstanceStep → Bool) (front back : List InstanceStep) :
    calls raises (front ++ back) = calls raises front >>= fun _ => calls raises back := by
  induction front with
  | nil => rfl
  | cons step front ih =>
    rw [List.cons_append, calls, calls, ih, Marking.bind_assoc]

theorem skip_bind {α β : Type} (value : α) (next : α → Marking β) :
    (⟨[], some value⟩ >>= next : Marking β) = next value :=
  rfl

theorem call_done (raises : Bool) : (Jobs.call raises >>= fun _ => pure ()) = Jobs.call raises := by
  cases raises <;> rfl

theorem marking_onlyIf {condition raises : Bool} {body : Run Effect Unit}
    (same : marking body = Jobs.call raises) :
    marking (Run.onlyIf condition body) = Jobs.call (condition && raises) := by
  cases condition with
  | true => exact same
  | false => rfl

/-- What leaves no mark and returns. -/
theorem marking_aside {α : Type} {run : Run Effect α} {value : α}
    (unmarked : run.All fun effect => effect.mark = none) (returns : run.result = .ok value) :
    marking run = ⟨[], some value⟩ := by
  rw [marking, List.filterMap_eq_nil_iff.mpr unmarked, returns]
  rfl

theorem marking_fetchBackup : marking (fetchBackup world request) =
    calls (eventsOf world).raises [.hostSemaphore, .publishAuth, .authenticate, .publishDownload,
      .download, .publishSave, .save] := by
  simp only [fetchBackup, emitProgress, marking_bind, marking_call, marking_does, marking_raise_or,
    calls, eventsOf, call_or, Marking.bind_assoc, Effect.mark, Option.toList, skip_bind, call_done]

theorem marking_tidyBackups (snap : Snapshot) : marking (tidyBackups world request snap) =
    calls (eventsOf world).raises [.publishCleanup, .cleanup, .recordCleaned, .countRetained] := by
  have cleaned : marking (does world .recordCleaned (.recordFilesCleaned snap.name world.cleaned)) =
      Jobs.call (world.failure .recordCleaned).isSome := by
    rw [marking_does]
    exact call_done _
  simp only [tidyBackups, emitProgress, marking_bind, marking_call, marking_does,
    marking_onlyIf cleaned, calls, eventsOf, Marking.bind_assoc, Effect.mark, Option.toList,
    skip_bind, call_done]

theorem marking_concludeBackup (snap : Snapshot) (written : world.failure .markSuccess = none) :
    marking (concludeBackup world request snap) = (do
      calls (eventsOf world).raises [.recordSuccess, .writeHistory]
      Jobs.markJob .success
      Jobs.call ((eventsOf world).raises .publishFinished)
      return true) := by
  obtain ⟨note, noted⟩ := replicationNote_returns world request snap
  have replicated : marking (replicationNote world request snap) = ⟨[], some note⟩ :=
    marking_aside (replicationNote_all world request snap fun _ => rfl) noted
  have cleared : marking (clearStaleFlag world request snap.name) = ⟨[], some ()⟩ :=
    marking_aside (clearStaleFlag_all world request snap.name fun _ => rfl)
      (clearStaleFlag_returns world request snap.name)
  have told (detail : String) :
      marking (notifyResult world request snap.name true detail world.changes) = ⟨[], some ()⟩ :=
    marking_aside
      (notifyResult_all world request snap.name true detail world.changes rfl fun _ => rfl)
      (notifyResult_returns world request snap.name true detail world.changes)
  simp only [concludeBackup, marking_bind, marking_does, replicated, cleared, told, written, calls,
    eventsOf, Marking.bind_assoc, Effect.mark, Option.toList, Marking.pure_def, skip_bind,
    marking_pure, markJob, Option.isSome_none, call_false]

/-- The work of a backup, part by part. -/
theorem marking_work (snap : Snapshot) (written : world.failure .markSuccess = none) :
    marking (do
      fetchBackup world request
      tidyBackups world request snap
      concludeBackup world request snap) = backupWork (eventsOf world).raises := by
  have parts : workSteps = [.hostSemaphore, .publishAuth, .authenticate, .publishDownload,
      .download, .publishSave, .save] ++
        ([.publishCleanup, .cleanup, .recordCleaned, .countRetained] ++
          [.recordSuccess, .writeHistory]) := rfl
  rw [backupWork, parts, calls_append, calls_append, marking_bind, marking_fetchBackup,
    marking_bind, marking_tidyBackups, marking_concludeBackup world request snap written,
    Marking.bind_assoc, Marking.bind_assoc]

theorem marking_failBackup (snap : Snapshot) (error : String)
    (written : world.failure .markFailure = none) (rewritten : world.failure .remark = none) :
    marking (failBackup world request snap error) = backupFailed (eventsOf world).raises := by
  have told (detail : String) :
      marking (notifyResult world request snap.name false detail none) = ⟨[], some ()⟩ :=
    marking_aside (notifyResult_all world request snap.name false detail none rfl fun _ => rfl)
      (notifyResult_returns world request snap.name false detail none)
  have row : marking (does world .writeFailedHistory
      (.addBackup request.jobId request.instanceId false (some error))) =
      Jobs.call (world.failure .writeFailedHistory).isSome := by
    rw [marking_does]
    exact call_done _
  have remarked (historyError : String) : marking (Run.orExcept
      (does world .remark (.markJob request.jobId .failure
        (some (error ++ " (history row not written: " ++ historyError ++ ")"))))
      fun _ => pure ()) = Jobs.markJob .failure := by
    rw [does, rewritten]
    rfl
  simp only [failBackup, backupFailed, marking_bind, marking_does, marking_orExcept remarked, row,
    told, written, eventsOf, Marking.bind_assoc, Effect.mark, Option.toList, Marking.pure_def,
    skip_bind, marking_pure, markJob, Option.isSome_none, call_false]

/-- As long as the row of its job can be written, a run marks the job, and returns, as the model of
its marks alone does. -/
theorem marking_backupInstance (written : ∀ call ∈ [Call.markMissing, .markRefused, .markRunning,
      .markSuccess, .markFailure, .remark], world.failure call = none) :
    marking (backupInstance world request) = Jobs.backupInstance (eventsOf world) := by
  simp only [List.forall_mem_cons] at written
  obtain ⟨missing, refused, running, success, failure, remark, -⟩ := written
  rw [backupInstance, Jobs.backupInstance, marking_bind, marking_call]
  refine congrArg _ (funext fun _ => ?_)
  cases found : world.snapshot with
  | none =>
    have absent : (eventsOf world).found = false := by rw [eventsOf, found]; rfl
    rw [absent, marking_bind, marking_does, missing]
    rfl
  | some snap =>
    have there : (eventsOf world).found = true := by rw [eventsOf, found]; rfl
    have asked : (eventsOf world).refused =
        (snap.backupEncrypt && snap.backupEncryptPassword.getD "" = "") := by
      rw [eventsOf, found]
      rfl
    dsimp only
    rw [there, asked]
    cases snap.backupEncrypt && snap.backupEncryptPassword.getD "" = "" with
    | true =>
      have told : marking (notifyResult world request snap.name false (refusal snap.name) none) =
          ⟨[], some ()⟩ :=
        marking_aside (notifyResult_all world request snap.name false _ none rfl fun _ => rfl)
          (notifyResult_returns world request snap.name false _ none)
      simp only [marking_bind, marking_does, told, refused, Marking.bind_assoc, Effect.mark,
        Option.toList, skip_bind, marking_pure, eventsOf, markJob, call_false, Option.isSome_none,
        Bool.not_true, Bool.false_eq_true, if_false, if_true]
    | false =>
      have pinged : marking (Run.onlyIf request.notify (Run.orExcept
          (does world .pingStarts (.pingStarts request.instanceId)) fun _ => pure ())) =
          ⟨[], some ()⟩ := by
        have returns : ∃ value, (Run.orExcept
            (does world .pingStarts (.pingStarts request.instanceId)) fun _ => pure ()).result =
            .ok value := Run.orExcept_returns _ fun _ => ⟨(), rfl⟩
        refine (@marking_onlyIf _ false _ ?_).trans (by rw [Bool.and_false]; rfl)
        exact marking_aside (.orExcept (does_all world _ rfl) fun _ => .pure ()) returns.choose_spec
      have locked : marking (Run.onlyIf world.crossProcess
          (Run.call (world.failure .crossProcessLock))) =
          Jobs.call (world.crossProcess && (world.failure .crossProcessLock).isSome) :=
        marking_onlyIf (marking_call _)
      have released : (if world.crossProcess then world.failure .release else none).isSome =
          (world.crossProcess && (world.failure .release).isSome) := by
        cases world.crossProcess <;> rfl
      simp only [marking_bind, marking_does, pinged, locked, marking_andFinally, released,
        marking_orExcept (marking_failBackup world request snap · failure remark),
        marking_work world request snap success, running, Marking.bind_assoc, Effect.mark,
        Option.toList, skip_bind, eventsOf, markJob, call_false, Option.isSome_none,
        Bool.not_true, Bool.false_eq_true, if_false]

end Marking

end PfsenseBackups.BackupRun

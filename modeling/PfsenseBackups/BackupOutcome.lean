import PfsenseBackups.BackupRun

/-! How a backup ends, for those who watch it: its end is announced once, and all are told the same,
but for a backup that fails after it was counted as a success. -/

namespace PfsenseBackups.BackupRun
open EffectTraces Jobs
open Notifications (ChangeSummary)

/-! ### One announcement -/

/-- A terminal event. -/
def Effect.announces : Effect → Bool
  | .publish (.finished ..) | .publish (.failed ..) => true
  | _ => false

/-- Of an instance that is there, how often its end was announced. -/
def Stage.announced : Stage → Nat
  | .refused => 1
  | stage => if stage.outcome.isSome then 1 else 0

theorem Stage.announced_le (stage : Stage) : stage.announced ≤ 1 := by
  cases stage <;> first | exact Nat.le_refl 1 | exact Nat.zero_le 1

theorem Stage.announced_of_outcome {stage : Stage} {ok : Bool} (told : stage.outcome = some ok) :
    stage.announced = 1 := by
  cases stage <;> first | rfl | cases told

theorem Stage.Working.announced {stage : Stage} (working : stage.Working) :
    stage.announced = 0 := by
  cases stage <;> first | rfl | exact working.elim

/-- Each terminal event announces an end that was not. -/
theorem Next.announces {request : Request} {name : String} (first : Stage) (effect : Effect)
    (last : Stage) (step : Next request (some name) first effect last) :
    last.announced = first.announced + effect.announces.toNat := by
  generalize found : some name = instanceName at step
  cases step with
  | missing => cases found
  | failing working => rw [working.announced]; rfl
  | running before => rcases before with rfl | rfl <;> rfl
  | counted before => rcases before with rfl | rfl <;> rfl
  | marked _ before => rcases before with rfl | rfl <;> rfl
  | finished _ _ before => rcases before with rfl | rfl <;> rfl
  | closed _ before => rcases before with rfl | rfl | rfl <;> rfl
  | _ => rfl

/-- Of a missing instance, no end is announced. -/
theorem Next.silent {request : Request} (first : Stage) (effect : Effect) (last : Stage)
    (step : Next request none first effect last) : 0 = 0 + effect.announces.toNat := by
  generalize missing : none = instanceName at step
  cases step with
  | missing => rfl
  | _ => cases missing

theorem sum_announces (trace : List Effect) :
    (trace.map fun effect => effect.announces.toNat).sum = trace.countP Effect.announces := by
  induction trace with
  | nil => rfl
  | cons effect trace ih =>
    rw [List.map_cons, List.sum_cons, ih, List.countP_cons]
    cases effect.announces <;> simp [Nat.add_comm]

/-- No end is announced twice, and a run that returns has announced the end of its backup, unless
there is no such instance. -/
theorem backupInstance_announces (world : World) (request : Request) :
    (backupInstance world request).trace.countP Effect.announces ≤ 1 ∧
      (world.snapshot.isSome → ∀ ok, (backupInstance world request).result = .ok ok →
        (backupInstance world request).trace.countP Effect.announces = 1) := by
  obtain ⟨last, follows, ends⟩ := backupInstance_triple world request .idle rfl
  cases found : world.snapshot with
  | none =>
    rw [found] at follows
    have silent := follows.sum (fun _ => 0) (fun effect => effect.announces.toNat) Next.silent
    rw [sum_announces] at silent
    exact ⟨by omega, nofun⟩
  | some snap =>
    rw [found] at follows
    have counted :=
      follows.sum Stage.announced (fun effect => effect.announces.toNat) Next.announces
    rw [sum_announces] at counted
    have told : (backupInstance world request).trace.countP Effect.announces = last.announced :=
      (counted.trans (Nat.zero_add _)).symm
    refine ⟨told ▸ last.announced_le, fun _ ok returned => ?_⟩
    rw [returned] at ends
    rw [told, Stage.announced_of_outcome ends]

/-! ### One outcome -/

/-- The outcome that an effect tells of. -/
def Effect.verdict : Effect → Option Bool
  | .markJob _ .success _ => some true
  | .markJob _ .failure _ => some false
  | .publish (.finished ..) => some true
  | .publish (.failed ..) => some false
  | .recordBackupSuccess _ => some true
  | .recordBackupFailure _ => some false
  | .addBackup _ _ success _ => some success
  | .send isSuccess _ _ => some isSuccess
  | _ => none

/-- The job, the events, the metrics, the history, the notices and the caller are told the same. -/
def OneOutcome (run : Run Effect Bool) : Prop :=
  ∃ ok, (∀ effect ∈ run.trace, ∀ told ∈ effect.verdict, told = ok) ∧
    ∀ returned, run.result = .ok returned → returned = ok

section OneOutcome

variable (world : World) (request : Request) (snap : Snapshot)

/-- The calls up to the metric of a success. -/
def callsBefore : List Call :=
  [.snapshot] ++ (if world.crossProcess then [.crossProcessLock] else []) ++
    [.markRunning, .publishStarted, .recordAttempt, .hostSemaphore, .publishAuth, .authenticate,
      .publishDownload, .download, .publishSave, .save, .publishCleanup, .cleanup] ++
    (if 0 < world.cleaned then [.recordCleaned] else []) ++ [.countRetained, .recordSuccess]

/-- A backup that was counted as a success and fails after that. -/
structure LateFailure : Prop where
  accepted : ∃ snap ∈ world.snapshot,
    ¬ (snap.backupEncrypt = true ∧ snap.backupEncryptPassword.getD "" = "")
  before : ∀ call ∈ callsBefore world, world.failure call = none
  authenticated : world.authenticated = true
  downloaded : world.downloaded = true
  late : ∃ call ∈ [Call.writeHistory, .markSuccess, .publishFinished], world.failure call ≠ none
  recorded : world.failure .recordFailure = none

/-- The calls before, phase by phase. -/
theorem callsBefore_succeed : (∀ call ∈ callsBefore world, world.failure call = none) ↔
    world.failure .snapshot = none ∧
      (world.crossProcess = true → world.failure .crossProcessLock = none) ∧
      world.failure .markRunning = none ∧ world.failure .publishStarted = none ∧
      world.failure .recordAttempt = none ∧
      (∀ call ∈ [Call.hostSemaphore, .publishAuth, .authenticate, .publishDownload, .download,
        .publishSave, .save], world.failure call = none) ∧
      (∀ call ∈ [Call.publishCleanup, .cleanup] ++
        (if 0 < world.cleaned then [Call.recordCleaned] else []) ++ [.countRetained],
        world.failure call = none) ∧
      world.failure .recordSuccess = none := by
  rw [callsBefore]
  cases world.crossProcess <;> by_cases some : 0 < world.cleaned <;> simp [some, and_assoc]

variable {world} in
theorem mem_does {call : Call} {effect other : Effect} :
    effect ∈ (does world call other).trace ↔ world.failure call = none ∧ effect = other := by
  simp [does, Run.mem_bind]

variable {world} in
theorem does_eq_ok {call : Call} {effect : Effect} {value : Unit} :
    (does world call effect).result = .ok value ↔ world.failure call = none := by
  simp [does, Run.bind_eq_ok]

/-- The effect tells of no outcome. -/
abbrev Quiet (effect : Effect) : Prop :=
  effect.verdict = none

/-- The effect tells of this outcome, or of none. -/
abbrev Tells (ok : Bool) (effect : Effect) : Prop :=
  ∀ told ∈ effect.verdict, told = ok

theorem Quiet.tells {effect : Effect} (quiet : Quiet effect) (ok : Bool) : Tells ok effect := by
  intro told member
  rw [quiet] at member
  cases member

theorem fetchBackup_quiet : (fetchBackup world request).All Quiet :=
  .bind (.call _) fun _ => .bind (does_all world _ rfl) fun _ => .bind (.call _) fun _ =>
    .ite (.raise _) <| .bind (does_all world _ rfl) fun _ => .bind (.call _) fun _ =>
      .ite (.raise _) <| .bind (does_all world _ rfl) fun _ => .call _

theorem tidyBackups_quiet : (tidyBackups world request snap).All Quiet :=
  .bind (does_all world _ rfl) fun _ => .bind (.call _) fun _ =>
    .bind (.onlyIf (does_all world _ rfl)) fun _ => .call _

theorem fetchBackup_returns : (fetchBackup world request).result = .ok () ↔
    (∀ call ∈ [Call.hostSemaphore, .publishAuth, .authenticate, .publishDownload, .download,
      .publishSave, .save], world.failure call = none) ∧
      world.authenticated = true ∧ world.downloaded = true := by
  simp only [fetchBackup, emitProgress, Run.then_eq_ok, does_eq_ok, Run.call_eq_ok,
    Run.raise_or_eq_ok, List.forall_mem_cons, Bool.not_eq_true', Bool.not_eq_false]
  tauto

theorem tidyBackups_returns : (tidyBackups world request snap).result = .ok () ↔
    ∀ call ∈ [Call.publishCleanup, .cleanup] ++
      (if 0 < world.cleaned then [Call.recordCleaned] else []) ++ [.countRetained],
      world.failure call = none := by
  simp only [tidyBackups, emitProgress, Run.then_eq_ok, does_eq_ok, Run.call_eq_ok,
    Run.onlyIf_eq_ok]
  by_cases some : 0 < world.cleaned
  · simp [some]
  · simp [some]

/-- The end of a success tells of nothing else, and it returns `True`. -/
theorem concludeBackup_tells : (concludeBackup world request snap).All (Tells true) := by
  have told {effect : Effect} (verdict : effect.verdict = some true) : Tells true effect := by
    intro told member
    exact (Option.some.inj (verdict.symm.trans member)).symm
  exact .bind (does_all world _ (told rfl)) fun _ => .bind (does_all world _ (told rfl)) fun _ =>
    .bind (replicationNote_all world request snap nofun) fun _ =>
      .bind (does_all world _ (told rfl)) fun _ =>
        .bind (clearStaleFlag_all world request snap.name nofun) fun _ =>
          .bind (does_all world _ (told rfl)) fun _ =>
            .bind (notifyResult_all world request snap.name true _ world.changes (told rfl) nofun)
              fun _ => .pure true

theorem concludeBackup_returns {ok : Bool} : (concludeBackup world request snap).result = .ok ok ↔
    world.failure .recordSuccess = none ∧
      (∀ call ∈ [Call.writeHistory, .markSuccess, .publishFinished], world.failure call = none) ∧
        true = ok := by
  obtain ⟨note, noted⟩ := replicationNote_returns world request snap
  simp [concludeBackup, Run.then_eq_ok, @Run.bind_eq_ok _ _ _ (replicationNote world request snap),
    noted, does_eq_ok, clearStaleFlag_returns, notifyResult_returns, and_assoc]

/-- A success that was not to be counted has told nothing. -/
theorem concludeBackup_uncounted (fails : world.failure .recordSuccess ≠ none) :
    (concludeBackup world request snap).trace = [] := by
  obtain ⟨text, failure⟩ := Option.ne_none_iff_exists'.mp fails
  simp [concludeBackup, does, Run.call, failure]

theorem concludeBackup_counted (counts : world.failure .recordSuccess = none) :
    .recordBackupSuccess snap.name ∈ (concludeBackup world request snap).trace :=
  Run.mem_bind.mpr (.inl (mem_does.mpr ⟨counts, rfl⟩))

theorem failBackup_tells (error : String) :
    (failBackup world request snap error).All (Tells false) := by
  have told {effect : Effect} (verdict : effect.verdict = some false) : Tells false effect := by
    intro told member
    exact (Option.some.inj (verdict.symm.trans member)).symm
  exact .bind (does_all world _ (told rfl)) fun _ => .bind (does_all world _ (told rfl)) fun _ =>
    .bind (.orExcept (does_all world _ (told rfl)) fun _ => .orExcept (does_all world _ (told rfl))
      fun _ => .pure ()) fun _ => .bind (does_all world _ (told rfl)) fun _ =>
        .bind (notifyResult_all world request snap.name false _ none (told rfl) nofun)
          fun _ => .pure false

theorem failBackup_returns (error : String) {ok : Bool}
    (returned : (failBackup world request snap error).result = .ok ok) : ok = false := by
  simp only [failBackup, Run.then_eq_ok] at returned
  simpa using returned.2.2.2.2.2.symm

theorem failBackup_uncounted {text : String} (failure : world.failure .recordFailure = some text)
    (error : String) : failBackup world request snap error = ⟨[], .error text⟩ := by
  simp [failBackup, does, Run.call, failure]

theorem failBackup_counted (counts : world.failure .recordFailure = none) (error : String) :
    .recordBackupFailure snap.name ∈ (failBackup world request snap error).trace :=
  Run.mem_bind.mpr (.inl (mem_does.mpr ⟨counts, rfl⟩))

/-- What tells of no outcome does not keep a run from one outcome. -/
theorem oneOutcome_bind {first : Run Effect Unit} {next : Unit → Run Effect Bool}
    (quiet : first.All Quiet) :
    OneOutcome (first >>= next) ↔ (first.result = .ok () → OneOutcome (next ())) := by
  obtain ⟨trace, result⟩ := first
  cases result with
  | error text =>
    refine iff_of_true ⟨true, fun effect member => (quiet effect member).tells true, nofun⟩ nofun
  | ok value =>
    have both (ok : Bool) : (⟨trace, .ok value⟩ >>= next : Run Effect Bool).All (Tells ok) ↔
        (next value).All (Tells ok) := by
      constructor
      · exact fun all effect member => all effect (List.mem_append.mpr (.inr member))
      · intro all effect member
        exact (List.mem_append.mp member).elim (fun early => (quiet effect early).tells ok)
          (all effect)
    constructor
    · rintro ⟨ok, tells, returns⟩ -
      exact ⟨ok, (both ok).mp tells, returns⟩
    · intro one
      obtain ⟨ok, tells, returns⟩ := one rfl
      exact ⟨ok, (both ok).mpr tells, returns⟩

/-- A `finally` clause may raise; it tells nobody anything. -/
theorem OneOutcome.andFinally {body : Run Effect Bool} (one : OneOutcome body)
    (failure : Option String) : OneOutcome (body.andFinally (Run.call failure)) := by
  obtain ⟨ok, tells, returns⟩ := one
  refine ⟨ok, fun effect member => tells effect (Run.mem_andFinally.mp member), ?_⟩
  cases failure with
  | none => exact returns
  | some text => nofun

/-- What fails before anything was told is told as a failure. -/
theorem oneOutcome_caught {trace : List Effect} (quiet : ∀ effect ∈ trace, Quiet effect)
    (error : String) :
    OneOutcome (Run.orExcept ⟨trace, .error error⟩ (failBackup world request snap)) := by
  refine ⟨false, fun effect member => ?_, fun ok returned => ?_⟩
  · rcases List.mem_append.mp member with early | late
    · exact (quiet effect early).tells false
    · exact failBackup_tells world request snap error effect late
  · exact failBackup_returns world request snap error returned

theorem not_oneOutcome {run : Run Effect Bool} {name : String}
    (success : .recordBackupSuccess name ∈ run.trace)
    (failure : .recordBackupFailure name ∈ run.trace) : ¬ OneOutcome run := by
  rintro ⟨ok, tells, -⟩
  have succeeded : true = ok := tells _ success true rfl
  have failed : false = ok := tells _ failure false rfl
  exact Bool.noConfusion (succeeded.trans failed.symm)

theorem conclude_oneOutcome {trace : List Effect} (quiet : ∀ effect ∈ trace, Quiet effect)
    (failure : Option String) :
    OneOutcome (Run.andFinally (Run.orExcept (⟨trace ++ (concludeBackup world request snap).trace,
        (concludeBackup world request snap).result⟩) (failBackup world request snap))
        (Run.call failure)) ↔
      ¬ (world.failure .recordSuccess = none ∧
        (∃ call ∈ [Call.writeHistory, .markSuccess, .publishFinished],
          world.failure call ≠ none) ∧ world.failure .recordFailure = none) := by
  have tells :
      ∀ effect ∈ trace ++ (concludeBackup world request snap).trace, Tells true effect := by
    intro effect member
    rcases List.mem_append.mp member with early | late
    · exact (quiet effect early).tells true
    · exact concludeBackup_tells world request snap effect late
  cases result : (concludeBackup world request snap).result with
  | ok ok =>
    obtain ⟨-, all, rfl⟩ := (concludeBackup_returns world request snap).mp result
    refine iff_of_true (OneOutcome.andFinally ⟨true, tells, ?_⟩ failure) ?_
    · rintro returned ⟨⟩
      rfl
    · rintro ⟨-, ⟨call, member, fails⟩, -⟩
      exact fails (all call member)
  | error text =>
    by_cases counts : world.failure .recordSuccess = none
    · by_cases recorded : world.failure .recordFailure = none
      · refine iff_of_false (@not_oneOutcome _ snap.name ?_ ?_) (not_not_intro ?_)
        · refine Run.mem_andFinally.mpr (Run.mem_orExcept.mpr (.inl ?_))
          exact List.mem_append.mpr (.inr (concludeBackup_counted world request snap counts))
        · exact Run.mem_andFinally.mpr (Run.mem_orExcept.mpr
            (.inr ⟨text, rfl, failBackup_counted world request snap recorded text⟩))
        · refine ⟨counts, ?_, recorded⟩
          by_contra nowhere
          have returned := (concludeBackup_returns world request snap).mpr
            ⟨counts, by simpa using nowhere, rfl⟩
          rw [result] at returned
          cases returned
      · obtain ⟨reason, fails⟩ := Option.ne_none_iff_exists'.mp recorded
        refine iff_of_true (OneOutcome.andFinally ⟨true, ?_, ?_⟩ failure)
          fun late => recorded late.2.2
        · simpa [failBackup_uncounted world request snap fails] using tells
        · simp [failBackup_uncounted world request snap fails]
    · refine iff_of_true (OneOutcome.andFinally ?_ failure) fun late => counts late.1
      rw [concludeBackup_uncounted world request snap counts, List.append_nil]
      exact oneOutcome_caught world request snap quiet text

theorem attempt_oneOutcome (failure : Option String) :
    OneOutcome (Run.andFinally
        (Run.orExcept
          (do
            fetchBackup world request
            tidyBackups world request snap
            concludeBackup world request snap)
          (failBackup world request snap))
        (Run.call failure)) ↔
      ¬ ((fetchBackup world request).result = .ok () ∧
        (tidyBackups world request snap).result = .ok () ∧ world.failure .recordSuccess = none ∧
        (∃ call ∈ [Call.writeHistory, .markSuccess, .publishFinished],
          world.failure call ≠ none) ∧ world.failure .recordFailure = none) := by
  have fetching := fetchBackup_quiet world request
  have tidying := tidyBackups_quiet world request snap
  generalize fetchBackup world request = fetched at fetching ⊢
  generalize tidyBackups world request snap = tidied at tidying ⊢
  obtain ⟨fetches, ⟨text⟩ | ⟨⟨⟩⟩⟩ := fetched
  · refine iff_of_true (OneOutcome.andFinally ?_ failure) ?_
    · exact oneOutcome_caught world request snap fetching text
    · rintro ⟨fetched, -⟩
      cases fetched
  obtain ⟨tidies, ⟨text⟩ | ⟨⟨⟩⟩⟩ := tidied
  · refine iff_of_true (OneOutcome.andFinally ?_ failure) ?_
    · refine oneOutcome_caught world request snap (fun effect member => ?_) text
      exact (List.mem_append.mp member).elim (fetching effect) (tidying effect)
    · rintro ⟨-, tidied, -⟩
      cases tidied
  have quiet : ∀ effect ∈ fetches ++ tidies, Quiet effect := fun effect member =>
    (List.mem_append.mp member).elim (fetching effect) (tidying effect)
  simpa using conclude_oneOutcome world request snap quiet failure

theorem OneOutcome.of_tells {run : Run Effect Bool} (ok : Bool) (tells : run.All (Tells ok))
    (returns : ∀ returned, run.result = .ok returned → ok = returned) : OneOutcome run :=
  ⟨ok, tells, fun returned same => (returns returned same).symm⟩

/-- The job, the events, the metrics, the history, the notices and the caller are told the same,
unless the backup fails after it was counted as a success. -/
theorem backupInstance_oneOutcome :
    OneOutcome (backupInstance world request) ↔ ¬ LateFailure world := by
  have failing {effect : Effect} (call : Call) (verdict : effect.verdict = some false) :
      (does world call effect).All (Tells false) := by
    refine does_all world call fun told member => ?_
    exact (Option.some.inj (verdict.symm.trans member)).symm
  rw [backupInstance, oneOutcome_bind (.call _), Run.call_eq_ok]
  cases found : world.snapshot with
  | none =>
    refine iff_of_true (fun _ => .of_tells false (.bind (failing _ rfl) fun _ => .pure false) ?_) ?_
    · simp [Run.then_eq_ok]
    · rintro ⟨⟨snap, member, -⟩⟩
      cases found.symm.trans member
  | some snap =>
    dsimp only
    split
    · rename_i refused
      have refusalTold : Tells false (.send false (refusal snap.name) none) := by
        rintro told ⟨⟩
        rfl
      have changeTold (summary : ChangeSummary) :
          Tells false (.sendChangeOnly snap.name summary) := by
        rintro told ⟨⟩
      refine iff_of_true (fun _ => .of_tells false (.bind (failing _ rfl) fun _ =>
        .bind (failing _ rfl) fun _ =>
          .bind (notifyResult_all world request snap.name false _ none refusalTold changeTold)
            fun _ => .pure false) ?_) ?_
      · simp [Run.then_eq_ok]
      · rintro ⟨⟨other, member, accepted⟩⟩
        cases Option.some.inj (found.symm.trans member)
        exact accepted (by simpa using refused)
    · rename_i accepted
      rw [oneOutcome_bind (.onlyIf (.orExcept (does_all world _ rfl) fun _ => .pure ())),
        oneOutcome_bind (.onlyIf (.call _)), oneOutcome_bind (does_all world _ rfl),
        oneOutcome_bind (does_all world _ rfl), oneOutcome_bind (does_all world _ rfl),
        attempt_oneOutcome, fetchBackup_returns, tidyBackups_returns]
      have pinged : ((does world .pingStarts (.pingStarts request.instanceId)).orExcept
          fun _ => pure ()).result = .ok () :=
        (Run.orExcept_returns _ fun _ => ⟨(), rfl⟩).choose_spec
      simp only [does_eq_ok, Run.onlyIf_eq_ok, Run.call_eq_ok, pinged, implies_true, true_imp_iff]
      have late : LateFailure world ↔ (∀ call ∈ callsBefore world, world.failure call = none) ∧
          world.authenticated = true ∧ world.downloaded = true ∧
          (∃ call ∈ [Call.writeHistory, .markSuccess, .publishFinished],
            world.failure call ≠ none) ∧ world.failure .recordFailure = none :=
        ⟨fun late => ⟨late.before, late.authenticated, late.downloaded, late.late, late.recorded⟩,
          fun parts => ⟨⟨snap, found, by simpa using accepted⟩, parts.1, parts.2.1, parts.2.2.1,
            parts.2.2.2.1, parts.2.2.2.2⟩⟩
      rw [late, callsBefore_succeed]
      constructor
      · rintro one ⟨⟨first, locks, marks, starts, attempts, fetched, tidied, counts⟩, authenticated,
          downloaded, rest⟩
        exact one first locks marks starts attempts
          ⟨⟨fetched, authenticated, downloaded⟩, tidied, counts, rest⟩
      · rintro one first locks marks starts attempts
          ⟨⟨fetched, authenticated, downloaded⟩, tidied, counts, rest⟩
        exact one ⟨⟨first, locks, marks, starts, attempts, fetched, tidied, counts⟩, authenticated,
          downloaded, rest⟩

/-- The row of the instance went while its backup ran. -/
example : LateFailure
    { failure := fun call =>
        if call = .writeHistory then some "FOREIGN KEY constraint failed" else none
      snapshot := some ⟨"edge", false, none, false⟩
      crossProcess := false, authenticated := true, downloaded := true
      filename := "edge.xml", sizeBytes := 1, cleaned := 0, changes := none
      replicationOn := false, rowFound := false, uploaded := false
      staleNotified := false, duration := "0.1s" } where
  accepted := ⟨_, rfl, by decide⟩
  before := by decide
  authenticated := rfl
  downloaded := rfl
  late := ⟨.writeHistory, by decide, by decide⟩
  recorded := rfl

end OneOutcome

end PfsenseBackups.BackupRun

import PfsenseBackups.CronDialects
import PfsenseBackups.Tables

/-! The scheduler's jobs after a reload. `reload_all` drops all instance jobs and adds those of the
database one by one; `reload_instance` edits the job of one instance in place. -/

namespace PfsenseBackups.ScheduleMirror
open CronDialects PythonText Tables

structure Instance where
  id : Nat
  enabled : Bool
  cronExpression : Option String
  cronTimezone : Option String
  deriving DecidableEq

structure Database where
  instances : Table Instance Instance.id
  /-- The default timezone of the settings row, if there is one. -/
  defaultTimezone : Option String

/-- `_default_tz` -/
def Database.defaultTz (db : Database) : String :=
  (truthy db.defaultTimezone).getD "UTC"

/-- The timezone in which an instance's cron text is read. -/
def Database.effectiveTz (db : Database) (inst : Instance) : String :=
  (truthy inst.cronTimezone).getD db.defaultTz

/-! ### The reloads -/

section

variable {Zone : Type} (lib : Libraries Zone) (db : Database)

/-- `_add_or_update` with the row's own schedule: the jobs it leaves, and what it raises. -/
def addInstance (jobs : Jobs) (inst : Instance) : Jobs × Option ZoneError :=
  match addOrUpdate lib jobs inst.id inst.cronExpression (db.effectiveTz inst) with
  | .ok (jobs, _) => (jobs, none)
  | .error raised => (jobs, some raised)

/-- The loop of `load_all_jobs`, which ends where a call raises. -/
def loadJobs (jobs : Jobs) : List Instance → Jobs × Option ZoneError
  | [] => (jobs, none)
  | inst :: rest =>
    match addInstance lib db jobs inst with
    | (jobs, none) => loadJobs jobs rest
    | (jobs, some raised) => (jobs, some raised)

def Database.enabledInstances : List Instance :=
  db.instances.rows.filter Instance.enabled

def loadAllJobs (jobs : Jobs) : Jobs × Option ZoneError :=
  loadJobs lib db jobs db.enabledInstances

/-- `_remove` -/
def remove (jobs : Jobs) (instanceId : Nat) : Jobs :=
  Function.update jobs (jobId instanceId) none

def reloadInstance (jobs : Jobs) (instanceId : Nat) : Jobs × Option ZoneError :=
  match db.instances.get instanceId with
  | none => (remove jobs instanceId, none)
  | some inst =>
    if !inst.enabled || (truthy inst.cronExpression).isNone then (remove jobs instanceId, none)
    else addInstance lib db jobs inst

/-- The ids of instance jobs. -/
def isInstanceJob (id : String) : Bool :=
  startsWith id "instance-"

def reloadAll (jobs : Jobs) : Jobs × Option ZoneError :=
  loadAllJobs lib db fun id => if isInstanceJob id then none else jobs id

/-! ### The database's schedule -/

/-- The job that an instance's current row asks for: none unless it is enabled and its cron text
and timezone are acceptable. -/
def scheduleOf (inst : Instance) : Option Job :=
  if inst.enabled then
    (truthy inst.cronExpression).bind fun cron =>
      if lib.isValid cron then
        match lib.zoneInfo (db.effectiveTz inst) with
        | .error _ => none
        | .ok zone => (lib.fromCrontab cron zone).map fun next => ⟨inst.id, next⟩
      else none
  else none

/-- The registered instance jobs are those of the database. -/
structure Mirrors (jobs : Jobs) : Prop where
  rows : ∀ inst ∈ db.instances.rows, jobs (jobId inst.id) = scheduleOf lib db inst
  others : ∀ id, isInstanceJob id = true → (∀ inst ∈ db.instances.rows, id ≠ jobId inst.id) →
    jobs id = none

/-- The job of one instance is the one of the database. -/
def MirrorsAt (jobs : Jobs) (instanceId : Nat) : Prop :=
  jobs (jobId instanceId) = (db.instances.get instanceId).bind (scheduleOf lib db)

/-- The timezone of a row with a valid cron text is no key at all. -/
def malformed (inst : Instance) : Bool :=
  (truthy inst.cronExpression).any lib.isValid &&
    match lib.zoneInfo (db.effectiveTz inst) with
    | .error (.value _) => true
    | _ => false

variable {lib db}

theorem isInstanceJob_jobId (instanceId : Nat) : isInstanceJob (jobId instanceId) = true := by
  rw [isInstanceJob, startsWith, jobId, String.toList_append, List.isPrefixOf_iff_prefix]
  exact List.prefix_append _ _

theorem jobId_injective : Function.Injective jobId := by
  intro one two same
  have texts := congrArg String.toList same
  rw [jobId, jobId, String.toList_append, String.toList_append] at texts
  have digits := List.append_cancel_left texts
  have numbers := number?_toString one
  rw [digits, number?_toString, Option.some.injEq] at numbers
  exact numbers.symm

theorem scheduleOf_disabled {inst : Instance} (disabled : inst.enabled = false) :
    scheduleOf lib db inst = none := by
  simp [scheduleOf, disabled]

theorem scheduleOf_unscheduled {inst : Instance} (unset : truthy inst.cronExpression = none) :
    scheduleOf lib db inst = none := by
  simp [scheduleOf, unset]

/-- What a call of `_add_or_update` does for an enabled row: without a cron text it removes the job,
with an acceptable schedule it replaces it, and else it leaves what is there. It raises only where
the timezone is malformed. -/
theorem addInstance_eq {jobs : Jobs} {inst : Instance} (enabled : inst.enabled = true) :
    (addInstance lib db jobs inst).1 =
        (if truthy inst.cronExpression = none ∨ (scheduleOf lib db inst).isSome then
          Function.update jobs (jobId inst.id) (scheduleOf lib db inst)
        else jobs) ∧
      ((addInstance lib db jobs inst).2.isSome = malformed lib db inst) := by
  unfold addInstance addOrUpdate
  cases cron : truthy inst.cronExpression with
  | none => simp [scheduleOf_unscheduled cron, malformed, cron]
  | some text =>
    cases valid : lib.isValid text with
    | false => simp [scheduleOf, malformed, cron, valid]
    | true =>
      cases known : lib.zoneInfo (db.effectiveTz inst) with
      | error raised => cases raised <;> simp [scheduleOf, malformed, cron, valid, known]
      | ok zone =>
        cases taken : lib.fromCrontab text zone <;>
          simp [scheduleOf, malformed, cron, valid, known, taken, enabled]

/-- With no job there before, the call leaves the job of the database. -/
theorem addInstance_cleared {jobs : Jobs} {inst : Instance} (enabled : inst.enabled = true)
    (cleared : jobs (jobId inst.id) = none) : (addInstance lib db jobs inst).1 =
      Function.update jobs (jobId inst.id) (scheduleOf lib db inst) := by
  rw [(addInstance_eq enabled).1, ite_eq_left_iff]
  intro refused
  push Not at refused
  rw [Option.not_isSome_iff_eq_none.mp refused.2, ← cleared, Function.update_eq_self]

theorem scheduleOf_malformed {inst : Instance} (raises : malformed lib db inst = true) :
    scheduleOf lib db inst = none := by
  unfold malformed at raises
  unfold scheduleOf
  cases known : lib.zoneInfo (db.effectiveTz inst) with
  | error raised => cases truthy inst.cronExpression <;> simp
  | ok zone => simp [known] at raises

/-- The loop loads the rows up to the first malformed timezone. -/
theorem loadJobs_eq {rows : List Instance} {jobs : Jobs}
    (enabled : ∀ inst ∈ rows, inst.enabled = true) (distinct : (rows.map Instance.id).Nodup)
    (cleared : ∀ inst ∈ rows, jobs (jobId inst.id) = none) (id : String) :
    (loadJobs lib db jobs rows).1 id =
      match (rows.takeWhile fun inst => !malformed lib db inst).find?
        fun inst => jobId inst.id = id with
      | some inst => scheduleOf lib db inst
      | none => jobs id := by
  induction rows generalizing jobs with
  | nil => rfl
  | cons inst rest ih =>
    obtain ⟨own, others⟩ := List.forall_mem_cons.mp enabled
    obtain ⟨free, clear⟩ := List.forall_mem_cons.mp cleared
    obtain ⟨fresh, apart⟩ := List.nodup_cons.mp distinct
    have added : (addInstance lib db jobs inst).1 = _ := addInstance_cleared own free
    have raised : (addInstance lib db jobs inst).2.isSome = _ := (addInstance_eq own).2
    have differ : ∀ other ∈ rest, jobId other.id ≠ jobId inst.id := by
      intro other mem same
      exact fresh (jobId_injective same ▸ List.mem_map_of_mem mem)
    rw [loadJobs, List.takeWhile_cons]
    cases result : addInstance lib db jobs inst with
    | mk after fault =>
      rw [result] at added raised
      subst added
      cases fault with
      | some fault =>
        have raises : malformed lib db inst = true := raised.symm
        rw [scheduleOf_malformed raises, ← free, Function.update_eq_self]
        simp [raises]
      | none =>
        have calm : malformed lib db inst = false := raised.symm
        have clear' : ∀ other ∈ rest,
            Function.update jobs (jobId inst.id) (scheduleOf lib db inst) (jobId other.id) = none :=
          fun other mem => (Function.update_of_ne (differ other mem) _ _).trans (clear other mem)
        rw [calm, Bool.not_false, if_pos rfl, ih others apart clear']
        by_cases own : jobId inst.id = id
        · subst own
          have unseen : (rest.takeWhile fun inst => !malformed lib db inst).find?
              (fun other => jobId other.id = jobId inst.id) = none := by
            apply List.find?_eq_none.mpr
            intro other mem
            simpa using differ other ((List.takeWhile_sublist _).mem mem)
          rw [unseen, List.find?_cons_of_pos (by simp)]
          exact Function.update_self ..
        · rw [List.find?_cons_of_neg (by simpa using own), Function.update_of_ne (Ne.symm own)]

/-! ### When the scheduler mirrors the database -/

/-- The rows that `load_all_jobs` does not get to: those from the first malformed timezone on. -/
def unreached (lib : Libraries Zone) (db : Database) : List Instance :=
  db.enabledInstances.dropWhile fun inst => !malformed lib db inst

theorem enabledInstances_distinct (db : Database) : (db.enabledInstances.map Instance.id).Nodup :=
  db.instances.distinct.sublist (List.filter_sublist.map _)

theorem reloadAll_eq (jobs : Jobs) (id : String) : (reloadAll lib db jobs).1 id =
    match (db.enabledInstances.takeWhile fun inst => !malformed lib db inst).find?
      fun inst => jobId inst.id = id with
    | some inst => scheduleOf lib db inst
    | none => if isInstanceJob id then none else jobs id := by
  apply loadJobs_eq
  · intro inst mem
    exact (List.mem_filter.mp mem).2
  · exact enabledInstances_distinct db
  · intro inst mem
    exact if_pos (isInstanceJob_jobId inst.id)

theorem row_of_jobId {inst other : Instance} (mem : inst ∈ db.instances.rows)
    (mem' : other ∈ db.instances.rows) (same : jobId other.id = jobId inst.id) : other = inst :=
  List.inj_on_of_nodup_map db.instances.distinct mem' mem (jobId_injective same)

/-- Among the rows of the table, a job id finds the row that it is made of. -/
theorem find_row {rows : List Instance} (sub : rows ⊆ db.instances.rows) {inst : Instance}
    (mem : inst ∈ db.instances.rows) :
    rows.find? (fun other => jobId other.id = jobId inst.id) =
      if inst ∈ rows then some inst else none := by
  split
  next inside =>
    cases found : rows.find? fun other => jobId other.id = jobId inst.id with
    | none =>
      have unseen := List.find?_eq_none.mp found inst inside
      simp at unseen
    | some other =>
      have same : jobId other.id = jobId inst.id := by simpa using List.find?_some found
      rw [row_of_jobId mem (sub (List.mem_of_find?_eq_some found)) same]
  next outside =>
    apply List.find?_eq_none.mpr
    intro other inside
    simp only [decide_eq_true_eq]
    intro same
    exact outside (row_of_jobId mem (sub inside) same ▸ inside)

/-- After `reload_all`, the job of a row is the one the row asks for, if the loop gets to it, and
none if not. -/
theorem reloadAll_row (jobs : Jobs) {inst : Instance} (mem : inst ∈ db.instances.rows) :
    (reloadAll lib db jobs).1 (jobId inst.id) =
      if inst ∈ unreached lib db then none else scheduleOf lib db inst := by
  have whole := List.takeWhile_append_dropWhile
    (p := fun inst => !malformed lib db inst) (l := db.enabledInstances)
  have sub : (db.enabledInstances.takeWhile fun inst => !malformed lib db inst) ⊆
      db.instances.rows :=
    fun _ inside => (List.mem_filter.mp ((List.takeWhile_sublist _).mem inside)).1
  have disjoint := List.disjoint_of_nodup_append
    (whole ▸ List.Nodup.of_map _ (enabledInstances_distinct db))
  rw [reloadAll_eq, find_row sub mem]
  split
  next found here =>
    split at here
    next reached =>
      cases here
      have got : inst ∉ unreached lib db := fun missed => disjoint reached missed
      rw [if_neg got]
    next => cases here
  next skipped =>
    split at skipped
    next => cases skipped
    next missed =>
      rw [if_pos (isInstanceJob_jobId inst.id)]
      split
      · rfl
      next reached =>
        symm
        apply scheduleOf_disabled
        rw [Bool.eq_false_iff]
        intro enabled
        have listed : inst ∈ db.enabledInstances := List.mem_filter.mpr ⟨mem, enabled⟩
        rw [← whole, List.mem_append] at listed
        exact listed.elim missed reached

/-- `reload_all` mirrors the database exactly if no acceptable row comes after a row with a
malformed timezone. -/
theorem reloadAll_mirrors_iff (jobs : Jobs) : Mirrors lib db (reloadAll lib db jobs).1 ↔
    ∀ inst ∈ unreached lib db, scheduleOf lib db inst = none := by
  have inside : ∀ inst ∈ unreached lib db, inst ∈ db.instances.rows :=
    fun _ missed => (List.mem_filter.mp ((List.dropWhile_sublist _).mem missed)).1
  constructor
  · intro mirrors inst missed
    have row := mirrors.rows inst (inside inst missed)
    rw [reloadAll_row jobs (inside inst missed), if_pos missed] at row
    exact row.symm
  · intro quiet
    constructor
    · intro inst mem
      rw [reloadAll_row jobs mem]
      split
      next missed => exact (quiet inst missed).symm
      next => rfl
    · intro id own apart
      rw [reloadAll_eq]
      split
      next found here =>
        have mem := (List.takeWhile_sublist _).mem (List.mem_of_find?_eq_some here)
        have same : jobId found.id = id := by simpa using List.find?_some here
        exact absurd same.symm (apart found (List.mem_filter.mp mem).1)
      next => exact if_pos own

/-- `reload_instance` leaves the job of the instance's row, except where it leaves a job that was
there before for a row that is no longer acceptable. -/
theorem reloadInstance_mirrors_iff (jobs : Jobs) (instanceId : Nat) :
    MirrorsAt lib db (reloadInstance lib db jobs instanceId).1 instanceId ↔
      ∀ inst, db.instances.get instanceId = some inst → inst.enabled = true →
        truthy inst.cronExpression ≠ none → scheduleOf lib db inst = none →
          jobs (jobId instanceId) = none := by
  unfold MirrorsAt reloadInstance
  cases found : db.instances.get instanceId with
  | none => simp [remove]
  | some inst =>
    have own : inst.id = instanceId := Table.id_of_get found
    subst own
    simp only [Option.bind_some, Option.some.injEq, forall_eq']
    cases enabled : inst.enabled with
    | false => simp [remove, scheduleOf_disabled enabled]
    | true =>
      cases cron : truthy inst.cronExpression with
      | none => simp [remove, scheduleOf_unscheduled cron]
      | some text =>
        simp only [Bool.not_true, Option.isNone_some, Bool.or_false, Bool.false_eq_true, if_false]
        rw [(addInstance_eq enabled).1, cron]
        cases schedule : scheduleOf lib db inst with
        | none => simp
        | some job => simp

/-- A reload of one instance does not touch the other jobs. -/
theorem reloadInstance_others (jobs : Jobs) (instanceId : Nat) {id : String}
    (other : id ≠ jobId instanceId) :
    (reloadInstance lib db jobs instanceId).1 id = jobs id := by
  unfold reloadInstance
  split
  · exact Function.update_of_ne other _ _
  next inst found =>
    have own : inst.id = instanceId := Table.id_of_get found
    subst own
    split
    · exact Function.update_of_ne other _ _
    next active =>
      have enabled : inst.enabled = true := by
        by_contra disabled
        simp [disabled] at active
      rw [(addInstance_eq enabled).1]
      split
      · exact Function.update_of_ne other _ _
      · rfl

/-- The scheduler mirrors the database after `reload_all` exactly if no acceptable row comes after
one with a malformed timezone, and at one instance after `reload_instance` exactly if no job was
there before for an enabled row with a cron text that is not acceptable. -/
theorem reloads_mirror_iff (lib : Libraries Zone) (db : Database) (jobs : Jobs) :
    (Mirrors lib db (reloadAll lib db jobs).1 ↔
      ∀ inst ∈ unreached lib db, scheduleOf lib db inst = none) ∧
    ∀ instanceId, MirrorsAt lib db (reloadInstance lib db jobs instanceId).1 instanceId ↔
      ∀ inst, db.instances.get instanceId = some inst → inst.enabled = true →
        truthy inst.cronExpression ≠ none → scheduleOf lib db inst = none →
          jobs (jobId instanceId) = none :=
  ⟨reloadAll_mirrors_iff jobs, reloadInstance_mirrors_iff jobs⟩

end

/-! ### A text that only croniter takes -/

/-- One enabled instance in the default timezone. -/
def scheduled (cron : String) : Database where
  instances := ⟨[⟨1, true, some cron, none⟩], List.nodup_singleton _⟩
  defaultTimezone := some "UTC"

/-- The cron text is changed to one that names Sunday 7, which the web accepts and APScheduler
refuses: the job of the text before goes on. -/
theorem refused_lingers :
    let prior := (reloadInstance dialects (scheduled "0 2 * * *") (fun _ => none) 1).1
    let after := (reloadInstance dialects (scheduled "0 2 * * 7") prior 1).1
    (prior (jobId 1)).isSome = true ∧ (after (jobId 1)).isSome = true ∧
      ¬MirrorsAt dialects (scheduled "0 2 * * 7") after 1 := by
  intro prior after
  have taken : ((scheduled "0 2 * * *").instances.get 1).bind
      (scheduleOf dialects (scheduled "0 2 * * *")) ≠ none := by decide
  have refused : ((scheduled "0 2 * * 7").instances.get 1).bind
      (scheduleOf dialects (scheduled "0 2 * * 7")) = none := by decide
  have before : MirrorsAt dialects (scheduled "0 2 * * *") prior 1 :=
    (reloadInstance_mirrors_iff _ 1).mpr fun _ _ _ _ _ => rfl
  have there : prior (jobId 1) ≠ none := before ▸ taken
  have left : ¬MirrorsAt dialects (scheduled "0 2 * * 7") after 1 := by
    intro mirrors
    exact there ((reloadInstance_mirrors_iff prior 1).mp mirrors _ rfl rfl (by decide) refused)
  have lingers : after (jobId 1) ≠ none := fun gone => left (gone.trans refused.symm)
  exact ⟨Option.isSome_iff_ne_none.mpr there, Option.isSome_iff_ne_none.mpr lingers, left⟩

end PfsenseBackups.ScheduleMirror

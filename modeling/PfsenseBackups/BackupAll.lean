import PfsenseBackups.Interleavings
import PfsenseBackups.Jobs
import PfsenseBackups.Tables

/-! The sweep over all enabled instances: their backups run at the same time under one job, and one
report is sent at the end. -/

namespace PfsenseBackups.BackupAll
open Interleavings Jobs Tables

/-! ### The sweep -/

structure Instance where
  id : Nat
  name : String
  enabled : Bool
  deriving DecidableEq

/-- What happens in one run of `backup_all`. -/
structure Sweep where
  instances : Table Instance Instance.id
  /-- The first read of the instances and the settings raises. -/
  readRaises : Bool
  events : Nat → InstanceEvents
  /-- The marks of all the calls of `backup_instance`, in the order in which they are written. -/
  order : List (Nat × JobStatus)
  /-- The instances in the order of `as_completed`. -/
  completed : List Instance
  /-- The row is there, and is read without an exception, once its call has completed. -/
  lookupRaises : Nat → Bool
  present : Nat → Bool
  interleaves : Interleaves ((instances.rows.filter Instance.enabled).map Instance.id)
    (fun id => (backupInstance (events id)).marks) order
  completes : completed.Perm (instances.rows.filter Instance.enabled)

structure Tally where
  successCount : Nat
  failedNames : List String
  succeededNames : List String

/-- What `backup_all` sends. -/
structure Report where
  isSuccess : Bool
  details : String
  failedInstances : List String
  succeededInstances : List String

namespace Sweep

variable (sweep : Sweep)

def enabled : List Instance :=
  sweep.instances.rows.filter Instance.enabled

/-- The outcome of an instance's call: true, false or an exception. -/
def outcome (inst : Instance) : Option Bool :=
  (backupInstance (sweep.events inst.id)).result

/-- The loop over the completed futures. -/
def collect (tally : Tally) : List Instance → Option Tally
  | [] => some tally
  | inst :: rest =>
    match sweep.outcome inst with
    | none => collect tally rest -- The exception is logged.
    | some ok =>
      if sweep.lookupRaises inst.id then none
      else if !sweep.present inst.id then collect tally rest
      else if ok then
        collect { tally with
          successCount := tally.successCount + 1
          succeededNames := tally.succeededNames ++ [inst.name] } rest
      else collect { tally with failedNames := tally.failedNames ++ [inst.name] } rest

def report (tally : Tally) : Report :=
  let total := toString sweep.enabled.length
  let isSuccess := tally.failedNames.isEmpty
  { isSuccess
    details :=
      if isSuccess then "All " ++ total ++ " instance(s) backed up successfully"
      else "Backup completed with failures (" ++ toString tally.successCount ++ "/" ++ total ++
        " successful)"
    failedInstances := tally.failedNames
    succeededInstances := tally.succeededNames }

/-- `backup_all`, with the report that it sends for a value. -/
def backupAll : Marking Report := do
  call sweep.readRaises
  (⟨sweep.order.map Prod.snd, some ()⟩ : Marking Unit)
  match sweep.collect ⟨0, [], []⟩ sweep.completed with
  | none => ⟨[], none⟩
  | some tally => return sweep.report tally

/-! ### The report -/

/-- The report says of each enabled instance what came of it, and of all whether they succeeded. -/
def Truthful (report : Report) : Prop :=
  (report.isSuccess ↔ ∀ inst ∈ sweep.enabled, sweep.outcome inst = some true) ∧
    report.succeededInstances.Perm
      ((sweep.enabled.filter fun inst => sweep.outcome inst = some true).map Instance.name) ∧
    report.failedInstances.Perm
      ((sweep.enabled.filter fun inst => sweep.outcome inst ≠ some true).map Instance.name)

variable {sweep}

/-- The instances with an outcome of their own that are still there. -/
def listed (sweep : Sweep) (ok : Bool) (inst : Instance) : Bool :=
  sweep.outcome inst = some ok && sweep.present inst.id

theorem collect_names {tally tally' : Tally} {rest : List Instance}
    (collected : sweep.collect tally rest = some tally') :
    tally'.succeededNames =
        tally.succeededNames ++ (rest.filter (sweep.listed true)).map Instance.name ∧
      tally'.failedNames =
        tally.failedNames ++ (rest.filter (sweep.listed false)).map Instance.name := by
  induction rest generalizing tally with
  | nil =>
    cases collected
    simp
  | cons inst rest ih =>
    rw [collect] at collected
    cases outcome : sweep.outcome inst with
    | none =>
      rw [outcome] at collected
      have skipped : ∀ ok, sweep.listed ok inst = false := fun ok => by simp [listed, outcome]
      rw [List.filter_cons_of_neg (by simp [skipped]), List.filter_cons_of_neg (by simp [skipped])]
      exact ih collected
    | some ok =>
      rw [outcome] at collected
      dsimp only at collected
      split at collected
      · cases collected
      · by_cases present : sweep.present inst.id = true
        · rw [present, if_neg (by simp)] at collected
          cases ok with
          | true =>
            have one : sweep.listed true inst = true := by simp [listed, outcome, present]
            have other : sweep.listed false inst = false := by simp [listed, outcome]
            rw [List.filter_cons_of_pos one, List.filter_cons_of_neg (by simp [other])]
            simpa using ih collected
          | false =>
            have one : sweep.listed false inst = true := by simp [listed, outcome, present]
            have other : sweep.listed true inst = false := by simp [listed, outcome]
            rw [List.filter_cons_of_neg (by simp [other]), List.filter_cons_of_pos one]
            simpa using ih collected
        · rw [Bool.not_eq_true] at present
          rw [present, Bool.not_false, if_pos rfl] at collected
          have skipped : ∀ ok, sweep.listed ok inst = false := fun ok => by simp [listed, present]
          rw [List.filter_cons_of_neg (by simp [skipped]),
            List.filter_cons_of_neg (by simp [skipped])]
          exact ih collected

/-- What a sweep comes to that sends its report. -/
theorem backupAll_sent {sent : Report} (returned : sweep.backupAll.result = some sent) :
    sweep.readRaises = false ∧ sweep.backupAll.marks = sweep.order.map Prod.snd ∧
      ∃ tally, sweep.collect ⟨0, [], []⟩ sweep.completed = some tally ∧ sent = sweep.report tally := by
  rw [backupAll] at returned ⊢
  cases read : sweep.readRaises with
  | true =>
    rw [read] at returned
    cases returned
  | false =>
    rw [read] at returned
    cases collected : sweep.collect ⟨0, [], []⟩ sweep.completed with
    | none =>
      rw [collected] at returned
      cases returned
    | some tally =>
      rw [collected] at returned
      exact ⟨rfl, by simp, tally, rfl, (Option.some.inj returned).symm⟩

/-- Of two tests, the stronger one holds of all that pass the other if it holds as often. -/
theorem passes_of_count {α : Type} {strong weak : α → Bool} {elements : List α}
    (implies : ∀ element, strong element → weak element)
    (same : (elements.filter strong).length = (elements.filter weak).length) :
    ∀ element ∈ elements, weak element → strong element := by
  have twice : elements.filter strong = (elements.filter weak).filter strong := by
    rw [List.filter_filter]
    refine List.filter_congr fun element _ => ?_
    cases passes : strong element with
    | true => rw [implies element passes, Bool.true_and]
    | false => rw [Bool.false_and]
  have equal : (elements.filter weak).filter strong = elements.filter weak :=
    List.filter_sublist.eq_of_length (twice ▸ same)
  intro element member passes
  exact List.filter_eq_self.mp equal element (List.mem_filter.mpr ⟨member, passes⟩)

theorem listed_of_all {inst : Instance}
    (known : sweep.outcome inst ≠ none ∧ sweep.present inst.id = true) :
    sweep.listed true inst = decide (sweep.outcome inst = some true) ∧
      sweep.listed false inst = decide (sweep.outcome inst ≠ some true) := by
  obtain ⟨returns, present⟩ := known
  rw [listed, listed, present]
  cases outcome : sweep.outcome inst with
  | none => exact absurd outcome returns
  | some ok => cases ok <;> simp

/-- The report is truthful if and only if no call has raised and no instance has gone. -/
theorem report_truthful_iff (sweep : Sweep) (sent : Report)
    (returned : sweep.backupAll.result = some sent) :
    sweep.Truthful sent ↔
      ∀ inst ∈ sweep.enabled, sweep.outcome inst ≠ none ∧ sweep.present inst.id := by
  obtain ⟨-, -, tally, collected, rfl⟩ := backupAll_sent returned
  obtain ⟨succeeded, failed⟩ := collect_names collected
  rw [List.nil_append] at succeeded failed
  have completes : sweep.completed.Perm sweep.enabled := sweep.completes
  constructor
  · rintro ⟨-, sameSucceeded, sameFailed⟩ inst member
    have successes := sameSucceeded.length_eq
    have failures := sameFailed.length_eq
    rw [report, succeeded, List.length_map, List.length_map, (completes.filter _).length_eq]
      at successes
    rw [report, failed, List.length_map, List.length_map, (completes.filter _).length_eq] at failures
    by_cases ok : sweep.outcome inst = some true
    · have here := passes_of_count (fun inst passes => by
        rw [listed, Bool.and_eq_true] at passes
        exact passes.1) successes inst member (decide_eq_true ok)
      rw [listed, Bool.and_eq_true] at here
      exact ⟨by simp [ok], here.2⟩
    · have here := passes_of_count (fun inst passes => by
        rw [listed, Bool.and_eq_true, decide_eq_true_eq] at passes
        simp [passes.1]) failures inst member (decide_eq_true ok)
      rw [listed, Bool.and_eq_true, decide_eq_true_eq] at here
      exact ⟨by simp [here.1], here.2⟩
  · intro known
    have sameTrue : sweep.enabled.filter (sweep.listed true) =
        sweep.enabled.filter fun inst => sweep.outcome inst = some true :=
      List.filter_congr fun inst member => (listed_of_all (known inst member)).1
    have sameFalse : sweep.enabled.filter (sweep.listed false) =
        sweep.enabled.filter fun inst => sweep.outcome inst ≠ some true :=
      List.filter_congr fun inst member => (listed_of_all (known inst member)).2
    have failures := ((completes.filter (sweep.listed false)).map Instance.name)
    rw [sameFalse, ← failed] at failures
    refine ⟨?_, ?_, failures⟩
    · rw [report, List.isEmpty_iff, ← List.length_eq_zero_iff, failures.length_eq, List.length_map,
        List.length_eq_zero_iff, List.filter_eq_nil_iff]
      simp
    · rw [report, succeeded, ← sameTrue]
      exact (completes.filter _).map _

/-! ### The job -/

/-- A status is left only before it is terminal. -/
def Holds (before after : JobStatus) : Prop :=
  before.terminal → after = before

/-- Success says that every backup succeeded, and no terminal status is left on the way. -/
def Reports (sweep : Sweep) : Prop :=
  (sweep.backupAll.status .queued = .success ↔
    ∀ inst ∈ sweep.enabled, sweep.outcome inst = some true) ∧
  List.IsChain Holds (.queued :: sweep.backupAll.marks)

/-- No call starts after another one has come to an end. -/
def StartsFirst (sweep : Sweep) : Prop :=
  sweep.order.Pairwise fun earlier later => earlier.2.terminal → later.2 ≠ .running

instance : IsTrans JobStatus Holds where
  trans first middle last earlier later terminal := by
    obtain rfl := earlier terminal
    exact later terminal

theorem mem_order {event : Nat × JobStatus} (member : event ∈ sweep.order) :
    ∃ inst ∈ sweep.enabled, inst.id = event.1 ∧
      event.2 ∈ (backupInstance (sweep.events inst.id)).marks := by
  obtain ⟨inst, listed, same⟩ := List.mem_map.mp (sweep.interleaves.known member)
  exact ⟨inst, listed, same, same ▸ sweep.interleaves.mem member⟩

theorem order_mem {inst : Instance} (listed : inst ∈ sweep.enabled) {status : JobStatus}
    (marked : status ∈ (backupInstance (sweep.events inst.id)).marks) :
    (inst.id, status) ∈ sweep.order :=
  sweep.interleaves.exists_mem (List.mem_map_of_mem listed) marked

/-- While no call starts after an end, one kind of end is all that can go wrong. -/
theorem chain_of_startsFirst (first : sweep.StartsFirst) (end_ : JobStatus)
    (kinds : ∀ event ∈ sweep.order, event.2 = .running ∨ event.2 = end_) :
    (sweep.order.map Prod.snd).Pairwise Holds := by
  rw [List.pairwise_map]
  refine first.imp_of_mem fun {earlier later} before after starts terminal => ?_
  have ends : ∀ event ∈ sweep.order, event.2 ≠ .running → event.2 = end_ :=
    fun event member => (kinds event member).resolve_left
  rw [ends later after (starts terminal), ends earlier before]
  intro running
  rw [running] at terminal
  cases terminal

theorem last_of_holds {marks : List JobStatus} (chain : marks.Pairwise Holds) {status : JobStatus}
    (terminal : status.terminal) (member : status ∈ marks) : marks.getLast? = some status := by
  obtain ⟨last, found⟩ : ∃ last, marks.getLast? = some last :=
    ⟨_, List.getLast?_eq_some_getLast (List.ne_nil_of_mem member)⟩
  obtain ⟨before, rfl⟩ := List.getLast?_eq_some_iff.mp found
  rcases List.mem_append.mp member with earlier | here
  · have held := (List.pairwise_append.mp chain).2.2 status earlier last List.mem_cons_self
    rw [found, held terminal]
  · rw [found, List.mem_singleton.mp here]

/-- The job reports the run if and only if there is something to run, no call starts after another
one's end, and either all calls succeed or none marks a success. -/
theorem job_reports_iff (sweep : Sweep) (sent : Report)
    (returned : sweep.backupAll.result = some sent) :
    sweep.Reports ↔ sweep.enabled ≠ [] ∧ sweep.StartsFirst ∧
      ((∀ inst ∈ sweep.enabled, (sweep.events inst.id).succeeds) ∨
        ∀ inst ∈ sweep.enabled, ¬ (sweep.events inst.id).completes) := by
  obtain ⟨-, marks, -⟩ := backupAll_sent returned
  have outcomes : (∀ inst ∈ sweep.enabled, sweep.outcome inst = some true) ↔
      ∀ inst ∈ sweep.enabled, (sweep.events inst.id).succeeds :=
    forall₂_congr fun _ _ => result_iff
  rw [Reports, Marking.status, marks, outcomes, List.isChain_iff_pairwise, List.pairwise_cons]
  have queued : ∀ status ∈ sweep.order.map Prod.snd, Holds .queued status :=
    fun _ _ ended => absurd ended Bool.false_ne_true
  constructor
  · rintro ⟨success, -, chain⟩
    refine ⟨fun none => ?_, ?_, ?_⟩
    · have unmarked : sweep.order = [] := by
        refine List.eq_nil_iff_forall_not_mem.mpr fun event member => ?_
        obtain ⟨inst, listed, -⟩ := mem_order member
        rw [none] at listed
        cases listed
      rw [none, unmarked] at success
      have ended := success.mpr fun _ member => absurd member List.not_mem_nil
      cases ended
    · refine (List.pairwise_map.mp chain).imp fun held terminal running => ?_
      have same := held terminal
      rw [running] at same
      rw [← same] at terminal
      cases terminal
    · by_cases some_ : ∃ inst ∈ sweep.enabled, (sweep.events inst.id).completes
      · obtain ⟨inst, listed, completes⟩ := some_
        have marked := List.mem_map_of_mem (f := Prod.snd)
          (order_mem listed (success_mem.mpr completes))
        exact .inl (success.mp (by rw [last_of_holds chain rfl marked]; rfl))
      · exact .inr fun inst listed completes => some_ ⟨inst, listed, completes⟩
  · rintro ⟨some_, first, all | none⟩
    · have kinds : ∀ event ∈ sweep.order, event.2 = .running ∨ event.2 = .success := by
        intro event member
        obtain ⟨inst, listed, -, marked⟩ := mem_order member
        rw [backupInstance_succeeds (all inst listed)] at marked
        simpa using marked
      have chain := chain_of_startsFirst first .success kinds
      refine ⟨iff_of_true ?_ all, queued, chain⟩
      obtain ⟨inst, rest, cons⟩ := List.exists_cons_of_ne_nil some_
      have listed : inst ∈ sweep.enabled := cons ▸ List.mem_cons_self
      have marked : (inst.id, .success) ∈ sweep.order := by
        refine order_mem listed ?_
        rw [backupInstance_succeeds (all inst listed)]
        simp
      rw [last_of_holds chain rfl (List.mem_map_of_mem (f := Prod.snd) marked)]
      rfl
    · have unmarked : .success ∉ sweep.order.map Prod.snd := by
        intro member
        obtain ⟨event, member, same⟩ := List.mem_map.mp member
        obtain ⟨inst, listed, -, marked⟩ := mem_order member
        exact none inst listed (success_mem.mp (same ▸ marked))
      have kinds : ∀ event ∈ sweep.order, event.2 = .running ∨ event.2 = .failure := by
        intro event member
        obtain ⟨inst, listed, -, marked⟩ := mem_order member
        cases status : event.2 with
        | running => exact .inl rfl
        | failure => exact .inr rfl
        | success => exact absurd (status ▸ List.mem_map_of_mem member) unmarked
        | queued => exact absurd (status ▸ marked) queued_not_mem
      refine ⟨iff_of_false (fun last => ?_) fun all => ?_, queued,
        chain_of_startsFirst first .failure kinds⟩
      · cases found : (sweep.order.map Prod.snd).getLast? with
        | none =>
          rw [found] at last
          cases last
        | some status =>
          rw [found] at last
          exact unmarked (last ▸ List.mem_of_getLast? found)
      · obtain ⟨inst, rest, cons⟩ := List.exists_cons_of_ne_nil some_
        have listed : inst ∈ sweep.enabled := cons ▸ List.mem_cons_self
        have succeeds := all inst listed
        rw [InstanceEvents.succeeds, Bool.and_eq_true, Bool.and_eq_true] at succeeds
        exact none inst listed succeeds.1.1

end Sweep

/-! ### Two instances -/

def fleet : Table Instance Instance.id :=
  ⟨[⟨1, "edge", true⟩, ⟨2, "core", true⟩], by decide⟩

def smooth : InstanceEvents :=
  ⟨fun _ => false, true, false⟩

def loginFails : InstanceEvents :=
  ⟨fun step => step = .authenticate, true, false⟩

/-- The credentials do not decrypt under the key. -/
def undecryptable : InstanceEvents :=
  ⟨fun step => step = .snapshot, true, false⟩

/-- A sweep over the two without incidents of its own. -/
def sweepOf (events : Nat → InstanceEvents) (order : List (Nat × JobStatus))
    (known : ∀ event ∈ order, event.1 ∈ [1, 2])
    (same : ∀ id ∈ [1, 2], trace order id = (backupInstance (events id)).marks) : Sweep where
  instances := fleet
  readRaises := false
  events
  order
  completed := fleet.rows
  lookupRaises _ := false
  present _ := true
  interleaves := ⟨fun {event} => known event, fun {id} => same id⟩
  completes := .refl _

def allSmooth : Sweep :=
  sweepOf (fun _ => smooth) [(1, .running), (2, .running), (2, .success), (1, .success)]
    (by decide) (by decide)

theorem allSmooth_truthful : ∃ sent, allSmooth.backupAll.result = some sent ∧
    (allSmooth.Truthful sent ↔ ∀ inst ∈ allSmooth.enabled,
      allSmooth.outcome inst ≠ none ∧ allSmooth.present inst.id) :=
  ⟨_, rfl, Sweep.report_truthful_iff allSmooth _ rfl⟩

theorem allSmooth_reports : ∃ sent, allSmooth.backupAll.result = some sent ∧
    (allSmooth.Reports ↔ allSmooth.enabled ≠ [] ∧ allSmooth.StartsFirst ∧
      ((∀ inst ∈ allSmooth.enabled, (allSmooth.events inst.id).succeeds) ∨
        ∀ inst ∈ allSmooth.enabled, ¬ (allSmooth.events inst.id).completes)) :=
  ⟨_, rfl, Sweep.job_reports_iff allSmooth _ rfl⟩

/-- One call raises, the other one succeeds. -/
def oneRaises : Sweep :=
  sweepOf (fun id => if id = 1 then undecryptable else smooth) [(2, .running), (2, .success)]
    (by decide) (by decide)

/-- The report says that all is well, and does not mention the instance whose call raised. -/
theorem oneRaises_untruthful : ∃ sent, oneRaises.backupAll.result = some sent ∧
    sent.isSuccess = true ∧ sent.failedInstances = [] ∧ ¬ oneRaises.Truthful sent := by
  refine ⟨⟨true, "All 2 instance(s) backed up successfully", [], ["core"]⟩, rfl, rfl, rfl, ?_⟩
  rintro ⟨all, -⟩
  exact absurd (all.mp rfl ⟨1, "edge", true⟩ (by decide)) (by decide)

/-- One login fails before the other backup succeeds. -/
def oneFails : Sweep :=
  sweepOf (fun id => if id = 1 then loginFails else smooth)
    [(1, .running), (2, .running), (1, .failure), (2, .success)] (by decide) (by decide)

/-- The job ends as a success after a failure. -/
theorem oneFails_misreports : (∃ sent, oneFails.backupAll.result = some sent) ∧
    oneFails.backupAll.status .queued = .success ∧ ¬ oneFails.Reports := by
  refine ⟨⟨_, rfl⟩, rfl, fun reports => ?_⟩
  exact absurd (reports.1.mp rfl ⟨1, "edge", true⟩ (by decide)) (by decide)

end PfsenseBackups.BackupAll

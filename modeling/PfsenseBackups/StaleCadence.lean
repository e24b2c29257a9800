import PfsenseBackups.StaleAlerts
import Mathlib.Data.Nat.Find
import Mathlib.Order.WellFounded

/-! Staleness under a schedule that never misses. The threshold is twice the wait between the next
two fires, and the silence at its longest is the wait before the first of them. -/

namespace PfsenseBackups.StaleCadence
open StaleAlerts

/-! ### Sequences of fires -/

/-- Some fire comes after any time. -/
theorem exists_later {fire : Nat → Nat} (increasing : StrictMono fire) (now : Nat) :
    ∃ n, now < fire n :=
  ⟨now + 1, increasing.le_apply⟩

/-- Once there was a fire, there is a last one. -/
theorem exists_last {fire : Nat → Nat} (increasing : StrictMono fire) {now : Nat}
    (started : fire 0 ≤ now) : ∃ n, fire n ≤ now ∧ now < fire (n + 1) := by
  have later := exists_later increasing now
  have found := Nat.find_spec later
  cases first : Nat.find later with
  | zero =>
    rw [first] at found
    omega
  | succ n =>
    rw [first] at found
    have before : ¬now < fire n := Nat.find_min later (by omega)
    exact ⟨n, by omega, found⟩

/-- The fires of a cron expression, from its first one on, without end; `fires` steps through them
from any time. -/
structure FiresAt (fires : String → Nat → Option (Nat × Nat)) (cronExpression : String)
    (fire : Nat → Nat) : Prop where
  written : cronExpression ≠ ""
  increasing : StrictMono fire
  next : ∀ n now, fire n ≤ now → now < fire (n + 1) →
    fires cronExpression now = some (fire (n + 1), fire (n + 2))

/-- The next two of a sequence of fires. -/
def nextTwo {fire : Nat → Nat} (increasing : StrictMono fire) (now : Nat) : Nat × Nat :=
  let n := Nat.find (exists_later increasing now)
  (fire n, fire (n + 1))

/-- Every endless sequence of fires can be stepped through. -/
theorem firesAt_nextTwo {fire : Nat → Nat} (increasing : StrictMono fire) {cronExpression : String}
    (written : cronExpression ≠ "") :
    FiresAt (fun _ now => some (nextTwo increasing now)) cronExpression fire where
  written := written
  increasing := increasing
  next := by
    intro n now fired waiting
    have found : Nat.find (exists_later increasing now) = n + 1 := by
      apply (Nat.find_eq_iff _).mpr
      refine ⟨waiting, ?_⟩
      intro m earlier
      have order := increasing.monotone (Nat.lt_succ_iff.mp earlier)
      omega
    simp only [nextTwo, found]

/-! ### What the check reports -/

section Check

variable (fires : String → Nat → Option (Nat × Nat))

/-- What a check sets the gauge of an instance to, if anything. -/
def gauge (backups : List Backup) (now : Nat) (inst : Instance) : Option Bool :=
  if !inst.enabled || inst.cronExpression.getD "" = "" then some false
  else
    (deriveThreshold fires (inst.cronExpression.getD "") inst.staleAfterHours now).map
      fun threshold => isStale ((lastOk backups inst.id).or inst.createdAt) threshold now

/-- The check reports the instance stale, by its gauge or by an alert. -/
def ReportsStale (backups : List Backup) (now : Nat) (inst : Instance) : Prop :=
  gauge fires backups now inst = some true ∨ alerts fires backups now inst = true

variable {fires}

/-- No alert without the gauge. -/
theorem gauge_of_alerts {backups : List Backup} {now : Nat} {inst : Instance}
    (alerted : alerts fires backups now inst = true) :
    gauge fires backups now inst = some true := by
  unfold alerts at alerted
  unfold gauge
  split at alerted
  · cases alerted
  next scheduled =>
    rw [if_neg scheduled]
    split at alerted
    · cases alerted
    next threshold derived =>
      rw [derived, Option.map_some, (Bool.and_eq_true_iff.mp alerted).1]

/-- A stale instance without a stamp is alerted about. -/
theorem alerts_of_gauge {backups : List Backup} {now : Nat} {inst : Instance}
    (stale : gauge fires backups now inst = some true) (unset : inst.staleNotifiedAt = none) :
    alerts fires backups now inst = true := by
  unfold gauge at stale
  unfold alerts
  split at stale
  · cases stale
  next scheduled =>
    rw [if_neg scheduled]
    obtain ⟨threshold, derived, late⟩ := Option.map_eq_some_iff.mp stale
    simp only [derived, late, unset, due, Bool.and_true]

theorem reportsStale_iff {backups : List Backup} {now : Nat} {inst : Instance} :
    ReportsStale fires backups now inst ↔ gauge fires backups now inst = some true := by
  constructor
  · intro reported
    exact reported.elim id gauge_of_alerts
  · exact Or.inl

/-- A successful backup started exactly at every fire up to now. -/
def Covered (fire : Nat → Nat) (backups : List Backup) (instanceId now : Nat) : Prop :=
  ∀ n, fire n ≤ now → ∃ bkp ∈ backups,
    bkp.instanceId = instanceId ∧ bkp.success = true ∧ bkp.startedAt = fire n

theorem le_lastOk {backups : List Backup} {bkp : Backup} (mem : bkp ∈ backups)
    (success : bkp.success = true) :
    ∃ last, lastOk backups bkp.instanceId = some last ∧ bkp.startedAt ≤ last := by
  have inside : bkp.startedAt ∈ (backups.filter fun other =>
      other.instanceId = bkp.instanceId && other.success).map Backup.startedAt :=
    List.mem_map_of_mem (List.mem_filter.mpr ⟨mem, by simp [success]⟩)
  unfold lastOk
  cases newest : ((backups.filter fun other =>
      other.instanceId = bkp.instanceId && other.success).map Backup.startedAt).max? with
  | none =>
    rw [List.max?_eq_none_iff.mp newest] at inside
    cases inside
  | some last => exact ⟨last, rfl, (List.max?_eq_some_iff.mp newest).2 _ inside⟩

/-- Between two fires the threshold is twice the wait after the next one. -/
theorem gauge_between {fire : Nat → Nat} {cronExpression : String}
    (firesAt : FiresAt fires cronExpression fire) {inst : Instance} (enabled : inst.enabled = true)
    (cron : inst.cronExpression = some cronExpression) (automatic : inst.staleAfterHours = none)
    {n now : Nat} (fired : fire n ≤ now) (waiting : now < fire (n + 1)) (backups : List Backup) :
    gauge fires backups now inst = some
      (isStale ((lastOk backups inst.id).or inst.createdAt)
        (max ((fire (n + 2) - fire (n + 1)) * autoMultiplier) floorHours) now) := by
  simp [gauge, enabled, cron, automatic, deriveThreshold, firesAt.written,
    firesAt.next n now fired waiting]

/-- For no instance with this cron expression and no threshold of its own, at no time after the
first fire, is a schedule that was kept so far reported stale. -/
def NoFalseAlerts (fires : String → Nat → Option (Nat × Nat)) (cronExpression : String)
    (fire : Nat → Nat) : Prop :=
  ∀ inst : Instance, inst.enabled = true → inst.cronExpression = some cronExpression →
    inst.staleAfterHours = none → ∀ backups now, fire 0 ≤ now →
      Covered fire backups inst.id now → ¬ReportsStale fires backups now inst

/-- Every wait is at most twice the wait that follows it, or at most an hour, up to a tick of the
clock. -/
def Even (fire : Nat → Nat) : Prop :=
  ∀ n, fire (n + 1) - fire n ≤
    max ((fire (n + 2) - fire (n + 1)) * autoMultiplier) floorHours + 1

/-- A kept schedule, at a time between two fires. -/
theorem quiet_of_even {fire : Nat → Nat} (even : Even fire) {cronExpression : String}
    (firesAt : FiresAt fires cronExpression fire) : NoFalseAlerts fires cronExpression fire := by
  intro inst enabled cron automatic backups now started covered reported
  obtain ⟨n, fired, waiting⟩ := exists_last firesAt.increasing started
  obtain ⟨bkp, mem, own, success, start⟩ := covered n fired
  obtain ⟨last, newest, recent⟩ := le_lastOk mem success
  rw [reportsStale_iff, gauge_between firesAt enabled cron automatic fired waiting, ← own, newest,
    Option.some_or, isStale, Option.some.injEq, decide_eq_true_eq] at reported
  have wait := even n
  omega

/-- The successful backups of a kept schedule, up to a fire. -/
def kept (fire : Nat → Nat) (instanceId n : Nat) : List Backup :=
  (List.range (n + 1)).map fun i => ⟨instanceId, fire i, true⟩

theorem lastOk_kept {fire : Nat → Nat} (increasing : StrictMono fire) (instanceId n : Nat) :
    lastOk (kept fire instanceId n) instanceId = some (fire n) := by
  have starts : ((kept fire instanceId n).filter fun bkp =>
      bkp.instanceId = instanceId && bkp.success).map Backup.startedAt =
      (List.range (n + 1)).map fire := by
    rw [List.filter_eq_self.mpr, kept, List.map_map]
    · rfl
    · intro bkp mem
      obtain ⟨i, -, rfl⟩ := List.mem_map.mp mem
      simp
  rw [lastOk, starts]
  apply List.max?_eq_some_iff.mpr
  constructor
  · exact List.mem_map_of_mem (List.mem_range.mpr (by omega))
  · intro start mem
    obtain ⟨i, inside, rfl⟩ := List.mem_map.mp mem
    exact increasing.monotone (by simpa [Nat.lt_succ_iff] using inside)

theorem covered_kept {fire : Nat → Nat} (increasing : StrictMono fire) {instanceId n now : Nat}
    (waiting : now < fire (n + 1)) : Covered fire (kept fire instanceId n) instanceId now := by
  intro i fired
  have early : i < n + 1 := increasing.lt_iff_lt.mp (by omega)
  exact ⟨_, List.mem_map_of_mem (List.mem_range.mpr early), rfl, rfl, rfl⟩

/-- An instance that was never alerted about. -/
def plainInstance (cronExpression : String) : Instance :=
  ⟨1, true, some cronExpression, none, none, none⟩

/-- Without a threshold of its own, no kept schedule is reported stale exactly if no wait is longer
than twice the wait that follows it. Irregular schedules are left to the explicit threshold. -/
theorem noFalseAlerts_iff {fire : Nat → Nat} {cronExpression : String}
    (firesAt : FiresAt fires cronExpression fire) :
    NoFalseAlerts fires cronExpression fire ↔ Even fire := by
  constructor
  · intro quiet n
    by_contra long
    have order := firesAt.increasing (Nat.lt_succ_self n)
    have fired : fire n ≤ fire (n + 1) - 1 := by omega
    have waiting : fire (n + 1) - 1 < fire (n + 1) := by omega
    apply quiet (plainInstance cronExpression) rfl rfl rfl (kept fire 1 n) (fire (n + 1) - 1)
      ((firesAt.increasing.monotone (Nat.zero_le n)).trans fired)
      (covered_kept firesAt.increasing waiting)
    have newest : lastOk (kept fire 1 n) (plainInstance cronExpression).id = some (fire n) :=
      lastOk_kept firesAt.increasing 1 n
    rw [reportsStale_iff, gauge_between firesAt rfl rfl rfl fired waiting, newest, Option.some_or,
      isStale, Option.some.injEq, decide_eq_true_eq]
    omega
  · intro even
    exact quiet_of_even even firesAt

end Check

/-! ### Daily, and on weekdays only -/

/-- The fires of "0 2 * * *", from the first one on. -/
def daily (n : Nat) : Nat :=
  (24 * n + 2) * hour

theorem daily_increasing : StrictMono daily := by
  apply strictMono_nat_of_lt_succ
  intro n
  unfold daily hour
  omega

theorem daily_even : Even daily := by
  intro n
  unfold daily autoMultiplier floorHours hour
  omega

theorem daily_quiet :
    NoFalseAlerts (fun _ now => some (nextTwo daily_increasing now)) "0 2 * * *" daily :=
  (noFalseAlerts_iff (firesAt_nextTwo daily_increasing (by decide))).mpr daily_even

/-- The fires of "0 2 * * 1-5", from a Monday on. -/
def weekdays (n : Nat) : Nat :=
  (24 * (7 * (n / 5) + n % 5) + 2) * hour

theorem weekdays_increasing : StrictMono weekdays := by
  apply strictMono_nat_of_lt_succ
  intro n
  unfold weekdays hour
  omega

/-- On Sunday evening the instance is reported stale, though it was backed up on Friday as
scheduled. -/
theorem weekend_stale :
    let fires := fun (_ : String) now => some (nextTwo weekdays_increasing now)
    let inst := plainInstance "0 2 * * 1-5"
    let now := (24 * 6 + 20) * hour
    Covered weekdays (kept weekdays 1 4) 1 now ∧
      alerts fires (kept weekdays 1 4) now inst = true ∧
      ¬NoFalseAlerts fires "0 2 * * 1-5" weekdays := by
  intro fires inst now
  have firesAt : FiresAt fires "0 2 * * 1-5" weekdays :=
    firesAt_nextTwo weekdays_increasing (by decide)
  have fired : weekdays 4 ≤ now := by decide
  have waiting : now < weekdays (4 + 1) := by decide
  have covered : Covered weekdays (kept weekdays 1 4) 1 now :=
    covered_kept weekdays_increasing waiting
  have stale : gauge fires (kept weekdays 1 4) now inst = some true := by
    have newest : lastOk (kept weekdays 1 4) inst.id = some (weekdays 4) :=
      lastOk_kept weekdays_increasing 1 4
    rw [gauge_between firesAt rfl rfl rfl fired waiting, newest, Option.some_or, isStale,
      Option.some.injEq, decide_eq_true_eq]
    decide
  refine ⟨covered, alerts_of_gauge stale rfl, ?_⟩
  intro quiet
  have started : weekdays 0 ≤ now := by decide
  exact quiet inst rfl rfl rfl (kept weekdays 1 4) now started covered (.inl stale)

end PfsenseBackups.StaleCadence

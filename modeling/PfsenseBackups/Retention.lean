import PfsenseBackups.Selections
import Mathlib.Data.Finset.Dedup
import Mathlib.Data.Finset.Insert
import Mathlib.Data.Finset.Card

/-! The keep-set of the retention policy, and what repeated prunes leave of a history. -/

namespace PfsenseBackups.Retention
open Selections

/-! ### Dates -/

/-- A `datetime`: the microseconds on its clock since the year 1 began, and those that the clock
is ahead of UTC, unless it is naive. -/
structure Datetime where
  wall : Int
  utcoffset : Option Int := none
  deriving DecidableEq

namespace Datetime

/-- `_as_utc`. -/
def asUtc (dt : Datetime) : Datetime :=
  { dt with utcoffset := some (dt.utcoffset.getD 0) }

/-- What the comparisons of aware datetimes go by. -/
def instant (dt : Datetime) : Int :=
  dt.wall - dt.utcoffset.getD 0

def dayLength : Int := 86400000000

/-- The days between the first of year 1 and the date. -/
def date (dt : Datetime) : Int :=
  dt.wall / dayLength

/-- The start of a year, in days. -/
def daysBeforeYear (year : Int) : Int :=
  (year - 1) * 365 + (year - 1) / 4 - (year - 1) / 100 + (year - 1) / 400

/-- A year is 365.2425 days long on average, so that the quotient is less than a year out. -/
def yearOf (day : Int) : Int :=
  let guess := day * 400 / 146097 + 1
  if day < daysBeforeYear guess then guess - 1
  else if daysBeforeYear (guess + 1) ≤ day then guess + 1
  else guess

def isLeap (year : Int) : Bool :=
  year % 4 = 0 && (year % 100 ≠ 0 || year % 400 = 0)

def monthStarts (leap : Bool) : List Int :=
  if leap then [0, 31, 60, 91, 121, 152, 182, 213, 244, 274, 305, 335]
  else [0, 31, 59, 90, 120, 151, 181, 212, 243, 273, 304, 334]

/-- `(ts.year, ts.month)`. -/
def yearMonth (dt : Datetime) : Int × Nat :=
  let year := yearOf dt.date
  (year, (monthStarts (isLeap year)).countP fun start => start ≤ dt.date - daysBeforeYear year)

/-- `ts.isocalendar()[:2]`: a week belongs to the year of its Thursday. -/
def isoWeek (dt : Datetime) : Int × Int :=
  let thursday := dt.date - dt.date % 7 + 3
  let year := yearOf thursday
  (year, (thursday - daysBeforeYear year) / 7 + 1)

/-- `dt - timedelta(days=days)`, or the `OverflowError` outside the years 1 to 9999. -/
def minusDays (dt : Datetime) (days : Int) : Option Datetime :=
  let wall := dt.wall - days * dayLength
  if 0 ≤ wall ∧ wall < daysBeforeYear 10000 * dayLength then some { dt with wall } else none

example : yearMonth ⟨63871200000000000 + 31 * dayLength, none⟩ = (2025, 1) := by decide

@[simp] theorem instant_asUtc (dt : Datetime) : dt.asUtc.instant = dt.instant :=
  rfl

theorem instant_minusDays {dt cutoff : Datetime} {days : Int}
    (reached : dt.minusDays days = some cutoff) :
    cutoff.instant = dt.instant - days * dayLength := by
  rw [minusDays] at reached
  split at reached
  · cases reached
    simp only [instant]
    omega
  · cases reached

end Datetime

/-! ### The policy -/

structure RetentionPolicy where
  countCap : Int
  keepAllDays : Option Int := none
  dailyDays : Option Int := none
  weeklyWeeks : Option Int := none
  monthlyMonths : Option Int := none

def RetentionPolicy.hasTiers (policy : RetentionPolicy) : Bool :=
  policy.keepAllDays.isSome || policy.dailyDays.isSome || policy.weeklyWeeks.isSome ||
    policy.monthlyMonths.isSome

/-- A backup's id and its `started_at`. -/
abbrev Started := Nat × Datetime

def since (cutoff : Datetime) (backup : Started) : Bool :=
  cutoff.instant ≤ backup.2.instant

def keepAll (cutoff : Datetime) (ordered : List Started) : List Started :=
  ordered.filter (since cutoff)

def newestPerBucket {Bucket : Type} [DecidableEq Bucket] (bucketOf : Datetime → Bucket)
    (windowCutoff : Datetime) (ordered : List Started) : List Started :=
  firsts (fun backup => bucketOf backup.2) [] (ordered.filter (since windowCutoff))

/-- What a tier selects, if its window can be computed; a tier that is not set selects nothing. -/
def tier (now : Datetime) (days : Option Int) (keeps : Datetime → List Started → List Started) :
    Option (List Started → List Started) :=
  match days with
  | none => some fun _ => []
  | some days => (now.minusDays days).map keeps

/-- The tiers together, and the newest of all. -/
def tierUnion (policy : RetentionPolicy) (now : Datetime) :
    Option (List Started → List Started) := do
  let all ← tier now policy.keepAllDays keepAll
  let daily ← tier now policy.dailyDays (newestPerBucket Datetime.date)
  let weekly ← tier now (policy.weeklyWeeks.map (7 * ·)) (newestPerBucket Datetime.isoWeek)
  let monthly ← tier now (policy.monthlyMonths.map (31 * ·)) (newestPerBucket Datetime.yearMonth)
  return fun ordered =>
    all ordered ++ (daily ordered ++ (weekly ordered ++ (monthly ordered ++ ordered.take 1)))

def ids (backups : List Started) : Finset Nat :=
  (backups.map Prod.fst).toFinset

def ordered (backups : List Started) : List Started :=
  newestFirst (fun backup => backup.2.instant) (backups.map fun backup => (backup.1, backup.2.asUtc))

/-- `compute_keep_ids`, or the `OverflowError` of a window. -/
def computeKeepIds (backups : List Started) (policy : RetentionPolicy) (now : Datetime) :
    Option (Finset Nat) :=
  match ordered backups with
  | [] => some ∅
  | newest :: older =>
    if policy.hasTiers then do
      let select ← tierUnion policy now.asUtc
      let keep := ids (select (newest :: older))
      if 0 < policy.countCap ∧ policy.countCap < keep.card then
        let capped := (((newest :: older).map Prod.fst).filter (· ∈ keep)).take
          policy.countCap.toNat
        return insert newest.1 capped.toFinset
      else return keep
    else
      let kept := if 0 < policy.countCap then
        ids ((newest :: older).take policy.countCap.toNat) else ∅
      some (if kept = ∅ then {newest.1} else kept)

/-! ### What is selected -/

theorem since_later {cutoff later : Datetime} (advances : cutoff.instant ≤ later.instant)
    {backup : Started} (inside : since later backup) : since cutoff backup := by
  rw [since, decide_eq_true_eq] at inside ⊢
  exact advances.trans inside

/-- A selection for each start of a window, which takes less from a list as the start moves on. -/
structure Windowed (keeps : Datetime → List Started → List Started) : Prop where
  stable : ∀ cutoff, Stable (keeps cutoff)
  fewer : ∀ {cutoff later : Datetime} {sorted : List Started}, cutoff.instant ≤ later.instant →
    sorted.Pairwise (fun first second => second.2.instant ≤ first.2.instant) →
    keeps later sorted ⊆ keeps cutoff sorted

theorem windowed_keepAll : Windowed keepAll where
  stable := fun cutoff => Stable.all.window (since cutoff)
  fewer := by
    intro cutoff later sorted advances _ backup member
    obtain ⟨listed, inside⟩ := List.mem_filter.mp member
    exact List.mem_filter.mpr ⟨listed, since_later advances inside⟩

theorem windowed_newestPerBucket {Bucket : Type} [DecidableEq Bucket]
    (bucketOf : Datetime → Bucket) : Windowed (newestPerBucket bucketOf) where
  stable := fun cutoff => (Stable.firsts _ []).window (since cutoff)
  fewer := fun advances order => firsts_later advances [] order

variable {policy : RetentionPolicy} {now now' : Datetime} {days : Option Int}
  {keeps : Datetime → List Started → List Started} {select select' : List Started → List Started}

theorem tier_stable (windowed : Windowed keeps) (selects : tier now days keeps = some select) :
    Stable select := by
  cases days with
  | none =>
    cases selects
    exact Stable.nothing
  | some days =>
    obtain ⟨cutoff, -, rfl⟩ := Option.map_eq_some_iff.mp selects
    exact windowed.stable cutoff

theorem tier_fewer (windowed : Windowed keeps) (later : now.instant ≤ now'.instant)
    (selects : tier now days keeps = some select) (selects' : tier now' days keeps = some select')
    {sorted : List Started}
    (order : sorted.Pairwise fun first second => second.2.instant ≤ first.2.instant) :
    select' sorted ⊆ select sorted := by
  cases days with
  | none =>
    cases selects
    cases selects'
    exact List.nil_subset _
  | some days =>
    obtain ⟨cutoff, reached, rfl⟩ := Option.map_eq_some_iff.mp selects
    obtain ⟨cutoff', reached', rfl⟩ := Option.map_eq_some_iff.mp selects'
    refine windowed.fewer ?_ order
    rw [Datetime.instant_minusDays reached, Datetime.instant_minusDays reached']
    exact Int.sub_le_sub_right later _

theorem tierUnion_some (selects : tierUnion policy now = some select) :
    ∃ all daily weekly monthly, tier now policy.keepAllDays keepAll = some all ∧
      tier now policy.dailyDays (newestPerBucket Datetime.date) = some daily ∧
      tier now (policy.weeklyWeeks.map (7 * ·)) (newestPerBucket Datetime.isoWeek) = some weekly ∧
      tier now (policy.monthlyMonths.map (31 * ·)) (newestPerBucket Datetime.yearMonth) =
        some monthly ∧
      select = fun ordered =>
        all ordered ++ (daily ordered ++ (weekly ordered ++ (monthly ordered ++ ordered.take 1))) := by
  simp only [tierUnion, Option.bind_eq_bind, Option.bind_eq_some_iff] at selects
  obtain ⟨all, hasAll, daily, hasDaily, weekly, hasWeekly, monthly, hasMonthly, eq⟩ := selects
  exact ⟨all, daily, weekly, monthly, hasAll, hasDaily, hasWeekly, hasMonthly,
    (Option.some.inj eq).symm⟩

theorem tierUnion_stable (selects : tierUnion policy now = some select) : Stable select := by
  obtain ⟨all, daily, weekly, monthly, hasAll, hasDaily, hasWeekly, hasMonthly, rfl⟩ :=
    tierUnion_some selects
  exact (tier_stable windowed_keepAll hasAll).append
    ((tier_stable (windowed_newestPerBucket _) hasDaily).append
      ((tier_stable (windowed_newestPerBucket _) hasWeekly).append
        ((tier_stable (windowed_newestPerBucket _) hasMonthly).append (Stable.take 1))))

theorem tierUnion_fewer (later : now.instant ≤ now'.instant)
    (selects : tierUnion policy now = some select)
    (selects' : tierUnion policy now' = some select') {sorted : List Started}
    (order : sorted.Pairwise fun first second => second.2.instant ≤ first.2.instant) :
    select' sorted ⊆ select sorted := by
  obtain ⟨all, daily, weekly, monthly, hasAll, hasDaily, hasWeekly, hasMonthly, rfl⟩ :=
    tierUnion_some selects
  obtain ⟨all', daily', weekly', monthly', hasAll', hasDaily', hasWeekly', hasMonthly', rfl⟩ :=
    tierUnion_some selects'
  have fewerAll := tier_fewer windowed_keepAll later hasAll hasAll' order
  have fewerDaily := tier_fewer (windowed_newestPerBucket _) later hasDaily hasDaily' order
  have fewerWeekly := tier_fewer (windowed_newestPerBucket _) later hasWeekly hasWeekly' order
  have fewerMonthly := tier_fewer (windowed_newestPerBucket _) later hasMonthly hasMonthly' order
  intro backup member
  simp only [List.mem_append] at member ⊢
  exact member.imp (fewerAll ·) (Or.imp (fewerDaily ·) (Or.imp (fewerWeekly ·)
    (Or.imp_left (fewerMonthly ·))))

/-- What the policy selects from a history, before its count cap where it has tiers. -/
def selection (policy : RetentionPolicy) (now : Datetime) : Option (List Started → List Started) :=
  if policy.hasTiers then tierUnion policy now
  else some (List.take (max policy.countCap.toNat 1))

theorem selection_stable (selects : selection policy now = some select) : Stable select := by
  rw [selection] at selects
  split at selects
  · exact tierUnion_stable selects
  · cases selects
    exact Stable.take _

theorem selection_fewer (later : now.instant ≤ now'.instant)
    (selects : selection policy now = some select) (selects' : selection policy now' = some select')
    {sorted : List Started}
    (order : sorted.Pairwise fun first second => second.2.instant ≤ first.2.instant) :
    select' sorted ⊆ select sorted := by
  rw [selection] at selects selects'
  split at selects
  case isTrue tiers =>
    rw [if_pos tiers] at selects'
    exact tierUnion_fewer later selects selects' order
  case isFalse tiers =>
    rw [if_neg tiers] at selects'
    cases selects
    cases selects'
    exact fun _ member => member

/-- The newest backup always survives. -/
theorem selection_newest (selects : selection policy now = some select) (newest : Started)
    (older : List Started) : newest ∈ select (newest :: older) := by
  rw [selection] at selects
  split at selects
  · obtain ⟨all, daily, weekly, monthly, -, -, -, -, rfl⟩ := tierUnion_some selects
    simp
  · cases selects
    obtain ⟨count, eq⟩ : ∃ count, max policy.countCap.toNat 1 = count + 1 :=
      ⟨max policy.countCap.toNat 1 - 1, by omega⟩
    rw [eq]
    exact List.mem_cons_self

/-- The policies whose count cap takes nothing away from the tiers. -/
def RetentionPolicy.Uncapped (policy : RetentionPolicy) : Prop :=
  policy.hasTiers → policy.countCap ≤ 0

theorem ordered_eq_nil {backups : List Started} : ordered backups = [] ↔ backups = [] := by
  rw [← List.length_eq_zero_iff, ← List.length_eq_zero_iff, ordered,
    (newestFirst_perm _ _).length_eq, List.length_map]

theorem ids_eq_empty {backups : List Started} : ids backups = ∅ ↔ backups = [] := by
  rw [ids, List.toFinset_eq_empty_iff, List.map_eq_nil_iff]

theorem computeKeepIds_eq (uncapped : policy.Uncapped) (backups : List Started) (now : Datetime) :
    computeKeepIds backups policy now =
      if backups = [] then some ∅
      else (selection policy now.asUtc).map fun select => ids (select (ordered backups)) := by
  rw [computeKeepIds]
  cases sorted : ordered backups with
  | nil => rw [if_pos (ordered_eq_nil.mp sorted)]
  | cons newest older =>
    rw [if_neg fun none => by simp [ordered_eq_nil.mpr none] at sorted, selection]
    dsimp only
    by_cases tiers : policy.hasTiers = true
    · have cap := uncapped tiers
      rw [if_pos tiers, if_pos tiers]
      cases tierUnion policy now.asUtc with
      | none => rfl
      | some select => exact if_neg fun capped => by omega
    · rw [if_neg tiers, if_neg tiers, Option.map_some]
      congr 1
      by_cases cap : 0 < policy.countCap
      · have some_ : ids ((newest :: older).take policy.countCap.toNat) ≠ ∅ := by
          rw [Ne, ids_eq_empty, List.take_eq_nil_iff]
          simp only [reduceCtorEq, or_false]
          omega
        rw [if_pos cap, if_neg some_, max_eq_left (by omega)]
      · rw [if_neg cap, if_pos rfl, max_eq_right (by omega)]
        rfl

/-- The backups that a prune leaves. -/
def retain (backups : List Started) (kept : Finset Nat) : List Started :=
  backups.filter fun backup => backup.1 ∈ kept

def aware (backup : Started) : Started :=
  (backup.1, backup.2.asUtc)

theorem map_aware_retain (backups : List Started) (select : List Started → List Started) :
    (retain backups (ids (select (ordered backups)))).map aware =
      retained (fun backup => backup.2.instant) Prod.fst select (backups.map aware) := by
  rw [retained, List.filter_map]
  congr 1
  refine List.filter_congr fun backup _ => ?_
  simp only [ids, List.mem_toFinset, Function.comp_apply]
  rfl

/-- A prune at a time and another one later, over what the first has left and what has come
since, keep what the later one keeps of everything. -/
theorem computeKeepIds_retain {earlier arrived : List Started} {kept : Finset Nat}
    (uncapped : policy.Uncapped) (later : now.instant ≤ now'.instant)
    (returned : computeKeepIds earlier policy now = some kept)
    (fresh : ∀ backup ∈ arrived, backup.1 ∉ earlier.map Prod.fst) :
    computeKeepIds (retain earlier kept ++ arrived) policy now' =
      computeKeepIds (earlier ++ arrived) policy now' := by
  rw [computeKeepIds_eq uncapped] at returned
  split at returned
  case isTrue none =>
    rw [none]
    rfl
  case isFalse nonempty =>
    obtain ⟨select, selects, rfl⟩ := Option.map_eq_some_iff.mp returned
    have left : retain earlier (ids (select (ordered earlier))) ≠ [] := by
      obtain ⟨newest, older, sorted⟩ := List.exists_cons_of_ne_nil (mt ordered_eq_nil.mp nonempty)
      have newestKept := selection_newest selects newest older
      obtain ⟨backup, listed, rfl⟩ : ∃ backup ∈ earlier, aware backup = newest := by
        have first : newest ∈ ordered earlier := by
          rw [sorted]
          exact List.mem_cons_self
        exact List.mem_map.mp ((newestFirst_perm _ _).mem_iff.mp first)
      refine List.ne_nil_of_mem (a := backup) (List.mem_filter.mpr ⟨listed, ?_⟩)
      rw [decide_eq_true_eq, ids, List.mem_toFinset, sorted]
      have held : (aware backup).1 ∈ (select (aware backup :: older)).map Prod.fst :=
        List.mem_map_of_mem newestKept
      exact held
    rw [computeKeepIds_eq uncapped, computeKeepIds_eq uncapped, if_neg (by simp [left]),
      if_neg (by simp [nonempty])]
    cases selects' : selection policy now'.asUtc with
    | none => rfl
    | some select' =>
      have later' : now.asUtc.instant ≤ now'.asUtc.instant := later
      have fresh' : ∀ backup ∈ arrived.map aware, backup.1 ∉ (earlier.map aware).map Prod.fst := by
        intro _ member
        obtain ⟨backup, listed, rfl⟩ := List.mem_map.mp member
        rw [List.map_map]
        exact fresh backup listed
      have again := (selection_stable selects').again
        (selection_fewer later' selects selects'
          (pairwise_newestFirst (fun backup : Started => backup.2.instant) _)) fresh'
      rw [← map_aware_retain, ← List.map_append, ← List.map_append] at again
      exact congrArg (fun chosen => some (ids chosen)) again

/-! ### Runs -/

/-- A prune after each arrival of further backups, at the time that comes with it. -/
def pruneEach (policy : RetentionPolicy) :
    List Started → List (List Started × Datetime) → Option (List Started)
  | held, [] => some held
  | held, (arrived, now) :: runs => do
    let kept ← computeKeepIds (held ++ arrived) policy now
    pruneEach policy (retain (held ++ arrived) kept) runs

/-- All that has arrived. -/
def history (held : List Started) (runs : List (List Started × Datetime)) : List Started :=
  held ++ runs.flatMap Prod.fst

/-- Later runs come at later times and with ids that are new. -/
def Timely : List Started → Datetime → List (List Started × Datetime) → Prop
  | _, _, [] => True
  | held, now, (arrived, now') :: runs =>
    now.instant ≤ now'.instant ∧ (∀ backup ∈ arrived, backup.1 ∉ held.map Prod.fst) ∧
      Timely (held ++ arrived) now' runs

def lastTime (now : Datetime) : List (List Started × Datetime) → Datetime
  | [] => now
  | (_, now') :: runs => lastTime now' runs

theorem kept_listed {backups : List Started} {kept : Finset Nat} (uncapped : policy.Uncapped)
    (returned : computeKeepIds backups policy now = some kept) {id : Nat} (member : id ∈ kept) :
    id ∈ backups.map Prod.fst := by
  rw [computeKeepIds_eq uncapped] at returned
  split at returned
  · cases returned
    simp at member
  · obtain ⟨select, selects, rfl⟩ := Option.map_eq_some_iff.mp returned
    rw [ids, List.mem_toFinset, List.mem_map] at member
    obtain ⟨backup, chosen, rfl⟩ := member
    have inside := (newestFirst_perm _ _).mem_iff.mp ((selection_stable selects).mem chosen)
    obtain ⟨backup', listed, rfl⟩ := List.mem_map.mp inside
    exact List.mem_map.mpr ⟨backup', listed, rfl⟩

/-- What has been left out before is not kept later. -/
theorem retain_retain {earlier arrived : List Started} {kept kept' : Finset Nat}
    (uncapped : policy.Uncapped)
    (fresh : ∀ backup ∈ arrived, backup.1 ∉ earlier.map Prod.fst)
    (returned : computeKeepIds (retain earlier kept ++ arrived) policy now = some kept') :
    retain (retain earlier kept ++ arrived) kept' = retain (earlier ++ arrived) kept' := by
  rw [retain, retain, retain, List.filter_append, List.filter_append, List.filter_filter]
  congr 1
  refine List.filter_congr fun backup member => ?_
  have both : backup.1 ∈ kept' → backup.1 ∈ kept := by
    intro again
    have listed := kept_listed uncapped returned again
    rw [List.map_append, List.mem_append] at listed
    rcases listed with listed | listed
    · obtain ⟨backup', left, same⟩ := List.mem_map.mp listed
      exact same ▸ of_decide_eq_true (List.mem_filter.mp left).2
    · obtain ⟨backup', new, same⟩ := List.mem_map.mp listed
      exact absurd (same ▸ List.mem_map_of_mem member) (fresh backup' new)
  by_cases again : backup.1 ∈ kept'
  · simp [again, both again]
  · simp [again]

/-- Runs of retention, from what a first one has kept of a history on, leave what one single run
at the last time would keep of everything. -/
theorem pruneEach_retain {earlier held : List Started} {kept : Finset Nat}
    {runs : List (List Started × Datetime)} (uncapped : policy.Uncapped)
    (returned : computeKeepIds earlier policy now = some kept) (timely : Timely earlier now runs)
    (pruned : pruneEach policy (retain earlier kept) runs = some held) :
    ∃ keptLast, computeKeepIds (history earlier runs) policy (lastTime now runs) = some keptLast ∧
      held = retain (history earlier runs) keptLast := by
  induction runs generalizing earlier now kept with
  | nil =>
    cases pruned
    rw [history, List.flatMap_nil, List.append_nil]
    exact ⟨kept, returned, rfl⟩
  | cons run runs ih =>
    obtain ⟨arrived, now'⟩ := run
    obtain ⟨later, fresh, timely⟩ := timely
    rw [pruneEach, Option.bind_eq_bind, Option.bind_eq_some_iff] at pruned
    obtain ⟨kept', returned', pruned⟩ := pruned
    rw [retain_retain uncapped fresh returned'] at pruned
    rw [computeKeepIds_retain uncapped later returned fresh] at returned'
    have whole : history (earlier ++ arrived) runs = history earlier ((arrived, now') :: runs) := by
      rw [history, history, List.flatMap_cons, List.append_assoc]
    rw [← whole]
    exact ih returned' timely pruned

/-- To prune repeatedly is to prune once. -/
theorem prunes_compose (policy : RetentionPolicy) (uncapped : policy.Uncapped) :
    (∀ earlier arrived : List Started, ∀ now now' : Datetime, ∀ kept : Finset Nat,
      now.instant ≤ now'.instant → computeKeepIds earlier policy now = some kept →
      (∀ backup ∈ arrived, backup.1 ∉ earlier.map Prod.fst) →
      computeKeepIds (retain earlier kept ++ arrived) policy now' =
        computeKeepIds (earlier ++ arrived) policy now') ∧
    ∀ earlier held : List Started, ∀ now : Datetime, ∀ kept : Finset Nat,
      ∀ runs : List (List Started × Datetime), computeKeepIds earlier policy now = some kept →
      Timely earlier now runs → pruneEach policy (retain earlier kept) runs = some held →
      ∃ keptLast, computeKeepIds (history earlier runs) policy (lastTime now runs) = some keptLast ∧
        held = retain (history earlier runs) keptLast :=
  ⟨fun _ _ _ _ _ later returned fresh => computeKeepIds_retain uncapped later returned fresh,
    fun _ _ _ _ _ returned timely pruned => pruneEach_retain uncapped returned timely pruned⟩

/-- Noon of a day, the days being counted from the first of January 2026. -/
def noon (day : Int) : Datetime :=
  ⟨(Datetime.daysBeforeYear 2026 + day) * Datetime.dayLength + 43200000000, none⟩

/-- Backups under a daily and a weekly tier, pruned twice and pruned once. -/
theorem twoPrunes_compose :
    computeKeepIds (retain [(1, noon 0), (2, noon (-1)), (3, noon 4)] {1, 3} ++ [(4, noon 9)])
        ⟨0, none, some 3, some 2, none⟩ (noon 10) =
      computeKeepIds ([(1, noon 0), (2, noon (-1)), (3, noon 4)] ++ [(4, noon 9)])
        ⟨0, none, some 3, some 2, none⟩ (noon 10) := by
  refine (prunes_compose ⟨0, none, some 3, some 2, none⟩ (fun _ => by decide)).1 _ _ (noon 4) _ _
    (by decide) (by decide) (by decide)

end PfsenseBackups.Retention

import PfsenseBackups.Newest
import PfsenseBackups.Retention
import Mathlib.Data.Set.Card

/-! What the retention policy keeps, as sets of backups: the tiers and their windows, the newest of
each bucket, and the cap on what they choose together. -/

namespace PfsenseBackups.RetentionSpec
open Retention Newest Selections

/-! ### The specification -/

def moment (backup : Started) : Int :=
  backup.2.instant

/-- The backups that started at most so many days ago. -/
def within (now : Datetime) (days : Int) : Set Started :=
  {backup | now.instant - days * Datetime.dayLength ≤ moment backup}

/-- The newest backup of each bucket within the window, if there is one. -/
def newestOfBucket {Bucket : Type} (bucketOf : Datetime → Bucket) (now : Datetime)
    (days : Option Int) (backups : Set Started) : Set Started :=
  {backup | ∃ length ∈ days,
    backup ∈ newestOfGroup moment (fun other => bucketOf other.2) (backups ∩ within now length)}

/-- What the tiers choose, with the newest backup of all. -/
def chosen (policy : RetentionPolicy) (now : Datetime) (backups : Set Started) : Set Started :=
  {backup ∈ backups | ∃ days ∈ policy.keepAllDays, backup ∈ within now days} ∪
    newestOfBucket Datetime.date now policy.dailyDays backups ∪
    newestOfBucket Datetime.isoWeek now (policy.weeklyWeeks.map (7 * ·)) backups ∪
    newestOfBucket Datetime.yearMonth now (policy.monthlyMonths.map (31 * ·)) backups ∪
    newest moment 1 backups

def specification (policy : RetentionPolicy) (now : Datetime) (backups : Set Started) :
    Set Started :=
  if policy.hasTiers then
    if policy.countCap ≤ 0 then chosen policy now backups
    else newest moment policy.countCap.toNat (chosen policy now backups)
  else newest moment (max policy.countCap.toNat 1) backups

/-- The windows of the tiers that are set, in days. -/
def windows (policy : RetentionPolicy) : List Int :=
  policy.keepAllDays.toList ++ (policy.dailyDays.toList ++
    ((policy.weeklyWeeks.map (7 * ·)).toList ++ (policy.monthlyMonths.map (31 * ·)).toList))

/-- A `datetime` can hold the start of every window. -/
def Reaches (policy : RetentionPolicy) (now : Datetime) : Prop :=
  ∀ days ∈ windows policy, (now.asUtc.minusDays days).isSome

/-! ### Ordered backups -/

section

variable {backups : List Started} (moments : (backups.map moment).Nodup)

theorem moment_aware (backup : Started) : moment (aware backup) = moment backup :=
  Datetime.instant_asUtc backup.2

theorem ordered_perm : (ordered backups).Perm (backups.map aware) :=
  newestFirst_perm _ _

theorem mem_ordered {backup : Started} :
    backup ∈ ordered backups ↔ backup ∈ elements (backups.map aware) :=
  ordered_perm.mem_iff

theorem ordered_ids_nodup (distinct : (backups.map Prod.fst).Nodup) :
    ((ordered backups).map Prod.fst).Nodup := by
  rw [(ordered_perm.map Prod.fst).nodup_iff, List.map_map]
  exact distinct

include moments

theorem ordered_strict :
    (ordered backups).Pairwise fun one other => moment other < moment one := by
  have distinct : ((ordered backups).map moment).Nodup := by
    rw [(ordered_perm.map moment).nodup_iff, List.map_map]
    exact (List.map_congr_left fun backup _ => moment_aware backup) ▸ moments
  have weak := pairwise_newestFirst (fun backup : Started => backup.2.instant)
    (backups.map fun backup => (backup.1, backup.2.asUtc))
  have apart := List.pairwise_map.mp distinct
  exact (weak.and apart).imp fun pair => lt_of_le_of_ne pair.1 pair.2.symm

theorem ordered_eq_of_perm {other : List Started} (perm : other.Perm backups) :
    ordered other = ordered backups := by
  have moments' : (other.map moment).Nodup := (perm.map moment).nodup_iff.mpr moments
  have perm' : (ordered other).Perm (ordered backups) :=
    ordered_perm.trans ((perm.map aware).trans ordered_perm.symm)
  exact perm'.eq_of_pairwise (fun _ _ _ _ less more => (lt_asymm less more).elim)
    (ordered_strict moments') (ordered_strict moments)

end

/-! ### The tiers -/

section

variable {now : Datetime} {sorted : List Started} {select : List Started → List Started}

theorem mem_filter_since {cutoff : Datetime} {days : Int} (reached : now.minusDays days = some cutoff)
    {backup : Started} :
    backup ∈ sorted.filter (since cutoff) ↔ backup ∈ elements sorted ∩ within now days := by
  rw [List.mem_filter, since, decide_eq_true_eq, Datetime.instant_minusDays reached]
  rfl

theorem mem_keepAll {days : Option Int} (selects : tier now days keepAll = some select)
    {backup : Started} : backup ∈ select sorted ↔
      backup ∈ {backup ∈ elements sorted | ∃ length ∈ days, backup ∈ within now length} := by
  cases days with
  | none =>
    cases selects
    simp
  | some days =>
    obtain ⟨cutoff, reached, rfl⟩ := Option.map_eq_some_iff.mp selects
    rw [keepAll, mem_filter_since reached]
    simp

theorem mem_newestPerBucket {Bucket : Type} [DecidableEq Bucket] {bucketOf : Datetime → Bucket}
    {days : Option Int} (order : sorted.Pairwise fun one other => moment other < moment one)
    (selects : tier now days (newestPerBucket bucketOf) = some select) {backup : Started} :
    backup ∈ select sorted ↔ backup ∈ newestOfBucket bucketOf now days (elements sorted) := by
  cases days with
  | none =>
    cases selects
    simp [newestOfBucket]
  | some days =>
    obtain ⟨cutoff, reached, rfl⟩ := Option.map_eq_some_iff.mp selects
    have inside : elements (sorted.filter (since cutoff)) = elements sorted ∩ within now days :=
      Set.ext fun _ => mem_filter_since reached
    rw [newestPerBucket, mem_firsts_iff (order.filter _), inside]
    simp [newestOfBucket]

theorem mem_tierUnion {policy : RetentionPolicy}
    (order : sorted.Pairwise fun one other => moment other < moment one)
    (selects : tierUnion policy now = some select) {backup : Started} :
    backup ∈ select sorted ↔ backup ∈ chosen policy now (elements sorted) := by
  obtain ⟨all, daily, weekly, monthly, hasAll, hasDaily, hasWeekly, hasMonthly, rfl⟩ :=
    tierUnion_some selects
  simp only [List.mem_append, chosen, Set.mem_union, or_assoc]
  rw [mem_keepAll hasAll, mem_newestPerBucket order hasDaily, mem_newestPerBucket order hasWeekly,
    mem_newestPerBucket order hasMonthly, mem_take_iff order]

theorem tier_of_reaches {days : Option Int} (keeps : Datetime → List Started → List Started)
    (reaches : ∀ length ∈ days.toList, (now.minusDays length).isSome) :
    ∃ select, tier now days keeps = some select := by
  cases days with
  | none => exact ⟨_, rfl⟩
  | some days =>
    obtain ⟨cutoff, reached⟩ := Option.isSome_iff_exists.mp
      (reaches days (List.mem_singleton.mpr rfl))
    exact ⟨keeps cutoff, by rw [tier, reached, Option.map_some]⟩

theorem tierUnion_of_reaches {policy : RetentionPolicy} (reaches : Reaches policy now) :
    ∃ select, tierUnion policy now.asUtc = some select := by
  unfold Reaches windows at reaches
  simp only [List.mem_append] at reaches
  obtain ⟨all, hasAll⟩ := tier_of_reaches keepAll fun days mem => reaches days (.inl mem)
  obtain ⟨daily, hasDaily⟩ := tier_of_reaches (newestPerBucket Datetime.date) fun days mem =>
    reaches days (.inr (.inl mem))
  obtain ⟨weekly, hasWeekly⟩ := tier_of_reaches (newestPerBucket Datetime.isoWeek)
    fun days mem => reaches days (.inr (.inr (.inl mem)))
  obtain ⟨monthly, hasMonthly⟩ := tier_of_reaches (newestPerBucket Datetime.yearMonth)
    fun days mem => reaches days (.inr (.inr (.inr mem)))
  exact ⟨_, by rw [tierUnion, hasAll, hasDaily, hasWeekly, hasMonthly]; rfl⟩

end

/-! ### The cap -/

theorem coe_ids (list : List Started) : (ids list : Set Nat) = Prod.fst '' elements list := by
  ext id
  simp [ids, elements]

theorem elements_take {sorted : List Started}
    (order : sorted.Pairwise fun one other => moment other < moment one) (count : Nat) :
    elements (sorted.take count) = newest moment count (elements sorted) :=
  Set.ext fun _ => mem_take_iff order count _

section

variable {sorted chosen_ : List Started} (distinct : (sorted.map Prod.fst).Nodup)
  (listed : chosen_ ⊆ sorted)
include distinct listed

theorem mem_ids {backup : Started} (member : backup ∈ sorted) :
    backup.1 ∈ ids chosen_ ↔ backup ∈ chosen_ := by
  rw [ids, List.mem_toFinset, List.mem_map]
  constructor
  · intro given
    obtain ⟨other, mem, same⟩ := given
    exact List.inj_on_of_nodup_map distinct (listed mem) member same ▸ mem
  · exact fun mem => ⟨backup, mem, rfl⟩

theorem elements_retain : elements (retain sorted (ids chosen_)) = elements chosen_ := by
  ext backup
  constructor
  · intro mem
    obtain ⟨member, kept⟩ := List.mem_filter.mp mem
    exact (mem_ids distinct listed member).mp (of_decide_eq_true kept)
  · intro mem
    exact List.mem_filter.mpr
      ⟨listed mem, decide_eq_true ((mem_ids distinct listed (listed mem)).mpr mem)⟩

theorem card_ids : (ids chosen_).card = (retain sorted (ids chosen_)).length := by
  have same : ids chosen_ = ids (retain sorted (ids chosen_)) := by
    apply Finset.coe_injective
    rw [coe_ids, coe_ids, elements_retain distinct listed]
  have once : ((retain sorted (ids chosen_)).map Prod.fst).Nodup :=
    distinct.sublist (List.filter_sublist.map _)
  calc
    _ = (ids (retain sorted (ids chosen_))).card := congrArg _ same
    _ = ((retain sorted (ids chosen_)).map Prod.fst).length := List.toFinset_card_of_nodup once
    _ = _ := List.length_map _

end

/-- The first elements that a cap leaves; a cap that is not positive leaves all. -/
def cut (cap : Int) (list : List Started) : List Started :=
  if cap ≤ 0 then list else list.take cap.toNat

/-- The cap as the code applies it, to the ids of what is chosen. -/
theorem capped_ids {newest_ : Started} {older chosen_ : List Started} {cap : Int}
    (distinct : ((newest_ :: older).map Prod.fst).Nodup) (listed : chosen_ ⊆ newest_ :: older)
    (top : newest_ ∈ chosen_) :
    (if 0 < cap ∧ cap < (ids chosen_).card then
      insert newest_.1 ((((newest_ :: older).map Prod.fst).filter (· ∈ ids chosen_)).take
        cap.toNat).toFinset
    else ids chosen_) =
      ids (cut cap (retain (newest_ :: older) (ids chosen_))) := by
  have whole : ids chosen_ = ids (retain (newest_ :: older) (ids chosen_)) := by
    apply Finset.coe_injective
    rw [coe_ids, coe_ids, elements_retain distinct listed]
  have size := card_ids distinct listed
  unfold cut
  by_cases positive : cap ≤ 0
  · rw [if_neg fun beyond => by omega, if_pos positive]
    exact whole
  · rw [if_neg positive]
    by_cases beyond : cap < (ids chosen_).card
    · rw [if_pos ⟨by omega, beyond⟩]
      have names : ((newest_ :: older).map Prod.fst).filter (· ∈ ids chosen_) =
          (retain (newest_ :: older) (ids chosen_)).map Prod.fst := by
        rw [List.filter_map]
        rfl
      have head : ∃ rest, retain (newest_ :: older) (ids chosen_) = newest_ :: rest :=
        ⟨_, List.filter_cons_of_pos
          (decide_eq_true ((mem_ids distinct listed List.mem_cons_self).mpr top))⟩
      obtain ⟨rest, front⟩ := head
      obtain ⟨count, more⟩ : ∃ count, cap.toNat = count + 1 := ⟨cap.toNat - 1, by omega⟩
      have first : newest_.1 ∈ ids ((retain (newest_ :: older) (ids chosen_)).take cap.toNat) := by
        rw [front, more, List.take_succ_cons, ids, List.map_cons, List.mem_toFinset]
        exact List.mem_cons_self
      rw [names, ← List.map_take]
      exact Finset.insert_eq_of_mem first
    · rw [if_neg fun both => beyond both.2, List.take_of_length_le (by omega)]
      exact whole

/-! ### The keep-set -/

theorem newest_of_top {backups : Set Started} {backup : Started} (member : backup ∈ backups)
    (top : ∀ other ∈ backups, moment other ≤ moment backup) {count : Nat} (positive : 0 < count) :
    backup ∈ newest moment count backups := by
  have none : newer moment backups backup = ∅ :=
    Set.eq_empty_of_forall_notMem fun other above => absurd above.2 (not_lt.mpr (top other above.1))
  refine ⟨member, ?_⟩
  rw [none, Set.ncard_empty]
  exact positive

theorem chosen_subset {policy : RetentionPolicy} {now : Datetime} {backups : Set Started} :
    chosen policy now backups ⊆ backups := by
  intro backup member
  rcases member with (((all | ⟨_, _, bucket⟩) | ⟨_, _, bucket⟩) | ⟨_, _, bucket⟩) | top
  · exact all.1
  · exact bucket.1.1
  · exact bucket.1.1
  · exact bucket.1.1
  · exact top.1

theorem specification_subset {policy : RetentionPolicy} {now : Datetime}
    {backups : Set Started} : specification policy now backups ⊆ backups := by
  unfold specification
  split
  · split
    · exact chosen_subset
    · exact fun _ member => chosen_subset member.1
  · exact fun _ member => member.1

/-- The newest backup is in the specification of every policy. -/
theorem specification_of_top {policy : RetentionPolicy} {now : Datetime} {backups : Set Started}
    {backup : Started} (member : backup ∈ backups)
    (top : ∀ other ∈ backups, moment other ≤ moment backup) :
    backup ∈ specification policy now backups := by
  have selected : backup ∈ chosen policy now backups :=
    .inr (newest_of_top member top Nat.one_pos)
  unfold specification
  split
  · split
    · exact selected
    · next positive =>
      exact newest_of_top selected (fun other inside => top other (chosen_subset inside)) (by omega)
  · exact newest_of_top member top (by omega)

section

variable {policy : RetentionPolicy} {now : Datetime} {backups : List Started}

theorem exists_top (moments : (backups.map moment).Nodup) (filled : backups ≠ []) :
    ∃ backup ∈ backups, ∀ other ∈ backups, moment other ≤ moment backup := by
  cases sorted : ordered backups with
  | nil => exact absurd (ordered_eq_nil.mp sorted) filled
  | cons first older =>
    have order := ordered_strict moments
    have listed : first ∈ backups.map aware := mem_ordered.mp (sorted ▸ List.mem_cons_self)
    obtain ⟨backup, member, same⟩ := List.mem_map.mp listed
    refine ⟨backup, member, fun other mem => ?_⟩
    have inside : aware other ∈ first :: older := sorted ▸ mem_ordered.mpr (List.mem_map_of_mem mem)
    rw [← moment_aware other, ← moment_aware backup, same]
    rcases List.mem_cons.mp inside with eq | later
    · rw [eq]
    · rw [sorted] at order
      exact ((List.pairwise_cons.mp order).1 _ later).le

theorem keepIds_of_tiers {first : Started} {older : List Started}
    (sorted : ordered backups = first :: older) (distinct : (backups.map Prod.fst).Nodup)
    (moments : (backups.map moment).Nodup) (reaches : Reaches policy now)
    (tiers : policy.hasTiers = true) :
    ∃ list, computeKeepIds backups policy now = some (ids list) ∧
      elements list = specification policy now.asUtc (elements (ordered backups)) ∧
      (1 ≤ policy.countCap → (list.length : Int) ≤ policy.countCap) := by
  have order := ordered_strict moments
  have once := ordered_ids_nodup distinct
  rw [sorted] at order once ⊢
  obtain ⟨select, selects⟩ := tierUnion_of_reaches reaches
  have stable := tierUnion_stable selects
  have listed : select (first :: older) ⊆ first :: older := fun _ => stable.mem
  have isChosen : elements (select (first :: older)) =
      chosen policy now.asUtc (elements (first :: older)) :=
    Set.ext fun _ => mem_tierUnion order selects
  have top : first ∈ select (first :: older) := by
    apply (mem_tierUnion order selects).mpr
    exact .inr ((mem_take_iff order 1 first).mp List.mem_cons_self)
  have members := elements_retain once listed
  rw [isChosen] at members
  refine ⟨cut policy.countCap (retain (first :: older) (ids (select (first :: older)))), ?_, ?_, ?_⟩
  · rw [← capped_ids once listed top, computeKeepIds, sorted]
    simp only [tiers, if_true, selects, Option.bind_eq_bind, Option.bind_some]
    split <;> rfl
  · rw [specification, if_pos tiers, cut]
    split
    · exact members
    · have strict : (retain (first :: older) (ids (select (first :: older)))).Pairwise
          fun one other => moment other < moment one := order.filter _
      rw [elements_take strict, members]
  · intro positive
    rw [cut, if_neg (by omega), List.length_take]
    omega

theorem keepIds_of_cap (filled : backups ≠ []) (moments : (backups.map moment).Nodup)
    (tierless : ¬ policy.hasTiers = true) :
    ∃ list, computeKeepIds backups policy now = some (ids list) ∧
      elements list = specification policy now.asUtc (elements (ordered backups)) ∧
      (1 ≤ policy.countCap → (list.length : Int) ≤ policy.countCap) := by
  refine ⟨(ordered backups).take (max policy.countCap.toNat 1), ?_, ?_, ?_⟩
  · rw [computeKeepIds_eq (fun tiers => absurd tiers tierless), if_neg filled, selection,
      if_neg tierless]
    rfl
  · rw [specification, if_neg tierless, elements_take (ordered_strict moments)]
  · intro positive
    rw [List.length_take]
    omega

theorem keepIds_spec (distinct : (backups.map Prod.fst).Nodup)
    (moments : (backups.map moment).Nodup) (reaches : Reaches policy now) :
    ∃ list, computeKeepIds backups policy now = some (ids list) ∧
      elements list = specification policy now.asUtc (elements (ordered backups)) ∧
      (1 ≤ policy.countCap → (list.length : Int) ≤ policy.countCap) := by
  cases sorted : ordered backups with
  | nil =>
    have nothing : specification policy now.asUtc (elements []) = ∅ :=
      Set.eq_empty_of_forall_notMem fun _ member =>
        List.not_mem_nil (specification_subset member)
    refine ⟨[], ?_, ?_, ?_⟩
    · rw [computeKeepIds, sorted]
      rfl
    · rw [nothing]
      simp [elements]
    · intro positive
      exact Int.le_trans (by decide) positive
  | cons first older =>
    rw [← sorted]
    by_cases tiers : policy.hasTiers = true
    · exact keepIds_of_tiers sorted distinct moments reaches tiers
    · have filled : backups ≠ [] := fun none => by simp [ordered_eq_nil.mpr none] at sorted
      exact keepIds_of_cap filled moments tiers

/-- The keep-set is the specification, in whatever order the backups are listed; it has the newest
backup and no more than the cap allows, and is empty for an empty list only. It is computed
whenever a `datetime` can hold the starts of the windows. -/
theorem computeKeepIds_meets_specification (distinct : (backups.map Prod.fst).Nodup)
    (moments : (backups.map moment).Nodup) (reaches : Reaches policy now) :
    ∃ kept, computeKeepIds backups policy now = some kept ∧
      (kept : Set Nat) =
        Prod.fst '' specification policy now.asUtc (elements (backups.map aware)) ∧
      (∀ other : List Started, other.Perm backups → computeKeepIds other policy now = some kept) ∧
      (∀ backup ∈ backups, (∀ other ∈ backups, moment other ≤ moment backup) →
        backup.1 ∈ kept) ∧
      (1 ≤ policy.countCap → (kept.card : Int) ≤ policy.countCap) ∧
      (kept = ∅ → backups = []) := by
  obtain ⟨list, computed, members, few⟩ := keepIds_spec distinct moments reaches
  have same : elements (ordered backups) = elements (backups.map aware) :=
    Set.ext fun _ => mem_ordered
  rw [same] at members
  have hasTop : ∀ backup ∈ backups, (∀ other ∈ backups, moment other ≤ moment backup) →
      backup.1 ∈ ids list := by
    intro backup member top
    have inside : aware backup ∈ elements list := by
      rw [members]
      apply specification_of_top (List.mem_map_of_mem member)
      intro other mem
      obtain ⟨before, listed, rfl⟩ := List.mem_map.mp mem
      rw [moment_aware, moment_aware]
      exact top before listed
    have named : (aware backup).1 ∈ list.map Prod.fst := List.mem_map_of_mem inside
    exact List.mem_toFinset.mpr named
  refine ⟨ids list, computed, ?_, ?_, hasTop, ?_, ?_⟩
  · rw [coe_ids, members]
  · intro other perm
    rw [← computed, computeKeepIds, computeKeepIds, ordered_eq_of_perm moments perm]
  · intro positive
    have small := List.toFinset_card_le (list.map Prod.fst)
    rw [List.length_map] at small
    exact (Int.ofNat_le.mpr small).trans (few positive)
  · intro empty
    by_contra filled
    obtain ⟨backup, member, top⟩ := exists_top moments filled
    have kept := hasTop backup member top
    rw [empty] at kept
    cases kept

/-- The windows that the API stores reach, from 3720 days after the calendar begins on. -/
theorem reaches_of_stored (late : 3720 * Datetime.dayLength ≤ now.wall)
    (early : now.wall < Datetime.daysBeforeYear 10000 * Datetime.dayLength)
    (bounds : ∀ days ∈ windows policy, 0 ≤ days ∧ days ≤ 3720) : Reaches policy now := by
  intro days mem
  obtain ⟨low, high⟩ := bounds days mem
  have long : 0 ≤ Datetime.dayLength := by decide
  have less := Int.mul_le_mul_of_nonneg_right high long
  have more := Int.mul_nonneg low long
  have wall : now.asUtc.wall = now.wall := rfl
  rw [Datetime.minusDays, if_pos (by rw [wall]; omega)]
  rfl

end

/-! ### Two backups, and a window before the calendar -/

def twoNoons : List Started :=
  [(1, noon 1), (2, noon 2)]

def dailyPolicy : RetentionPolicy where
  countCap := 1
  dailyDays := some 7

theorem dailyPolicy_reaches : Reaches dailyPolicy (noon 3) := by
  apply reaches_of_stored (by decide) (by decide)
  intro days mem
  cases List.mem_singleton.mp mem
  decide

theorem twoNoons_meet : ∃ kept, computeKeepIds twoNoons dailyPolicy (noon 3) = some kept ∧
    (kept : Set Nat) = Prod.fst '' specification dailyPolicy (noon 3).asUtc
      (elements (twoNoons.map aware)) ∧ kept ≠ ∅ := by
  obtain ⟨kept, computed, members, _, _, _, filled⟩ :=
    @computeKeepIds_meets_specification dailyPolicy (noon 3) twoNoons (by decide) (by decide)
      dailyPolicy_reaches
  refine ⟨kept, computed, members, fun empty => ?_⟩
  cases filled empty

/-- A window of a million days starts before the first day of the calendar. -/
theorem millionDays_unreached :
    computeKeepIds twoNoons { countCap := 1, keepAllDays := some 1000000 } (noon 3) = none := by
  decide

end PfsenseBackups.RetentionSpec

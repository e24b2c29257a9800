import PfsenseBackups.AnchorHistory
import PfsenseBackups.Selections
import Mathlib.Data.Prod.Lex

/-! The `/cumulative-changes` endpoint: every anchor with an event in a range of backups on one
row, from its first event there to its last. -/

namespace PfsenseBackups.CumulativeChanges
open Value Labels Config DiffConfigs AnchorEvents AnchorScopes AnchorValues EventLog AnchorTimeline
  FieldEvents PackageEvents AnchorHistory Selections

/-! ### Sections and labels -/

/-- `ANCHOR_KIND_TO_SECTION.get(scope)`. -/
def anchorKindToSection (scope : String) : Option String :=
  (sectionSpec.find? fun spec => spec.anchorKind = scope).map fun spec => spec.section_.name

/-- `SINGLETON_SCOPE_TO_SECTION.get(scope)`. -/
def singletonScopeToSection (scope : String) : Option String :=
  (singletonSpec.find? fun spec => spec.scope = scope).map fun spec => spec.section_.name

/-- Decode an anchor id back to the name of its section. -/
def sectionForAnchor (anchor : String) : Option String :=
  match matchAnchor anchor with
  | none => none
  | some (space, scope, _) =>
    if space = "xref" then anchorKindToSection scope
    else if space = "field" then singletonScopeToSection scope
    else some ((singletonScopeToSection scope).getD scope)

/-- `LABEL_BY_SECTION.get(section_name, label_named)(row)`. -/
def labelForSection (sectionName : String) (row : Dict) : String :=
  match ListSection.all.find? fun section_ => section_.name = sectionName with
  | none | some .unrecognizedSections => labelNamed row
  | some section_ => rowLabel section_ row

/-- What follows the first dash, or everything where there is none. -/
def pastDash (chars : List Char) : List Char :=
  if '-' ∈ chars then (chars.dropWhile (· ≠ '-')).drop 1 else chars

/-- `anchor_id.split("-", 2)[-1]`. -/
def anchorTail (anchor : String) : String :=
  String.ofList (pastDash (pastDash anchor.toList))

/-- The label of a row, by its later value where that is a model. -/
def anchorLabel (anchor : String) (originalValue currentValue : Val) : String :=
  match sectionForAnchor anchor, currentValue, originalValue with
  | some sectionName, .dict row, _ => labelForSection sectionName row
  | some sectionName, _, .dict row => labelForSection sectionName row
  | _, _, _ => anchorTail anchor

/-! ### The endpoint -/

structure CumulativeChangeRow where
  anchorId : String
  section_ : Option String
  label : String
  firstSeenAt : Nat
  lastChangeAt : Nat
  changeCount : Nat
  latestKind : Kind
  originalValue : Val
  currentValue : Val
  deriving DecidableEq

structure CumulativeChangesResponse where
  sinceBackupId : Nat
  untilBackupId : Nat
  rows : List CumulativeChangeRow
  indexed : Bool
  deriving DecidableEq

/-- The events of a span of time. -/
def window (log : List AnchorEvent) (sinceAt untilAt : Nat) : List AnchorEvent :=
  log.filter fun event => sinceAt ≤ event.occurredAt ∧ event.occurredAt ≤ untilAt

/-- `dedupe_by_backup`: the events of an anchor, the best one for each backup. -/
def dedupeByBackup (events : List AnchorEvent) (anchor : String) : List AnchorEvent :=
  let rows := events.filter fun event => event.anchorId = anchor
  (rows.map AnchorEvent.backupId).dedup.filterMap fun id =>
    numberedFirst (rows.filter fun event => event.backupId = id)

/-- The order of `rn_first` and `rn_last`: by time, then by id. -/
def eventKey (events : List AnchorEvent) (event : AnchorEvent) : Nat ×ₗ Nat :=
  toLex (event.occurredAt, events.idxOf event)

/-- The row of one anchor. -/
def cumulativeChange (events : List AnchorEvent) (anchor : String) : Option CumulativeChangeRow := do
  let deduped := dedupeByBackup events anchor
  let first ← (oldestFirst (eventKey events) deduped).head?
  let last ← (newestFirst (eventKey events) deduped).head?
  let originalValue := first.value.getD .none
  let currentValue := last.value.getD .none
  return {
    anchorId := anchor
    section_ := sectionForAnchor anchor
    label := anchorLabel anchor originalValue currentValue
    firstSeenAt := first.occurredAt
    lastChangeAt := last.occurredAt
    changeCount := ((events.filter fun event => event.anchorId = anchor).map
      AnchorEvent.backupId).dedup.length
    latestKind := last.kind
    originalValue := originalValue
    currentValue := currentValue }

/-- The rows of a span of time, the latest change first. -/
def cumulativeChanges (log : List AnchorEvent) (sinceAt untilAt : Nat) : List CumulativeChangeRow :=
  let events := window log sinceAt untilAt
  newestFirst CumulativeChangeRow.lastChangeAt
    ((events.map AnchorEvent.anchorId).dedup.filterMap (cumulativeChange events))

/-- The tables of one instance: its backups, each with its success, the event log, and whether
`anchor_events_backfilled_at` is set. -/
structure InstanceTables where
  backups : List (Backup × Bool)
  log : List AnchorEvent
  backfilled : Bool

/-- One endpoint of the range: the backup asked for, or the default among the successful ones. -/
def windowEnd (tables : InstanceTables) (asked : Option Nat) (detail : String)
    (default : List Backup → Option Backup) : Except (Nat × String) (Option Backup) :=
  match asked with
  | none => .ok (default ((tables.backups.filter Prod.snd).map Prod.fst))
  | some id =>
    match (tables.backups.map Prod.fst).find? fun bkp => bkp.id = id with
    | none => .error (404, detail)
    | some bkp => .ok (some bkp)

/-- `instance_cumulative_changes`. -/
def instanceCumulativeChanges (instance_ : Option InstanceTables) (sinceBackupId untilBackupId :
    Option Nat) : Except (Nat × String) CumulativeChangesResponse :=
  match instance_ with
  | none => .error (404, "instance not found")
  | some tables => do
    let sinceRow ← windowEnd tables sinceBackupId "since-backup not found for this instance"
      fun rows => (oldestFirst Backup.startedAt rows).head?
    let untilRow ← windowEnd tables untilBackupId "until-backup not found for this instance"
      fun rows => (newestFirst Backup.startedAt rows).head?
    match sinceRow, untilRow with
    | some since, some until_ =>
      if tables.backfilled = false then return ⟨since.id, until_.id, [], false⟩
      else if until_.startedAt < since.startedAt then
        return ⟨until_.id, since.id,
          cumulativeChanges tables.log until_.startedAt since.startedAt, true⟩
      else
        return ⟨since.id, until_.id,
          cumulativeChanges tables.log since.startedAt until_.startedAt, true⟩
    | _, _ => return ⟨0, 0, [], tables.backfilled⟩

/-! ### The timeline of one anchor -/

/-- The events of an anchor at one backup. -/
def partition (log : List AnchorEvent) (anchor : String) (bkp : Backup) : List AnchorEvent :=
  (log.filter fun event => event.anchorId = anchor).filter fun event => event.backupId = bkp.id

/-- The state before a backup. -/
def stateBefore (history : List Backup) (state : Backup → Option Val) (bkp : Backup) : Option Val :=
  (history.takeWhile fun other => other ≠ bkp).getLast?.bind state

/-- What a step function reports is the value shown, and what it leaves unreported can be put
together. -/
structure StepRule (step : Option Val → Option Val → Option Val) : Prop where
  refl : ∀ state, step state state = none
  trans : ∀ {a b c}, step a b = none → step b c = none → step a c = none
  shows : ∀ {a b value}, step a b = some value → value = shown a b

theorem rowStep_rule : StepRule rowStep where
  refl state := by rw [rowStep, if_pos rfl]
  trans := by
    intro a b c first second
    simp only [rowStep, ite_eq_left_iff, reduceCtorEq, imp_false, not_not] at first second ⊢
    exact first.trans second
  shows := by
    intro a b value found
    rw [rowStep] at found
    split at found
    · cases found
    · exact (Option.some.inj found).symm

theorem fieldStep_eq_none {before after : Option Val} :
    fieldStep before after = none ↔ before = after ∨ nestedStates before after = true := by
  rw [fieldStep]
  split
  next quiet => exact ⟨fun _ => quiet, fun _ => rfl⟩
  next loud => exact ⟨fun found => (nomatch found), fun quiet => (loud quiet).elim⟩

theorem nestedStates_trans {a b c : Option Val} (first : nestedStates a b = true)
    (second : nestedStates b c = true) : nestedStates a c = true := by
  cases a with
  | none => cases first
  | some x =>
    cases b with
    | none => cases first
    | some y =>
      cases c with
      | none => cases second
      | some z =>
        obtain ⟨u, v, rfl, rfl⟩ := nested_iff.mp first
        obtain ⟨-, w, -, rfl⟩ := nested_iff.mp second
        rfl

theorem fieldStep_rule : StepRule fieldStep where
  refl state := fieldStep_eq_none.mpr (.inl rfl)
  trans := by
    intro a b c first second
    rw [fieldStep_eq_none] at first second ⊢
    rcases first with rfl | first
    · exact second
    · rcases second with rfl | second
      · exact .inr first
      · exact .inr (nestedStates_trans first second)
  shows := by
    intro a b value found
    rw [fieldStep] at found
    split at found
    · cases found
    · exact (Option.some.inj found).symm

/-- Every event bears the id and the time of a backup of the history. -/
def Stamped (history : List Backup) (log : List AnchorEvent) : Prop :=
  ∀ event ∈ log, ∃ bkp ∈ history, event.backupId = bkp.id ∧ event.occurredAt = bkp.startedAt

/-- The best events of an anchor trace its state. -/
structure Traced (history : List Backup) (log : List AnchorEvent) (anchor : String)
    (state : Backup → Option Val) (step : Option Val → Option Val → Option Val) : Prop where
  quiet : ∀ bkp ∈ history, numberedFirst (partition log anchor bkp) = none →
    step (stateBefore history state bkp) (state bkp) = none
  value : ∀ bkp ∈ history, ∀ event, numberedFirst (partition log anchor bkp) = some event →
    event.value.getD .none = json (shown (stateBefore history state bkp) (state bkp))

section Timeline

variable {history : List Backup} (order : InOrder history)

include order

theorem stateBefore_eq {past rest : List Backup} {bkp : Backup} (whole : history = past ++ bkp :: rest)
    (state : Backup → Option Val) : stateBefore history state bkp = past.getLast?.bind state := by
  have ids := order.ids
  rw [whole, List.map_append, List.nodup_append] at ids
  have apart : ∀ other ∈ past, decide (other ≠ bkp) = true := by
    intro other member
    rw [decide_eq_true_eq]
    rintro rfl
    exact ids.2.2 _ (List.mem_map_of_mem member) _ (by simp) rfl
  rw [stateBefore, whole, List.takeWhile_append_of_pos apart, List.takeWhile_cons_of_neg (by simp),
    List.append_nil]

/-- What lies between two backups. -/
theorem between {first last : Backup} (memberFirst : first ∈ history) (memberLast : last ∈ history)
    (before : first.startedAt < last.startedAt) :
    ∃ past middle rest, history = past ++ first :: (middle ++ last :: rest) ∧
      ∀ bkp ∈ middle, first.startedAt < bkp.startedAt ∧ bkp.startedAt < last.startedAt := by
  obtain ⟨front, rest, rfl⟩ := List.append_of_mem memberLast
  have parts := List.pairwise_append.mp order.increasing
  have inFront : first ∈ front := by
    rcases List.mem_append.mp memberFirst with inside | inside
    · exact inside
    · rcases List.mem_cons.mp inside with rfl | inside
      · exact absurd before (lt_irrefl _)
      · exact absurd before (lt_asymm ((List.pairwise_cons.mp parts.2.1).1 first inside))
  obtain ⟨past, middle, rfl⟩ := List.append_of_mem inFront
  refine ⟨past, middle, rest, by simp, fun bkp member => ?_⟩
  exact ⟨(List.pairwise_cons.mp (List.pairwise_append.mp parts.1).2.1).1 bkp member,
    parts.2.2 bkp (by simp [member]) last List.mem_cons_self⟩

variable {log : List AnchorEvent} {anchor : String} {state : Backup → Option Val}
  {step : Option Val → Option Val → Option Val} (rule : StepRule step)
  (traced : Traced history log anchor state step)

include rule traced

/-- Between two backups without an event of the anchor its state does not step. -/
theorem steady_before {past middle rest : List Backup} {first last : Backup}
    (whole : history = past ++ first :: (middle ++ last :: rest))
    (silent : ∀ bkp ∈ middle, numberedFirst (partition log anchor bkp) = none) :
    step (state first) (stateBefore history state last) = none := by
  induction middle generalizing past first with
  | nil =>
    have split : history = (past ++ [first]) ++ last :: rest := by rw [whole]; simp
    rw [stateBefore_eq order split, List.getLast?_concat, Option.bind_some]
    exact rule.refl _
  | cons bkp middle ih =>
    have split : history = (past ++ [first]) ++ bkp :: (middle ++ last :: rest) := by
      rw [whole]; simp
    have later := ih split fun other member => silent other (List.mem_cons_of_mem _ member)
    have here := traced.quiet bkp (by rw [split]; simp) (silent bkp List.mem_cons_self)
    rw [stateBefore_eq order split, List.getLast?_concat, Option.bind_some] at here
    exact rule.trans here later

theorem steady {first last : Backup} (memberFirst : first ∈ history) (memberLast : last ∈ history)
    (before : first.startedAt ≤ last.startedAt)
    (silent : ∀ bkp ∈ history, first.startedAt < bkp.startedAt → bkp.startedAt ≤ last.startedAt →
      numberedFirst (partition log anchor bkp) = none) :
    step (state first) (state last) = none := by
  rcases before.lt_or_eq with earlier | same
  · obtain ⟨past, middle, rest, whole, inside⟩ := between order memberFirst memberLast earlier
    refine rule.trans (steady_before order rule traced whole fun bkp member => ?_)
      (traced.quiet last memberLast (silent last memberLast earlier le_rfl))
    obtain ⟨after, until_⟩ := inside bkp member
    exact silent bkp (by rw [whole]; simp [member]) after until_.le
  · have starts := List.pairwise_map.mpr (order.increasing.imp Nat.ne_of_lt)
    rw [List.inj_on_of_nodup_map starts memberFirst memberLast same]
    exact rule.refl _

end Timeline

/-! ### The rows of a range -/

section Range

variable {history : List Backup} {log : List AnchorEvent} (order : InOrder history)
  (stamped : Stamped history log) {anchor : String} {sinceAt untilAt : Nat}

include order stamped

theorem best_spec {bkp : Backup} (listed : bkp ∈ history) {event : AnchorEvent}
    (found : numberedFirst (partition log anchor bkp) = some event) :
    event ∈ log ∧ event.anchorId = anchor ∧ event.backupId = bkp.id ∧
      event.occurredAt = bkp.startedAt := by
  have member := (numberedFirst_spec found).1
  simp only [partition, List.mem_filter, decide_eq_true_eq] at member
  obtain ⟨⟨inLog, named⟩, sameId⟩ := member
  obtain ⟨other, inside, ids, times⟩ := stamped event inLog
  have same := List.inj_on_of_nodup_map order.ids inside listed (ids.symm.trans sameId)
  exact ⟨inLog, named, sameId, same ▸ times⟩

theorem partition_window {bkp : Backup} (listed : bkp ∈ history)
    (inRange : sinceAt ≤ bkp.startedAt ∧ bkp.startedAt ≤ untilAt) :
    partition (window log sinceAt untilAt) anchor bkp = partition log anchor bkp := by
  simp only [partition, window, List.filter_filter]
  apply List.filter_congr
  intro event member
  by_cases sameId : event.backupId = bkp.id
  · obtain ⟨other, inside, ids, times⟩ := stamped event member
    have same := List.inj_on_of_nodup_map order.ids inside listed (ids.symm.trans sameId)
    rw [← same, ← times] at inRange
    simp [inRange]
  · simp [sameId]

/-- Each backup of the range that has an event of the anchor is there with its best one. -/
theorem mem_dedupeByBackup (event : AnchorEvent) :
    event ∈ dedupeByBackup (window log sinceAt untilAt) anchor ↔
      ∃ bkp ∈ history, (sinceAt ≤ bkp.startedAt ∧ bkp.startedAt ≤ untilAt) ∧
        numberedFirst (partition log anchor bkp) = some event := by
  simp only [dedupeByBackup, List.mem_filterMap, List.mem_dedup, List.mem_map]
  constructor
  · rintro ⟨id, ⟨witness, member, rfl⟩, found⟩
    obtain ⟨inWindow, -⟩ := List.mem_filter.mp member
    obtain ⟨inLog, inRange⟩ := List.mem_filter.mp inWindow
    obtain ⟨bkp, listed, ids, times⟩ := stamped witness inLog
    rw [times, decide_eq_true_eq] at inRange
    refine ⟨bkp, listed, inRange, ?_⟩
    rw [← partition_window order stamped listed inRange, partition, ← ids]
    exact found
  · rintro ⟨bkp, listed, inRange, found⟩
    rw [← partition_window order stamped listed inRange] at found
    have member := (numberedFirst_spec found).1
    obtain ⟨inside, sameId⟩ := List.mem_filter.mp member
    exact ⟨bkp.id, ⟨event, inside, of_decide_eq_true sameId⟩, found⟩

end Range

/-- What a row says of an anchor with these states. Its original value is that of the first backup
in the range which touches the anchor, after the change; until then the anchor was as in the since
backup. Its current value is that of the last such backup; after it the anchor was as in the until
backup. A value that the backup removed is shown as it last was. -/
structure Endpoints (history : List Backup) (state : Backup → Option Val)
    (step : Option Val → Option Val → Option Val) (since until_ : Backup)
    (row : CumulativeChangeRow) : Prop where
  first : ∃ bkp ∈ history, row.firstSeenAt = bkp.startedAt ∧ bkp.startedAt ≤ until_.startedAt ∧
    (bkp = since ∨ since.startedAt < bkp.startedAt ∧
      step (state since) (stateBefore history state bkp) = none) ∧
    row.originalValue = json (shown (stateBefore history state bkp) (state bkp))
  last : ∃ bkp ∈ history, row.lastChangeAt = bkp.startedAt ∧ since.startedAt ≤ bkp.startedAt ∧
    bkp.startedAt ≤ until_.startedAt ∧ step (state bkp) (state until_) = none ∧
    row.currentValue = json (shown (stateBefore history state bkp) (state bkp))

/-- The rows of an anchor: each is right, and there is one where the ends differ. -/
structure RowsRight (history : List Backup) (anchor : String) (state : Backup → Option Val)
    (step : Option Val → Option Val → Option Val) (since until_ : Backup)
    (rows : List CumulativeChangeRow) : Prop where
  endpoints : ∀ row ∈ rows, row.anchorId = anchor → Endpoints history state step since until_ row
  differing : step (state since) (state until_) ≠ none → ∃ row ∈ rows, row.anchorId = anchor

theorem cumulativeChange_anchor {events : List AnchorEvent} {anchor : String}
    {row : CumulativeChangeRow} (found : cumulativeChange events anchor = some row) :
    row.anchorId = anchor := by
  simp only [cumulativeChange, Option.bind_eq_bind, Option.bind_eq_some_iff] at found
  obtain ⟨first, -, last, -, built⟩ := found
  cases built
  rfl

/-- No anchor has two rows. -/
theorem cumulativeChanges_once (log : List AnchorEvent) (sinceAt untilAt : Nat) :
    ((cumulativeChanges log sinceAt untilAt).map CumulativeChangeRow.anchorId).Nodup := by
  rw [cumulativeChanges, ((newestFirst_perm _ _).map _).nodup_iff, List.Nodup, List.pairwise_map,
    List.pairwise_filterMap]
  refine (List.nodup_dedup _).imp fun apart row found other found' same => apart ?_
  rw [← cumulativeChange_anchor found, ← cumulativeChange_anchor found', same]

theorem mem_cumulativeChanges {log : List AnchorEvent} {sinceAt untilAt : Nat}
    (row : CumulativeChangeRow) : row ∈ cumulativeChanges log sinceAt untilAt ↔
      row.anchorId ∈ (window log sinceAt untilAt).map AnchorEvent.anchorId ∧
        cumulativeChange (window log sinceAt untilAt) row.anchorId = some row := by
  rw [cumulativeChanges, (newestFirst_perm _ _).mem_iff, List.mem_filterMap]
  constructor
  · rintro ⟨anchor, listed, found⟩
    rw [cumulativeChange_anchor found]
    exact ⟨List.mem_dedup.mp listed, found⟩
  · rintro ⟨listed, found⟩
    exact ⟨row.anchorId, List.mem_dedup.mpr listed, found⟩

section Rows

variable {history : List Backup} {log : List AnchorEvent} (order : InOrder history)
  (stamped : Stamped history log) {anchor : String} {state : Backup → Option Val}
  {step : Option Val → Option Val → Option Val} (rule : StepRule step)
  (traced : Traced history log anchor state step) {since until_ : Backup}
  (sinceListed : since ∈ history) (untilListed : until_ ∈ history)

include order stamped rule traced sinceListed

theorem first_right {first : AnchorEvent}
    (head : (oldestFirst (eventKey (window log since.startedAt until_.startedAt)) (dedupeByBackup
      (window log since.startedAt until_.startedAt) anchor)).head? = some first) :
    ∃ bkp ∈ history, first.occurredAt = bkp.startedAt ∧ bkp.startedAt ≤ until_.startedAt ∧
      (bkp = since ∨ since.startedAt < bkp.startedAt ∧
        step (state since) (stateBefore history state bkp) = none) ∧
      first.value.getD .none = json (shown (stateBefore history state bkp) (state bkp)) := by
  obtain ⟨bkp, listed, inRange, found⟩ :=
    (mem_dedupeByBackup order stamped first).mp (mem_of_head head)
  have time := (best_spec order stamped listed found).2.2.2
  refine ⟨bkp, listed, time, inRange.2, ?_, traced.value bkp listed first found⟩
  rcases inRange.1.eq_or_lt with same | later
  · have starts := List.pairwise_map.mpr (order.increasing.imp Nat.ne_of_lt)
    exact .inl (List.inj_on_of_nodup_map starts listed sinceListed same.symm)
  · obtain ⟨past, middle, rest, whole, inside⟩ := between order sinceListed listed later
    refine .inr ⟨later, steady_before order rule traced whole fun other member => ?_⟩
    obtain ⟨after, before⟩ := inside other member
    have otherListed : other ∈ history := by rw [whole]; simp [member]
    cases event : numberedFirst (partition log anchor other) with
    | none => rfl
    | some earlier =>
      have among := (mem_dedupeByBackup order stamped earlier).mpr
        ⟨other, otherListed, ⟨after.le, before.le.trans inRange.2⟩, event⟩
      have bound := Prod.Lex.monotone_fst _ _ (OrderDual.toDual_le_toDual.mp
        (le_of_head head among))
      have earlierTime := (best_spec order stamped otherListed event).2.2.2
      simp only [eventKey, ofLex_toLex, time, earlierTime] at bound
      exact absurd before (not_lt_of_ge bound)

omit sinceListed in
include untilListed in
theorem last_right {last : AnchorEvent}
    (head : (newestFirst (eventKey (window log since.startedAt until_.startedAt)) (dedupeByBackup
      (window log since.startedAt until_.startedAt) anchor)).head? = some last) :
    ∃ bkp ∈ history, last.occurredAt = bkp.startedAt ∧ since.startedAt ≤ bkp.startedAt ∧
      bkp.startedAt ≤ until_.startedAt ∧ step (state bkp) (state until_) = none ∧
      last.value.getD .none = json (shown (stateBefore history state bkp) (state bkp)) := by
  obtain ⟨bkp, listed, inRange, found⟩ :=
    (mem_dedupeByBackup order stamped last).mp (mem_of_head head)
  have time := (best_spec order stamped listed found).2.2.2
  refine ⟨bkp, listed, time, inRange.1, inRange.2, ?_, traced.value bkp listed last found⟩
  refine steady order rule traced listed untilListed inRange.2 fun other otherListed after before => ?_
  cases event : numberedFirst (partition log anchor other) with
  | none => rfl
  | some later =>
    have among := (mem_dedupeByBackup order stamped later).mpr
      ⟨other, otherListed, ⟨inRange.1.trans after.le, before⟩, event⟩
    have bound := Prod.Lex.monotone_fst _ _ (le_of_head head among)
    have laterTime := (best_spec order stamped otherListed event).2.2.2
    simp only [eventKey, ofLex_toLex, time, laterTime] at bound
    exact absurd after (not_lt_of_ge bound)

include untilListed

/-- Where the ends of a range differ, a backup of the range has an event. -/
theorem touched (before : since.startedAt ≤ until_.startedAt)
    (differ : step (state since) (state until_) ≠ none) :
    dedupeByBackup (window log since.startedAt until_.startedAt) anchor ≠ [] := by
  intro empty
  refine differ (steady order rule traced sinceListed untilListed before
    fun bkp listed after inside => ?_)
  cases event : numberedFirst (partition log anchor bkp) with
  | none => rfl
  | some found =>
    have among := (mem_dedupeByBackup order stamped found).mpr
      ⟨bkp, listed, ⟨after.le, inside⟩, event⟩
    rw [empty] at among
    cases among

theorem rows_right (before : since.startedAt ≤ until_.startedAt) :
    RowsRight history anchor state step since until_
      (cumulativeChanges log since.startedAt until_.startedAt) where
  endpoints := by
    rintro row member rfl
    have found := ((mem_cumulativeChanges row).mp member).2
    simp only [cumulativeChange, Option.bind_eq_bind, Option.bind_eq_some_iff] at found
    obtain ⟨first, firstHead, last, lastHead, built⟩ := found
    have right := first_right order stamped rule traced sinceListed firstHead
    have right' := last_right order stamped rule traced untilListed lastHead
    rw [← Option.some.inj built]
    exact ⟨right, right'⟩
  differing := by
    intro differ
    have some_ := touched order stamped rule traced sinceListed untilListed before differ
    obtain ⟨event, rest, shape⟩ := List.exists_cons_of_ne_nil some_
    have member : event ∈ dedupeByBackup (window log since.startedAt until_.startedAt) anchor := by
      rw [shape]
      exact List.mem_cons_self
    obtain ⟨bkp, listed, inRange, found⟩ := (mem_dedupeByBackup order stamped event).mp member
    obtain ⟨inLog, named, -, time⟩ := best_spec order stamped listed found
    obtain ⟨first, firstHead⟩ := exists_head (fun event => OrderDual.toDual
      (eventKey (window log since.startedAt until_.startedAt) event)) some_
    obtain ⟨last, lastHead⟩ := exists_head
      (eventKey (window log since.startedAt until_.startedAt)) some_
    have built : ∃ row, cumulativeChange (window log since.startedAt until_.startedAt) anchor =
        some row := by
      rw [cumulativeChange, oldestFirst, firstHead, lastHead]
      exact ⟨_, rfl⟩
    obtain ⟨row, found⟩ := built
    have sameAnchor := cumulativeChange_anchor found
    refine ⟨row, (mem_cumulativeChanges row).mpr ⟨?_, sameAnchor ▸ found⟩, sameAnchor⟩
    rw [sameAnchor, ← named]
    refine List.mem_map_of_mem (List.mem_filter.mpr ⟨inLog, ?_⟩)
    rw [time, decide_eq_true_eq]
    exact inRange

end Rows

/-! ### The anchors of an ingested log -/

/-- The events of one step report it, and those that only move a row show it too. -/
structure EventsTraced (events : List Event) (step : Option Val → Option Val → Option Val)
    (before after : Option Val) : Prop where
  outcome : Outcome events (step before after)
  moved : step before after = none → ∀ event ∈ events, event.value = shown before after

section Best

variable {events : List Event} {step : Option Val → Option Val → Option Val}
  {before after : Option Val} (traced : EventsTraced events step before after)
  {stored : Event → AnchorEvent}

include traced

theorem EventsTraced.quiet (vacant : numberedFirst (events.map stored) = none) :
    step before after = none := by
  have empty : events = [] := by simpa using numberedFirst_eq_none.mp vacant
  cases found : step before after with
  | none => rfl
  | some value =>
    have outcome := traced.outcome
    rw [found, empty] at outcome
    obtain ⟨⟨event, member, -⟩, -⟩ := outcome
    cases member

theorem EventsTraced.value (rule : StepRule step) (kinds : ∀ event, (stored event).kind = event.kind)
    (values : ∀ event, (stored event).value = valueJson event.value) {best : AnchorEvent}
    (found : numberedFirst (events.map stored) = some best) :
    best.value.getD .none = json (shown before after) := by
  obtain ⟨member, least⟩ := numberedFirst_spec found
  obtain ⟨source, inside, rfl⟩ := List.mem_map.mp member
  rw [values, valueJson_getD]
  congr 1
  cases outcome : step before after with
  | none => exact traced.moved outcome source inside
  | some value =>
    have spec := traced.outcome
    rw [outcome] at spec
    rw [← rule.shows outcome]
    refine spec.2 source inside fun other listed => ?_
    have bound := least (stored other) (List.mem_map_of_mem listed)
    rwa [kinds, kinds] at bound

end Best

section Ingested

variable {Bytes : Type*} {read : Backup → Option Bytes} {parse : Bytes → Option ParsedConfig}
  {configs : Backup → ParsedConfig} {history : List Backup} (order : InOrder history)

include order

theorem stamped_ingested : Stamped history (ingested read parse history) := by
  intro event member
  obtain ⟨past, bkp, rest, rfl, inside⟩ := (ingested_growsBy read parse).mem_part order member
  exact ⟨bkp, by simp, ingestedPart_stamp read parse inside⟩

theorem traced_ingested (readable : ∀ bkp ∈ history, load read parse bkp = some (configs bkp))
    {anchor : String} {state : ParsedConfig → Option Val}
    {step : Option Val → Option Val → Option Val} (rule : StepRule step)
    (seeded : ∀ bkp ∈ history,
      EventsTraced (anchored anchor (seeds (configs bkp))) step none (state (configs bkp)))
    (steps : List.IsChain (fun before after => EventsTraced
      (anchored anchor (diffToAnchorEvents (diffConfigs before after) after)) step (state before)
        (state after)) (history.map configs)) :
    Traced history (ingested read parse history) anchor (fun bkp => state (configs bkp)) step := by
  have here : ∀ bkp ∈ history, ∃ previous, partition (ingested read parse history) anchor bkp =
      (anchored anchor (eventsAfter configs previous bkp)).map (storedFor bkp previous) ∧
      EventsTraced (anchored anchor (eventsAfter configs previous bkp)) step
        (stateBefore history (fun bkp => state (configs bkp)) bkp) (state (configs bkp)) := by
    intro bkp listed
    obtain ⟨past, rest, rfl⟩ := List.append_of_mem listed
    refine ⟨past.getLast?, ?_, ?_⟩
    · rw [partition, partition_eq (ingested_growsBy read parse) order, partition_ingested readable]
    · rw [stateBefore_eq order rfl]
      rcases List.eq_nil_or_concat past with rfl | ⟨front, base, rfl⟩
      · exact seeded bkp listed
      · rw [List.concat_eq_append, List.append_assoc, List.map_append] at steps
        simp only [List.singleton_append, List.map_cons] at steps
        rw [List.concat_eq_append, List.getLast?_concat]
        exact (List.isChain_append_cons_cons.mp steps).2.1
  constructor
  · intro bkp listed vacant
    obtain ⟨previous, same, traced⟩ := here bkp listed
    rw [same] at vacant
    exact traced.quiet vacant
  · intro bkp listed event found
    obtain ⟨previous, same, traced⟩ := here bkp listed
    rw [same] at found
    exact traced.value rule (fun _ => rfl) (fun _ => rfl) found

end Ingested

/-- The one event of a field's anchor is no move. -/
theorem fieldReport_traced {events : List Event} {aid : String} {before after : Option Val}
    (spec : ∀ event, event ∈ events ↔ fieldReport aid before after = some event) :
    EventsTraced events fieldStep before after where
  outcome := outcome_of_report spec
  moved := by
    intro quiet event member
    have outcome := outcome_of_report spec
    rw [quiet] at outcome
    exact absurd (outcome event member) (fieldReport_kind ((spec event).mp member))

section RowAnchors

variable {spec : RowSpec} {aid : String} (listed : spec ∈ sectionSpec)
  (inScope : ofScope "xref" spec.anchorKind aid = true)

include listed inScope

theorem row_seeds_traced {config : ParsedConfig} (keyed : KeyedRows spec (config.rows spec.section_)) :
    EventsTraced (anchored aid (seeds config)) rowStep none (rowState spec aid config) where
  outcome := row_seeded listed inScope keyed
  moved := by
    intro quiet event member
    obtain ⟨row, inside, named, rfl⟩ := (mem_row_seeds listed inScope config event).mp member
    have held := (rowState_eq_some keyed).mpr ⟨row, inside, named, rfl⟩
    rw [held] at quiet
    cases quiet

theorem row_events_traced {before after : ParsedConfig}
    (keyedB : KeyedRows spec (before.rows spec.section_))
    (keyedA : KeyedRows spec (after.rows spec.section_)) (kept : AnchorsKept spec before after) :
    EventsTraced (anchored aid (diffToAnchorEvents (diffConfigs before after) after)) rowStep
      (rowState spec aid before) (rowState spec aid after) where
  outcome := row_accounted listed inScope keyedB keyedA kept
  moved := by
    intro quiet event member
    have outcome := row_accounted listed inScope keyedB keyedA kept
    rw [StepAccounted, quiet] at outcome
    have moved := outcome event member
    obtain ⟨kind, row, reports, named, rfl⟩ :=
      (mem_row_events listed inScope keyedB keyedA event).mp member
    obtain rfl : kind = .reordered := moved
    have held := (rowState_eq_some keyedA).mpr ⟨row, reports.1, named, rfl⟩
    rw [held]
    rfl

end RowAnchors

/-! ### The response -/

/-- The tables of an instance whose log is complete: every backup was ingested, in order. -/
structure Complete {Bytes : Type*} (read : Backup → Option Bytes)
    (parse : Bytes → Option ParsedConfig) (history : List Backup) (tables : InstanceTables) :
    Prop where
  order : InOrder history
  listed : ∀ bkp ∈ history, (bkp, true) ∈ tables.backups
  ids : (tables.backups.map fun row => row.1.id).Nodup
  log : tables.log = ingested read parse history
  backfilled : tables.backfilled = true

/-- The rows of the response, for each kind of anchor. -/
structure WindowRight (configs : Backup → ParsedConfig) (history : List Backup)
    (since until_ : Backup) (answer : List CumulativeChangeRow) : Prop where
  once : (answer.map CumulativeChangeRow.anchorId).Nodup
  rows : ∀ spec ∈ sectionSpec,
    (∀ bkp ∈ history, KeyedRows spec ((configs bkp).rows spec.section_)) →
    List.IsChain (AnchorsKept spec) (history.map configs) → ∀ tail,
      RowsRight history (anchorId "xref" spec.anchorKind tail)
        (fun bkp => rowState spec (anchorId "xref" spec.anchorKind tail) (configs bkp))
        rowStep since until_ answer
  fields : ∀ spec ∈ singletonSpec, ∀ name ∈ spec.section_.model.names,
    RowsRight history (targetId spec name) (fun bkp => fieldState spec name (configs bkp))
      fieldStep since until_ answer
  packages : ∀ pkg ∈ packageSingletonSpec.map Prod.snd,
    List.IsChain (PackageSteady pkg) (history.map configs) → ∀ leaf ∈ (packageModel pkg).names,
      RowsRight history (anchorId "field" pkg leaf)
        (fun bkp => packageState pkg leaf (configs bkp)) fieldStep since until_ answer

theorem windowEnd_of_mem {tables : InstanceTables}
    (ids : (tables.backups.map fun row => row.1.id).Nodup) {bkp : Backup} (inside : bkp ∈ tables.backups.map Prod.fst) (detail : String)
    (default : List Backup → Option Backup) :
    windowEnd tables (some bkp.id) detail default = .ok (some bkp) := by
  have distinct : ((tables.backups.map Prod.fst).map Backup.id).Nodup := by
    rw [List.map_map]
    exact ids
  rw [windowEnd]
  cases found : (tables.backups.map Prod.fst).find? fun other => other.id = bkp.id with
  | none =>
    have absent := List.find?_eq_none.mp found bkp inside
    simp at absent
  | some other =>
    have same : other.id = bkp.id := by simpa using List.find?_some found
    rw [List.inj_on_of_nodup_map distinct (List.mem_of_find?_eq_some found) inside same]

section Response

variable {Bytes : Type*} {read : Backup → Option Bytes} {parse : Bytes → Option ParsedConfig}
  {configs : Backup → ParsedConfig} {history : List Backup} {tables : InstanceTables}
  (complete : Complete read parse history tables)

include complete

theorem windowEnd_listed {bkp : Backup} (member : bkp ∈ history) (detail : String)
    (default : List Backup → Option Backup) :
    windowEnd tables (some bkp.id) detail default = .ok (some bkp) :=
  windowEnd_of_mem complete.ids (List.mem_map_of_mem (complete.listed bkp member)) detail default

/-- Over a complete log every row of the response goes from the first change of its anchor in the
range to the last, and every anchor that differs between the ends of the range has its row. -/
theorem cumulativeChanges_right
    (readable : ∀ bkp ∈ history, load read parse bkp = some (configs bkp)) {since until_ : Backup}
    (sinceListed : since ∈ history) (untilListed : until_ ∈ history)
    (before : since.startedAt ≤ until_.startedAt) :
    ∃ rows, instanceCumulativeChanges (some tables) (some since.id) (some until_.id) =
        .ok ⟨since.id, until_.id, rows, true⟩ ∧ WindowRight configs history since until_ rows := by
  have order := complete.order
  have stamped := @stamped_ingested _ read parse history order
  refine ⟨cumulativeChanges tables.log since.startedAt until_.startedAt, ?_, ?_⟩
  · simp only [instanceCumulativeChanges, windowEnd_listed complete sinceListed,
      windowEnd_listed complete untilListed]
    simp [complete.backfilled, not_lt.mpr before, pure, Except.pure, bind, Except.bind]
  rw [complete.log]
  refine ⟨cumulativeChanges_once _ _ _, ?_, ?_, ?_⟩
  · intro spec listed keyed kept tail
    have plain := anchorKind_dashless spec listed
    have inScope : ofScope "xref" spec.anchorKind (anchorId "xref" spec.anchorKind tail) = true :=
      (ofScope_anchorId tail (by decide) (by decide) plain plain).mpr ⟨rfl, rfl⟩
    have allKeyed : ∀ config ∈ history.map configs, KeyedRows spec (config.rows spec.section_) := by
      intro config member
      obtain ⟨bkp, inside, rfl⟩ := List.mem_map.mp member
      exact keyed bkp inside
    have traced := traced_ingested order readable rowStep_rule
      (fun bkp member => row_seeds_traced listed inScope (keyed bkp member))
      (kept.imp_of_mem_imp fun a b memberA memberB step =>
        row_events_traced listed inScope (allKeyed a memberA) (allKeyed b memberB) step)
    exact rows_right order stamped rowStep_rule traced sinceListed untilListed before
  · intro spec listed name declared
    have traced := traced_ingested order readable fieldStep_rule
      (fun bkp _ => fieldReport_traced fun event => mem_anchored.trans
        (mem_field_seeds listed declared (configs bkp) event))
      (List.isChain_iff_forall_rel_of_append_cons_cons.mpr fun a b _ _ _ =>
        fieldReport_traced fun event => mem_anchored.trans
          (mem_field_events listed declared a b event))
    exact rows_right order stamped fieldStep_rule traced sinceListed untilListed before
  · intro pkg listed steady leaf member
    have traced := traced_ingested order readable fieldStep_rule
      (fun bkp _ => fieldReport_traced fun event => mem_anchored.trans
        (mem_package_seeds listed member (configs bkp) event))
      (steady.imp fun a b step => fieldReport_traced fun event => mem_anchored.trans
        (mem_package_events listed member a b step event))
    exact rows_right order stamped fieldStep_rule traced sinceListed untilListed before

end Response

/-- Three backups: an alias is there in the middle one only. -/
def aliasTried : List Backup := [⟨0, 0⟩, ⟨1, 10⟩, ⟨2, 20⟩]

def aliasTables : InstanceTables where
  backups := aliasTried.map fun bkp => (bkp, true)
  log := ingested readAlias some aliasTried
  backfilled := true

theorem aliasTried_complete : Complete readAlias some aliasTried aliasTables where
  order := ⟨by decide, by decide⟩
  listed := by decide
  ids := by decide
  log := rfl
  backfilled := rfl

theorem aliasTried_right :
    ∃ rows, instanceCumulativeChanges (some aliasTables) (some 0) (some 2) =
        .ok ⟨0, 2, rows, true⟩ ∧ WindowRight aliasConfigs aliasTried ⟨0, 0⟩ ⟨2, 20⟩ rows :=
  @cumulativeChanges_right _ readAlias some aliasConfigs aliasTried aliasTables aliasTried_complete
    (fun _ _ => rfl) ⟨0, 0⟩ ⟨2, 20⟩ (by decide) (by decide) (by decide)

/-- The alias is shown at both ends of the range, where neither backup has it. -/
theorem aliasTried_shown : Complete readAlias some aliasTried aliasTables ∧
    (∀ bkp ∈ aliasTried, load readAlias some bkp = some (aliasConfigs bkp)) ∧
    ∃ response, instanceCumulativeChanges (some aliasTables) (some 0) (some 2) = .ok response ∧
      ∃ row ∈ response.rows, row.anchorId = "xref-alias-lan_hosts" ∧
        row.originalValue ≠ json ((rowState ⟨.aliases, "alias", "name", "name"⟩
          "xref-alias-lan_hosts" (aliasConfigs ⟨0, 0⟩)).getD .none) ∧
        row.currentValue ≠ json ((rowState ⟨.aliases, "alias", "name", "name"⟩
          "xref-alias-lan_hosts" (aliasConfigs ⟨2, 20⟩)).getD .none) :=
  ⟨aliasTried_complete, fun _ _ => rfl, _, rfl, by decide⟩

end PfsenseBackups.CumulativeChanges

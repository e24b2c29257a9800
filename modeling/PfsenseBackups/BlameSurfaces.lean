import PfsenseBackups.CumulativeChanges

/-! The `/anchor-blame-summary` endpoint, and what it and `/cumulative-changes` have in common with
the indexed path of `/anchor-history`. -/

namespace PfsenseBackups.BlameSurfaces
open Value AnchorEvents EventLog AnchorTimeline AnchorHistory Selections CumulativeChanges

/-! ### The endpoint -/

structure AnchorBlameSummaryEntry where
  backupId : Nat
  occurredAt : Nat
  kind : Kind
  deriving DecidableEq

structure AnchorBlameSummaryResponse where
  asOfBackupId : Nat
  anchors : List (String × AnchorBlameSummaryEntry)
  indexed : Bool
  deriving DecidableEq

/-- The order of `rn`: the latest time, then the least priority. -/
def blameKey (event : AnchorEvent) : Natᵒᵈ ×ₗ Nat :=
  toLex (OrderDual.toDual event.occurredAt, kindPriority event.kind)

/-- The event with row number 1 among those of an anchor; the greatest id breaks ties. -/
def latestEvent (rows : List AnchorEvent) : Option AnchorEvent :=
  (oldestFirst blameKey rows.reverse).head?

def blameEntry (event : AnchorEvent) : AnchorBlameSummaryEntry :=
  ⟨event.backupId, event.occurredAt, event.kind⟩

/-- The latest row of each anchor, at or before a time. -/
def blameSummary (log : List AnchorEvent) (asOfAt : Nat) :
    List (String × AnchorBlameSummaryEntry) :=
  let events := log.filter fun event => event.occurredAt ≤ asOfAt
  (events.map AnchorEvent.anchorId).dedup.filterMap fun anchor =>
    (latestEvent (events.filter fun event => event.anchorId = anchor)).map fun event =>
      (anchor, blameEntry event)

/-- `instance_anchor_blame_summary`. -/
def instanceAnchorBlameSummary (instance_ : Option InstanceTables) (asOfBackupId : Option Nat) :
    Except (Nat × String) AnchorBlameSummaryResponse :=
  match instance_ with
  | none => .error (404, "instance not found")
  | some tables => do
    let row ← windowEnd tables asOfBackupId "backup not found for this instance"
      fun rows => (newestFirst Backup.startedAt rows).head?
    match row with
    | none => return ⟨0, [], tables.backfilled⟩
    | some asOf =>
      if tables.backfilled = false then return ⟨asOf.id, [], false⟩
      else return ⟨asOf.id, blameSummary tables.log asOf.startedAt, true⟩

/-! ### Times -/

/-- Backups have ids and times of their own, and every event bears those of a backup. -/
structure Timed (tables : InstanceTables) : Prop where
  ids : (tables.backups.map fun row => row.1.id).Nodup
  starts : (tables.backups.map fun row => row.1.startedAt).Nodup
  events : ∀ event ∈ tables.log, ∃ row ∈ tables.backups,
    event.backupId = row.1.id ∧ event.occurredAt = row.1.startedAt

/-- The backups of an instance by time. -/
def byTime (tables : InstanceTables) : List Backup :=
  (tables.backups.map Prod.fst).insertionSort fun x y => x.startedAt ≤ y.startedAt

theorem mem_byTime {tables : InstanceTables} {bkp : Backup} :
    bkp ∈ byTime tables ↔ bkp ∈ tables.backups.map Prod.fst :=
  (List.perm_insertionSort _ _).mem_iff

section Tables

variable {tables : InstanceTables} (timed : Timed tables)

include timed

theorem byTime_inOrder : InOrder (byTime tables) where
  increasing := by
    have perm : (byTime tables).Perm (tables.backups.map Prod.fst) := List.perm_insertionSort _ _
    have sorted := List.pairwise_insertionSort (fun x y : Backup => x.startedAt ≤ y.startedAt)
      (tables.backups.map Prod.fst)
    have starts : ((byTime tables).map Backup.startedAt).Nodup := by
      apply (perm.map _).nodup_iff.mpr
      rw [List.map_map]
      exact timed.starts
    apply (sorted.and (List.pairwise_map.mp starts)).imp
    intro x y both
    exact lt_of_le_of_ne both.1 both.2
  ids := by
    have perm : (byTime tables).Perm (tables.backups.map Prod.fst) := List.perm_insertionSort _ _
    apply (perm.map _).nodup_iff.mpr
    rw [List.map_map]
    exact timed.ids

theorem byTime_stamped : Stamped (byTime tables) tables.log := by
  intro event member
  have ⟨row, listed, sameId, sameTime⟩ := timed.events event member
  exact ⟨row.1, mem_byTime.mpr (List.mem_map_of_mem listed), sameId, sameTime⟩

end Tables

/-! ### The history of a span of time -/

theorem eventRows_perm (log : List AnchorEvent) (anchor : String) :
    (eventRows log anchor).Perm (dedupeByBackup log anchor) :=
  List.perm_insertionSort _ _

section Span

variable {history : List Backup} {log : List AnchorEvent} (order : InOrder history)
  (stamped : Stamped history log) (anchor : String)

include order stamped

/-- The entries of a history have times of their own. -/
theorem eventRows_increasing :
    (eventRows log anchor).Pairwise fun x y => x.occurredAt < y.occurredAt := by
  rw [eventRows_of_dated order stamped, List.pairwise_filterMap]
  apply order.increasing.imp_of_mem
  intro x y memberX memberY before left foundLeft right foundRight
  rw [(best_spec order stamped memberX foundLeft).2.2.2,
    (best_spec order stamped memberY foundRight).2.2.2]
  exact before

/-- The history over the events of a span is the part of the history in the span. -/
theorem eventRows_window (sinceAt untilAt : Nat) :
    eventRows (window log sinceAt untilAt) anchor = (eventRows log anchor).filter
      fun event => sinceAt ≤ event.occurredAt ∧ event.occurredAt ≤ untilAt := by
  have inside : Stamped history (window log sinceAt untilAt) :=
    fun event member => stamped event (List.mem_of_mem_filter member)
  rw [eventRows_of_dated order inside, eventRows_of_dated order stamped, List.filter_filterMap]
  apply List.filterMap_congr
  intro bkp listed
  change numberedFirst (partition (window log sinceAt untilAt) anchor bkp) =
    (numberedFirst (partition log anchor bkp)).filter _
  by_cases inRange : sinceAt ≤ bkp.startedAt ∧ bkp.startedAt ≤ untilAt
  · rw [partition_window order stamped listed inRange]
    cases found : numberedFirst (partition log anchor bkp) with
    | none => rfl
    | some event =>
      have time := (best_spec order stamped listed found).2.2.2
      rw [Option.filter_some, time, if_pos (decide_eq_true inRange)]
  · have left : numberedFirst (partition (window log sinceAt untilAt) anchor bkp) = none := by
      apply Option.eq_none_iff_forall_ne_some.mpr
      intro event found
      have ⟨member, _, _, time⟩ := best_spec order inside listed found
      have bounds := of_decide_eq_true (List.mem_filter.mp member).2
      exact inRange (time ▸ bounds)
    rw [left]
    cases found : numberedFirst (partition log anchor bkp) with
    | none => rfl
    | some event =>
      have time := (best_spec order stamped listed found).2.2.2
      rw [Option.filter_some, time, if_neg (by simpa using inRange)]

end Span

/-! ### The summary -/

/-- Among events of one time the order of the summary is that of the history. -/
theorem latestEvent_of_same_time {rows : List AnchorEvent} {time : Nat}
    (same : ∀ event ∈ rows, event.occurredAt = time) : latestEvent rows = numberedFirst rows := by
  have agree : ∀ x ∈ rows.reverse, ∀ y ∈ rows.reverse,
      (OrderDual.toDual (blameKey y) ≤ OrderDual.toDual (blameKey x)) ↔
        kindPriority x.kind ≤ kindPriority y.kind := by
    intro x memberX y memberY
    have timeX := same x (List.mem_reverse.mp memberX)
    have timeY := same y (List.mem_reverse.mp memberY)
    rw [OrderDual.toDual_le_toDual, blameKey, blameKey, timeX, timeY, Prod.Lex.toLex_le_toLex]
    simp
  have sorted := List.map_insertionSort
    (fun x y : AnchorEvent => OrderDual.toDual (blameKey y) ≤ OrderDual.toDual (blameKey x))
    (fun x y : AnchorEvent => kindPriority x.kind ≤ kindPriority y.kind) id rows.reverse agree
  rw [List.map_id, List.map_id] at sorted
  rw [latestEvent, numberedFirst, oldestFirst, newestFirst, sorted]

/-- The last element of a list in strict order is the one that no other exceeds. -/
theorem getLast?_eq_of_max {α : Type*} {time : α → Nat} {list : List α} {last : α}
    (increasing : list.Pairwise fun x y => time x < time y) (member : last ∈ list)
    (bound : ∀ other ∈ list, time other ≤ time last) : list.getLast? = some last := by
  have ⟨before, after, shape⟩ := List.append_of_mem member
  cases after with
  | nil => rw [shape, List.getLast?_concat]
  | cons next rest =>
    have apart := (List.pairwise_append.mp (shape ▸ increasing)).2.1
    have later := (List.pairwise_cons.mp apart).1 next List.mem_cons_self
    have below := bound next (by rw [shape]; simp)
    omega

section Summary

variable {history : List Backup} {log : List AnchorEvent} (order : InOrder history)
  (stamped : Stamped history log) (anchor : String)

include order stamped

/-- The latest event of an anchor is the last entry of its history. -/
theorem latestEvent_eq_last :
    latestEvent (log.filter fun event => event.anchorId = anchor) =
      (eventRows log anchor).getLast? := by
  generalize rowsDef : (log.filter fun event => event.anchorId = anchor) = rows
  have listedRow : ∀ event ∈ rows, event ∈ log := by
    intro event member
    exact List.mem_of_mem_filter (rowsDef ▸ member)
  cases found : latestEvent rows with
  | none =>
    have empty := List.reverse_eq_nil_iff.mp (eq_nil_of_head found)
    simp [eventRows, rowsDef, empty]
  | some event =>
    have inside := List.mem_reverse.mp (mem_of_head found)
    have ⟨bkp, listed, sameId, sameTime⟩ := stamped event (listedRow event inside)
    -- within its backup the event is the one that the history shows
    have own : latestEvent (partition log anchor bkp) = some event := by
      have head := @head_filter _ _ _ _ (fun other => decide (other.backupId = bkp.id)) _ _ found
        (decide_eq_true sameId)
      rw [List.filter_reverse, ← rowsDef] at head
      exact head
    have best : numberedFirst (partition log anchor bkp) = some event := by
      rw [← own, latestEvent_of_same_time]
      intro other member
      have ⟨inRows, otherId⟩ := List.mem_filter.mp member
      have ⟨source, sourceListed, ids, times⟩ := stamped other (List.mem_of_mem_filter inRows)
      have same := List.inj_on_of_nodup_map order.ids sourceListed listed
        (ids.symm.trans (of_decide_eq_true otherId))
      exact times.trans (congrArg Backup.startedAt same)
    symm
    apply getLast?_eq_of_max (eventRows_increasing order stamped anchor)
    · rw [eventRows_of_dated order stamped]
      exact List.mem_filterMap.mpr ⟨bkp, listed, best⟩
    · intro other member
      rw [eventRows_of_dated order stamped] at member
      have ⟨source, sourceListed, otherBest⟩ := List.mem_filterMap.mp member
      have ⟨inLog, named, _⟩ := best_spec order stamped sourceListed otherBest
      have among : other ∈ rows.reverse := by
        rw [← rowsDef]
        exact List.mem_reverse.mpr (List.mem_filter.mpr ⟨inLog, decide_eq_true named⟩)
      exact Prod.Lex.monotone_fst _ _ (OrderDual.toDual_le_toDual.mp (le_of_head found among))

end Summary

/-! ### The rows of a range -/

/-- A list sorted by date is any strictly dated permutation of it. -/
theorem newestFirst_eq_of_perm {α τ : Type*} [LinearOrder τ] {time : α → τ}
    {elements dated : List α}
    (perm : elements.Perm dated) (falling : dated.Pairwise fun x y => time y < time x) :
    newestFirst time elements = dated := by
  have whole := (newestFirst_perm time elements).trans perm
  apply whole.eq_of_pairwise _ (pairwise_newestFirst time elements) (falling.imp le_of_lt)
  intro x y memberX memberY before after
  have times : (dated.map time).Nodup := List.pairwise_map.mpr (falling.imp ne_of_gt)
  exact List.inj_on_of_nodup_map times (whole.mem_iff.mp memberX) memberY (le_antisymm after before)

section Rows

variable {events : List AnchorEvent} {anchor : String}
  (increasing : (eventRows events anchor).Pairwise fun x y => x.occurredAt < y.occurredAt)

include increasing

theorem oldestFirst_dedupe :
    oldestFirst (eventKey events) (dedupeByBackup events anchor) = eventRows events anchor := by
  apply newestFirst_eq_of_perm (eventRows_perm events anchor).symm
  apply increasing.imp
  intro x y before
  exact OrderDual.toDual_lt_toDual.mpr (Prod.Lex.toLex_lt_toLex.mpr (.inl before))

theorem newestFirst_dedupe :
    newestFirst (eventKey events) (dedupeByBackup events anchor) =
      (eventRows events anchor).reverse := by
  apply newestFirst_eq_of_perm
    ((eventRows_perm events anchor).symm.trans (List.reverse_perm _).symm)
  apply List.pairwise_reverse.mpr
  apply increasing.imp
  intro x y before
  exact Prod.Lex.toLex_lt_toLex.mpr (.inl before)

end Rows

/-- `COUNT(DISTINCT backup_id)` counts the entries of the history. -/
theorem count_eq (events : List AnchorEvent) (anchor : String) :
    ((events.filter fun event => event.anchorId = anchor).map AnchorEvent.backupId).dedup.length =
      (eventRows events anchor).length := by
  rw [(eventRows_perm events anchor).length_eq, dedupeByBackup]
  symm
  apply List.filterMap_length_eq_length.mpr
  intro id member
  obtain ⟨event, listed, sameId⟩ := List.mem_map.mp (List.mem_dedup.mp member)
  apply Option.isSome_iff_ne_none.mpr
  intro vacant
  have empty := numberedFirst_eq_none.mp vacant
  exact List.filter_eq_nil_iff.mp empty event listed (decide_eq_true sameId)

/-- The row that the entries of a history from the first to the last amount to. -/
def rowOf (anchor : String) (entries : List AnchorEvent) : Option CumulativeChangeRow := do
  let first ← entries.head?
  let last ← entries.getLast?
  let originalValue := first.value.getD .none
  let currentValue := last.value.getD .none
  return {
    anchorId := anchor
    section_ := sectionForAnchor anchor
    label := anchorLabel anchor originalValue currentValue
    firstSeenAt := first.occurredAt
    lastChangeAt := last.occurredAt
    changeCount := entries.length
    latestKind := last.kind
    originalValue := originalValue
    currentValue := currentValue }

theorem cumulativeChange_eq {events : List AnchorEvent} {anchor : String}
    (increasing : (eventRows events anchor).Pairwise fun x y => x.occurredAt < y.occurredAt) :
    cumulativeChange events anchor = rowOf anchor (eventRows events anchor) := by
  rw [cumulativeChange, rowOf, oldestFirst_dedupe increasing, newestFirst_dedupe increasing,
    List.head?_reverse, count_eq]

/-! ### The three surfaces -/

/-- The entry that the indexed history shows for an event. -/
def historyEntry (event : AnchorEvent) : AnchorHistoryChange :=
  ⟨event.backupId, event.occurredAt, event.value.getD .none, true⟩

/-- The entries of a history at or before a backup. -/
def upTo (asOf : Backup) (entries : List AnchorEvent) : List AnchorEvent :=
  entries.filter fun event => event.occurredAt ≤ asOf.startedAt

/-- The entries of a history in the window of two backups, whichever is the later. -/
def inWindow (one other : Backup) (entries : List AnchorEvent) : List AnchorEvent :=
  entries.filter fun event => min one.startedAt other.startedAt ≤ event.occurredAt ∧
    event.occurredAt ≤ max one.startedAt other.startedAt

/-- The summary has the last entry of the history up to a backup, and the row of an anchor goes from
the first to the last entry in the window. -/
structure SurfacesAgree (tables : InstanceTables) (asOf since until_ : Backup)
    (anchors : List (String × AnchorBlameSummaryEntry)) (rows : List CumulativeChangeRow)
    (anchor : String) : Prop where
  history : indexedHistory tables.log anchor = (eventRows tables.log anchor).map historyEntry
  blamed : ∀ entry, (anchor, entry) ∈ anchors ↔
    (upTo asOf (eventRows tables.log anchor)).getLast?.map blameEntry = some entry
  changed : ∀ row, row ∈ rows ∧ row.anchorId = anchor ↔
    rowOf anchor (inWindow since until_ (eventRows tables.log anchor)) = some row

theorem mem_blameSummary {log : List AnchorEvent} {asOfAt : Nat} {anchor : String}
    {entry : AnchorBlameSummaryEntry} : (anchor, entry) ∈ blameSummary log asOfAt ↔
      (latestEvent ((log.filter fun event => event.occurredAt ≤ asOfAt).filter
        fun event => event.anchorId = anchor)).map blameEntry = some entry := by
  rw [blameSummary, List.mem_filterMap]
  constructor
  · intro ⟨named, _, built⟩
    have ⟨event, found, same⟩ := Option.map_eq_some_iff.mp built
    injection same with sameAnchor sameEntry
    rw [← sameAnchor, ← sameEntry, found, Option.map_some]
  · intro built
    have ⟨event, found, same⟩ := Option.map_eq_some_iff.mp built
    have inside := List.mem_filter.mp (List.mem_reverse.mp (mem_of_head found))
    refine ⟨anchor, List.mem_dedup.mpr ?_, by rw [found, Option.map_some, same]⟩
    exact List.mem_map.mpr ⟨event, inside.1, of_decide_eq_true inside.2⟩

section Answers

variable {tables : InstanceTables} (timed : Timed tables)

include timed

theorem summary_right (asOf : Backup) (anchor : String) (entry : AnchorBlameSummaryEntry) :
    (anchor, entry) ∈ blameSummary tables.log asOf.startedAt ↔
      (upTo asOf (eventRows tables.log anchor)).getLast?.map blameEntry = some entry := by
  have order := byTime_inOrder timed
  have stamped := byTime_stamped timed
  have early : Stamped (byTime tables) (window tables.log 0 asOf.startedAt) :=
    fun event member => stamped event (List.mem_of_mem_filter member)
  have span := eventRows_window order stamped anchor 0 asOf.startedAt
  have last := latestEvent_eq_last order early anchor
  simp only [window, Nat.zero_le, true_and] at span last
  rw [mem_blameSummary, last, span, upTo]

theorem changes_right (sinceAt untilAt : Nat) (anchor : String) (row : CumulativeChangeRow) :
    row ∈ cumulativeChanges tables.log sinceAt untilAt ∧ row.anchorId = anchor ↔
      rowOf anchor ((eventRows tables.log anchor).filter fun event =>
        sinceAt ≤ event.occurredAt ∧ event.occurredAt ≤ untilAt) = some row := by
  have order := byTime_inOrder timed
  have stamped := byTime_stamped timed
  have inside : Stamped (byTime tables) (window tables.log sinceAt untilAt) :=
    fun event member => stamped event (List.mem_of_mem_filter member)
  have increasing := eventRows_increasing order inside anchor
  rw [← eventRows_window order stamped, ← cumulativeChange_eq increasing, mem_cumulativeChanges]
  constructor
  · intro ⟨⟨_, found⟩, named⟩
    exact named ▸ found
  · intro found
    have named := cumulativeChange_anchor found
    refine ⟨⟨?_, named ▸ found⟩, named⟩
    rw [cumulativeChange_eq increasing, rowOf] at found
    cases head : (eventRows (window tables.log sinceAt untilAt) anchor).head? with
    | none => simp [head] at found
    | some first =>
      have member := List.mem_of_mem_head? head
      rw [eventRows_of_dated order inside] at member
      have ⟨bkp, listed, best⟩ := List.mem_filterMap.mp member
      have ⟨inLog, sameAnchor, _⟩ := best_spec order inside listed best
      exact List.mem_map.mpr ⟨first, inLog, sameAnchor.trans named.symm⟩

/-- Over every mix of events the three surfaces choose alike: in an indexed instance, for every
as-of backup, every window and every anchor. -/
theorem surfaces_agree (backfilled : tables.backfilled = true) {asOf since until_ : Backup}
    (asOfListed : asOf ∈ tables.backups.map Prod.fst)
    (sinceListed : since ∈ tables.backups.map Prod.fst)
    (untilListed : until_ ∈ tables.backups.map Prod.fst) :
    ∃ summary changes,
      instanceAnchorBlameSummary (some tables) (some asOf.id) = .ok summary ∧
      instanceCumulativeChanges (some tables) (some since.id) (some until_.id) = .ok changes ∧
      (changes.rows.map CumulativeChangeRow.anchorId).Nodup ∧
      ∀ anchor, SurfacesAgree tables asOf since until_ summary.anchors changes.rows anchor := by
  have sinceRow := fun detail default => windowEnd_of_mem timed.ids sinceListed detail default
  have untilRow := fun detail default => windowEnd_of_mem timed.ids untilListed detail default
  have asOfRow := fun detail default => windowEnd_of_mem timed.ids asOfListed detail default
  have changed : ∃ ids : Nat × Nat,
      instanceCumulativeChanges (some tables) (some since.id) (some until_.id) =
        .ok ⟨ids.1, ids.2, cumulativeChanges tables.log (min since.startedAt until_.startedAt)
          (max since.startedAt until_.startedAt), true⟩ := by
    simp only [instanceCumulativeChanges, sinceRow, untilRow]
    by_cases swapped : until_.startedAt < since.startedAt
    · refine ⟨(until_.id, since.id), ?_⟩
      rw [min_eq_right swapped.le, max_eq_left swapped.le]
      simp [backfilled, swapped, pure, Except.pure, bind, Except.bind]
    · refine ⟨(since.id, until_.id), ?_⟩
      rw [min_eq_left (not_lt.mp swapped), max_eq_right (not_lt.mp swapped)]
      simp [backfilled, swapped, pure, Except.pure, bind, Except.bind]
  obtain ⟨ids, answered⟩ := changed
  refine ⟨⟨asOf.id, blameSummary tables.log asOf.startedAt, true⟩, _, ?_, answered,
    cumulativeChanges_once _ _ _, fun anchor => ⟨rfl, ?_, ?_⟩⟩
  · simp [instanceAnchorBlameSummary, asOfRow, backfilled, pure, Except.pure, bind, Except.bind]
  · exact summary_right timed asOf anchor
  · exact changes_right timed _ _ anchor

end Answers

/-- A rule is edited and moved in one backup, and removed in the next. -/
def ruleTables : InstanceTables where
  backups := [(⟨2, 20⟩, true), (⟨1, 10⟩, true), (⟨3, 30⟩, true)]
  log := [
    ⟨1, none, "xref-rule-7", 10, .added, some (.str "open")⟩,
    ⟨2, some 1, "xref-rule-7", 20, .modified, some (.str "closed")⟩,
    ⟨2, some 1, "xref-rule-7", 20, .reordered, some (.str "closed")⟩,
    ⟨3, some 2, "xref-rule-7", 30, .removed, some (.str "closed")⟩]
  backfilled := true

theorem ruleTables_timed : Timed ruleTables where
  ids := by decide
  starts := by decide
  events := by decide

theorem ruleTables_agree : ∃ summary changes,
    instanceAnchorBlameSummary (some ruleTables) (some 2) = .ok summary ∧
    instanceCumulativeChanges (some ruleTables) (some 3) (some 2) = .ok changes ∧
    (changes.rows.map CumulativeChangeRow.anchorId).Nodup ∧
    ∀ anchor, SurfacesAgree ruleTables ⟨2, 20⟩ ⟨3, 30⟩ ⟨2, 20⟩ summary.anchors changes.rows
      anchor :=
  @surfaces_agree ruleTables ruleTables_timed rfl ⟨2, 20⟩ ⟨3, 30⟩ ⟨2, 20⟩ (by decide) (by decide)
    (by decide)

end PfsenseBackups.BlameSurfaces

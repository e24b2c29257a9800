import PfsenseBackups.AnchorValues
import PfsenseBackups.EventLog

/-! The two paths of the `/anchor-history` endpoint: one query over the `anchor_event` table,
and the walk that re-parses every backup. -/

namespace PfsenseBackups.AnchorTimeline
open Value Config DiffConfigs AnchorEvents AnchorValues EventLog

/-- One entry on the timeline of an anchor. -/
structure AnchorHistoryChange where
  backupId : Nat
  startedAt : Nat
  value : Val
  isChange : Bool
  deriving DecidableEq

/-! ### The indexed path -/

/-- `_anchor_event_kind_priority`. -/
def kindPriority : Kind → Nat
  | .modified => 1
  | .added => 2
  | .removed => 3
  | .reordered => 4

/-- The event with row number 1 in a partition: least priority, then greatest id. The table
lists events by id. -/
def numberedFirst (partition : List AnchorEvent) : Option AnchorEvent :=
  (partition.reverse.insertionSort fun x y => kindPriority x.kind ≤ kindPriority y.kind).head?

/-- One event for each backup of the anchor, by time. -/
def eventRows (log : List AnchorEvent) (anchor : String) : List AnchorEvent :=
  let rows := log.filter fun event => event.anchorId = anchor
  ((rows.map AnchorEvent.backupId).dedup.filterMap fun id =>
    numberedFirst (rows.filter fun event => event.backupId = id)).insertionSort
      fun x y => x.occurredAt ≤ y.occurredAt

/-- The response of the indexed path. -/
def indexedHistory (log : List AnchorEvent) (anchor : String) : List AnchorHistoryChange :=
  (eventRows log anchor).map fun event =>
    ⟨event.backupId, event.occurredAt, event.value.getD .none, true⟩

/-- The backups at which the indexed path reports an added, modified or removed entry, with
the values reported. -/
def reported (log : List AnchorEvent) (anchor : String) : List (Nat × Val) :=
  ((eventRows log anchor).filter fun event => event.kind ≠ .reordered).map fun event =>
    (event.backupId, event.value.getD .none)

/-! ### The walk -/

section Walk

variable (modelText : Dict → String) {Bytes : Type*} (read : Backup → Option Bytes)
  (parse : Bytes → Option ParsedConfig)

/-- The loop of `_gather`; a backup that cannot be read or parsed ends the request. -/
def gatherFrom (anchor : String) (previousValue : Option Val) :
    List Backup → Option (List AnchorHistoryChange)
  | [] => some []
  | bkp :: rest => do
    let parsed ← load read parse bkp
    let value := resolveAnchorValue modelText parsed anchor
    let later ← gatherFrom anchor (some value) rest
    return ⟨bkp.id, bkp.startedAt, value, decide (previousValue ≠ some value)⟩ :: later

/-- The legacy walk over the successful backups of an instance. -/
def gather (history : List Backup) (anchor : String) : Option (List AnchorHistoryChange) :=
  gatherFrom modelText read parse anchor none
    (history.insertionSort fun x y => x.startedAt ≤ y.startedAt)

end Walk

/-- The entries of a walk that finds the given values. -/
def walkEntries (previousValue : Option Val) : List (Backup × Val) → List AnchorHistoryChange
  | [] => []
  | (bkp, value) :: rest =>
    ⟨bkp.id, bkp.startedAt, value, decide (previousValue ≠ some value)⟩ ::
      walkEntries (some value) rest

section Readable

variable {modelText : Dict → String} {Bytes : Type*} {read : Backup → Option Bytes}
  {parse : Bytes → Option ParsedConfig} {configs : Backup → ParsedConfig}

/-- Over readable backups the walk always answers. -/
theorem gather_eq {history : List Backup} (order : InOrder history)
    (readable : ∀ bkp ∈ history, load read parse bkp = some (configs bkp)) (anchor : String) :
    gather modelText read parse history anchor = some (walkEntries none
      (history.map fun bkp => (bkp, resolveAnchorValue modelText (configs bkp) anchor))) := by
  have sorted : (history.insertionSort fun x y => x.startedAt ≤ y.startedAt) = history :=
    (order.increasing.imp Nat.le_of_lt).insertionSort_eq
  rw [gather, sorted]
  clear sorted order
  generalize none = previous
  induction history generalizing previous with
  | nil => rfl
  | cons bkp rest ih =>
    have loaded := readable bkp List.mem_cons_self
    have later := ih (fun other member => readable other (List.mem_cons_of_mem _ member))
    simp [gatherFrom, loaded, later, walkEntries]

end Readable

/-! ### The best event of a backup -/

theorem numberedFirst_eq_none {partition : List AnchorEvent} :
    numberedFirst partition = none ↔ partition = [] := by
  rw [numberedFirst, List.head?_eq_none_iff, ← List.length_eq_zero_iff, List.length_insertionSort,
    List.length_reverse, List.length_eq_zero_iff]

theorem numberedFirst_spec {partition : List AnchorEvent} {event : AnchorEvent}
    (found : numberedFirst partition = some event) :
    event ∈ partition ∧
      ∀ other ∈ partition, kindPriority event.kind ≤ kindPriority other.kind := by
  rw [numberedFirst] at found
  have perm := List.perm_insertionSort
    (fun x y : AnchorEvent => kindPriority x.kind ≤ kindPriority y.kind) partition.reverse
  have inside : ∀ other, other ∈ partition.reverse.insertionSort
      (fun x y : AnchorEvent => kindPriority x.kind ≤ kindPriority y.kind) ↔ other ∈ partition :=
    fun other => perm.mem_iff.trans List.mem_reverse
  have order := List.pairwise_insertionSort
    (fun x y : AnchorEvent => kindPriority x.kind ≤ kindPriority y.kind) partition.reverse
  obtain ⟨rest, shape⟩ := List.head?_eq_some_iff.mp found
  refine ⟨(inside event).mp (List.mem_of_mem_head? found), ?_⟩
  intro other member
  rw [← inside, shape] at member
  rw [shape] at order
  rcases List.mem_cons.mp member with rfl | later
  · exact le_rfl
  · exact (List.pairwise_cons.mp order).1 other later

/-- What one backup's events amount to for an anchor: nothing but a move, or a report whose
value all events of the best kind share. -/
def Outcome (events : List Event) : Option Val → Prop
  | none => ∀ event ∈ events, event.kind = .reordered
  | some value => (∃ event ∈ events, event.kind ≠ .reordered) ∧
      ∀ event ∈ events, (∀ other ∈ events, kindPriority event.kind ≤ kindPriority other.kind) →
        event.value = value

/-- The report that the endpoint makes of one partition. -/
def report (partition : List AnchorEvent) : Option Val :=
  (numberedFirst partition).bind fun event =>
    if event.kind = .reordered then none else some (event.value.getD .none)

theorem valueJson_getD (value : Val) : (valueJson value).getD .none = json value := by
  unfold valueJson
  split
  next absent => rw [absent]; rfl
  next => rfl

theorem reordered_worst {kind other : Kind} (best : kindPriority kind ≤ kindPriority other)
    (worst : kind = .reordered) : other = .reordered := by
  subst worst
  cases other <;> simp_all [kindPriority]

theorem Outcome.report_eq {events : List Event} {outcome : Option Val} (spec : Outcome events outcome)
    {stored : Event → AnchorEvent} (kinds : ∀ event, (stored event).kind = event.kind)
    (values : ∀ event, (stored event).value = valueJson event.value) :
    report (events.map stored) = outcome.map json := by
  unfold report
  cases found : numberedFirst (events.map stored) with
  | none =>
    have empty : events = [] := by simpa using numberedFirst_eq_none.mp found
    subst empty
    cases outcome with
    | none => rfl
    | some value =>
      obtain ⟨⟨event, member, -⟩, -⟩ := spec
      cases member
  | some event =>
    obtain ⟨member, best⟩ := numberedFirst_spec found
    obtain ⟨source, inside, rfl⟩ := List.mem_map.mp member
    have least : ∀ other ∈ events, kindPriority source.kind ≤ kindPriority other.kind := by
      intro other listed
      have bound := best (stored other) (List.mem_map_of_mem listed)
      rwa [kinds, kinds] at bound
    simp only [Option.bind_some, kinds, values, valueJson_getD]
    cases outcome with
    | none => simp [spec source inside]
    | some value =>
      obtain ⟨⟨loud, listed, apart⟩, same⟩ := spec
      rw [if_neg, same source inside least, Option.map_some]
      exact fun worst => apart (reordered_worst (least loud listed) worst)

/-! ### The whole timeline -/

theorem filterMap_perm {α β : Type*} [DecidableEq α] {f : α → Option β} {left right : List α}
    (uniqueLeft : left.Nodup) (uniqueRight : right.Nodup)
    (same : ∀ x, (f x).isSome = true → (x ∈ left ↔ x ∈ right)) :
    (left.filterMap f).Perm (right.filterMap f) := by
  have kept : ∀ list : List α, list.filterMap f =
      (list.filter fun x => (f x).isSome).filterMap f := by
    intro list
    rw [List.filterMap_filter]
    apply List.filterMap_congr
    intro x _
    cases f x <;> rfl
  have perm : (left.filter fun x => (f x).isSome).Perm (right.filter fun x => (f x).isSome) := by
    apply (List.perm_ext_iff_of_nodup (uniqueLeft.filter _) (uniqueRight.filter _)).mpr
    intro x
    simp only [List.mem_filter]
    constructor
    · rintro ⟨member, found⟩
      exact ⟨(same x found).mp member, found⟩
    · rintro ⟨member, found⟩
      exact ⟨(same x found).mpr member, found⟩
  rw [kept left, kept right]
  exact perm.filterMap f

/-- A list of dated items sorted by date is any strictly dated permutation of it. -/
theorem insertionSort_eq_of_perm {α : Type*} {date : α → Nat} {items dated : List α}
    (perm : items.Perm dated) (increasing : dated.Pairwise fun x y => date x < date y) :
    (items.insertionSort fun x y => date x ≤ date y) = dated := by
  have order := List.pairwise_insertionSort (fun x y : α => date x ≤ date y) items
  have whole := (List.perm_insertionSort (fun x y : α => date x ≤ date y) items).trans perm
  refine whole.eq_of_pairwise ?_ order (increasing.imp Nat.le_of_lt)
  intro x y memberX memberY before after
  have dates : (dated.map date).Nodup := List.pairwise_map.mpr (increasing.imp Nat.ne_of_lt)
  exact List.inj_on_of_nodup_map dates (perm.mem_iff.mp ((List.perm_insertionSort _ _).mem_iff.mp
    memberX)) memberY (Nat.le_antisymm before after)

/-- A value that replaces another is shown; what is gone is shown as it last was. -/
def shown (before after : Option Val) : Val :=
  if after.getD .none = .none then before.getD .none else after.getD .none

/-- The reports of a timeline of states, by what one step reports. -/
def transitions (step : Option Val → Option Val → Option Val) (before : Option Val) :
    List (Nat × Option Val) → List (Nat × Val)
  | [] => []
  | (id, after) :: rest =>
    ((step before after).map fun value => (id, json value)).toList ++ transitions step after rest

/-- Over a log whose events carry their backup's time there is one row at most for each backup, in
the order of the history. -/
theorem eventRows_of_dated {history : List Backup} {log : List AnchorEvent} (order : InOrder history)
    (dated : ∀ event ∈ log, ∃ bkp ∈ history, event.backupId = bkp.id ∧
      event.occurredAt = bkp.startedAt) (anchor : String) :
    eventRows log anchor = history.filterMap fun bkp =>
      numberedFirst ((log.filter fun event => event.anchorId = anchor).filter
        fun event => event.backupId = bkp.id) := by
  generalize rowsDef : (log.filter fun event => event.anchorId = anchor) = rows
  have inLog : ∀ event ∈ rows, ∃ bkp ∈ history, event.backupId = bkp.id ∧
      event.occurredAt = bkp.startedAt := by
    intro event member
    rw [← rowsDef] at member
    exact dated event (List.mem_of_mem_filter member)
  have picked : ∀ id event, numberedFirst (rows.filter fun event => event.backupId = id) =
      some event → event ∈ rows ∧ event.backupId = id := by
    intro id event found
    simpa using (numberedFirst_spec found).1
  unfold eventRows
  simp only [rowsDef]
  apply insertionSort_eq_of_perm
  · have byId : (history.filterMap fun bkp =>
        numberedFirst (rows.filter fun event => event.backupId = bkp.id)) =
        (history.map Backup.id).filterMap fun id =>
          numberedFirst (rows.filter fun event => event.backupId = id) := by
      rw [List.filterMap_map]
      rfl
    rw [byId]
    apply filterMap_perm (List.nodup_dedup _) order.ids
    intro id found
    obtain ⟨event, spec⟩ := Option.isSome_iff_exists.mp found
    obtain ⟨member, rfl⟩ := picked id event spec
    obtain ⟨bkp, listed, same, -⟩ := inLog event member
    simp only [List.mem_dedup]
    exact ⟨fun _ => same ▸ List.mem_map_of_mem listed, fun _ => List.mem_map_of_mem member⟩
  · rw [List.pairwise_filterMap]
    refine order.increasing.imp_of_mem ?_
    intro x y memberX memberY before left foundLeft right foundRight
    have when : ∀ bkp ∈ history, ∀ event, numberedFirst (rows.filter fun event =>
        event.backupId = bkp.id) = some event → event.occurredAt = bkp.startedAt := by
      intro bkp member event found
      obtain ⟨inside, sameId⟩ := picked bkp.id event found
      obtain ⟨other, listed, ids, times⟩ := inLog event inside
      have same := List.inj_on_of_nodup_map order.ids listed member (ids.symm.trans sameId)
      rw [times, same]
    rw [when x memberX left foundLeft, when y memberY right foundRight]
    exact before

section Whole

variable {log : List Backup → List AnchorEvent} {part : List Backup → Backup → List AnchorEvent}
  (grows : GrowsBy log part)
  (dated : ∀ past bkp, ∀ event ∈ part past bkp, event.occurredAt = bkp.startedAt)

include grows

/-- The anchor's partition for one backup is taken from that backup's part of the log. -/
theorem partition_eq {past rest : List Backup} {bkp : Backup}
    (order : InOrder (past ++ bkp :: rest)) (anchor : String) :
    (((log (past ++ bkp :: rest)).filter fun event => event.anchorId = anchor).filter
      fun event => event.backupId = bkp.id) =
        (part past bkp).filter fun event => event.anchorId = anchor := by
  rw [List.filter_comm, grows.filter_own order]

include dated

/-- One row at most for each backup, in the order of the history. -/
theorem eventRows_eq {history : List Backup} (order : InOrder history) (anchor : String) :
    eventRows (log history) anchor = history.filterMap fun bkp =>
      numberedFirst (((log history).filter fun event => event.anchorId = anchor).filter
        fun event => event.backupId = bkp.id) := by
  refine eventRows_of_dated order (fun event member => ?_) anchor
  obtain ⟨past, bkp, rest, same, inside⟩ := grows.mem_part order member
  exact ⟨bkp, by simp [same], grows.own past bkp event inside, dated past bkp event inside⟩

/-- The whole timeline is made of its steps. -/
theorem reported_eq {history : List Backup} (order : InOrder history) (anchor : String)
    (state : Backup → Option Val) {step : Option Val → Option Val → Option Val}
    (steps : ∀ past bkp rest, history = past ++ bkp :: rest →
      report ((part past bkp).filter fun event => event.anchorId = anchor) =
        (step (past.getLast?.bind state) (state bkp)).map json) :
    reported (log history) anchor =
      transitions step none (history.map fun bkp => (bkp.id, state bkp)) := by
  have perBackup : reported (log history) anchor = history.filterMap fun bkp =>
      (report (((log history).filter fun event => event.anchorId = anchor).filter
        fun event => event.backupId = bkp.id)).map fun value => (bkp.id, value) := by
    rw [reported, eventRows_eq grows dated order, List.filter_filterMap, List.map_filterMap]
    apply List.filterMap_congr
    intro bkp member
    unfold report
    cases found : numberedFirst (((log history).filter fun event => event.anchorId = anchor).filter
        fun event => event.backupId = bkp.id) with
    | none => rfl
    | some event =>
      have sameId : event.backupId = bkp.id := by
        simpa using (List.mem_filter.mp (numberedFirst_spec found).1).2
      by_cases moved : event.kind = .reordered <;> simp [Option.filter, moved, sameId]
  rw [perBackup]
  suffices general : ∀ past rest, history = past ++ rest → (rest.filterMap fun bkp =>
      (report (((log history).filter fun event => event.anchorId = anchor).filter
        fun event => event.backupId = bkp.id)).map fun value => (bkp.id, value)) =
      transitions step (past.getLast?.bind state) (rest.map fun bkp => (bkp.id, state bkp)) from
    general [] history rfl
  intro past rest
  induction rest generalizing past with
  | nil => exact fun _ => rfl
  | cons bkp rest ih =>
    intro same
    have later := ih (past ++ [bkp]) (by simp [same])
    have here := steps past bkp rest same
    have own := partition_eq grows (same ▸ order) anchor
    rw [← same] at own
    rw [List.getLast?_concat, Option.bind_some] at later
    rw [List.filterMap_cons, own, here, later, List.map_cons, transitions]
    cases step (past.getLast?.bind state) (state bkp) <;> rfl

end Whole

end PfsenseBackups.AnchorTimeline

import PfsenseBackups.AnchorEvents
import Mathlib.Data.List.Induction
import Mathlib.Data.List.Sort

/-! The two writers of the `anchor_event` table: `_compute_and_persist_diffs`, which runs after
each backup, and `_reindex_one_instance`, which rebuilds the log from the finished history. -/

namespace PfsenseBackups.EventLog
open Value Config DiffConfigs AnchorEvents

/-- A successful backup of the instance. -/
structure Backup where
  id : Nat
  startedAt : Nat
  deriving DecidableEq

mutual

/-- The document that `json.dumps(value, default=str)` writes: timestamps become texts. -/
def json : Val → Val
  | .datetime text => .str text
  | .list items => .list (jsonItems items)
  | .dict fields => .dict (jsonFields fields)
  | value => value

def jsonItems : List Val → List Val
  | [] => []
  | item :: rest => json item :: jsonItems rest

def jsonFields : Dict → Dict
  | [] => []
  | (name, value) :: rest => (name, json value) :: jsonFields rest

end

/-- A row of `anchor_event`; the value column is null for `None`. -/
structure AnchorEvent where
  backupId : Nat
  prevBackupId : Option Nat
  anchorId : String
  occurredAt : Nat
  kind : Kind
  value : Option Val
  deriving DecidableEq

/-- `json.dumps(value, default=str) if value is not None else None`. -/
def valueJson (value : Val) : Option Val :=
  if value = .none then none else some (json value)

/-- `_emit_anchor_events`. -/
def emitAnchorEvents (bkp : Backup) (prevBackupId : Nat) (diff : ConfigDiff)
    (newParsed : ParsedConfig) : List AnchorEvent :=
  (diffToAnchorEvents diff newParsed).map fun event =>
    ⟨bkp.id, some prevBackupId, event.anchorId, bkp.startedAt, event.kind, valueJson event.value⟩

/-- `_seed_anchor_events`. -/
def seedAnchorEvents (bkp : Backup) (newParsed : ParsedConfig) : List AnchorEvent :=
  (enumerateAnchors newParsed).map fun entry =>
    ⟨bkp.id, none, entry.1, bkp.startedAt, .added, valueJson entry.2⟩

section Writers

variable {Bytes : Type*} (read : Backup → Option Bytes) (parse : Bytes → Option ParsedConfig)

/-- `compute_diff`: nothing when either side fails to parse. -/
def computeDiff (newBytes baseBytes : Bytes) : Option ConfigDiff := do
  let a ← parse baseBytes
  let b ← parse newBytes
  return diffConfigs a b

/-- The most recent backup before the new one. -/
def previousOf (rows : List Backup) (new : Backup) : Option Backup :=
  ((rows.filter fun row => row.id ≠ new.id ∧ row.startedAt < new.startedAt).insertionSort
    fun x y => y.startedAt ≤ x.startedAt).head?

/-- The oldest backup besides the new one. -/
def firstOf (rows : List Backup) (new : Backup) : Option Backup :=
  ((rows.filter fun row => row.id ≠ new.id).insertionSort
    fun x y => x.startedAt ≤ y.startedAt).head?

/-- The events that `_compute_and_persist_diffs` adds for a new backup, already among the
rows. -/
def computeAndPersistDiffs (rows : List Backup) (new : Backup) : List AnchorEvent :=
  match read new with
  | none => []
  | some newBytes =>
    match parse newBytes with
    | none => []
    | some newParsed =>
      let previous := previousOf rows new
      let emitted :=
        match previous with
        | none => []
        | some base =>
          match read base with
          | none => []
          | some baseBytes =>
            match computeDiff parse newBytes baseBytes with
            | none => []
            | some diff => emitAnchorEvents new base.id diff newParsed
      emitted ++
        if previous = none ∧ firstOf rows new = none then seedAnchorEvents new newParsed else []

/-- The log after the backups of a history were ingested one after the other. -/
def ingested (history : List Backup) : List AnchorEvent :=
  (history.foldl (fun (state : List Backup × List AnchorEvent) new =>
    let rows := state.1 ++ [new]
    (rows, state.2 ++ computeAndPersistDiffs read parse rows new)) ([], [])).2

/-- `read_backup_bytes` and `parse_pfsense_xml`: nothing when the backup is skipped. -/
def load (bkp : Backup) : Option ParsedConfig :=
  (read bkp).bind parse

/-- One turn of the loop of `_reindex_one_instance`. -/
def reindexStep (state : Option (Nat × ParsedConfig) × List AnchorEvent) (bkp : Backup) :
    Option (Nat × ParsedConfig) × List AnchorEvent :=
  match load read parse bkp with
  | none => state
  | some parsed =>
    (some (bkp.id, parsed), state.2 ++
      match state.1 with
      | none => seedAnchorEvents bkp parsed
      | some (prevBackupId, prevParsed) =>
        emitAnchorEvents bkp prevBackupId (diffConfigs prevParsed parsed) parsed)

/-- The log that `_reindex_one_instance` leaves over a finished history. -/
def reindexed (history : List Backup) : List AnchorEvent :=
  ((history.insertionSort fun x y => x.startedAt ≤ y.startedAt).foldl
    (reindexStep read parse) (none, [])).2

end Writers

/-- What the claim compares of an event. -/
def AnchorEvent.logged (event : AnchorEvent) : String × Nat × Kind × Option Val :=
  (event.anchorId, event.backupId, event.kind, event.value)

/-! ### A history taken in -/

/-- Backups come in order of time, each with an id of its own. -/
structure InOrder (history : List Backup) : Prop where
  increasing : history.Pairwise fun x y => x.startedAt < y.startedAt
  ids : (history.map Backup.id).Nodup

theorem InOrder.left {past rest : List Backup} (order : InOrder (past ++ rest)) : InOrder past where
  increasing := (List.pairwise_append.mp order.increasing).1
  ids := by
    have ids := order.ids
    rw [List.map_append] at ids
    exact (List.nodup_append.mp ids).1

/-- The latest of several backups sees exactly the ones before it. -/
theorem filter_past {past : List Backup} {new : Backup} (order : InOrder (past ++ [new])) :
    ((past ++ [new]).filter fun row => decide (row.id ≠ new.id ∧ row.startedAt < new.startedAt)) =
        past ∧
      ((past ++ [new]).filter fun row => decide (row.id ≠ new.id)) = past := by
  have before : ∀ row ∈ past, row.startedAt < new.startedAt := fun row member =>
    (List.pairwise_append.mp order.increasing).2.2 row member new (List.mem_singleton_self new)
  have apart : ∀ row ∈ past, row.id ≠ new.id := by
    have ids := order.ids
    rw [List.map_append] at ids
    intro row member
    exact (List.nodup_append.mp ids).2.2 _ (List.mem_map_of_mem member) _ (by simp)
  constructor
  · rw [List.filter_append, List.filter_eq_self.mpr fun row member => by
      simp [before row member, apart row member]]
    simp
  · rw [List.filter_append, List.filter_eq_self.mpr fun row member => by simp [apart row member]]
    simp

private theorem orderedInsert_last (x : Backup) (rows : List Backup)
    (later : ∀ row ∈ rows, x.startedAt < row.startedAt) :
    rows.orderedInsert (fun x y => y.startedAt ≤ x.startedAt) x = rows ++ [x] := by
  induction rows with
  | nil => rfl
  | cons row rest ih =>
    have first := later row List.mem_cons_self
    rw [List.orderedInsert_cons, if_neg (by omega),
      ih fun other member => later other (List.mem_cons_of_mem _ member)]
    rfl

private theorem insertionSort_descending {rows : List Backup}
    (increasing : rows.Pairwise fun x y => x.startedAt < y.startedAt) :
    rows.insertionSort (fun x y => y.startedAt ≤ x.startedAt) = rows.reverse := by
  induction rows with
  | nil => rfl
  | cons row rest ih =>
    obtain ⟨first, tail⟩ := List.pairwise_cons.mp increasing
    rw [List.insertionSort_cons, ih tail, List.reverse_cons]
    exact orderedInsert_last row _ fun other member => first other (List.mem_reverse.mp member)

private theorem insertionSort_ascending {rows : List Backup}
    (increasing : rows.Pairwise fun x y => x.startedAt < y.startedAt) :
    rows.insertionSort (fun x y => x.startedAt ≤ y.startedAt) = rows :=
  (increasing.imp Nat.le_of_lt).insertionSort_eq

theorem previousOf_eq {past : List Backup} {new : Backup} (order : InOrder (past ++ [new])) :
    previousOf (past ++ [new]) new = past.getLast? := by
  rw [previousOf, (filter_past order).1, insertionSort_descending order.left.increasing,
    List.head?_reverse]

theorem firstOf_eq {past : List Backup} {new : Backup} (order : InOrder (past ++ [new])) :
    firstOf (past ++ [new]) new = past.head? := by
  rw [firstOf, (filter_past order).2, insertionSort_ascending order.left.increasing]

/-! ### What each writer adds for one backup -/

section Parts

variable {Bytes : Type*} (read : Backup → Option Bytes) (parse : Bytes → Option ParsedConfig)

/-- What ingestion adds for a backup, by the ones before it. -/
def ingestedPart (past : List Backup) (new : Backup) : List AnchorEvent :=
  match load read parse new, past.getLast? with
  | none, _ => []
  | some parsed, none => seedAnchorEvents new parsed
  | some parsed, some base =>
    match load read parse base with
    | none => []
    | some baseParsed => emitAnchorEvents new base.id (diffConfigs baseParsed parsed) parsed

variable {read parse}

theorem computeAndPersistDiffs_eq {past : List Backup} {new : Backup}
    (order : InOrder (past ++ [new])) :
    computeAndPersistDiffs read parse (past ++ [new]) new = ingestedPart read parse past new := by
  unfold computeAndPersistDiffs ingestedPart load
  rw [previousOf_eq order, firstOf_eq order]
  cases bytes : read new with
  | none => rfl
  | some newBytes =>
    cases parsed : parse newBytes with
    | none => simp [parsed]
    | some newParsed =>
      cases last : past.getLast? with
      | none =>
        have empty : past = [] := List.getLast?_eq_none_iff.mp last
        simp [parsed, empty]
      | some base =>
        cases baseBytes : read base with
        | none => simp [parsed, baseBytes]
        | some found =>
          cases baseParsed : parse found with
          | none => simp [parsed, baseBytes, computeDiff, baseParsed]
          | some config => simp [parsed, baseBytes, computeDiff, baseParsed]

theorem ingested_snoc {past : List Backup} {new : Backup} (order : InOrder (past ++ [new])) :
    ingested read parse (past ++ [new]) =
      ingested read parse past ++ ingestedPart read parse past new := by
  have rows : ∀ history : List Backup, (history.foldl
      (fun (state : List Backup × List AnchorEvent) new =>
        let rows := state.1 ++ [new]
        (rows, state.2 ++ computeAndPersistDiffs read parse rows new)) ([], [])).1 = history := by
    intro history
    induction history using List.reverseRecOn with
    | nil => rfl
    | append_singleton history last ih => simp [ih]
  rw [ingested, List.foldl_append, List.foldl_cons, List.foldl_nil]
  simp only [rows]
  rw [computeAndPersistDiffs_eq order]
  rfl

end Parts

/-! ### The two logs compared -/

/-- A log that grows by a part for each backup, every event of which names that backup. -/
structure GrowsBy (log : List Backup → List AnchorEvent)
    (part : List Backup → Backup → List AnchorEvent) : Prop where
  nil : log [] = []
  snoc : ∀ past bkp, InOrder (past ++ [bkp]) → log (past ++ [bkp]) = log past ++ part past bkp
  own : ∀ past bkp, ∀ event ∈ part past bkp, event.backupId = bkp.id

section Growth

variable {log : List Backup → List AnchorEvent} {part : List Backup → Backup → List AnchorEvent}

/-- Every event of the log belongs to the part of one backup. -/
theorem GrowsBy.mem_part (grows : GrowsBy log part) {history : List Backup}
    (order : InOrder history) {event : AnchorEvent} (member : event ∈ log history) :
    ∃ past bkp rest, history = past ++ bkp :: rest ∧ event ∈ part past bkp := by
  induction history using List.reverseRecOn with
  | nil => simp [grows.nil] at member
  | append_singleton past last ih =>
    rw [grows.snoc past last order] at member
    rcases List.mem_append.mp member with old | new
    · obtain ⟨before, bkp, rest, rfl, inside⟩ := ih order.left old
      exact ⟨before, bkp, rest ++ [last], by simp, inside⟩
    · exact ⟨past, last, [], rfl, new⟩

theorem GrowsBy.known (grows : GrowsBy log part) {history : List Backup}
    (order : InOrder history) :
    ∀ event ∈ log history, ∃ bkp ∈ history, event.backupId = bkp.id := by
  intro event member
  obtain ⟨past, bkp, rest, rfl, inside⟩ := grows.mem_part order member
  exact ⟨bkp, by simp, grows.own past bkp event inside⟩

/-- The events of one backup in the log are its part. -/
theorem GrowsBy.filter_own (grows : GrowsBy log part) {past rest : List Backup} {bkp : Backup}
    (order : InOrder (past ++ bkp :: rest)) :
    ((log (past ++ bkp :: rest)).filter fun event => event.backupId = bkp.id) = part past bkp := by
  induction rest using List.reverseRecOn with
  | nil =>
    have earlier : ((log past).filter fun event => event.backupId = bkp.id) = [] := by
      apply List.filter_eq_nil_iff.mpr
      intro event member
      obtain ⟨other, inside, same⟩ := grows.known order.left event member
      have ids := order.ids
      rw [List.map_append] at ids
      have apart := (List.nodup_append.mp ids).2.2 _ (List.mem_map_of_mem inside) bkp.id (by simp)
      simpa [same] using apart
    rw [grows.snoc past bkp order, List.filter_append, earlier, List.nil_append]
    exact List.filter_eq_self.mpr fun event member => by simp [grows.own past bkp event member]
  | append_singleton rest last ih =>
    have shape : past ++ bkp :: (rest ++ [last]) = (past ++ bkp :: rest) ++ [last] := by simp
    rw [shape] at order ⊢
    have later : ((part (past ++ bkp :: rest) last).filter fun event => event.backupId = bkp.id) =
        [] := by
      apply List.filter_eq_nil_iff.mpr
      intro event member
      have ids := order.ids
      rw [List.map_append] at ids
      have apart := (List.nodup_append.mp ids).2.2 bkp.id (by simp) last.id (by simp)
      simpa [grows.own _ last event member] using apart.symm
    rw [grows.snoc _ last order, List.filter_append, ih order.left, later, List.append_nil]

end Growth

section Compared

variable {Bytes : Type*} (read : Backup → Option Bytes) (parse : Bytes → Option ParsedConfig)

/-- An ingested event bears the id and the time of its backup. -/
theorem ingestedPart_stamp {past : List Backup} {bkp : Backup} {event : AnchorEvent}
    (member : event ∈ ingestedPart read parse past bkp) :
    event.backupId = bkp.id ∧ event.occurredAt = bkp.startedAt := by
  unfold ingestedPart at member
  split at member
  next => cases member
  next =>
    obtain ⟨entry, -, rfl⟩ := List.mem_map.mp member
    exact ⟨rfl, rfl⟩
  next =>
    split at member
    next => cases member
    next =>
      obtain ⟨found, -, rfl⟩ := List.mem_map.mp member
      exact ⟨rfl, rfl⟩

theorem ingested_growsBy : GrowsBy (ingested read parse) (ingestedPart read parse) where
  nil := rfl
  snoc _ _ order := ingested_snoc order
  own _ _ _ member := (ingestedPart_stamp read parse member).1

variable {read parse}

end Compared

end PfsenseBackups.EventLog

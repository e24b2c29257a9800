import PfsenseBackups.AnchorTimeline
import PfsenseBackups.LruCaches
import PfsenseBackups.Runs
import PfsenseBackups.Tables
import Mathlib.Data.Set.Insert

/-! The cache of the anchor-history walk over requests, events and deletions in any order. A request
reads its rows, looks into the cache and walks, with other work between the three. -/

namespace PfsenseBackups.HistoryCache
open Value Config EventLog AnchorTimeline LruCaches Runs Tables

variable {Bytes : Type}

/-! ### The walk of a request -/

/-- A row of the history, with what its file holds. -/
structure Row (Bytes : Type) where
  instanceId : Nat
  success : Bool
  backup : Backup
  raw : Bytes

def Row.id (row : Row Bytes) : Nat :=
  row.backup.id

/-- The successful backups of an instance. -/
def snapshots (rows : Table (Row Bytes) Row.id) (instanceId : Nat) : List (Row Bytes) :=
  rows.rows.filter fun row => row.instanceId = instanceId && row.success

def readFrom (walked : List (Row Bytes)) (bkp : Backup) : Option Bytes :=
  (walked.find? fun row => row.backup = bkp).map Row.raw

section Walk

variable (modelText : Dict → String) (parse : Bytes → Option ParsedConfig)

def walk (walked : List (Row Bytes)) (anchor : String) : Option (List AnchorHistoryChange) :=
  gather modelText (readFrom walked) parse (walked.map Row.backup) anchor

variable {modelText parse}

theorem gatherFrom_ids {read : Backup → Option Bytes} {anchor : String} {previous : Option Val}
    {history : List Backup} {entries : List AnchorHistoryChange}
    (done : gatherFrom modelText read parse anchor previous history = some entries) :
    entries.map AnchorHistoryChange.backupId = history.map Backup.id := by
  induction history generalizing previous entries with
  | nil =>
    obtain rfl := Option.some.inj done
    rfl
  | cons bkp rest ih =>
    simp only [gatherFrom, Option.bind_eq_bind, Option.bind_eq_some_iff] at done
    obtain ⟨parsed, -, later, tail, same⟩ := done
    obtain rfl := Option.some.inj same
    rw [List.map_cons, List.map_cons, ih tail]

/-- A walk has an entry for each backup. -/
theorem walk_lists {walked : List (Row Bytes)} {anchor : String} {entries : List AnchorHistoryChange}
    (done : walk modelText parse walked anchor = some entries) {row : Row Bytes}
    (member : row ∈ walked) : ∃ entry ∈ entries, entry.backupId = row.id := by
  have ids := gatherFrom_ids done
  have listed : row.id ∈ entries.map AnchorHistoryChange.backupId := by
    rw [ids]
    apply List.mem_map_of_mem
    exact (List.perm_insertionSort _ _).mem_iff.mpr (List.mem_map_of_mem member)
  exact List.mem_map.mp listed

end Walk

/-! ### The event bus -/

structure Envelope where
  topic : String
  success : Bool
  instanceId : Option Nat

/-- The keys of an instance and an anchor that the invalidator pops. -/
def Envelope.purges (envelope : Envelope) (key : Nat × String) : Bool :=
  envelope.topic = "backup.finished" && envelope.success && envelope.instanceId = some key.1

/-- An event in the invalidator's queue. What it is about is not part of it. -/
structure Delivery (Bytes : Type) where
  envelope : Envelope
  about : Option (Row Bytes)

/-- `BackupFinished` of the worker, once it wrote the row. -/
def finished (row : Row Bytes) : Delivery Bytes :=
  ⟨⟨"backup.finished", true, some row.instanceId⟩, some row⟩

theorem purges_finished {row : Row Bytes} {key : Nat × String} (same : row.instanceId = key.1) :
    (finished row).envelope.purges key = true := by
  rw [finished, Envelope.purges, same]
  simp

/-- The room in a subscriber's queue. -/
def queueSize : Nat :=
  256

/-! ### The system -/

inductive Stage (Bytes : Type) where
  | begun
  /-- The rows are read, and their session is being closed. -/
  | loaded (walked : List (Row Bytes))
  /-- The cache had no answer, and a thread walks. -/
  | walking (walked : List (Row Bytes))

structure Request (Bytes : Type) where
  instanceId : Nat
  anchor : String
  stage : Stage Bytes
  /-- The rows whose completion was published before the request began, less those that were deleted
  since. -/
  published : Set (Row Bytes)
  /-- The rows that were deleted before it began, less those that were added again. -/
  deleted : Set (Row Bytes)

def Request.key (request : Request Bytes) : Nat × String :=
  (request.instanceId, request.anchor)

structure Answer (Bytes : Type) where
  request : Request Bytes
  entries : List AnchorHistoryChange

/-- The rows, the cache and the bus, with what requests are judged by. -/
structure State (Bytes : Type) where
  rows : Table (Row Bytes) Row.id
  cache : LruCache (Nat × String) (List AnchorHistoryChange) 512
  /-- The bus still has the invalidator's queue. -/
  subscribed : Bool
  queue : List (Delivery Bytes)
  requests : List (Request Bytes)
  answers : List (Answer Bytes)
  /-- The rows whose completion was published. -/
  published : Set (Row Bytes)
  /-- The rows that were deleted. -/
  deleted : Set (Row Bytes)

/-- `EventBus.publish`: a subscriber whose queue is full is dropped. -/
def State.publish (state : State Bytes) (delivery : Delivery Bytes) : State Bytes :=
  if !state.subscribed then state
  else if state.queue.length < queueSize then
    { state with queue := state.queue ++ [delivery] }
  else { state with subscribed := false }

def State.record (state : State Bytes) (row : Row Bytes) : State Bytes :=
  { state with
    rows := state.rows.insert row
    deleted := state.deleted \ {row}
    requests := state.requests.map fun request =>
      { request with deleted := request.deleted \ {row} } }

def State.delete (state : State Bytes) (row : Row Bytes) : State Bytes :=
  { state with
    rows := state.rows.delete row.id
    published := state.published \ {row}
    deleted := insert row state.deleted
    requests := state.requests.map fun request =>
      { request with published := request.published \ {row} } }

/-- One turn of `_anchor_history_invalidator`. -/
def State.deliver (state : State Bytes) (delivery : Delivery Bytes) (rest : List (Delivery Bytes)) :
    State Bytes :=
  { state with
    queue := rest
    cache := state.cache.filter fun item => !delivery.envelope.purges item.1 }

inductive Op (Bytes : Type) where
  | record (row : Row Bytes)
  | delete (row : Row Bytes)
  | finish (row : Row Bytes)
  /-- Any other event on the bus. -/
  | publish (envelope : Envelope)
  | deliver
  | begin (instanceId : Nat) (anchor : String)
  | load (request : Request Bytes)
  | hit (request : Request Bytes)
  | miss (request : Request Bytes)
  | answer (request : Request Bytes) (walked : List (Row Bytes))
  | abort (request : Request Bytes)

inductive Step (modelText : Dict → String) (parse : Bytes → Option ParsedConfig) :
    State Bytes → Op Bytes → State Bytes → Prop
  | record {state row} (fresh : state.rows.get row.id = none) :
    Step modelText parse state (.record row) (state.record row)
  | delete {state row} (there : row ∈ state.rows.rows) :
    Step modelText parse state (.delete row) (state.delete row)
  | finish {state row} (there : row ∈ state.rows.rows) (succeeded : row.success = true) :
    Step modelText parse state (.finish row)
      { state.publish (finished row) with published := insert row state.published }
  | publish {state envelope} :
    Step modelText parse state (.publish envelope) (state.publish ⟨envelope, none⟩)
  | deliver {state delivery rest} (waiting : state.queue = delivery :: rest) :
    Step modelText parse state .deliver (state.deliver delivery rest)
  | begin {state instanceId anchor} :
    Step modelText parse state (.begin instanceId anchor)
      { state with
        requests := ⟨instanceId, anchor, .begun, state.published, state.deleted⟩ :: state.requests }
  | load {state request before after} (pending : state.requests = before ++ request :: after)
      (stage : request.stage = .begun) :
    Step modelText parse state (.load request)
      { state with
        requests := { request with stage := .loaded (snapshots state.rows request.instanceId) } ::
          (before ++ after) }
  | hit {state request walked entries before after}
      (pending : state.requests = before ++ request :: after)
      (stage : request.stage = .loaded walked)
      (cached : state.cache.find? request.key = some entries) :
    Step modelText parse state (.hit request)
      { state with
        cache := state.cache.touch request.key
        requests := before ++ after
        answers := ⟨request, entries⟩ :: state.answers }
  | miss {state request walked before after}
      (pending : state.requests = before ++ request :: after)
      (stage : request.stage = .loaded walked)
      (uncached : state.cache.find? request.key = none) :
    Step modelText parse state (.miss request)
      { state with
        requests := { request with stage := .walking walked } :: (before ++ after) }
  | answer {state request walked entries before after}
      (pending : state.requests = before ++ request :: after)
      (stage : request.stage = .walking walked)
      (done : walk modelText parse walked request.anchor = some entries) :
    Step modelText parse state (.answer request walked)
      { state with
        cache := state.cache.insert request.key entries
        requests := before ++ after
        answers := ⟨request, entries⟩ :: state.answers }
  | abort {state request before after} (pending : state.requests = before ++ request :: after) :
    Step modelText parse state (.abort request) { state with requests := before ++ after }

/-! ### What an answer shows, and when it is right -/

/-- The rows are backups of the request's instance: every one whose completion was published before
it began, and none that was deleted before. -/
structure Covers (request : Request Bytes) (walked : List (Row Bytes)) : Prop where
  distinct : (walked.map Row.id).Nodup
  owned : ∀ row ∈ walked, row.instanceId = request.instanceId ∧ row.success = true
  published : ∀ row ∈ request.published, row.instanceId = request.instanceId → row ∈ walked
  deleted : ∀ row ∈ request.deleted, row ∉ walked

/-- The answer is a walk over such rows. -/
def Fresh (modelText : Dict → String) (parse : Bytes → Option ParsedConfig)
    (answer : Answer Bytes) : Prop :=
  ∃ walked, Covers answer.request walked ∧
    walk modelText parse walked answer.request.anchor = some answer.entries

/-- No event meets a full queue; no backup is deleted while a cached answer shows it; a cached answer
is served when no completion from before the request waits for the invalidator; and a walk is stored
when its rows are still there and it has every row of a completion that does not wait. -/
def Allowed (state : State Bytes) : Op Bytes → Prop
  | .finish _ | .publish _ => state.queue.length < queueSize
  | .delete row => ∀ item ∈ state.cache.items, item.1.1 = row.instanceId →
    ∀ entry ∈ item.2, entry.backupId ≠ row.id
  | .hit request => ∀ row ∈ request.published, row.instanceId = request.instanceId →
    finished row ∉ state.queue
  | .answer request walked => (∀ row ∈ walked, row ∈ state.rows.rows) ∧
    ∀ row ∈ state.published, row.instanceId = request.instanceId →
      row ∈ walked ∨ finished row ∈ state.queue
  | _ => True

/-- An answer that leaves out a published backup is stale. -/
theorem not_fresh_of_missing {modelText : Dict → String} {parse : Bytes → Option ParsedConfig}
    {answer : Answer Bytes} {row : Row Bytes} (published : row ∈ answer.request.published)
    (own : row.instanceId = answer.request.instanceId)
    (missing : ∀ entry ∈ answer.entries, entry.backupId ≠ row.id) :
    ¬ Fresh modelText parse answer := by
  rintro ⟨walked, covers, done⟩
  obtain ⟨entry, listed, same⟩ := walk_lists done (covers.published row published own)
  exact missing entry listed same

/-! ### The invariant -/

def Stage.walked : Stage Bytes → Option (List (Row Bytes))
  | .begun => none
  | .loaded walked | .walking walked => some walked

/-- A request on its way. -/
structure Sound (published deleted : Set (Row Bytes)) (request : Request Bytes) : Prop where
  published : request.published ⊆ published
  deleted : request.deleted ⊆ deleted
  covers : ∀ walked, request.stage.walked = some walked → Covers request walked

section

variable (modelText : Dict → String) (parse : Bytes → Option ParsedConfig)

/-- A cached answer is a walk over rows that are there, and what it lacks waits for the
invalidator. -/
structure Current (rows : Table (Row Bytes) Row.id) (published : Set (Row Bytes))
    (queue : List (Delivery Bytes)) (key : Nat × String) (entries : List AnchorHistoryChange)
    (walked : List (Row Bytes)) : Prop where
  distinct : (walked.map Row.id).Nodup
  owned : ∀ row ∈ walked, row.instanceId = key.1 ∧ row.success = true
  done : walk modelText parse walked key.2 = some entries
  there : ∀ row ∈ walked, row ∈ rows.rows
  complete : ∀ row ∈ published, row.instanceId = key.1 → row ∈ walked ∨ finished row ∈ queue

structure Inv (state : State Bytes) : Prop where
  published : ∀ row ∈ state.published, row ∈ state.rows.rows ∧ row.success = true
  deleted : ∀ row ∈ state.deleted, row ∉ state.rows.rows
  subscribed : state.subscribed = true
  requests : ∀ request ∈ state.requests, Sound state.published state.deleted request
  cached : ∀ key entries, (key, entries) ∈ state.cache.items →
    ∃ walked, Current modelText parse state.rows state.published state.queue key entries walked
  answers : ∀ answer ∈ state.answers, Fresh modelText parse answer

end

variable {modelText : Dict → String} {parse : Bytes → Option ParsedConfig}
  {state next : State Bytes}

theorem Covers.weaken {request request' : Request Bytes} {walked : List (Row Bytes)}
    (covers : Covers request walked) (same : request'.instanceId = request.instanceId)
    (published : request'.published ⊆ request.published)
    (deleted : request'.deleted ⊆ request.deleted) : Covers request' walked where
  distinct := covers.distinct
  owned row member := same ▸ covers.owned row member
  published row member own := covers.published row (published member) (own.trans same)
  deleted row member := covers.deleted row (deleted member)

theorem mem_snapshots {rows : Table (Row Bytes) Row.id} {instanceId : Nat} {row : Row Bytes} :
    row ∈ snapshots rows instanceId ↔
      row ∈ rows.rows ∧ row.instanceId = instanceId ∧ row.success = true := by
  rw [snapshots, List.mem_filter, Bool.and_eq_true, decide_eq_true_iff]

/-- What a request reads covers what it has to show. -/
theorem Inv.covers_snapshots (inv : Inv modelText parse state) {request : Request Bytes}
    (sound : Sound state.published state.deleted request) :
    Covers request (snapshots state.rows request.instanceId) where
  distinct := state.rows.distinct.sublist (List.filter_sublist.map Row.id)
  owned row member := (mem_snapshots.mp member).2
  published row member own := by
    obtain ⟨there, succeeded⟩ := inv.published row (sound.published member)
    exact mem_snapshots.mpr ⟨there, own, succeeded⟩
  deleted row member read :=
    inv.deleted row (sound.deleted member) (mem_snapshots.mp read).1

/-- A cached answer covers a request that no completion waits for. -/
theorem Inv.covers_cached (inv : Inv modelText parse state) {request : Request Bytes}
    (sound : Sound state.published state.deleted request)
    (allowed : Allowed state (.hit request)) {entries : List AnchorHistoryChange}
    {walked : List (Row Bytes)} (current : Current modelText parse state.rows state.published
      state.queue request.key entries walked) : Covers request walked where
  distinct := current.distinct
  owned := current.owned
  published row member own :=
    (current.complete row (sound.published member) own).resolve_right (allowed row member own)
  deleted row member shown :=
    inv.deleted row (sound.deleted member) (current.there row shown)

/-! ### Each step -/

theorem mem_insert {rows : Table (Row Bytes) Row.id} {row other : Row Bytes}
    (fresh : rows.get row.id = none) :
    other ∈ (rows.insert row).rows ↔ other ∈ rows.rows ∨ other = row := by
  rw [Table.insert, dif_neg (Table.get_eq_none.mp fresh), List.mem_append, List.mem_singleton]

theorem mem_delete {rows : Table (Row Bytes) Row.id} {row other : Row Bytes}
    (there : row ∈ rows.rows) : other ∈ (rows.delete row.id).rows ↔ other ∈ rows.rows ∧ other ≠ row := by
  rw [Table.delete, List.mem_filter, decide_eq_true_iff]
  apply and_congr_right
  intro held
  refine not_congr ⟨fun same => ?_, congrArg Row.id⟩
  have found := Table.get_of_mem held
  rw [same, Table.get_of_mem there] at found
  exact (Option.some.inj found).symm

theorem Inv.record (inv : Inv modelText parse state) {row : Row Bytes}
    (fresh : state.rows.get row.id = none) : Inv modelText parse (state.record row) where
  published other member :=
    have ⟨there, succeeded⟩ := inv.published other member
    ⟨(mem_insert fresh).mpr (.inl there), succeeded⟩
  deleted other member there :=
    ((mem_insert fresh).mp there).elim (inv.deleted other member.1) member.2
  subscribed := inv.subscribed
  requests := by
    intro request member
    obtain ⟨earlier, held, rfl⟩ := List.mem_map.mp member
    have sound := inv.requests earlier held
    refine ⟨sound.published, Set.sdiff_subset_sdiff_left sound.deleted, fun walked read => ?_⟩
    exact (sound.covers walked read).weaken rfl (Set.Subset.refl _) Set.sdiff_subset
  cached := by
    intro key entries member
    obtain ⟨walked, current⟩ := inv.cached key entries member
    refine ⟨walked, { current with there := fun other shown => ?_ }⟩
    exact (mem_insert fresh).mpr (.inl (current.there other shown))
  answers := inv.answers

theorem Inv.delete (inv : Inv modelText parse state) {row : Row Bytes}
    (there : row ∈ state.rows.rows) (allowed : Allowed state (.delete row)) :
    Inv modelText parse (state.delete row) where
  published other member :=
    have ⟨held, succeeded⟩ := inv.published other member.1
    ⟨(mem_delete there).mpr ⟨held, member.2⟩, succeeded⟩
  deleted other member held := by
    obtain ⟨held, differ⟩ := (mem_delete there).mp held
    exact (Set.mem_insert_iff.mp member).elim differ fun earlier => inv.deleted other earlier held
  subscribed := inv.subscribed
  requests := by
    intro request member
    obtain ⟨earlier, held, rfl⟩ := List.mem_map.mp member
    have sound := inv.requests earlier held
    refine ⟨Set.sdiff_subset_sdiff_left sound.published,
      sound.deleted.trans (Set.subset_insert row _), fun walked read => ?_⟩
    exact (sound.covers walked read).weaken rfl Set.sdiff_subset (Set.Subset.refl _)
  cached := by
    intro key entries member
    obtain ⟨walked, current⟩ := inv.cached key entries member
    refine ⟨walked, { current with
      there := fun other shown => (mem_delete there).mpr ⟨current.there other shown, ?_⟩
      complete := fun other published => current.complete other published.1 }⟩
    rintro rfl
    obtain ⟨entry, listed, same⟩ := walk_lists current.done shown
    exact allowed _ member (current.owned _ shown).1.symm entry listed same
  answers := inv.answers

theorem publish_eq (inv : Inv modelText parse state) (room : state.queue.length < queueSize)
    (delivery : Delivery Bytes) :
    state.publish delivery = { state with queue := state.queue ++ [delivery] } := by
  rw [State.publish, inv.subscribed, if_neg (by simp), if_pos room]

theorem Inv.publish (inv : Inv modelText parse state) (room : state.queue.length < queueSize)
    (delivery : Delivery Bytes) : Inv modelText parse (state.publish delivery) := by
  rw [publish_eq inv room]
  refine { inv with cached := fun key entries member => ?_ }
  obtain ⟨walked, current⟩ := inv.cached key entries member
  refine ⟨walked, { current with complete := fun row published own => ?_ }⟩
  exact (current.complete row published own).imp id (List.mem_append_left _)

theorem Inv.finish (inv : Inv modelText parse state) {row : Row Bytes}
    (there : row ∈ state.rows.rows) (succeeded : row.success = true)
    (room : state.queue.length < queueSize) : Inv modelText parse
      { state.publish (finished row) with published := insert row state.published } := by
  have published := inv.publish room (finished row)
  rw [publish_eq inv room] at published ⊢
  refine { published with published := ?_, requests := ?_, cached := ?_ }
  · intro other member
    rcases Set.mem_insert_iff.mp member with rfl | earlier
    · exact ⟨there, succeeded⟩
    · exact inv.published other earlier
  · intro request member
    have sound := inv.requests request member
    exact { sound with published := sound.published.trans (Set.subset_insert row _) }
  · intro key entries member
    obtain ⟨walked, current⟩ := published.cached key entries member
    refine ⟨walked, { current with complete := fun other inside own => ?_ }⟩
    rcases Set.mem_insert_iff.mp inside with rfl | earlier
    · exact .inr (List.mem_append_right _ (List.mem_singleton_self _))
    · exact current.complete other earlier own

theorem Inv.deliver (inv : Inv modelText parse state) {delivery : Delivery Bytes}
    {rest : List (Delivery Bytes)} (waiting : state.queue = delivery :: rest) :
    Inv modelText parse (state.deliver delivery rest) := by
  refine { inv with cached := fun key entries member => ?_ }
  obtain ⟨held, kept⟩ := List.mem_filter.mp member
  obtain ⟨walked, current⟩ := inv.cached key entries held
  refine ⟨walked, { current with complete := fun row published own => ?_ }⟩
  refine (current.complete row published own).imp id fun waits => ?_
  rw [waiting] at waits
  refine (List.mem_cons.mp waits).resolve_left fun same => ?_
  rw [← same, purges_finished own] at kept
  cases kept

/-- A step that only moves requests on. -/
theorem Inv.move (inv : Inv modelText parse state) {requests : List (Request Bytes)}
    (sound : ∀ request ∈ requests, Sound state.published state.deleted request) :
    Inv modelText parse { state with requests } :=
  { inv with requests := sound }

theorem Inv.hit (inv : Inv modelText parse state) {request : Request Bytes}
    {entries : List AnchorHistoryChange} {before after : List (Request Bytes)}
    (pending : state.requests = before ++ request :: after)
    (cached : state.cache.find? request.key = some entries)
    (allowed : Allowed state (.hit request)) : Inv modelText parse
      { state with
        cache := state.cache.touch request.key
        requests := before ++ after
        answers := ⟨request, entries⟩ :: state.answers } where
  published := inv.published
  deleted := inv.deleted
  subscribed := inv.subscribed
  requests other member := inv.requests other (mem_of_split pending member)
  cached key entries member := inv.cached key entries (LruCache.mem_touch.mp member)
  answers answer member := by
    rcases List.mem_cons.mp member with rfl | earlier
    · obtain ⟨walked, current⟩ := inv.cached _ _ (LruCache.mem_of_find? cached)
      have sound := inv.requests request (mem_of_pending pending)
      exact ⟨walked, inv.covers_cached sound allowed current, current.done⟩
    · exact inv.answers answer earlier

theorem Inv.answer (inv : Inv modelText parse state) {request : Request Bytes}
    {walked : List (Row Bytes)} {entries : List AnchorHistoryChange}
    {before after : List (Request Bytes)} (pending : state.requests = before ++ request :: after)
    (stage : request.stage = .walking walked)
    (done : walk modelText parse walked request.anchor = some entries)
    (allowed : Allowed state (.answer request walked)) : Inv modelText parse
      { state with
        cache := state.cache.insert request.key entries
        requests := before ++ after
        answers := ⟨request, entries⟩ :: state.answers } := by
  have sound := inv.requests request (mem_of_pending pending)
  have covers : Covers request walked := sound.covers walked (by rw [stage]; rfl)
  constructor
  · exact inv.published
  · exact inv.deleted
  · exact inv.subscribed
  · exact fun other member => inv.requests other (mem_of_split pending member)
  · intro key stored member
    rcases LruCache.of_mem_insert member with same | earlier
    · cases same
      exact ⟨walked, covers.distinct, covers.owned, done, allowed.1, allowed.2⟩
    · exact inv.cached key stored earlier
  · intro answer member
    rcases List.mem_cons.mp member with rfl | earlier
    · exact ⟨walked, covers, done⟩
    · exact inv.answers answer earlier

theorem Inv.step (inv : Inv modelText parse state) {op : Op Bytes} (allowed : Allowed state op)
    (taken : Step modelText parse state op next) : Inv modelText parse next := by
  cases taken with
  | record fresh => exact inv.record fresh
  | delete there => exact inv.delete there allowed
  | finish there succeeded => exact inv.finish there succeeded allowed
  | publish => exact inv.publish allowed _
  | deliver waiting => exact inv.deliver waiting
  | begin =>
    apply inv.move
    intro request member
    rcases List.mem_cons.mp member with rfl | earlier
    · exact ⟨Set.Subset.refl _, Set.Subset.refl _, fun walked read => by cases read⟩
    · exact inv.requests request earlier
  | load pending stage =>
    apply inv.move
    intro request member
    rcases List.mem_cons.mp member with rfl | earlier
    · have sound := inv.requests _ (mem_of_pending pending)
      refine { sound with covers := fun walked read => ?_ }
      obtain rfl := Option.some.inj read
      exact (inv.covers_snapshots sound).weaken rfl (Set.Subset.refl _) (Set.Subset.refl _)
    · exact inv.requests request (mem_of_split pending earlier)
  | hit pending stage cached => exact inv.hit pending cached allowed
  | @miss _ walked _ _ pending stage uncached =>
    apply inv.move
    intro request member
    rcases List.mem_cons.mp member with rfl | earlier
    · have sound := inv.requests _ (mem_of_pending pending)
      have covers := sound.covers walked (by rw [stage]; rfl)
      refine { sound with covers := fun walked' read => ?_ }
      obtain rfl := Option.some.inj read
      exact covers.weaken rfl (Set.Subset.refl _) (Set.Subset.refl _)
    · exact inv.requests request (mem_of_split pending earlier)
  | answer pending stage done => exact inv.answer pending stage done allowed
  | abort pending => exact inv.move fun request member => inv.requests request (mem_of_split pending member)

/-- A service that has just come up over a history. -/
structure Started (state : State Bytes) : Prop where
  published : ∀ row ∈ state.published, row ∈ state.rows.rows ∧ row.success = true
  deleted : ∀ row ∈ state.deleted, row ∉ state.rows.rows
  subscribed : state.subscribed = true
  requests : state.requests = []
  cache : state.cache = .empty
  answers : state.answers = []

theorem Inv.of_started (started : Started state) : Inv modelText parse state where
  published := started.published
  deleted := started.deleted
  subscribed := started.subscribed
  requests request member := by
    rw [started.requests] at member
    exact absurd member List.not_mem_nil
  cached key entries member := by
    rw [started.cache] at member
    exact absurd member List.not_mem_nil
  answers answer member := by
    rw [started.answers] at member
    exact absurd member List.not_mem_nil

/-- In every run of such steps, each answer is a walk that shows every backup whose completion was
published before the request began, and no backup that was deleted before. -/
theorem answers_fresh (modelText : Dict → String) (parse : Bytes → Option ParsedConfig)
    {start state : State Bytes} (started : Started start)
    (reached : Reach (Step modelText parse) Allowed start state) :
    ∀ answer ∈ state.answers, Fresh modelText parse answer := by
  have inv : Inv modelText parse state := reached.invariant (Inv.of_started started)
    fun before op after held allowed taken => held.step allowed taken
  exact inv.answers

/-! ### A walk that is stored after a backup's completion -/

/-- A nightly backup of an empty config. -/
def nightly (id : Nat) : Row ParsedConfig where
  instanceId := 1
  success := true
  backup := ⟨id, 10 * id⟩
  raw := {}

def up : State ParsedConfig where
  rows := ⟨[nightly 1], List.nodup_singleton _⟩
  cache := .empty
  subscribed := true
  queue := []
  requests := []
  answers := []
  published := {nightly 1}
  deleted := ∅

/-- A first request walks. -/
def walking : State ParsedConfig :=
  { up with requests := [⟨1, "xref-alias-lan", .walking [nightly 1], {nightly 1}, ∅⟩] }

theorem up_started : Started up where
  published row member := by
    obtain rfl := Set.mem_singleton_iff.mp member
    exact ⟨List.mem_singleton_self _, rfl⟩
  deleted row member := absurd member (Set.notMem_empty row)
  subscribed := rfl
  requests := rfl
  cache := rfl
  answers := rfl

theorem up_walking : Reach (Step (fun _ => "") some) Allowed up walking := by
  have first : Reach (Step (fun _ => "") some) Allowed up up := .refl
  have began := first.snoc (by trivial) (@Step.begin _ _ _ _ 1 "xref-alias-lan")
  have loaded := began.snoc (by trivial) (@Step.load _ _ _ _ _ [] [] rfl rfl)
  have missed := loaded.snoc (by trivial) (@Step.miss _ _ _ _ _ _ [] [] rfl rfl rfl)
  exact missed

theorem walk_nightly : ∃ entries,
    walk (fun _ => "") some [nightly 1] "xref-alias-lan" = some entries ∧
      ∀ entry ∈ entries, entry.backupId ≠ 2 :=
  ⟨_, rfl, by decide⟩

/-- The answer is stored and serves a second request. -/
theorem nightly_served : ∃ state, Reach (Step (fun _ => "") some) Allowed up state ∧
    state.answers.length = 2 ∧ ∀ answer ∈ state.answers, Fresh (fun _ => "") some answer := by
  obtain ⟨entries, done, -⟩ := walk_nightly
  have allowed : Allowed walking
      (.answer ⟨1, "xref-alias-lan", .walking [nightly 1], {nightly 1}, ∅⟩ [nightly 1]) := by
    refine ⟨fun row member => member, fun row member own => .inl ?_⟩
    exact List.mem_singleton.mpr (Set.mem_singleton_iff.mp member)
  have stored := up_walking.snoc allowed (@Step.answer _ _ _ _ _ _ entries [] [] rfl rfl done)
  have began := stored.snoc (by trivial) (@Step.begin _ _ _ _ 1 "xref-alias-lan")
  have loaded := began.snoc (by trivial) (@Step.load _ _ _ _ _ [] [] rfl rfl)
  have served := loaded.snoc (by exact fun row _ _ => List.not_mem_nil)
    (@Step.hit _ _ _ _ _ _ entries [] [] rfl rfl rfl)
  exact ⟨_, served, rfl, answers_fresh _ _ up_started served⟩

/-- A second backup finishes and is announced while the first request walks. The walk is stored after
the invalidator had its turn, and serves a request that begins later. -/
theorem late_walk_stale : Started up ∧ ∃ state,
    Reach (Step (fun _ => "") some) unguarded up state ∧
      ∃ answer ∈ state.answers, ¬ Fresh (fun _ => "") some answer := by
  obtain ⟨entries, done, first⟩ := walk_nightly
  have recorded := up_walking.unguard.snoc trivial (@Step.record _ _ _ _ (nightly 2) rfl)
  have there : nightly 2 ∈ (walking.record (nightly 2)).rows.rows :=
    List.mem_cons_of_mem _ (List.mem_singleton_self _)
  have announced := recorded.snoc trivial (@Step.finish _ _ _ _ (nightly 2) there rfl)
  have delivered := announced.snoc trivial (@Step.deliver _ _ _ _ _ [] rfl)
  have stored := delivered.snoc trivial (@Step.answer _ _ _ _ _ _ entries [] [] rfl rfl done)
  have began := stored.snoc trivial (@Step.begin _ _ _ _ 1 "xref-alias-lan")
  have loaded := began.snoc trivial (@Step.load _ _ _ _ _ [] [] rfl rfl)
  have served := loaded.snoc trivial (@Step.hit _ _ _ _ _ _ entries [] [] rfl rfl rfl)
  refine ⟨up_started, _, served, _, List.mem_cons_self, ?_⟩
  exact @not_fresh_of_missing _ _ _ _ (nightly 2) (Set.mem_insert _ _) rfl first

end PfsenseBackups.HistoryCache

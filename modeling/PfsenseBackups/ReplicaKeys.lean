import Mathlib.Data.List.TakeWhile
import PfsenseBackups.Payloads
import PfsenseBackups.RowFrames

/-! The keys of off-site objects over backups, uploads, deletions and changes of the settings in any
order, with an upload's object and its mark apart, and remote deletes after the rows have gone. -/

namespace PfsenseBackups.ReplicaKeys
open Replication StoredBackups RowFrames Runs Tables
open Payloads hiding preparePayload undoPayload

variable {Bytes Digest Salt : Type}

/-! ### What an object is named after -/

structure Naming where
  basePath : String
  instanceName : String
  filename : String
  suffix : String

namespace Naming

def folder (naming : Naming) : String :=
  naming.basePath ++ "/" ++ naming.instanceName

/-- The local extensions give way to the layout's suffix. -/
def file (naming : Naming) : String :=
  objectBase naming.filename ++ naming.suffix

def key (naming : Naming) : String :=
  naming.folder ++ "/" ++ naming.file

/-- The two rows' backups have the same base path and instance name, and the same file name up to
local extensions and layout. -/
def Clash (naming other : Naming) : Prop :=
  naming.folder = other.folder ∧ naming.file = other.file

/-- The file name is one, and no path. -/
def Flat (naming : Naming) : Prop :=
  '/' ∉ naming.file.toList

theorem Clash.symm {naming other : Naming} (clash : naming.Clash other) : other.Clash naming :=
  ⟨clash.1.symm, clash.2.symm⟩

end Naming

theorem objectKey_eq (cfg : ReplicationConfig) (instanceName filename suffix : String) :
    objectKey cfg instanceName filename suffix =
      (Naming.mk cfg.basePath instanceName filename suffix).key := by
  simp only [objectKey, objectStem, Naming.key, Naming.folder, Naming.file, objectBase,
    String.append_assoc]

theorem append_slash_inj {front front' back back' : List Char} (flat : '/' ∉ back)
    (flat' : '/' ∉ back') (same : front ++ '/' :: back = front' ++ '/' :: back') :
    front = front' ∧ back = back' := by
  rcases List.append_eq_append_iff.mp same with ⟨more, longer, rest⟩ | ⟨more, longer, rest⟩
  · cases more with
    | nil => exact ⟨by simpa using longer.symm, (List.cons.inj rest).2⟩
    | cons char more =>
      have inside : '/' ∈ back := by
        rw [(List.cons.inj rest).2]
        exact List.mem_append_right more List.mem_cons_self
      exact absurd inside flat
  · cases more with
    | nil => exact ⟨by simpa using longer, (List.cons.inj rest).2.symm⟩
    | cons char more =>
      have inside : '/' ∈ back' := by
        rw [(List.cons.inj rest).2]
        exact List.mem_append_right more List.mem_cons_self
      exact absurd inside flat'

/-- Keys are the same exactly where the names clash. -/
theorem key_eq_iff {naming other : Naming} (flat : naming.Flat) (flat' : other.Flat) :
    naming.key = other.key ↔ naming.Clash other := by
  constructor
  · intro same
    have chars : naming.folder.toList ++ '/' :: naming.file.toList =
        other.folder.toList ++ '/' :: other.file.toList := by
      have lists := congrArg String.toList same
      simp only [Naming.key, String.toList_append, List.append_assoc] at lists
      exact lists
    obtain ⟨folders, files⟩ := append_slash_inj flat flat' chars
    exact ⟨String.toList_inj.mp folders, String.toList_inj.mp files⟩
  · rintro ⟨folders, files⟩
    rw [Naming.key, Naming.key, folders, files]

theorem removeSuffix_subset (text ending : String) :
    (removeSuffix text ending).toList ⊆ text.toList := by
  rw [removeSuffix]
  split
  · rw [String.toList_ofList]
    exact List.take_subset _ _
  · exact List.Subset.refl _

/-- The names of uploaded rows are flat. -/
theorem flat_of_prepared {codec : Codec Bytes Digest Salt} {salt : Salt} {raw payload : Bytes}
    {encrypted compressed : Bool} {cfg : ReplicationConfig} {suffix : String}
    (made : preparePayload codec salt raw encrypted compressed cfg = .ok (payload, suffix))
    (basePath instanceName : String) {filename : String} (flat : '/' ∉ filename.toList) :
    (Naming.mk basePath instanceName filename suffix).Flat := by
  have ends : '/' ∉ suffix.toList := by
    obtain ⟨blob, -, layout⟩ := preparePayload_ok made
    rcases layout with ⟨-, -, -, rfl⟩ | ⟨-, -, rfl⟩ | ⟨-, -, -, rfl⟩
    · decide
    · decide
    · split <;> decide
  have base : '/' ∉ (objectBase filename).toList := fun inside =>
    flat (removeSuffix_subset filename ".gz" (removeSuffix_subset _ ".xml" inside))
  rw [Naming.Flat, Naming.file, String.toList_append, List.mem_append]
  exact not_or.mpr ⟨base, ends⟩

/-! ### The system -/

/-- An upload whose object may be there, before its row is marked. -/
structure Upload where
  id : Nat
  naming : Naming

structure State (Bytes Digest : Type) where
  world : World Bytes Digest
  /-- What a row's recorded object is named after; no operation reads it. -/
  recordedAs : Nat → Option Naming
  uploads : List Upload
  /-- The remote deletes that are decided on, from retention or on the way to the worker. -/
  deletions : List Naming

/-- A row as a backup or an import adds it. -/
structure NewRow (world : World Bytes Digest) (row : Backup Digest) : Prop where
  fresh : row.id = world.rows.nextId
  unreplicated : row.replicaStatus = none
  flat : '/' ∉ row.filename.toList

theorem pathName_flat (path : String) : '/' ∉ (pathName path).toList := by
  rw [pathName, String.toList_ofList, List.mem_reverse]
  intro inside
  have apart : decide ('/' ≠ '/') = true :=
    List.mem_takeWhile_imp (p := fun char => decide (char ≠ '/')) inside
  exact of_decide_eq_true apart rfl

/-- The rows of the history are such. -/
theorem historyRow_new (world : World Bytes Digest) (run : BackupRun Bytes Salt)
    (result : SaveResult) : NewRow world (historyRow world.rows.nextId run result) :=
  ⟨rfl, rfl, pathName_flat result.path⟩

theorem failedRow_new (world : World Bytes Digest) (instanceId startedAt : Nat) :
    NewRow world (failedRow world.rows.nextId instanceId startedAt) :=
  ⟨rfl, rfl, List.not_mem_nil⟩

/-- `verify_replicas` on a row with a missing or corrupt object. -/
def flagged (problem : String) (row : Backup Digest) : Backup Digest :=
  { row with
    replicaStatus := some .failed
    replicaError := some problem }

/-- A stale row goes with its object as well. -/
def mirrored (run : PruneRun) (row : Backup Digest) : Bool :=
  !(row.path ≠ "" ∧ run.unlinkFails row.id) && (disposal run.cfg row).remoteKey.isSome

/-- The row's recorded object is to be deleted by hand. -/
def hasReplica (row : Backup Digest) : Bool :=
  row.replicaStatus = some .done && (truthy row.replicaKey).isSome

/-- The rows that go with an instance. -/
def ownedIds (world : World Bytes Digest) (instanceId : Nat) : List Nat :=
  (world.rows.rows.filter fun row => row.instanceId = instanceId).map Backup.id

inductive Op (Bytes Digest Salt : Type) where
  /-- A backup or an import wrote its file and its row. -/
  | record (row : Backup Digest)
  | pending (id : Nat)
  /-- The object of an upload is written, in whole or in part. -/
  | put (id : Nat) (naming : Naming) (content : Bytes)
  | mark (upload : Upload)
  | markFailed (upload : Upload)
  /-- An attempt fails before its upload. -/
  | attemptFails (id : Nat)
  | verifyFails (id : Nat)
  | prune (run : PruneRun)
  | delete (id : Nat)
  | deleteInstance (instanceId : Nat)
  | deleteObject (naming : Naming)
  | deleteObjectFails (naming : Naming)
  | retrieve (id : Nat)
  | reencrypt (task : ReencryptTask)

variable (codec : Codec Bytes Digest Salt) (cwd : String)

inductive Step [DecidableEq Digest] :
    State Bytes Digest → Op Bytes Digest Salt → State Bytes Digest → Prop
  | record {state row} (files : String → Option Bytes) (new : NewRow state.world row) :
    Step state (.record row)
      { state with world := { state.world with rows := state.world.rows.insert row, files } }
  | pending {state id} :
    Step state (.pending id) { state with world := state.world.update id Backup.pending }
  | put {state id row raw payload suffix} (cfg : ReplicationConfig) (instanceName : String)
      (salt : Salt) (content : Bytes) (found : state.world.rows.get id = some row)
      (present : row.localPresent = true)
      (read : state.world.files (openedPath cwd row.path) = some raw)
      (made : preparePayload codec salt raw row.encrypted row.compressed cfg =
        .ok (payload, suffix)) :
    Step state (.put id ⟨cfg.basePath, instanceName, row.filename, suffix⟩ content)
      { state with
        world := state.world.putObject (objectKey cfg instanceName row.filename suffix) content
        uploads := ⟨id, ⟨cfg.basePath, instanceName, row.filename, suffix⟩⟩ :: state.uploads }
  | mark {state upload before after} (now : Nat) (digest : Digest)
      (pending : state.uploads = before ++ upload :: after) :
    Step state (.mark upload)
      { state with
        world := state.world.markDone upload.id now upload.naming.key digest
        recordedAs := Function.update state.recordedAs upload.id (some upload.naming)
        uploads := before ++ after }
  | markFailed {state upload before after} (now : Nat) (text : String)
      (pending : state.uploads = before ++ upload :: after) :
    Step state (.markFailed upload)
      { state with
        world := state.world.markFailed upload.id now text
        uploads := before ++ after }
  | attemptFails {state id} (now : Nat) (text : String) :
    Step state (.attemptFails id) { state with world := state.world.markFailed id now text }
  | attemptSkipped {state id} (now : Nat) :
    Step state (.attemptFails id) { state with world := state.world.markSkipped id now }
  | verifyFails {state id} (problem : String) :
    Step state (.verifyFails id) { state with world := state.world.update id (flagged problem) }
  | prune {state run} :
    Step state (.prune run)
      { state with
        world := (pruneRows run state.world (staleRows state.world run)).1
        deletions := state.deletions ++ ((staleRows state.world run).filter (mirrored run)).filterMap
          fun row => state.recordedAs row.id }
  | delete {state id row} (found : state.world.rows.get id = some row) :
    Step state (.delete id)
      { state with
        world := (state.world.unlink (openedPath cwd row.path)).deleteRow id
        deletions := state.deletions ++
          if hasReplica row then (state.recordedAs id).toList else [] }
  | deleteInstance {state instanceId} :
    Step state (.deleteInstance instanceId)
      { state with world := (ownedIds state.world instanceId).foldl World.deleteRow state.world }
  | deleteObject {state naming before after}
      (pending : state.deletions = before ++ naming :: after) :
    Step state (.deleteObject naming)
      { state with
        world := state.world.deleteObject naming.key
        deletions := before ++ after }
  | deleteObjectFails {state naming before after}
      (pending : state.deletions = before ++ naming :: after) :
    Step state (.deleteObjectFails naming) { state with deletions := before ++ after }
  | retrieve {state id cfg salt fault after}
      (returned : retrieveReplica codec cwd state.world id cfg salt fault = .ok after) :
    Step state (.retrieve id) { state with world := after }
  | reencrypt {state task} (salt : Salt) (faults : Nat → Faults) :
    Step state (.reencrypt task)
      { state with world := reencryptRow codec salt faults state.world task }

/-! ### The condition, and what follows from it -/

/-- No other backup's object, recorded, on its way or about to be deleted, has names that clash with
an upload's, and no row takes the id of one that is being uploaded. -/
def Allowed (state : State Bytes Digest) : Op Bytes Digest Salt → Prop
  | .put id naming _ =>
    (∀ other row recorded, other ≠ id → state.world.rows.get other = some row →
      row.replicaStatus = some .done → state.recordedAs other = some recorded →
      ¬ naming.Clash recorded) ∧
    (∀ upload ∈ state.uploads, upload.id ≠ id → ¬ naming.Clash upload.naming) ∧
    ∀ deleted ∈ state.deletions, ¬ naming.Clash deleted
  | .record row => ∀ upload ∈ state.uploads, upload.id ≠ row.id
  | _ => True

/-- The row records an off-site object. -/
def Records (world : World Bytes Digest) (id : Nat) (key : String) : Prop :=
  ∃ row, world.rows.get id = some row ∧ row.replicaStatus = some .done ∧ row.replicaKey = some key

/-- No row is new, and none is marked done or gets another key. -/
def Kept (before after : World Bytes Digest) : Prop :=
  ∀ id row', after.rows.get id = some row' → ∃ row, before.rows.get id = some row ∧
    row'.filename = row.filename ∧
    (row'.replicaStatus = some .done →
      row.replicaStatus = some .done ∧ row'.replicaKey = row.replicaKey)

variable {before middle after : World Bytes Digest}

/-- `Kept` is a relation that retention, retrievals and re-encryptions allow. -/
theorem kept_frame : Frame fun row row' : Backup Digest =>
    row'.filename = row.filename ∧ (row'.replicaStatus = some .done →
      row.replicaStatus = some .done ∧ row'.replicaKey = row.replicaKey) where
  refl _ := ⟨rfl, fun done => ⟨done, rfl⟩⟩
  trans row row' row'' earlier later := by
    refine ⟨later.1.trans earlier.1, fun marked => ?_⟩
    obtain ⟨marked, key⟩ := later.2 marked
    obtain ⟨marked, key'⟩ := earlier.2 marked
    exact ⟨marked, key.trans key'⟩
  pruned _ := ⟨rfl, fun done => ⟨done, rfl⟩⟩
  retrieved _ _ := ⟨rfl, fun done => ⟨done, rfl⟩⟩
  reencrypted _ _ _ := ⟨rfl, fun done => ⟨done, rfl⟩⟩

theorem Kept.of_rows (same : after.rows = before.rows) : Kept before after :=
  kept_frame.of_rows same

theorem Kept.refl (world : World Bytes Digest) : Kept world world :=
  kept_frame.same world

theorem Kept.trans (first : Kept before middle) (second : Kept middle after) : Kept before after :=
  kept_frame.comp first second

theorem Kept.none (kept : Kept before after) {id : Nat} (gone : before.rows.get id = none) :
    after.rows.get id = none := by
  cases found : after.rows.get id with
  | none => rfl
  | some row' =>
    obtain ⟨row, found, -⟩ := kept id row' found
    rw [gone] at found
    cases found

theorem Kept.records (kept : Kept before after) {id : Nat} {key : String}
    (records : Records after id key) : Records before id key := by
  obtain ⟨row', found, done, recorded⟩ := records
  obtain ⟨row, found, -, same⟩ := kept id row' found
  obtain ⟨marked, keys⟩ := same done
  exact ⟨row, found, marked, keys.symm.trans recorded⟩

theorem Kept.deleteRow (world : World Bytes Digest) (id : Nat) : Kept world (world.deleteRow id) :=
  kept_frame.deleteRow world id

theorem Kept.deleteRows (world : World Bytes Digest) (ids : List Nat) :
    Kept world (ids.foldl World.deleteRow world) :=
  kept_frame.foldl Kept.deleteRow world ids

theorem Kept.markFailed (world : World Bytes Digest) (id now : Nat) (text : String) :
    Kept world (world.markFailed id now text) :=
  kept_frame.of_update (fun _ => World.get_markFailed) fun _ => ⟨rfl, fun done => by cases done⟩

theorem Kept.markSkipped (world : World Bytes Digest) (id now : Nat) :
    Kept world (world.markSkipped id now) :=
  kept_frame.of_update (fun _ => World.get_markSkipped) fun _ => ⟨rfl, fun done => by cases done⟩

theorem Kept.pending (world : World Bytes Digest) (id : Nat) :
    Kept world (world.update id Backup.pending) :=
  kept_frame.of_update (fun _ => World.get_pending) fun _ => ⟨rfl, fun done => by cases done⟩

theorem Kept.flagged (world : World Bytes Digest) (id : Nat) (problem : String) :
    Kept world (world.update id (flagged problem)) :=
  kept_frame.of_update (fun _ => World.get_update (ReplicaKeys.flagged problem) fun _ => rfl)
    fun _ => ⟨rfl, fun done => by cases done⟩

theorem Kept.pruneRows (run : PruneRun) (world : World Bytes Digest) (stale : List (Backup Digest)) :
    Kept world (pruneRows run world stale).1 :=
  kept_frame.pruneRows run world stale

theorem Kept.reencryptRow (codec : Codec Bytes Digest Salt) (salt : Salt) (faults : Nat → Faults)
    (world : World Bytes Digest) (task : ReencryptTask) :
    Kept world (reencryptRow codec salt faults world task) :=
  kept_frame.reencryptRow codec salt faults world task

theorem Kept.retrieveReplica [DecidableEq Digest] {codec : Codec Bytes Digest Salt} {cwd : String}
    {world after : World Bytes Digest} {id : Nat} {cfg : Option ReplicationConfig} {salt : Salt}
    {fault : Option String}
    (returned : retrieveReplica codec cwd world id cfg salt fault = .ok after) : Kept world after :=
  kept_frame.retrieveReplica returned

theorem pruneRow_mirrored {run : PruneRun} {row : Backup Digest} (world : World Bytes Digest)
    (goes : mirrored run row = true) :
    (pruneRow run.cfg run.unlinkFails world row).1.rows.get row.id = none := by
  obtain ⟨unlinks, remote⟩ := Bool.and_eq_true_iff.mp goes
  unfold StoredBackups.pruneRow
  rw [if_neg (of_decide_eq_false ((Bool.not_eq_true' _).mp unlinks))]
  cases kind : disposal run.cfg row with
  | offsiteOnly =>
    rw [kind] at remote
    cases remote
  | drop key =>
    have deleted : ((world.unlinkStale row).deleteRow row.id).rows.get row.id = none :=
      Table.get_delete.trans (if_pos rfl)
    exact deleted

theorem pruneRows_mirrored {run : PruneRun} {row : Backup Digest} {stale : List (Backup Digest)}
    (world : World Bytes Digest) (member : row ∈ stale) (goes : mirrored run row = true) :
    (pruneRows run world stale).1.rows.get row.id = none := by
  induction stale generalizing world with
  | nil => cases member
  | cons first rows ih =>
    rcases List.mem_cons.mp member with rfl | later
    · exact (Kept.pruneRows run _ rows).none (pruneRow_mirrored world goes)
    · exact ih _ later

/-! ### The invariant -/

/-- The names of what is recorded, uploaded or about to be deleted, against each other. -/
structure Inv (state : State Bytes Digest) : Prop where
  flat : ∀ {id row}, state.world.rows.get id = some row → '/' ∉ row.filename.toList
  recorded : ∀ {id key}, Records state.world id key →
    ∃ naming, state.recordedAs id = some naming ∧ naming.key = key ∧ naming.Flat
  uploads : ∀ {upload}, upload ∈ state.uploads → upload.naming.Flat
  deletions : ∀ {naming}, naming ∈ state.deletions → naming.Flat
  doneDone : ∀ {id other key key' naming naming'}, Records state.world id key →
    Records state.world other key' → state.recordedAs id = some naming →
    state.recordedAs other = some naming' → id ≠ other → ¬ naming.Clash naming'
  doneUpload : ∀ {id key naming upload}, Records state.world id key →
    state.recordedAs id = some naming → upload ∈ state.uploads → upload.id ≠ id →
    ¬ upload.naming.Clash naming
  doneDeleted : ∀ {id key naming deleted}, Records state.world id key →
    state.recordedAs id = some naming → deleted ∈ state.deletions → ¬ naming.Clash deleted
  uploadUpload : ∀ {upload other}, upload ∈ state.uploads → other ∈ state.uploads →
    upload.id ≠ other.id → ¬ upload.naming.Clash other.naming
  /-- An upload that goes on after its row was deleted has nothing to mark. -/
  uploadDeleted : ∀ {upload deleted}, upload ∈ state.uploads → deleted ∈ state.deletions →
    ¬ upload.naming.Clash deleted ∨ state.world.rows.get upload.id = none

variable {state next : State Bytes Digest}

/-- The names of a row that goes join the deletions, and rows otherwise stay as they are. -/
theorem Inv.frame (inv : Inv state) (recordedAs : next.recordedAs = state.recordedAs)
    (kept : Kept state.world next.world)
    (uploads : ∀ upload ∈ next.uploads, upload ∈ state.uploads)
    (deletions : ∀ naming ∈ next.deletions, naming ∈ state.deletions ∨ ∃ id key,
      Records state.world id key ∧ state.recordedAs id = some naming ∧
      next.world.rows.get id = none) : Inv next := by
  have present : ∀ {id key}, Records next.world id key → next.world.rows.get id ≠ none := by
    rintro id key ⟨row, found, -⟩ gone
    rw [found] at gone
    cases gone
  constructor
  · intro id row' found
    obtain ⟨row, before, name, -⟩ := kept id row' found
    rw [name]
    exact inv.flat before
  · intro id key records
    rw [recordedAs]
    exact inv.recorded (kept.records records)
  · exact fun member => inv.uploads (uploads _ member)
  · intro naming member
    rcases deletions naming member with old | ⟨id, key, records, named, -⟩
    · exact inv.deletions old
    · obtain ⟨naming', named', -, flat⟩ := inv.recorded records
      obtain rfl : naming = naming' := Option.some.inj (named.symm.trans named')
      exact flat
  · intro id other key key' naming naming' records records' named named' differ
    rw [recordedAs] at named named'
    exact inv.doneDone (kept.records records) (kept.records records') named named' differ
  · intro id key naming upload records named member differ
    rw [recordedAs] at named
    exact inv.doneUpload (kept.records records) named (uploads _ member) differ
  · intro id key naming deleted records named member
    rw [recordedAs] at named
    rcases deletions deleted member with old | ⟨other, key', records', named', gone⟩
    · exact inv.doneDeleted (kept.records records) named old
    · have differ : id ≠ other := by
        rintro rfl
        exact present records gone
      exact inv.doneDone (kept.records records) records' named named' differ
  · exact fun member member' => inv.uploadUpload (uploads _ member) (uploads _ member')
  · intro upload deleted member member'
    rcases deletions deleted member' with old | ⟨id, key, records, named, gone⟩
    · exact (inv.uploadDeleted (uploads _ member) old).imp_right kept.none
    · by_cases same : upload.id = id
      · exact .inr (same ▸ gone)
      · exact .inl (inv.doneUpload records named (uploads _ member) same)

/-- A step that changes no names. -/
theorem Inv.quiet (inv : Inv state) {world : World Bytes Digest} (kept : Kept state.world world) :
    Inv { state with world } :=
  inv.frame rfl kept (fun _ member => member) fun _ member => .inl member

theorem Inv.record (inv : Inv state) {row : Backup Digest} (files : String → Option Bytes)
    (new : NewRow state.world row) (free : ∀ upload ∈ state.uploads, upload.id ≠ row.id) :
    Inv { state with world := { state.world with rows := state.world.rows.insert row, files } } := by
  have fresh : state.world.rows.get row.id = none := by
    rw [new.fresh]
    exact Table.get_nextId
  have rows : ∀ wanted, (state.world.rows.insert row).get wanted =
      if wanted = row.id then some row else state.world.rows.get wanted :=
    fun wanted => Table.get_insert fresh
  have records : ∀ {id key}, Records { state.world with
      rows := state.world.rows.insert row, files } id key → Records state.world id key := by
    rintro id key ⟨row', found, done, recorded⟩
    rw [rows] at found
    split at found
    · cases found
      rw [new.unreplicated] at done
      cases done
    · exact ⟨row', found, done, recorded⟩
  constructor
  · intro id row' found
    rw [rows] at found
    split at found
    · cases found
      exact new.flat
    · exact inv.flat found
  · exact fun held => inv.recorded (records held)
  · exact inv.uploads
  · exact inv.deletions
  · exact fun held held' => inv.doneDone (records held) (records held')
  · exact fun held => inv.doneUpload (records held)
  · exact fun held => inv.doneDeleted (records held)
  · exact inv.uploadUpload
  · intro upload deleted member member'
    refine (inv.uploadDeleted member member').imp_right fun gone => ?_
    exact (rows upload.id).trans ((if_neg (free upload member)).trans gone)

theorem Inv.put (inv : Inv state) {id : Nat} {naming : Naming} {key : String} {content : Bytes}
    (flat : naming.Flat) (allowed : Allowed state (.put id naming content : Op Bytes Digest Salt)) :
    Inv { state with
      world := state.world.putObject key content
      uploads := ⟨id, naming⟩ :: state.uploads } := by
  obtain ⟨recorded, uploads, deletions⟩ := allowed
  constructor
  · exact inv.flat
  · exact inv.recorded
  · intro upload member
    rcases List.mem_cons.mp member with rfl | old
    · exact flat
    · exact inv.uploads old
  · exact inv.deletions
  · exact inv.doneDone
  · intro other key' naming' upload records named member differ
    rcases List.mem_cons.mp member with rfl | old
    · obtain ⟨row, found, done, -⟩ := records
      exact recorded other row naming' (Ne.symm differ) found done named
    · exact inv.doneUpload records named old differ
  · exact inv.doneDeleted
  · intro upload other member member' differ
    rcases List.mem_cons.mp member with rfl | old
    · rcases List.mem_cons.mp member' with rfl | old'
      · exact absurd rfl differ
      · exact uploads other old' (Ne.symm differ)
    · rcases List.mem_cons.mp member' with rfl | old'
      · exact fun clash => uploads upload old differ clash.symm
      · exact inv.uploadUpload old old' differ
  · intro upload deleted member member'
    rcases List.mem_cons.mp member with rfl | old
    · exact .inl (deletions deleted member')
    · exact inv.uploadDeleted old member'

theorem Inv.mark (inv : Inv state) {upload : Upload} {front back : List Upload} (now : Nat)
    (digest : Digest) (pending : state.uploads = front ++ upload :: back) :
    Inv { state with
      world := state.world.markDone upload.id now upload.naming.key digest
      recordedAs := Function.update state.recordedAs upload.id (some upload.naming)
      uploads := front ++ back } := by
  have here : upload ∈ state.uploads := mem_of_pending pending
  have rest : ∀ {other}, other ∈ front ++ back → other ∈ state.uploads := mem_of_split pending
  have rows : ∀ wanted,
      (state.world.markDone upload.id now upload.naming.key digest).rows.get wanted =
        if wanted = upload.id then
          (state.world.rows.get wanted).map (Backup.uploaded now upload.naming.key digest)
        else state.world.rows.get wanted := fun _ => World.get_markDone
  have split : ∀ {id key},
      Records (state.world.markDone upload.id now upload.naming.key digest) id key →
      (id = upload.id ∧ key = upload.naming.key ∧ state.world.rows.get upload.id ≠ none) ∨
        (id ≠ upload.id ∧ Records state.world id key) := by
    rintro id key ⟨row', found, done, recorded⟩
    rw [rows] at found
    split at found
    case isTrue same =>
      obtain ⟨row, held, rfl⟩ := Option.map_eq_some_iff.mp found
      refine .inl ⟨same, (Option.some.inj recorded).symm, ?_⟩
      rw [← same, held]
      exact Option.some_ne_none row
    case isFalse other => exact .inr ⟨other, row', found, done, recorded⟩
  have self : Function.update state.recordedAs upload.id (some upload.naming) upload.id =
      some upload.naming := Function.update_self _ _ _
  have others : ∀ {id}, id ≠ upload.id →
      Function.update state.recordedAs upload.id (some upload.naming) id = state.recordedAs id :=
    fun differ => Function.update_of_ne differ _ _
  constructor
  · intro id row' found
    rw [rows] at found
    split at found
    · obtain ⟨row, held, rfl⟩ := Option.map_eq_some_iff.mp found
      exact @Inv.flat _ _ _ inv id row held
    · exact inv.flat found
  · intro id key records
    rcases split records with ⟨rfl, rfl, -⟩ | ⟨differ, old⟩
    · exact ⟨upload.naming, self, rfl, inv.uploads here⟩
    · obtain ⟨naming, named, same, flat⟩ := inv.recorded old
      exact ⟨naming, (others differ).trans named, same, flat⟩
  · exact fun member => inv.uploads (rest member)
  · exact inv.deletions
  · intro id other key key' naming naming' records records' named named' differ
    rcases split records with ⟨rfl, -, -⟩ | ⟨apart, old⟩
    · rcases split records' with ⟨rfl, -, -⟩ | ⟨apart', old'⟩
      · exact absurd rfl differ
      · obtain rfl := Option.some.inj (self.symm.trans named)
        exact inv.doneUpload old' ((others apart').symm.trans named') here differ
    · have before := (others apart).symm.trans named
      rcases split records' with ⟨rfl, -, -⟩ | ⟨apart', old'⟩
      · obtain rfl := Option.some.inj (self.symm.trans named')
        exact fun clash => inv.doneUpload old before here (Ne.symm differ) clash.symm
      · exact inv.doneDone old old' before ((others apart').symm.trans named') differ
  · intro id key naming other records named member differ
    rcases split records with ⟨rfl, -, -⟩ | ⟨apart, old⟩
    · obtain rfl := Option.some.inj (self.symm.trans named)
      exact inv.uploadUpload (rest member) here differ
    · exact inv.doneUpload old ((others apart).symm.trans named) (rest member) differ
  · intro id key naming deleted records named member
    rcases split records with ⟨rfl, -, present⟩ | ⟨apart, old⟩
    · obtain rfl := Option.some.inj (self.symm.trans named)
      exact (inv.uploadDeleted here member).resolve_right present
    · exact inv.doneDeleted old ((others apart).symm.trans named) member
  · exact fun member member' => inv.uploadUpload (rest member) (rest member')
  · intro other deleted member member'
    refine (inv.uploadDeleted (rest member) member').imp_right fun gone => ?_
    rw [rows, gone]
    split <;> rfl

/-! ### Deletions -/

theorem records_of_mirrored {run : PruneRun} {row : Backup Digest} {world : World Bytes Digest}
    (member : row ∈ world.rows.rows) (goes : mirrored run row = true) :
    ∃ key, disposal run.cfg row = .drop (some key) ∧ Records world row.id key := by
  obtain ⟨-, remote⟩ := Bool.and_eq_true_iff.mp goes
  unfold disposal at remote
  dsimp only at remote
  split at remote
  case h_1 key done recorded =>
    split at remote
    · cases remote
    case isFalse mirrors =>
      split at remote
      case isTrue deletes =>
        refine ⟨key, ?_, row, Table.get_of_mem member, done,
          (Option.filter_eq_some_iff.mp recorded).1⟩
        simp only [disposal, done, recorded]
        rw [if_neg mirrors, if_pos deletes]
      case isFalse => cases remote
  · cases remote

/-- What a prune decides to delete is what the rows that it drops record, as in the source. -/
theorem prune_deletions (inv : Inv state) (run : PruneRun) {stale : List (Backup Digest)}
    (listed : ∀ row ∈ stale, row ∈ state.world.rows.rows) (world : World Bytes Digest) :
    ((stale.filter (mirrored run)).filterMap fun row => state.recordedAs row.id).map Naming.key =
      (pruneRows run world stale).2 := by
  induction stale generalizing world with
  | nil => rfl
  | cons row rows ih =>
    have tail := ih (fun other member => listed other (List.mem_cons_of_mem row member))
      (pruneRow run.cfg run.unlinkFails world row).1
    simp only [StoredBackups.pruneRows, ← tail]
    cases goes : mirrored run row with
    | true =>
      obtain ⟨key, dropped, records⟩ := records_of_mirrored (listed row List.mem_cons_self) goes
      obtain ⟨naming, named, same, -⟩ := inv.recorded records
      have unlinks := (Bool.and_eq_true_iff.mp goes).1
      have head : (pruneRow run.cfg run.unlinkFails world row).2 = some key := by
        unfold StoredBackups.pruneRow
        rw [if_neg (of_decide_eq_false ((Bool.not_eq_true' _).mp unlinks)), dropped]
        rfl
      rw [head, List.filter_cons_of_pos goes, List.filterMap_cons, named, List.map_cons, same]
      rfl
    | false =>
      have head : (pruneRow run.cfg run.unlinkFails world row).2 = none := by
        unfold StoredBackups.pruneRow
        split
        · rfl
        case isFalse unlinks =>
          have remote : (disposal run.cfg row).remoteKey.isSome = false := by
            simpa [mirrored, unlinks] using goes
          exact Option.isNone_iff_eq_none.mp (by simpa using remote)
      rw [head, List.filter_cons_of_neg (by simp [goes])]
      rfl

theorem stale_listed (world : World Bytes Digest) (run : PruneRun) :
    ∀ row ∈ staleRows world run, row ∈ world.rows.rows :=
  fun _ member => (List.mem_filter.mp member).1

theorem Inv.prune (inv : Inv state) (run : PruneRun) :
    Inv { state with
      world := (pruneRows run state.world (staleRows state.world run)).1
      deletions := state.deletions ++ ((staleRows state.world run).filter (mirrored run)).filterMap
        fun row => state.recordedAs row.id } := by
  refine inv.frame rfl (Kept.pruneRows run _ _) (fun _ member => member) fun naming member => ?_
  refine (List.mem_append.mp member).imp_right fun new => ?_
  obtain ⟨row, chosen, named⟩ := List.mem_filterMap.mp new
  obtain ⟨listed, goes⟩ := List.mem_filter.mp chosen
  obtain ⟨key, -, records⟩ := records_of_mirrored (stale_listed _ run row listed) goes
  exact ⟨row.id, key, records, named, pruneRows_mirrored _ listed goes⟩

theorem Inv.delete (inv : Inv state) {id : Nat} {row : Backup Digest} (path : String)
    (found : state.world.rows.get id = some row) :
    Inv { state with
      world := (state.world.unlink path).deleteRow id
      deletions := state.deletions ++ if hasReplica row then (state.recordedAs id).toList else [] } := by
  have kept : Kept state.world ((state.world.unlink path).deleteRow id) :=
    (Kept.of_rows rfl).trans (.deleteRow _ id)
  refine inv.frame rfl kept (fun _ member => member) fun naming member => ?_
  refine (List.mem_append.mp member).imp_right fun new => ?_
  split at new
  case isTrue replica =>
    obtain ⟨done, filled⟩ := Bool.and_eq_true_iff.mp replica
    obtain ⟨key, recorded⟩ := Option.isSome_iff_exists.mp filled
    refine ⟨id, key, ⟨row, found, of_decide_eq_true done, (Option.filter_eq_some_iff.mp recorded).1⟩,
      Option.mem_toList.mp new, ?_⟩
    exact Table.get_delete.trans (if_pos rfl)
  case isFalse => cases new

/-! ### Steps and runs -/

variable {codec : Codec Bytes Digest Salt} {cwd : String}

theorem Inv.step [DecidableEq Digest] (inv : Inv state) {op : Op Bytes Digest Salt}
    (allowed : Allowed state op) (taken : Step codec cwd state op next) : Inv next := by
  cases taken with
  | record files new => exact inv.record files new allowed
  | pending => exact inv.quiet (.pending _ _)
  | put cfg instanceName salt content found present read made =>
    exact inv.put (flat_of_prepared made cfg.basePath instanceName (inv.flat found)) allowed
  | mark now digest pending => exact inv.mark now digest pending
  | markFailed now text pending =>
    exact inv.frame rfl (.markFailed _ _ now text) (fun _ => mem_of_split pending)
      fun _ member => .inl member
  | attemptFails now text => exact inv.quiet (.markFailed _ _ now text)
  | attemptSkipped now => exact inv.quiet (.markSkipped _ _ now)
  | verifyFails problem => exact inv.quiet (.flagged _ _ problem)
  | prune => exact inv.prune _
  | delete found => exact inv.delete _ found
  | deleteInstance => exact inv.quiet (.deleteRows _ _)
  | deleteObject pending =>
    exact inv.frame rfl (.of_rows rfl) (fun _ member => member)
      fun _ member => .inl (mem_of_split pending member)
  | deleteObjectFails pending =>
    exact inv.frame rfl (.of_rows rfl) (fun _ member => member)
      fun _ member => .inl (mem_of_split pending member)
  | retrieve returned => exact inv.quiet (.retrieveReplica returned)
  | reencrypt salt faults => exact inv.quiet (.reencryptRow codec salt faults _ _)

/-- An upload whose names clash with those of another backup's object takes its place. -/
theorem clash_overwrites [DecidableEq Digest] (inv : Inv state) {id other : Nat} {key : String}
    {naming recorded : Naming} {content : Bytes} (records : Records state.world other key)
    (named : state.recordedAs other = some recorded) (clash : naming.Clash recorded)
    (taken : Step codec cwd state (.put id naming content : Op Bytes Digest Salt) next) :
    next.world.objects key = some content := by
  obtain ⟨recorded', named', rfl, flat⟩ := inv.recorded records
  obtain rfl : recorded = recorded' := Option.some.inj (named.symm.trans named')
  cases taken with
  | @put _ row raw payload suffix cfg instanceName salt _ found present read made =>
    have flat' := flat_of_prepared made cfg.basePath instanceName (inv.flat found)
    rw [← (key_eq_iff flat' flat).mpr clash, ← objectKey_eq]
    exact Function.update_self _ _ _

/-- `replicate_backup` to its end is an upload's object and then its mark. -/
theorem replicateBackup_steps [DecidableEq Digest] (instanceName : String) (now : Nat) (salt : Salt)
    {id : Nat} {row : Backup Digest} {raw payload : Bytes} {cfg : ReplicationConfig}
    {suffix : String} (found : state.world.rows.get id = some row) (present : row.localPresent = true)
    (read : state.world.files (openedPath cwd row.path) = some raw)
    (made : preparePayload codec salt raw row.encrypted row.compressed cfg = .ok (payload, suffix)) :
    ∃ middle next : State Bytes Digest,
      Step codec cwd state (.put id ⟨cfg.basePath, instanceName, row.filename, suffix⟩ payload)
        middle ∧
      Step codec cwd middle (.mark ⟨id, ⟨cfg.basePath, instanceName, row.filename, suffix⟩⟩) next ∧
      replicateBackup codec cwd state.world id (some cfg) instanceName now salt .succeeds =
        (true, next.world) := by
  refine ⟨_, _, .put cfg instanceName salt payload found present read made,
    .mark now (codec.sha256 payload) (List.nil_append _).symm, ?_⟩
  rw [replicateBackup_eq, replicateWith_succeeds codec.sha256 cwd instanceName now found present read
    made, objectKey_eq]

/-- A deployment without backups. -/
def Fresh (state : State Bytes Digest) : Prop :=
  state.world.rows.rows = [] ∧ state.uploads = [] ∧ state.deletions = []

def plainTarget : ReplicationConfig where
  basePath := "fleet"
  encryptPlaintext := false
  doubleEncrypt := false
  replicationPassword := none
  mirrorDeletes := false

/-- The row of an uncompressed, unencrypted backup. -/
def daily (id : Nat) (filename path : String) : Backup Blob where
  id
  instanceId := 1
  startedAt := id
  filename
  path
  sizeBytes := 7
  compressed := false
  success := true
  encrypted := false
  encryptPassword := none

/-- A backup has written its file and its row. -/
def backedUp (state : State Blob Blob) (row : Backup Blob) : State Blob Blob :=
  { state with world := { state.world with
      rows := state.world.rows.insert row
      files := Function.update state.world.files row.path (some (.xml "<?xml?>")) } }

def naming (row : Backup Blob) : Naming :=
  ⟨"fleet", "edge", row.filename, ".xml"⟩

def putOnly (state : State Blob Blob) (row : Backup Blob) : State Blob Blob :=
  { state with
    world := state.world.putObject (objectKey plainTarget "edge" row.filename ".xml") (.xml "<?xml?>")
    uploads := ⟨row.id, naming row⟩ :: state.uploads }

def uploaded (state : State Blob Blob) (row : Backup Blob) : State Blob Blob :=
  { putOnly state row with
    world := (putOnly state row).world.markDone row.id 0 (naming row).key (.xml "<?xml?>")
    recordedAs := Function.update state.recordedAs row.id (some (naming row))
    uploads := state.uploads }

/-- The first backup of an instance, uploaded. -/
def first : Backup Blob :=
  daily 1 "edge_2025-01-01.xml" "/backups/a/edge_2025-01-01.xml"

/-- The next day's backup. -/
def nextDay : Backup Blob :=
  daily 2 "edge_2025-01-02.xml" "/backups/a/edge_2025-01-02.xml"

/-- A second backup of the day, after the instance's subfolder was changed. -/
def moved : Backup Blob :=
  daily 2 "edge_2025-01-01.xml" "/backups/b/edge_2025-01-01.xml"

end PfsenseBackups.ReplicaKeys

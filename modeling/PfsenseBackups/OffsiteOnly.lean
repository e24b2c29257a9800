import PfsenseBackups.Payloads
import PfsenseBackups.ReplicaHealing

/-! Backups whose local file was pruned, over uploads, sweeps, verifications, retention and
retrievals that overlap in any way: a step is one read, one call of the target, one change of a file
or one commit. -/

namespace PfsenseBackups.OffsiteOnly
open Encodings Payloads PfsenseCrypto Runs Tables
open Replication hiding preparePayload undoPayload retrieveReplica
open ReplicaHealing (Listed attemptDue flag id_flag)
open StoredBackups (PruneRun staleRows)

variable {Digest : Type}

/-! ### Shared state and tasks -/

/-- What an attempt uploads: the row as it was read, the file, and what was made of it. -/
structure Upload (Digest : Type) where
  row : Backup Digest
  raw : Bytes
  payload : Bytes

/-- The upload is one of this backup. -/
structure Upload.Of (upload : Upload Digest) (row : Backup Digest) : Prop where
  id : upload.row.id = row.id
  filename : upload.row.filename = row.filename
  encrypted : upload.row.encrypted = row.encrypted
  compressed : upload.row.compressed = row.compressed

/-- What the uploads have left; no operation reads it. -/
structure Log (Digest : Type) where
  /-- The upload that an object is left from, unless something else wrote or removed it since. -/
  source : String → Option (Upload Digest)
  /-- The key last recorded for a row. -/
  recorded : Nat → Option String

structure Shared (Digest : Type) where
  world : World Bytes Digest
  log : Log Digest

namespace Shared

variable (shared : Shared Digest)

def inWorld (world : World Bytes Digest) : Shared Digest :=
  { shared with world }

def put (key : String) (upload : Upload Digest) : Shared Digest where
  world := shared.world.putObject key upload.payload
  log := { shared.log with source := Function.update shared.log.source key (some upload) }

/-- The object under a key is removed, or written by something else than a whole upload. -/
def tamper (key : String) (content : Option Bytes) : Shared Digest where
  world := { shared.world with objects := Function.update shared.world.objects key content }
  log := { shared.log with source := Function.update shared.log.source key none }

/-- `_mark("done", …)` -/
def mark (sha256 : Bytes → Digest) (now : Nat) (key : String) (upload : Upload Digest) :
    Shared Digest where
  world := shared.world.markDone upload.row.id now key (sha256 upload.payload)
  log := { shared.log with
    recorded := Function.update shared.log.recorded upload.row.id (some key) }

/-- A fresh backup: its file and its row. -/
def record (path : String) (content : Bytes) (row : Backup Digest) : Shared Digest where
  world := { shared.world.writeFile path content with rows := shared.world.rows.insert row }
  log := { shared.log with recorded := Function.update shared.log.recorded row.id none }

end Shared

/-- The rows that a sweep has still to try. -/
structure Sweep (Digest : Type) where
  now : Nat
  rows : List (Backup Digest)

/-- An operation between two of its steps; an attempt of a sweep carries the rest of that. -/
inductive Task (Digest : Type) where
  | attempt (row : Backup Digest) (sweep : Option (Sweep Digest))
  | uploading (key : String) (upload : Upload Digest) (sweep : Option (Sweep Digest))
  | uploaded (key : String) (upload : Upload Digest) (sweep : Option (Sweep Digest))
  | marking (key : String) (upload : Upload Digest) (sweep : Option (Sweep Digest))
  | failing (id : Nat) (text : String) (sweep : Option (Sweep Digest))
  | skipping (id : Nat) (sweep : Option (Sweep Digest))
  | sweeping (sweep : Sweep Digest)
  | verifying (deep : Bool) (rows : List (Backup Digest))
  | comparing (row : Backup Digest) (rows : List (Backup Digest))
  | flagging (id : Nat) (problem : String) (deep : Bool) (rows : List (Backup Digest))
  | pruning (run : PruneRun) (rows : List (Backup Digest)) (disposed : List (Nat × Disposal))
  | deleting (keys : List String)
  | downloading (row : Backup Digest) (key : String)
  | restoring (row : Backup Digest) (content : Bytes)
  | restored (id size : Nat)

structure State (Digest : Type) where
  shared : Shared Digest
  tasks : List (Task Digest)

/-- What a step writes, where that may lose a backup. -/
inductive Op (Digest : Type) where
  | put (key : String) (upload : Upload Digest)
  | mark (key : String) (upload : Upload Digest)
  /-- The row is set to failed or skipped. -/
  | unmark (id : Nat)
  | commit (disposed : List (Nat × Disposal))
  | other

/-- What is left to do when an attempt has ended. -/
def resume (sweep : Option (Sweep Digest)) : List (Task Digest) :=
  sweep.toList.map .sweeping

def disposeAll (world : World Bytes Digest) (disposed : List (Nat × Disposal)) :
    World Bytes Digest :=
  disposed.foldl (fun world item => world.dispose item.1 item.2) world

/-! ### Steps -/

section

variable (prims : Primitives) (gz : Gzip) (sha256 : Bytes → Digest) (cwd : String)
  (cfg : ReplicationConfig)

/-- An operation begins, with what it reads first. -/
inductive Spawn (shared : Shared Digest) : Task Digest → Prop
  | attempt {id row} (found : shared.world.rows.get id = some row) :
    Spawn shared (.attempt row none)
  | sweep (now : Nat) : Spawn shared (.sweeping ⟨now, shared.world.rows.rows.filter Listed⟩)
  | verify (deep : Bool) (instanceId : Option Nat) :
    Spawn shared (.verifying deep (shared.world.rows.rows.filter fun row =>
      row.replicaStatus = some .done && instanceId.all (· = row.instanceId)))
  | cleanup (run : PruneRun) : Spawn shared (.pruning run (staleRows shared.world run) [])
  | retrieve {id row key} (found : shared.world.rows.get id = some row)
      (away : row.localPresent = false) (done : row.replicaStatus = some .done)
      (recorded : truthy row.replicaKey = some key) : Spawn shared (.downloading row key)

/-- `replicate_backup`, from the row that it has read. -/
inductive Attempting (shared : Shared Digest) :
    Task Digest → Op Digest → Shared Digest → List (Task Digest) → Prop
  | pruned {row sweep} (away : row.localPresent = false) :
    Attempting shared (.attempt row sweep) .other shared
      [.failing row.id "local file already pruned" sweep]
  | missing {row sweep} (present : row.localPresent = true)
      (absent : shared.world.files (openedPath cwd row.path) = none) :
    Attempting shared (.attempt row sweep) .other shared [.skipping row.id sweep]
  | unread {row sweep} (text : String) (present : row.localPresent = true) :
    Attempting shared (.attempt row sweep) .other shared [.failing row.id text sweep]
  | unprepared {row sweep raw salt text} (present : row.localPresent = true)
      (read : shared.world.files (openedPath cwd row.path) = some raw)
      (raised : preparePayload prims gz salt raw row.encrypted row.compressed cfg =
        .error text) :
    Attempting shared (.attempt row sweep) .other shared [.failing row.id text sweep]
  | prepared {row sweep raw salt payload suffix} (instanceName : String)
      (present : row.localPresent = true)
      (read : shared.world.files (openedPath cwd row.path) = some raw)
      (made : preparePayload prims gz salt raw row.encrypted row.compressed cfg =
        .ok (payload, suffix)) :
    Attempting shared (.attempt row sweep) .other shared
      [.uploading (objectKey cfg instanceName row.filename suffix) ⟨row, raw, payload⟩ sweep]
  | put {key upload sweep} :
    Attempting shared (.uploading key upload sweep) (.put key upload) (shared.put key upload)
      [.uploaded key upload sweep]
  | putRaises {key upload sweep} (text : String) :
    Attempting shared (.uploading key upload sweep) .other shared
      [.failing upload.row.id text sweep]
  | putBreaks {key upload sweep} (left : Bytes) (text : String) :
    Attempting shared (.uploading key upload sweep) .other (shared.tamper key (some left))
      [.failing upload.row.id text sweep]
  | checked {key upload sweep}
      (size : (shared.world.objects key).map List.length = some upload.payload.length) :
    Attempting shared (.uploaded key upload sweep) .other shared [.marking key upload sweep]
  | unchecked {key upload sweep} (text : String) :
    Attempting shared (.uploaded key upload sweep) .other shared
      [.failing upload.row.id text sweep]
  | mark {key upload sweep} (now : Nat) :
    Attempting shared (.marking key upload sweep) (.mark key upload)
      (shared.mark sha256 now key upload) (resume sweep)
  | fail {id text sweep} (now : Nat) :
    Attempting shared (.failing id text sweep) (.unmark id)
      (shared.inWorld (shared.world.markFailed id now text)) (resume sweep)
  | skip {id sweep} (now : Nat) :
    Attempting shared (.skipping id sweep) (.unmark id)
      (shared.inWorld (shared.world.markSkipped id now)) (resume sweep)

/-- `sweep_pending` and `verify_replicas`, from the rows that they have listed. -/
inductive Passing (shared : Shared Digest) :
    Task Digest → Op Digest → Shared Digest → List (Task Digest) → Prop
  | due {now listed rows row} (due : attemptDue listed.replicaAttempts listed.replicaAt now = true)
      (found : shared.world.rows.get listed.id = some row) :
    Passing shared (.sweeping ⟨now, listed :: rows⟩) .other shared
      [.attempt row (some ⟨now, rows⟩)]
  | notDue {now listed rows}
      (passed : attemptDue listed.replicaAttempts listed.replicaAt now = false ∨
        shared.world.rows.get listed.id = none) :
    Passing shared (.sweeping ⟨now, listed :: rows⟩) .other shared [.sweeping ⟨now, rows⟩]
  | present {deep row rows} (there : (row.replicaKey.bind shared.world.objects).isSome = true)
      (shallow : (deep && row.replicaSha256.isSome) = false) :
    Passing shared (.verifying deep (row :: rows)) .other shared [.verifying deep rows]
  | compare {deep row rows} (there : (row.replicaKey.bind shared.world.objects).isSome = true)
      (further : (deep && row.replicaSha256.isSome) = true) :
    Passing shared (.verifying deep (row :: rows)) .other shared [.comparing row rows]
  | absent {deep row rows} (gone : row.replicaKey.bind shared.world.objects = none) :
    Passing shared (.verifying deep (row :: rows)) .other shared
      [.flagging row.id "remote object missing" deep rows]
  | headRaises {deep row rows} (text : String) :
    Passing shared (.verifying deep (row :: rows)) .other shared
      [.flagging row.id ("verify error: " ++ text) deep rows]
  | same {row rows blob} (stored : row.replicaKey.bind shared.world.objects = some blob)
      (digest : row.replicaSha256 = some (sha256 blob)) :
    Passing shared (.comparing row rows) .other shared [.verifying true rows]
  | corrupt {row rows blob} (stored : row.replicaKey.bind shared.world.objects = some blob)
      (digest : row.replicaSha256 ≠ some (sha256 blob)) :
    Passing shared (.comparing row rows) .other shared
      [.flagging row.id "remote object corrupt (sha256 mismatch)" true rows]
  | downloadRaises {row rows} (text : String) :
    Passing shared (.comparing row rows) .other shared
      [.flagging row.id ("verify error: " ++ text) true rows]
  | flag {id problem deep rows} :
    Passing shared (.flagging id problem deep rows) (.unmark id)
      (shared.inWorld (shared.world.update id (flag problem) (id_flag problem)))
      [.verifying deep rows]

/-- `_cleanup_old_backups` and `retrieve_replica`, from the rows that they have read. -/
inductive Moving [DecidableEq Digest] (shared : Shared Digest) :
    Task Digest → Op Digest → Shared Digest → List (Task Digest) → Prop
  | unlink {run row rows disposed} (unlinks : ¬(row.path ≠ "" ∧ run.unlinkFails row.id = true)) :
    Moving shared (.pruning run (row :: rows) disposed) .other
      (shared.inWorld (shared.world.unlinkStale row))
      [.pruning run rows (disposed ++ [(row.id, disposal run.cfg row)])]
  | unlinkRaises {run row rows disposed} (raises : row.path ≠ "" ∧ run.unlinkFails row.id = true) :
    Moving shared (.pruning run (row :: rows) disposed) .other shared
      [.pruning run rows disposed]
  | commit {run disposed} :
    Moving shared (.pruning run [] disposed) (.commit disposed)
      (shared.inWorld (disposeAll shared.world disposed))
      [.deleting (disposed.filterMap fun item => item.2.remoteKey)]
  | delete {key keys} :
    Moving shared (.deleting (key :: keys)) .other (shared.tamper key none) [.deleting keys]
  | deleteRaises {key keys} :
    Moving shared (.deleting (key :: keys)) .other shared [.deleting keys]
  | download {row key payload mtime content} (stored : shared.world.objects key = some payload)
      (digest : row.replicaSha256.any (· ≠ sha256 payload) = false)
      (undone : undoPayload prims gz mtime payload key row.encrypted row.compressed cfg =
        .ok content) :
    Moving shared (.downloading row key) .other shared [.restoring row content]
  | restore {row content} :
    Moving shared (.restoring row content) .other
      (shared.inWorld (shared.world.writeFile (openedPath cwd row.path) content))
      [.restored row.id content.length]
  | retrieved {id size} :
    Moving shared (.restored id size) .other
      (shared.inWorld (shared.world.update id (Backup.retrieved size))) []

/-- One step of a task, and what is left of it. -/
inductive Advance [DecidableEq Digest] (shared : Shared Digest) (task : Task Digest)
    (op : Op Digest) (shared' : Shared Digest) (rest : List (Task Digest)) : Prop
  | attempting (turn : Attempting prims gz sha256 cwd cfg shared task op shared' rest)
  | passing (turn : Passing sha256 shared task op shared' rest)
  | moving (turn : Moving prims gz sha256 cwd cfg shared task op shared' rest)
  /-- The operation raises, or the process ends. -/
  | stop (quiet : op = .other) (same : shared' = shared) (ends : rest = [])

inductive Step [DecidableEq Digest] : State Digest → Op Digest → State Digest → Prop
  | spawn {shared tasks task} (begins : Spawn shared task) :
    Step ⟨shared, tasks⟩ .other ⟨shared, task :: tasks⟩
  | advance {shared front task back op shared' rest}
      (turn : Advance prims gz sha256 cwd cfg shared task op shared' rest) :
    Step ⟨shared, front ++ task :: back⟩ op ⟨shared', front ++ rest ++ back⟩
  | record {shared tasks row} (content : Bytes)
      (fresh : shared.world.rows.get row.id = none) (present : row.localPresent = true)
      (unreplicated : row.replicaStatus = none ∧ row.replicaKey = none) :
    Step ⟨shared, tasks⟩ .other
      ⟨shared.record (openedPath cwd row.path) content row, tasks⟩
  | pending {shared tasks id row} (found : shared.world.rows.get id = some row)
      (unreplicated : row.replicaStatus = none) :
    Step ⟨shared, tasks⟩ .other
      ⟨shared.inWorld (shared.world.update id Backup.pending), tasks⟩
  | tamper {shared tasks} (key : String) (content : Option Bytes) :
    Step ⟨shared, tasks⟩ .other ⟨shared.tamper key content, tasks⟩

/-! ### What is promised -/

/-- `retrieve_replica`, with a target that answers. -/
def retrieveReplica [DecidableEq Digest] (mtime : Nat) (world : World Bytes Digest) (id : Nat) :
    Except String (World Bytes Digest) :=
  match world.rows.get id with
  | none => .error "backup not found"
  | some row =>
    if row.localPresent then .ok world
    else
      match row.replicaStatus, truthy row.replicaKey with
      | some .done, some key =>
        match world.objects key with
        | none => .error "no such object" -- The target's own exception.
        | some payload =>
          if row.replicaSha256.any (· ≠ sha256 payload) then
            .error "downloaded object failed sha256 verification"
          else do
            let content ← undoPayload prims gz mtime payload key row.encrypted row.compressed cfg
            return (world.writeFile (openedPath cwd row.path) content).update id
              (Backup.retrieved content.length)
      | _, _ => .error "no verified off-site copy recorded"

end

/-- The row's object is still what an upload of this backup left there. -/
structure Intact (log : Log Digest) (row : Backup Digest) (key : String)
    (upload : Upload Digest) : Prop where
  recorded : log.recorded row.id = some key
  source : log.source key = some upload
  own : upload.Of row

section

variable (prims : Primitives) (gz : Gzip) (sha256 : Bytes → Digest) (cwd : String)
  (cfg : ReplicationConfig)

/-- The row is done, with the digest of what was uploaded. -/
structure Done (upload : Upload Digest) (row : Backup Digest) : Prop where
  status : row.replicaStatus = some .done
  digest : row.replicaSha256 = some (sha256 upload.payload)

/-- While a row is only off-site, nothing is uploaded over its object but the same bytes, no upload
is recorded that another has replaced, and the row is not set to failed or skipped while its object
is intact. Retention leaves a row off-site only if it is still done with the digest of its object
then. What is uploaded comes back from its object. -/
def Allowed (state : State Digest) : Op Digest → Prop
  | .put key upload =>
    Recoverable gz upload.raw upload.row.filename upload.row.encrypted upload.row.compressed cfg ∧
      ∀ row, state.shared.world.rows.get upload.row.id = some row → row.localPresent = false →
        upload.Of row → state.shared.log.recorded row.id = some key → Done sha256 upload row
  | .mark key upload =>
    ∀ row, state.shared.world.rows.get upload.row.id = some row → row.localPresent = false →
      ∀ other, state.shared.log.source key = some other → other.Of row →
        sha256 upload.payload = sha256 other.payload
  | .unmark id =>
    ∀ row, state.shared.world.rows.get id = some row → row.localPresent = false →
      ∀ key upload, ¬Intact state.shared.log row key upload
  | .commit disposed =>
    ∀ item ∈ disposed, item.2 = .offsiteOnly → ∀ row,
      state.shared.world.rows.get item.1 = some row →
        ∀ key upload, Intact state.shared.log row key upload → Done sha256 upload row
  | .other => True

/-! ### The invariant -/

/-- The object under a key is what the configuration makes of the file. -/
def Prepared (key : String) (upload : Upload Digest) : Prop :=
  ∃ instanceName salt suffix,
    preparePayload prims gz salt upload.raw upload.row.encrypted upload.row.compressed cfg =
      .ok (upload.payload, suffix) ∧
    key = objectKey cfg instanceName upload.row.filename suffix

/-- What is known of a row: its key, and that it is done while it is only off-site. -/
structure RowSound (log : Log Digest) (row : Backup Digest) : Prop where
  key : ∀ key, log.recorded row.id = some key → row.replicaKey = some key
  done : row.localPresent = false → ∀ key upload, Intact log row key upload →
    Done sha256 upload row

structure Sound (shared : Shared Digest) : Prop where
  objects : ∀ key upload, shared.log.source key = some upload →
    shared.world.objects key = some upload.payload
  made : ∀ key upload, shared.log.source key = some upload →
    Prepared prims gz cfg key upload ∧ Recoverable gz upload.raw upload.row.filename
      upload.row.encrypted upload.row.compressed cfg
  rows : ∀ id row, shared.world.rows.get id = some row → RowSound sha256 shared.log row

/-- What a task carries to the target. -/
def Fine : Task Digest → Prop
  | .uploading key upload _ | .uploaded key upload _ | .marking key upload _ =>
    Prepared prims gz cfg key upload
  | _ => True

end

section

variable {prims : Primitives} {gz : Gzip} {sha256 : Bytes → Digest} {cwd : String}
  {cfg : ReplicationConfig} {shared : Shared Digest} {log : Log Digest}
  {row : Backup Digest} {key : String} {upload : Upload Digest}

/-! ### Changes of one row -/

/-- The change leaves alone what an upload is made of, and the recorded key. -/
structure Keeps (change : Backup Digest → Backup Digest) : Prop where
  id : ∀ row, (change row).id = row.id
  filename : ∀ row, (change row).filename = row.filename
  encrypted : ∀ row, (change row).encrypted = row.encrypted
  compressed : ∀ row, (change row).compressed = row.compressed
  replicaKey : ∀ row, (change row).replicaKey = row.replicaKey

theorem Intact.before {change : Backup Digest → Backup Digest} (keeps : Keeps change)
    (intact : Intact log (change row) key upload) : Intact log row key upload where
  recorded := keeps.id row ▸ intact.recorded
  source := intact.source
  own :=
    { id := intact.own.id.trans (keeps.id row)
      filename := intact.own.filename.trans (keeps.filename row)
      encrypted := intact.own.encrypted.trans (keeps.encrypted row)
      compressed := intact.own.compressed.trans (keeps.compressed row) }

theorem RowSound.change {change : Backup Digest → Backup Digest} (keeps : Keeps change)
    (sound : RowSound sha256 log row)
    (done : (change row).localPresent = false → ∀ key upload, Intact log row key upload →
      Done sha256 upload (change row)) : RowSound sha256 log (change row) where
  key := fun key recorded => by
    rw [keeps.id] at recorded
    exact (keeps.replicaKey row).trans (sound.key key recorded)
  done := fun away key upload intact => done away key upload (intact.before keeps)

theorem Sound.update (sound : Sound prims gz sha256 cfg shared) {id : Nat}
    {change : Backup Digest → Backup Digest} (keeps : ∀ row, (change row).id = row.id)
    (safe : ∀ row, shared.world.rows.get id = some row →
      RowSound sha256 shared.log (change row)) :
    Sound prims gz sha256 cfg (shared.inWorld (shared.world.update id change keeps)) where
  objects := sound.objects
  made := sound.made
  rows := fun wanted row found => by
    have changed := (World.get_update change keeps).symm.trans found
    split at changed
    next same =>
      obtain ⟨before, there, rfl⟩ := Option.map_eq_some_iff.mp changed
      exact safe before (same ▸ there)
    · exact sound.rows wanted row changed

/-- A row may be set to failed or skipped as long as its file is there or its object is not. -/
theorem Sound.unmark (sound : Sound prims gz sha256 cfg shared) {id : Nat}
    {change : Backup Digest → Backup Digest} (keeps : Keeps change)
    (present : ∀ row, (change row).localPresent = row.localPresent)
    (allowed : ∀ row, shared.world.rows.get id = some row → row.localPresent = false →
      ∀ key upload, ¬Intact shared.log row key upload) :
    Sound prims gz sha256 cfg (shared.inWorld (shared.world.update id change keeps.id)) := by
  apply sound.update keeps.id
  intro row found
  apply (sound.rows id row found).change keeps
  intro away key upload intact
  exact absurd intact (allowed row found ((present row).symm.trans away) key upload)

theorem keeps_failed (now : Nat) (text : String) :
    Keeps (Backup.failed now text : Backup Digest → Backup Digest) :=
  ⟨fun _ => rfl, fun _ => rfl, fun _ => rfl, fun _ => rfl, fun _ => rfl⟩

theorem keeps_skipped (now : Nat) : Keeps (Backup.skipped now : Backup Digest → Backup Digest) :=
  ⟨fun _ => rfl, fun _ => rfl, fun _ => rfl, fun _ => rfl, fun _ => rfl⟩

theorem keeps_flag (problem : String) : Keeps (flag problem : Backup Digest → Backup Digest) :=
  ⟨fun _ => rfl, fun _ => rfl, fun _ => rfl, fun _ => rfl, fun _ => rfl⟩

theorem keeps_pending : Keeps (Backup.pending : Backup Digest → Backup Digest) :=
  ⟨fun _ => rfl, fun _ => rfl, fun _ => rfl, fun _ => rfl, fun _ => rfl⟩

theorem keeps_pruned : Keeps (Backup.pruned : Backup Digest → Backup Digest) :=
  ⟨fun _ => rfl, fun _ => rfl, fun _ => rfl, fun _ => rfl, fun _ => rfl⟩

theorem keeps_retrieved (size : Nat) :
    Keeps (Backup.retrieved size : Backup Digest → Backup Digest) :=
  ⟨fun _ => rfl, fun _ => rfl, fun _ => rfl, fun _ => rfl, fun _ => rfl⟩

theorem Sound.pending (sound : Sound prims gz sha256 cfg shared) {id : Nat}
    (found : shared.world.rows.get id = some row) (unreplicated : row.replicaStatus = none) :
    Sound prims gz sha256 cfg (shared.inWorld (shared.world.update id Backup.pending)) := by
  apply sound.unmark keeps_pending fun _ => rfl
  intro row' found' away key upload intact
  obtain rfl := Option.some.inj (found.symm.trans found')
  have done := ((sound.rows id row found).done away key upload intact).status
  rw [unreplicated] at done
  cases done

theorem Sound.retrieved (sound : Sound prims gz sha256 cfg shared) (id size : Nat) :
    Sound prims gz sha256 cfg
      (shared.inWorld (shared.world.update id (Backup.retrieved size))) := by
  apply sound.update (keeps_retrieved size).id
  intro row found
  apply (sound.rows id row found).change (keeps_retrieved size)
  intro away
  cases away

/-! ### Retention -/

theorem Sound.delete (sound : Sound prims gz sha256 cfg shared) (id : Nat) :
    Sound prims gz sha256 cfg (shared.inWorld (shared.world.deleteRow id)) where
  objects := sound.objects
  made := sound.made
  rows := fun wanted row found => by
    have left := Table.get_delete.symm.trans found
    split at left
    · cases left
    · exact sound.rows wanted row left

/-- Retention may leave rows off-site only that are done with the digests of their objects. -/
theorem Sound.disposeAll (sound : Sound prims gz sha256 cfg shared)
    {disposed : List (Nat × Disposal)}
    (allowed : ∀ item ∈ disposed, item.2 = .offsiteOnly → ∀ row,
      shared.world.rows.get item.1 = some row →
        ∀ key upload, Intact shared.log row key upload → Done sha256 upload row) :
    Sound prims gz sha256 cfg
      (shared.inWorld (OffsiteOnly.disposeAll shared.world disposed)) := by
  induction disposed generalizing shared with
  | nil => exact sound
  | cons item rest ih =>
    obtain ⟨first, later⟩ := List.forall_mem_cons.mp allowed
    obtain ⟨id, disposal⟩ := item
    cases disposal with
    | drop key =>
      apply ih (sound.delete id)
      intro item mem offsite row found
      have left := Table.get_delete.symm.trans found
      split at left
      · cases left
      · exact later item mem offsite row left
    | offsiteOnly =>
      have pruned : Sound prims gz sha256 cfg
          (shared.inWorld (shared.world.update id Backup.pruned)) := by
        apply sound.update keeps_pruned.id
        intro row found
        apply (sound.rows id row found).change keeps_pruned
        intro _ key upload intact
        obtain ⟨status, digest⟩ := first rfl row found key upload intact
        exact ⟨status, digest⟩
      apply ih pruned
      intro item mem offsite row found key upload intact
      have left := World.get_pruned.symm.trans found
      split at left
      next same =>
        obtain ⟨before, there, rfl⟩ := Option.map_eq_some_iff.mp left
        obtain ⟨status, digest⟩ := later item mem offsite before there key upload
          (intact.before keeps_pruned)
        exact ⟨status, digest⟩
      · exact later item mem offsite row left key upload intact

/-! ### Objects -/

theorem update_eq_some {Value : Type} {found : String → Option Value} {key wanted : String}
    {new : Option Value} {value : Value}
    (there : Function.update found key new wanted = some value) :
    wanted = key ∧ new = some value ∨ wanted ≠ key ∧ found wanted = some value := by
  by_cases same : wanted = key
  · rw [same, Function.update_self] at there
    exact .inl ⟨same, there⟩
  · rw [Function.update_of_ne same] at there
    exact .inr ⟨same, there⟩

theorem Sound.put (sound : Sound prims gz sha256 cfg shared)
    (prepared : Prepared prims gz cfg key upload)
    (recoverable : Recoverable gz upload.raw upload.row.filename upload.row.encrypted
      upload.row.compressed cfg)
    (allowed : ∀ row, shared.world.rows.get upload.row.id = some row →
      row.localPresent = false → upload.Of row → shared.log.recorded row.id = some key →
        Done sha256 upload row) :
    Sound prims gz sha256 cfg (shared.put key upload) where
  objects := fun wanted other source => by
    show Function.update shared.world.objects key (some upload.payload) wanted = _
    rcases update_eq_some source with ⟨rfl, same⟩ | ⟨apart, before⟩
    · rw [Function.update_self, Option.some.inj same]
    · rw [Function.update_of_ne apart]
      exact sound.objects wanted other before
  made := fun wanted other source => by
    rcases update_eq_some source with ⟨rfl, same⟩ | ⟨_, before⟩
    · rw [← Option.some.inj same]
      exact ⟨prepared, recoverable⟩
    · exact sound.made wanted other before
  rows := fun id row found => by
    have before := sound.rows id row found
    refine ⟨before.key, ?_⟩
    intro away wanted other intact
    rcases update_eq_some intact.source with ⟨rfl, same⟩ | ⟨_, source⟩
    · obtain rfl := Option.some.inj same
      have own : id = upload.row.id := (Table.id_of_get found).symm.trans intact.own.id.symm
      exact allowed row (own ▸ found) away intact.own intact.recorded
    · exact before.done away wanted other ⟨intact.recorded, source, intact.own⟩

theorem Sound.tamper (sound : Sound prims gz sha256 cfg shared) (key : String)
    (content : Option Bytes) : Sound prims gz sha256 cfg (shared.tamper key content) where
  objects := fun wanted other source => by
    show Function.update shared.world.objects key content wanted = _
    rcases update_eq_some source with ⟨_, gone⟩ | ⟨apart, before⟩
    · cases gone
    · rw [Function.update_of_ne apart]
      exact sound.objects wanted other before
  made := fun wanted other source => by
    rcases update_eq_some source with ⟨_, gone⟩ | ⟨_, before⟩
    · cases gone
    · exact sound.made wanted other before
  rows := fun id row found => by
    have before := sound.rows id row found
    refine ⟨before.key, ?_⟩
    intro away wanted other intact
    rcases update_eq_some intact.source with ⟨_, gone⟩ | ⟨_, source⟩
    · cases gone
    · exact before.done away wanted other ⟨intact.recorded, source, intact.own⟩

theorem RowSound.other {recorded : Nat → Option String} (sound : RowSound sha256 log row)
    (same : recorded row.id = log.recorded row.id) :
    RowSound sha256 { log with recorded } row where
  key := fun key there => sound.key key (same ▸ there)
  done := fun away key upload intact =>
    sound.done away key upload ⟨same ▸ intact.recorded, intact.source, intact.own⟩

theorem Sound.mark (sound : Sound prims gz sha256 cfg shared) (now : Nat)
    (allowed : ∀ row, shared.world.rows.get upload.row.id = some row →
      row.localPresent = false → ∀ other, shared.log.source key = some other → other.Of row →
        sha256 upload.payload = sha256 other.payload) :
    Sound prims gz sha256 cfg (shared.mark sha256 now key upload) where
  objects := sound.objects
  made := sound.made
  rows := fun id row found => by
    have marked := World.get_markDone.symm.trans found
    split at marked
    next same =>
      subst same
      obtain ⟨before, there, rfl⟩ := Option.map_eq_some_iff.mp marked
      have own : before.id = upload.row.id := Table.id_of_get there
      have recorded : Function.update shared.log.recorded upload.row.id (some key) before.id =
          some key := own ▸ Function.update_self _ _ _
      apply RowSound.mk
      · intro wanted there
        exact recorded.symm.trans there
      · intro away wanted other intact
        obtain rfl := Option.some.inj (recorded.symm.trans intact.recorded)
        have of : other.Of before :=
          ⟨intact.own.id, intact.own.filename, intact.own.encrypted, intact.own.compressed⟩
        exact ⟨rfl, congrArg some (allowed before there away other intact.source of)⟩
    next apart =>
      have own : row.id = id := Table.id_of_get marked
      exact (sound.rows id row marked).other
        (Function.update_of_ne (fun same => apart (own ▸ same)) _ _)

theorem Sound.record (sound : Sound prims gz sha256 cfg shared) (path : String) (content : Bytes)
    (fresh : shared.world.rows.get row.id = none) (present : row.localPresent = true) :
    Sound prims gz sha256 cfg (shared.record path content row) where
  objects := sound.objects
  made := sound.made
  rows := fun id other found => by
    have inserted := (Table.get_insert fresh).symm.trans found
    split at inserted
    · obtain rfl := Option.some.inj inserted
      apply RowSound.mk
      · intro key there
        have none : Function.update shared.log.recorded row.id none row.id = none :=
          Function.update_self _ _ _
        cases none.symm.trans there
      · intro away
        rw [present] at away
        cases away
    next apart =>
      have own : other.id = id := Table.id_of_get inserted
      exact (sound.rows id other inserted).other
        (Function.update_of_ne (fun same => apart (own ▸ same)) _ _)

theorem Sound.files (sound : Sound prims gz sha256 cfg shared) {world : World Bytes Digest}
    (rows : world.rows = shared.world.rows) (objects : world.objects = shared.world.objects) :
    Sound prims gz sha256 cfg (shared.inWorld world) where
  objects := fun key upload source => (congrFun objects key).trans (sound.objects key upload source)
  made := sound.made
  rows := fun id row found => sound.rows id row (rows ▸ found)

theorem Sound.unlinkStale (sound : Sound prims gz sha256 cfg shared) (row : Backup Digest) :
    Sound prims gz sha256 cfg (shared.inWorld (shared.world.unlinkStale row)) := by
  unfold World.unlinkStale
  split
  · exact sound.files rfl rfl
  · exact sound

/-! ### Steps and runs -/

theorem fine_resume (sweep : Option (Sweep Digest)) :
    ∀ task ∈ resume sweep, Fine prims gz cfg task := by
  intro task mem
  obtain ⟨rest, -, rfl⟩ := List.mem_map.mp mem
  trivial

theorem Attempting.sound {task : Task Digest} {op : Op Digest} {shared' : Shared Digest}
    {rest tasks : List (Task Digest)} (sound : Sound prims gz sha256 cfg shared)
    (fine : Fine prims gz cfg task) (allowed : Allowed gz sha256 cfg ⟨shared, tasks⟩ op)
    (turn : Attempting prims gz sha256 cwd cfg shared task op shared' rest) :
    Sound prims gz sha256 cfg shared' ∧ ∀ task ∈ rest, Fine prims gz cfg task := by
  cases turn with
  | prepared instanceName present read made =>
    exact ⟨sound, List.forall_mem_singleton.mpr ⟨instanceName, _, _, made, rfl⟩⟩
  | put => exact ⟨sound.put fine allowed.1 allowed.2, List.forall_mem_singleton.mpr fine⟩
  | putBreaks left text => exact ⟨sound.tamper _ _, List.forall_mem_singleton.mpr trivial⟩
  | checked size => exact ⟨sound, List.forall_mem_singleton.mpr fine⟩
  | mark now => exact ⟨sound.mark now allowed, fine_resume _⟩
  | fail now =>
    exact ⟨sound.unmark (keeps_failed now _) (fun _ => rfl) allowed, fine_resume _⟩
  | skip now =>
    exact ⟨sound.unmark (keeps_skipped now) (fun _ => rfl) allowed, fine_resume _⟩
  | _ => exact ⟨sound, List.forall_mem_singleton.mpr trivial⟩

theorem Passing.sound {task : Task Digest} {op : Op Digest} {shared' : Shared Digest}
    {rest tasks : List (Task Digest)} (sound : Sound prims gz sha256 cfg shared)
    (allowed : Allowed gz sha256 cfg ⟨shared, tasks⟩ op)
    (turn : Passing sha256 shared task op shared' rest) :
    Sound prims gz sha256 cfg shared' ∧ ∀ task ∈ rest, Fine prims gz cfg task := by
  cases turn with
  | flag =>
    exact ⟨sound.unmark (keeps_flag _) (fun _ => rfl) allowed,
      List.forall_mem_singleton.mpr trivial⟩
  | _ => exact ⟨sound, List.forall_mem_singleton.mpr trivial⟩

theorem Moving.sound [DecidableEq Digest] {task : Task Digest} {op : Op Digest}
    {shared' : Shared Digest} {rest tasks : List (Task Digest)}
    (sound : Sound prims gz sha256 cfg shared)
    (allowed : Allowed gz sha256 cfg ⟨shared, tasks⟩ op)
    (turn : Moving prims gz sha256 cwd cfg shared task op shared' rest) :
    Sound prims gz sha256 cfg shared' ∧ ∀ task ∈ rest, Fine prims gz cfg task := by
  cases turn with
  | unlink unlinks => exact ⟨sound.unlinkStale _, List.forall_mem_singleton.mpr trivial⟩
  | commit => exact ⟨sound.disposeAll allowed, List.forall_mem_singleton.mpr trivial⟩
  | delete => exact ⟨sound.tamper _ _, List.forall_mem_singleton.mpr trivial⟩
  | restore => exact ⟨sound.files rfl rfl, List.forall_mem_singleton.mpr trivial⟩
  | retrieved => exact ⟨sound.retrieved _ _, List.forall_mem_nil _⟩
  | _ => exact ⟨sound, List.forall_mem_singleton.mpr trivial⟩

/-- What holds of every state of a run: the shared state is sound, and so is what tasks carry. -/
structure Inv (prims : Primitives) (gz : Gzip) (sha256 : Bytes → Digest) (cfg : ReplicationConfig)
    (state : State Digest) : Prop where
  sound : Sound prims gz sha256 cfg state.shared
  fine : ∀ task ∈ state.tasks, Fine prims gz cfg task

theorem Advance.inv [DecidableEq Digest] {task : Task Digest} {op : Op Digest}
    {shared' : Shared Digest} {rest front back : List (Task Digest)}
    (inv : Inv prims gz sha256 cfg ⟨shared, front ++ task :: back⟩)
    (allowed : Allowed gz sha256 cfg ⟨shared, front ++ task :: back⟩ op)
    (turn : Advance prims gz sha256 cwd cfg shared task op shared' rest) :
    Inv prims gz sha256 cfg ⟨shared', front ++ rest ++ back⟩ := by
  have own : Fine prims gz cfg task := inv.fine task (by simp)
  have after : Sound prims gz sha256 cfg shared' ∧ ∀ task ∈ rest, Fine prims gz cfg task := by
    cases turn with
    | attempting turn => exact turn.sound inv.sound own allowed
    | passing turn => exact turn.sound inv.sound allowed
    | moving turn => exact turn.sound inv.sound allowed
    | stop quiet same ends =>
      rw [same, ends]
      exact ⟨inv.sound, List.forall_mem_nil _⟩
  apply Inv.mk after.1
  intro other mem
  rcases List.mem_append.mp mem with early | late
  · rcases List.mem_append.mp early with early | new
    · exact inv.fine other (List.mem_append_left _ early)
    · exact after.2 other new
  · exact inv.fine other (List.mem_append_right _ (List.mem_cons_of_mem _ late))

theorem Spawn.fine {task : Task Digest} (begins : Spawn shared task) :
    Fine prims gz cfg task := by
  cases begins <;> trivial

theorem Step.inv [DecidableEq Digest] {state after : State Digest} {op : Op Digest}
    (inv : Inv prims gz sha256 cfg state) (allowed : Allowed gz sha256 cfg state op)
    (taken : Step prims gz sha256 cwd cfg state op after) : Inv prims gz sha256 cfg after := by
  cases taken with
  | spawn begins => exact ⟨inv.sound, List.forall_mem_cons.mpr ⟨begins.fine, inv.fine⟩⟩
  | advance turn => exact turn.inv inv allowed
  | record content fresh present unreplicated =>
    exact ⟨inv.sound.record _ content fresh present, inv.fine⟩
  | pending found unreplicated => exact ⟨inv.sound.pending found unreplicated, inv.fine⟩
  | tamper key content => exact ⟨inv.sound.tamper key content, inv.fine⟩

/-- No backup is there yet; the files and the objects may be anything. -/
def start (files objects : String → Option Bytes) : State Digest where
  shared :=
    { world := ⟨.empty, files, objects, fun _ => none⟩
      log := ⟨fun _ => none, fun _ => none⟩ }
  tasks := []

end

/-! ### A verification that meets an outage -/

/-- Digests that are the bytes themselves. -/
def plainDigest (bytes : Bytes) : Bytes :=
  bytes

def edgeRow : Backup Bytes where
  id := 1
  instanceId := 1
  startedAt := 0
  filename := "edge-20250101.xml"
  path := "/data/edge-20250101.xml"
  sizeBytes := wrappedConfig.length
  compressed := false
  success := true
  encrypted := true
  encryptPassword := some "secret"

def edgeKey : String :=
  objectKey singleLayer "edge" "edge-20250101.xml" ".xml.enc"

def edgeUpload : Upload Bytes :=
  ⟨edgeRow, wrappedConfig, wrappedConfig⟩

/-- Retention that keeps nothing, with replication enabled. -/
def pruneAll : PruneRun where
  instanceId := 1
  keep := []
  cfg := some singleLayer
  unlinkFails _ := false
  deleteFails _ := false

def blank : State Bytes :=
  start (fun _ => none) fun _ => none

/-- The backup with its row; its object, too; and with that marked. -/
def fresh : Shared Bytes :=
  blank.shared.record "/data/edge-20250101.xml" wrappedConfig edgeRow

def uploaded : Shared Bytes :=
  fresh.put edgeKey edgeUpload

def replicated : Shared Bytes :=
  uploaded.mark plainDigest 0 edgeKey edgeUpload

def doneRow : Backup Bytes :=
  edgeRow.uploaded 0 edgeKey wrappedConfig

/-- The file is pruned, and then the row only off-site. -/
def unlinked : Shared Bytes :=
  replicated.inWorld (replicated.world.unlinkStale doneRow)

def offsite : Shared Bytes :=
  unlinked.inWorld (disposeAll unlinked.world [(1, .offsiteOnly)])

/-- A verification listed the row, and the target did not answer. -/
def flagged : Shared Bytes :=
  offsite.inWorld (offsite.world.update 1 (flag "verify error: timed out") (id_flag _))

end PfsenseBackups.OffsiteOnly

import PfsenseBackups.Replication
import PfsenseBackups.Runs

/-! Backup files against the passwords stored for them, over backups, uploads, re-encryptions,
retention and retrievals in any order, each run to completion. -/

namespace PfsenseBackups.StoredBackups
open Replication Runs Tables

variable {Bytes Digest Salt : Type} (codec : Codec Bytes Digest Salt)

/-! ### Retention -/

/-- A prune of a stale row, and the key of an object to delete as well. -/
def pruneRow (cfg : Option ReplicationConfig) (unlinkFails : Nat → Bool)
    (world : World Bytes Digest) (row : Backup Digest) : World Bytes Digest × Option String :=
  if row.path ≠ "" ∧ unlinkFails row.id then (world, none)
  else
    ((world.unlinkStale row).dispose row.id (disposal cfg row), (disposal cfg row).remoteKey)

/-- `_cleanup_old_backups`, for the ids that the retention policy keeps. -/
structure PruneRun where
  instanceId : Nat
  keep : List Nat
  cfg : Option ReplicationConfig
  /-- The unlinks and the remote deletes that raise. -/
  unlinkFails : Nat → Bool
  deleteFails : String → Bool

def staleRows (world : World Bytes Digest) (run : PruneRun) : List (Backup Digest) :=
  world.rows.rows.filter fun row =>
    row.instanceId = run.instanceId && row.success && row.localPresent && row.id ∉ run.keep

def pruneRows (run : PruneRun) :
    World Bytes Digest → List (Backup Digest) → World Bytes Digest × List String
  | world, [] => (world, [])
  | world, row :: rows =>
    let pruned := pruneRow run.cfg run.unlinkFails world row
    let rest := pruneRows run pruned.1 rows
    (rest.1, pruned.2.toList ++ rest.2)

def cleanupOldBackups (world : World Bytes Digest) (run : PruneRun) : World Bytes Digest :=
  let pruned := pruneRows run world (staleRows world run)
  (pruned.2.filter fun key => !run.deleteFails key).foldl World.deleteObject pruned.1

/-! ### Backups -/

/-- One call of `backup_instance`: the settings it reads, what pfSense returns, and what happens
on the way. -/
structure BackupRun (Bytes Salt : Type) where
  instanceName : String
  backupEncrypt : Bool
  backupEncryptPassword : Option String
  compress : Bool
  replicate : Bool
  content : Bytes
  /-- The directory joined with the formatted file name. -/
  xmlPath : String
  startedAt : Nat
  prune : PruneRun
  replicaAt : Nat
  salt : Salt
  attempt : Attempt Bytes

structure SaveResult where
  path : String
  sizeBytes : Nat
  compressed : Bool
  contentEncrypted : Bool

def saveBackup (cwd : String) (world : World Bytes Digest) (run : BackupRun Bytes Salt) :
    World Bytes Digest × SaveResult :=
  let written := world.writeFile (openedPath cwd run.xmlPath) run.content
  if run.compress then
    let gzPath := run.xmlPath ++ ".gz"
    let gz := codec.gzip run.salt run.content
    ((written.writeFile (openedPath cwd gzPath) gz).unlink (openedPath cwd run.xmlPath),
      ⟨gzPath, codec.size gz, true, codec.looksEncrypted run.content⟩)
  else
    (written, ⟨run.xmlPath, codec.size run.content, false, codec.looksEncrypted run.content⟩)

/-- The row that `_write_backup_history` adds for a success. -/
def historyRow (id : Nat) (run : BackupRun Bytes Salt) (result : SaveResult) : Backup Digest :=
  let encrypted := run.backupEncrypt && result.contentEncrypted
  { id
    instanceId := run.prune.instanceId
    startedAt := run.startedAt
    filename := pathName result.path
    path := result.path
    sizeBytes := result.sizeBytes
    compressed := result.compressed
    success := true
    encrypted
    encryptPassword := if encrypted then truthy run.backupEncryptPassword else none }

/-- The row that it adds for a failure. -/
def failedRow (id instanceId startedAt : Nat) : Backup Digest where
  id
  instanceId
  startedAt
  filename := ""
  path := ""
  sizeBytes := 0
  compressed := false
  success := false
  encrypted := false
  encryptPassword := none

def writeBackupHistory (world : World Bytes Digest) (run : BackupRun Bytes Salt)
    (result : SaveResult) : World Bytes Digest :=
  { world with rows := world.rows.insert (historyRow world.rows.nextId run result) }

def writeFailedHistory (world : World Bytes Digest) (instanceId startedAt : Nat) :
    World Bytes Digest :=
  { world with rows := world.rows.insert (failedRow world.rows.nextId instanceId startedAt) }

def replicateNewBackup (cwd : String) (world : World Bytes Digest) (id : Nat)
    (run : BackupRun Bytes Salt) : World Bytes Digest :=
  match run.prune.cfg with
  | none => world
  | some cfg =>
    let pending := world.update id Backup.pending
    (replicateBackup codec cwd pending id (some cfg) run.instanceName run.replicaAt run.salt
      run.attempt).2

/-- `backup_instance` from its snapshot on; a missing password refuses the backup. -/
def backupInstance (cwd : String) (world : World Bytes Digest) (run : BackupRun Bytes Salt) :
    World Bytes Digest :=
  if run.backupEncrypt ∧ truthy run.backupEncryptPassword = none then world
  else
    let saved := saveBackup codec cwd world run
    let pruned := cleanupOldBackups saved.1 run.prune
    let listed := writeBackupHistory pruned run saved.2
    if run.replicate then replicateNewBackup codec cwd listed pruned.rows.nextId run else listed

/-! ### Re-encryption -/

structure ReencryptTask where
  backupId : Nat
  path : String
  compressed : Bool
  oldPassword : String
  newPassword : String

/-- The steps of a task that raise. -/
structure Faults where
  stage : Bool
  commit : Bool
  replace : Bool
  revert : Bool

/-- The tasks of `reencrypt_backups` for an instance, or of `reencrypt_all_backups`. -/
def reencryptTasks (world : World Bytes Digest) (instanceId : Option Nat) (newPassword : String) :
    List ReencryptTask :=
  (world.rows.rows.filter fun row => row.encrypted && instanceId.all (· = row.instanceId)).filterMap
    fun row => row.encryptPassword.map fun oldPassword =>
      ⟨row.id, row.path, row.compressed, oldPassword, newPassword⟩

/-- `_reencrypt_one_subprocess` up to its staging: the new content of the file. -/
def reencryptOne (world : World Bytes Digest) (task : ReencryptTask) (salt : Salt) :
    Except String Bytes := do
  let some raw := world.files (resolveBackupPath task.path) | throw "file missing on disk"
  let wrapped ← codec.unpack task.compressed raw
  let plaintext ← codec.decrypt task.oldPassword wrapped
  return codec.pack salt task.compressed (codec.encrypt task.newPassword salt plaintext)

/-- A task from its child process to the end of the loop body of `_reencrypt_rows`. -/
def reencryptRow (salt : Salt) (faults : Nat → Faults) (world : World Bytes Digest)
    (task : ReencryptTask) : World Bytes Digest :=
  let finalPath := resolveBackupPath task.path
  let newPath := finalPath ++ ".new"
  match reencryptOne codec world task salt with
  | .error _ => world
  | .ok content =>
    let unstaged := world.unlink newPath
    if (faults task.backupId).stage then unstaged
    else if (faults task.backupId).commit then unstaged
    else
      let oldSize := (world.rows.get task.backupId).map Backup.sizeBytes
      let committed := unstaged.update task.backupId
        (Backup.reencrypted task.newPassword (codec.size content))
      if (faults task.backupId).replace then
        if (faults task.backupId).revert then committed
        else committed.update task.backupId
          (Backup.reencrypted task.oldPassword (oldSize.getD 0))
      else committed.writeFile finalPath content

/-- `_reencrypt_rows`, with the tasks in the order in which their results come in. -/
def reencryptRows (salt : Salt) (faults : Nat → Faults) (world : World Bytes Digest)
    (completed : List ReencryptTask) : World Bytes Digest :=
  completed.foldl (reencryptRow codec salt faults) world

/-! ### Runs -/

inductive Op (Bytes Salt : Type) where
  | backup (run : BackupRun Bytes Salt)
  | backupFails (instanceId startedAt : Nat)
  | replicate (id : Nat) (cfg : Option ReplicationConfig) (instanceName : String) (now : Nat)
      (salt : Salt) (attempt : Attempt Bytes)
  | reencrypt (instanceId : Option Nat) (newPassword : String) (salt : Salt)
      (faults : Nat → Faults)
  | prune (run : PruneRun)
  | retrieve (id : Nat) (cfg : Option ReplicationConfig) (salt : Salt) (fault : Option String)

variable (cwd : String)

inductive Step [DecidableEq Digest] :
    World Bytes Digest → Op Bytes Salt → World Bytes Digest → Prop
  | backup {world run} : Step world (.backup run) (backupInstance codec cwd world run)
  | backupFails {world instanceId startedAt} :
    Step world (.backupFails instanceId startedAt) (writeFailedHistory world instanceId startedAt)
  | replicate {world id cfg instanceName now salt attempt} :
    Step world (.replicate id cfg instanceName now salt attempt)
      (replicateBackup codec cwd world id cfg instanceName now salt attempt).2
  | reencrypt {world instanceId newPassword salt faults} (completed : List ReencryptTask)
      (order : completed.Perm (reencryptTasks world instanceId newPassword)) :
    Step world (.reencrypt instanceId newPassword salt faults)
      (reencryptRows codec salt faults world completed)
  | prune {world run} : Step world (.prune run) (cleanupOldBackups world run)
  | retrieve {world id cfg salt fault after}
      (returned : retrieveReplica codec cwd world id cfg salt fault = .ok after) :
    Step world (.retrieve id cfg salt fault) after
  | retrieveRaises {world id cfg salt fault text}
      (raised : retrieveReplica codec cwd world id cfg salt fault = .error text) :
    Step world (.retrieve id cfg salt fault) world

/-- The file opens under a password, after gunzip where it is compressed. -/
def OpensUnder (password : String) (compressed : Bool) (file : Bytes) : Prop :=
  ∃ blob text, codec.unpack compressed file = .ok blob ∧ codec.decrypt password blob = .ok text

/-- A successful encrypted row with a local file can be opened with what the row holds. -/
def Sound (world : World Bytes Digest) (row : Backup Digest) : Prop :=
  row.success → row.localPresent → row.encrypted → ∃ file password,
    world.files (openedPath cwd row.path) = some file ∧ row.encryptPassword = some password ∧
    OpensUnder codec password row.compressed file ∧ row.sizeBytes = codec.size file

def AllSound (world : World Bytes Digest) : Prop :=
  ∀ id row, world.rows.get id = some row → Sound codec cwd world row

/-! ### Conditions on the operations -/

def savedPath (run : BackupRun Bytes Salt) : String :=
  if run.compress then run.xmlPath ++ ".gz" else run.xmlPath

/-- What each operation has to meet in the state that it starts from. -/
def Allowed (world : World Bytes Digest) : Op Bytes Salt → Prop
  | .backup run =>
    isAbsolute run.xmlPath ∧
    (∀ id row, world.rows.get id = some row → row.success →
      run.xmlPath ≠ row.path ∧ Apart (savedPath run) row.path) ∧
    (run.backupEncrypt → codec.looksEncrypted run.content → ∀ password,
      truthy run.backupEncryptPassword = some password →
        ∃ text, codec.decrypt password run.content = .ok text) ∧
    (run.replicate → ∀ cfg, run.prune.cfg = some cfg → run.backupEncrypt →
      Unambiguous cfg run.instanceName (pathName (savedPath run)))
  | .replicate id cfg instanceName _ _ _ =>
    ∀ settings row, cfg = some settings → world.rows.get id = some row → row.encrypted →
      Unambiguous settings instanceName row.filename
  | .reencrypt _ _ _ faults => ∀ id, (faults id).replace → ¬ (faults id).revert
  | .backupFails _ _ | .prune _ => True
  | .retrieve id _ _ _ =>
    ∀ row, world.rows.get id = some row → row.localPresent = false → row.encrypted →
      world.uploadedUnder id = row.encryptPassword

/-! ### What holds between the operations -/

/-- An object holds a wrapper that a password opens, under a second layer where its key says so. -/
def Carries (key : String) (payload : Bytes) (password : String) : Prop :=
  ∃ blob text, codec.decrypt password blob = .ok text ∧
    if endsWith key ".2x.xml.enc" then ∃ outer salt, payload = codec.encrypt outer salt blob
    else payload = blob

/-- The object recorded for a row holds a wrapper under the password of its upload. -/
def Recorded (uploadedUnder : Option String) (row : Backup Digest) : Prop :=
  row.success → row.encrypted → row.replicaStatus = some .done → ∃ key payload password,
    row.replicaKey = some key ∧ row.replicaSha256 = some (codec.sha256 payload) ∧
    uploadedUnder = some password ∧ Carries codec key payload password

/-- Backup files lie apart from each other. -/
structure Placed (rows : Table (Backup Digest) Backup.id) : Prop where
  absolute : ∀ {id row}, rows.get id = some row → row.success → isAbsolute row.path
  apart : ∀ {id other row row'}, rows.get id = some row → rows.get other = some row' →
    row.success → row'.success → id ≠ other → Apart row.path row'.path

structure Settled (world : World Bytes Digest) (id : Nat) (row : Backup Digest) : Prop where
  /-- Only a successful backup is pruned or re-encrypted. -/
  owned : row.localPresent = false ∨ row.encrypted = true → row.success
  sound : Sound codec cwd world row
  recorded : Recorded codec (world.uploadedUnder id) row

structure Consistent (world : World Bytes Digest) : Prop where
  placed : Placed world.rows
  settled : ∀ {id row}, world.rows.get id = some row → Settled codec cwd world id row

variable {codec} {cwd} {world after : World Bytes Digest}

theorem Placed.of_kept {rows rows' : Table (Backup Digest) Backup.id} (placed : Placed rows)
    (kept : ∀ id row', rows'.get id = some row' →
      ∃ row, rows.get id = some row ∧ row'.path = row.path ∧ row'.success = row.success) :
    Placed rows' := by
  constructor
  · intro id row' found success
    obtain ⟨row, before, path, same⟩ := kept id row' found
    exact path ▸ placed.absolute before (same ▸ success)
  · intro id other first second found found' success success' differ
    obtain ⟨row, before, path, same⟩ := kept id first found
    obtain ⟨row', before', path', same'⟩ := kept other second found'
    rw [path, path']
    exact placed.apart before before' (same ▸ success) (same' ▸ success') differ

/-- A row stays settled while its file and what is noted for its upload do. -/
theorem Settled.frame {id : Nat} {row : Backup Digest} (settled : Settled codec cwd world id row)
    (absolute : row.success → isAbsolute row.path)
    (ghost : after.uploadedUnder id = world.uploadedUnder id)
    (files : row.success → after.files row.path = world.files row.path) :
    Settled codec cwd after id row := by
  refine ⟨settled.owned, fun success present encrypted => ?_, ghost ▸ settled.recorded⟩
  obtain ⟨file, password, read, rest⟩ := settled.sound success present encrypted
  have opened := openedPath_of_absolute cwd (absolute success)
  rw [opened] at read
  exact ⟨file, password, by rw [opened, files success, read], rest⟩

/-- A change of one row, with what happens to its own files. -/
theorem Consistent.update (consistent : Consistent codec cwd world) (id : Nat)
    {change : Backup Digest → Backup Digest}
    (rows : ∀ wanted, after.rows.get wanted =
      if wanted = id then (world.rows.get wanted).map change else world.rows.get wanted)
    (kept : ∀ row, (change row).path = row.path ∧ (change row).success = row.success)
    (ghost : ∀ other, other ≠ id → after.uploadedUnder other = world.uploadedUnder other)
    (files : ∀ other row, other ≠ id → world.rows.get other = some row → row.success →
      after.files row.path = world.files row.path)
    (here : ∀ row, world.rows.get id = some row → Settled codec cwd after id (change row)) :
    Consistent codec cwd after := by
  constructor
  · refine consistent.placed.of_kept fun wanted row held => ?_
    rw [rows] at held
    split at held
    · obtain ⟨row, before, rfl⟩ := Option.map_eq_some_iff.mp held
      exact ⟨row, before, kept row⟩
    · exact ⟨row, held, rfl, rfl⟩
  · intro wanted row held
    rw [rows] at held
    split at held
    case isTrue same =>
      obtain ⟨row, before, rfl⟩ := Option.map_eq_some_iff.mp held
      exact same ▸ here row (same ▸ before)
    case isFalse other =>
      exact (consistent.settled held).frame (consistent.placed.absolute held) (ghost wanted other)
        (files wanted row other held)

/-! ### Uploads -/

/-- A row stays settled when a mark leaves it without a replica. -/
theorem Consistent.unmark (consistent : Consistent codec cwd world) (id : Nat)
    (change : Backup Digest → Backup Digest)
    (rows : ∀ wanted, after.rows.get wanted =
      if wanted = id then (world.rows.get wanted).map change else world.rows.get wanted)
    (files : after.files = world.files) (ghost : after.uploadedUnder = world.uploadedUnder)
    (kept : ∀ row, (change row).path = row.path ∧ (change row).success = row.success)
    (settled : ∀ row, Settled codec cwd world id row → Settled codec cwd world id (change row)) :
    Consistent codec cwd after := by
  refine consistent.update id rows kept (fun _ _ => by rw [ghost]) (fun _ _ _ _ _ => by rw [files])
    fun row found => ?_
  refine (settled row (consistent.settled found)).frame (fun success => ?_) (by rw [ghost])
    fun _ => by rw [files]
  rw [(kept row).1]
  exact consistent.placed.absolute found ((kept row).2 ▸ success)

/-- The payload made from the file of a sound row carries the row's wrapper. -/
theorem carries_of_prepared {row : Backup Digest} {raw payload : Bytes} {suffix : String}
    {settings : ReplicationConfig} {instanceName : String} {salt : Salt}
    (sound : Sound codec cwd world row) (success : row.success) (present : row.localPresent)
    (encrypted : row.encrypted) (read : world.files (openedPath cwd row.path) = some raw)
    (named : Unambiguous settings instanceName row.filename)
    (made : preparePayload codec salt raw row.encrypted row.compressed settings =
      .ok (payload, suffix)) :
    ∃ password, row.encryptPassword = some password ∧
      Carries codec (objectKey settings instanceName row.filename suffix) payload password := by
  obtain ⟨file, password, held, stored, ⟨blob, text, unpacked, opens⟩, -⟩ :=
    sound success present encrypted
  obtain rfl : raw = file := Option.some.inj (read.symm.trans held)
  refine ⟨password, stored, blob, text, opens, ?_⟩
  obtain ⟨blob', unpacked', layout⟩ := preparePayload_ok made
  obtain rfl : blob = blob' := Except.ok.inj (unpacked.symm.trans unpacked')
  rw [encrypted] at layout
  rcases layout with ⟨-, single, rfl, rfl⟩ | ⟨plain, -⟩ | ⟨outer, -, rfl, rfl⟩
  · rw [named single]
    rfl
  · cases plain
  · rw [if_pos rfl, objectKey, endsWith_append]
    exact ⟨outer, salt, rfl⟩

theorem Consistent.replicate (consistent : Consistent codec cwd world) {id : Nat}
    {cfg : Option ReplicationConfig} {instanceName : String} {now : Nat} {salt : Salt}
    {attempt : Attempt Bytes}
    (named : ∀ settings row, cfg = some settings → world.rows.get id = some row → row.encrypted →
      Unambiguous settings instanceName row.filename) :
    Consistent codec cwd
      (replicateBackup codec cwd world id cfg instanceName now salt attempt).2 := by
  generalize ran : replicateBackup codec cwd world id cfg instanceName now salt attempt = result
  obtain ⟨ok, after⟩ := result
  rcases replicateBackup_cases cwd world id cfg instanceName now salt attempt ran with
    rfl | rfl | ⟨objects, text, rfl⟩ |
    ⟨settings, row, raw, payload, suffix, rfl, found, present, read, made, rfl⟩
  · exact consistent
  · exact consistent.unmark id _ (fun _ => World.get_markSkipped) rfl rfl (fun _ => ⟨rfl, rfl⟩)
      fun _ settled => ⟨settled.owned, settled.sound, fun _ _ done => by cases done⟩
  · exact consistent.unmark id _ (fun _ => World.get_markFailed) rfl rfl (fun _ => ⟨rfl, rfl⟩)
      fun _ settled => ⟨settled.owned, settled.sound, fun _ _ done => by cases done⟩
  · refine consistent.update id (fun _ => World.get_markDone) (fun _ => ⟨rfl, rfl⟩)
      (fun other differ => Function.update_of_ne differ _ _) (fun _ _ _ _ _ => rfl)
      fun row' found' => ?_
    obtain rfl : row = row' := Option.some.inj (found.symm.trans found')
    have settled := consistent.settled found
    refine ⟨settled.owned, settled.sound, fun success encrypted _ => ?_⟩
    obtain ⟨password, stored, carries⟩ := carries_of_prepared settled.sound
      success present encrypted read (named settings row rfl found encrypted) made
    refine ⟨_, payload, password, rfl, rfl, ?_, carries⟩
    exact (Function.update_self _ _ _).trans
      ((congrArg (Option.bind · Backup.encryptPassword) found).trans stored)

/-! ### Retrievals -/

/-- What comes back from the recorded object opens under the password of its upload. -/
theorem opens_of_undone {key : String} {payload content : Bytes} {password : String}
    {compressed : Bool} {settings : ReplicationConfig} {salt : Salt}
    (carries : Carries codec key payload password)
    (undone : undoPayload codec salt payload key true compressed settings = .ok content) :
    OpensUnder codec password compressed content := by
  obtain ⟨blob, text, opens, layer⟩ := carries
  obtain ⟨blob', rfl, layers⟩ := undoPayload_ok undone
  suffices same : blob' = blob from
    ⟨blob, text, same ▸ codec.unpack_pack salt compressed blob', opens⟩
  have single : layered key true = endsWith key ".2x.xml.enc" := by
    simp [layered]
  rcases layers with ⟨double, outer, -, stripped⟩ | ⟨plain, rfl⟩
  · rw [single] at double
    rw [if_pos double] at layer
    obtain ⟨outer', salt', rfl⟩ := layer
    exact (codec.decrypt_only stripped).2
  · rw [single] at plain
    rw [if_neg (by simp [plain])] at layer
    exact layer

theorem Consistent.retrieve [DecidableEq Digest] (consistent : Consistent codec cwd world) {id : Nat}
    {cfg : Option ReplicationConfig} {salt : Salt} {fault : Option String}
    (unchanged : ∀ row, world.rows.get id = some row → row.localPresent = false → row.encrypted →
      world.uploadedUnder id = row.encryptPassword)
    (returned : retrieveReplica codec cwd world id cfg salt fault = .ok after) :
    Consistent codec cwd after := by
  rcases retrieveReplica_ok returned with
    rfl | ⟨settings, row, key, payload, content, -, found, away, done, recordedKey, stored, intact,
      undone, rfl⟩
  · exact consistent
  · have settled := consistent.settled found
    have success := settled.owned (.inl away)
    have opened := openedPath_of_absolute cwd (consistent.placed.absolute found success)
    rw [opened]
    refine consistent.update id (fun _ => World.get_retrieved) (fun _ => ⟨rfl, rfl⟩)
      (fun _ _ => rfl) (fun other row' differ found' success' => ?_)
      fun row' found' => ?_
    · exact Function.update_of_ne
        (consistent.placed.apart found' found success' success differ).1 _ _
    · obtain rfl : row = row' := Option.some.inj (found.symm.trans found')
      refine ⟨fun _ => success, fun _ _ encrypted => ?_, settled.recorded⟩
      obtain ⟨key', payload', password, recordedKey', recordedSha, uploaded, carries⟩ :=
        settled.recorded success encrypted done
      obtain rfl : key = key' := Option.some.inj (recordedKey.symm.trans recordedKey')
      obtain rfl := codec.sha256_injective (intact _ recordedSha)
      rw [show row.encrypted = true from encrypted] at undone
      refine ⟨content, password, ?_, ?_, opens_of_undone carries undone, rfl⟩
      · exact (congrArg _ opened).trans (Function.update_self _ _ _)
      · exact (unchanged row found away encrypted).symm.trans uploaded

/-! ### Retention -/

theorem Consistent.objects (consistent : Consistent codec cwd world)
    (objects : String → Option Bytes) : Consistent codec cwd { world with objects } :=
  ⟨consistent.placed, fun found => (consistent.settled found).frame
    (consistent.placed.absolute found) rfl fun _ => rfl⟩

theorem deleteObjects_eq (keys : List String) (world : World Bytes Digest) :
    ∃ objects, keys.foldl World.deleteObject world = { world with objects } := by
  induction keys generalizing world with
  | nil => exact ⟨world.objects, rfl⟩
  | cons key keys ih => exact ih (world.deleteObject key)

/-- What a prune leaves: no new rows, and the files of no row untouched. -/
structure Thinned (world after : World Bytes Digest) : Prop where
  rows : ∀ {id row}, after.rows.get id = some row → ∃ before, world.rows.get id = some before ∧
    row.path = before.path ∧ row.success = before.success
  files : ∀ {path}, (∀ id row, world.rows.get id = some row → row.success → row.path ≠ path) →
    after.files path = world.files path

theorem Thinned.refl (world : World Bytes Digest) : Thinned world world :=
  ⟨fun found => ⟨_, found, rfl, rfl⟩, fun _ => rfl⟩

theorem Thinned.trans {middle : World Bytes Digest} (first : Thinned world middle)
    (second : Thinned middle after) : Thinned world after := by
  constructor
  · intro id row found
    obtain ⟨between, found, path, success⟩ := second.rows found
    obtain ⟨before, found, path', success'⟩ := first.rows found
    exact ⟨before, found, path.trans path', success.trans success'⟩
  · intro path free
    refine (second.files fun id row found success => ?_).trans (first.files free)
    obtain ⟨before, found, path, success'⟩ := first.rows found
    exact path ▸ free id before found (success' ▸ success)

/-- A stale row loses its file, and then is off-site only or gone. -/
theorem pruneRow_cases (cfg : Option ReplicationConfig) (unlinkFails : Nat → Bool)
    (world : World Bytes Digest) {row : Backup Digest} (absolute : isAbsolute row.path) :
    (pruneRow cfg unlinkFails world row).1 = world ∨
      (pruneRow cfg unlinkFails world row).1 =
        (world.unlink row.path).update row.id Backup.pruned ∨
      (pruneRow cfg unlinkFails world row).1 =
        (world.unlink row.path).deleteRow row.id := by
  unfold pruneRow
  split
  · exact .inl rfl
  · rw [World.unlinkStale, if_pos (ne_empty_of_absolute absolute),
      resolveBackupPath_of_absolute absolute]
    cases disposal cfg row with
    | offsiteOnly => exact .inr (.inl rfl)
    | drop key => exact .inr (.inr rfl)

theorem Consistent.delete (consistent : Consistent codec cwd world) (id : Nat)
    (files : ∀ other row, other ≠ id → world.rows.get other = some row → row.success →
      after.files row.path = world.files row.path)
    (rows : after.rows = world.rows.delete id) (ghost : after.uploadedUnder = world.uploadedUnder) :
    Consistent codec cwd after := by
  have kept : ∀ {wanted row}, after.rows.get wanted = some row →
      wanted ≠ id ∧ world.rows.get wanted = some row := by
    intro wanted row held
    rw [rows, Table.get_delete] at held
    split at held
    · cases held
    · exact ⟨‹_›, held⟩
  refine ⟨consistent.placed.of_kept fun wanted row held => ⟨row, (kept held).2, rfl, rfl⟩,
    fun {wanted row} held => ?_⟩
  obtain ⟨other, before⟩ := kept held
  exact (consistent.settled before).frame (consistent.placed.absolute before) (by rw [ghost])
    (files wanted row other before)

theorem Consistent.prune (consistent : Consistent codec cwd world)
    (cfg : Option ReplicationConfig) (unlinkFails : Nat → Bool) {row : Backup Digest}
    (found : world.rows.get row.id = some row) (success : row.success) :
    Consistent codec cwd (pruneRow cfg unlinkFails world row).1 ∧
      Thinned world (pruneRow cfg unlinkFails world row).1 ∧
      ∀ other, other ≠ row.id →
        (pruneRow cfg unlinkFails world row).1.rows.get other = world.rows.get other := by
  have others : ∀ other row', other ≠ row.id → world.rows.get other = some row' →
      row'.success → (world.unlink row.path).files row'.path = world.files row'.path :=
    fun other row' differ found' success' => Function.update_of_ne
      (consistent.placed.apart found' found success' success differ).1 _ _
  have unlinked : ∀ {path}, (∀ id row', world.rows.get id = some row' → row'.success →
      row'.path ≠ path) → (world.unlink row.path).files path = world.files path :=
    fun free => Function.update_of_ne (free row.id row found success).symm _ _
  rcases pruneRow_cases cfg unlinkFails world (consistent.placed.absolute found success) with
    same | same | same
  · rw [same]
    exact ⟨consistent, .refl world, fun _ _ => rfl⟩
  · rw [same]
    have rows : ∀ wanted, ((world.unlink row.path).update row.id Backup.pruned).rows.get wanted =
        if wanted = row.id then (world.rows.get wanted).map Backup.pruned
        else world.rows.get wanted := fun _ => World.get_pruned
    refine ⟨consistent.update row.id rows (fun _ => ⟨rfl, rfl⟩) (fun _ _ => rfl) others
      fun row' found' => ?_, ⟨fun {wanted row'} held => ?_, unlinked⟩, fun other differ => ?_⟩
    · have settled := consistent.settled found'
      exact ⟨fun _ => (Option.some.inj (found.symm.trans found')) ▸ success,
        fun _ present => (by cases present), settled.recorded⟩
    · rw [rows] at held
      split at held
      · obtain ⟨before, found', rfl⟩ := Option.map_eq_some_iff.mp held
        exact ⟨before, found', rfl, rfl⟩
      · exact ⟨row', held, rfl, rfl⟩
    · exact (rows other).trans (if_neg differ)
  · rw [same]
    have rows : ∀ wanted, ((world.unlink row.path).deleteRow row.id).rows.get wanted =
        if wanted = row.id then none else world.rows.get wanted := fun _ => Table.get_delete
    refine ⟨consistent.delete row.id others rfl rfl, ⟨fun {wanted row'} held => ?_, unlinked⟩,
      fun other differ => (rows other).trans (if_neg differ)⟩
    rw [rows] at held
    split at held
    · cases held
    · exact ⟨row', held, rfl, rfl⟩

theorem Consistent.pruneRows (consistent : Consistent codec cwd world) (run : PruneRun)
    {stale : List (Backup Digest)} (distinct : (stale.map Backup.id).Nodup)
    (listed : ∀ row ∈ stale, world.rows.get row.id = some row ∧ row.success) :
    Consistent codec cwd (StoredBackups.pruneRows run world stale).1 ∧
      Thinned world (StoredBackups.pruneRows run world stale).1 := by
  induction stale generalizing world with
  | nil => exact ⟨consistent, .refl world⟩
  | cons row rows ih =>
    obtain ⟨fresh, distinct⟩ := List.nodup_cons.mp distinct
    obtain ⟨found, success⟩ := listed row List.mem_cons_self
    obtain ⟨next, thinned, others⟩ := consistent.prune run.cfg run.unlinkFails found success
    have listed' : ∀ other ∈ rows,
        (pruneRow run.cfg run.unlinkFails world row).1.rows.get other.id = some other ∧
          other.success := by
      intro other mem
      have differ : other.id ≠ row.id := fun eq => fresh (eq ▸ List.mem_map_of_mem mem)
      rw [others other.id differ]
      exact listed other (List.mem_cons_of_mem _ mem)
    obtain ⟨last, thinned'⟩ := ih next distinct listed'
    exact ⟨last, thinned.trans thinned'⟩

theorem Consistent.cleanup (consistent : Consistent codec cwd world) (run : PruneRun) :
    Consistent codec cwd (cleanupOldBackups world run) ∧
      Thinned world (cleanupOldBackups world run) := by
  have distinct : ((staleRows world run).map Backup.id).Nodup :=
    world.rows.distinct.sublist (List.filter_sublist.map _)
  obtain ⟨pruned, thinned⟩ := consistent.pruneRows run distinct fun row mem => by
    obtain ⟨mem, test⟩ := List.mem_filter.mp mem
    simp only [Bool.and_eq_true] at test
    exact ⟨Table.get_of_mem mem, test.1.1.2⟩
  obtain ⟨objects, same⟩ := deleteObjects_eq
    ((StoredBackups.pruneRows run world (staleRows world run)).2.filter fun key =>
      !run.deleteFails key) (StoredBackups.pruneRows run world (staleRows world run)).1
  rw [cleanupOldBackups, same]
  exact ⟨pruned.objects objects, ⟨thinned.rows, thinned.files⟩⟩

/-! ### Re-encryptions -/

/-- The rows are as they were, and so are their files. -/
theorem Consistent.same (consistent : Consistent codec cwd world)
    (rows : ∀ wanted, after.rows.get wanted = world.rows.get wanted)
    (ghost : after.uploadedUnder = world.uploadedUnder)
    (files : ∀ id row, world.rows.get id = some row → row.success →
      after.files row.path = world.files row.path) : Consistent codec cwd after := by
  refine ⟨consistent.placed.of_kept fun wanted row held => ⟨row, rows wanted ▸ held, rfl, rfl⟩,
    fun {wanted row} held => ?_⟩
  rw [rows] at held
  exact (consistent.settled held).frame (consistent.placed.absolute held) (by rw [ghost])
    (files wanted row held)

/-- A task was made from the row as it is. -/
def Tasked (world : World Bytes Digest) (task : ReencryptTask) : Prop :=
  ∃ row, world.rows.get task.backupId = some row ∧ row.path = task.path ∧
    row.compressed = task.compressed ∧ row.encrypted ∧
    row.encryptPassword = some task.oldPassword

theorem ne_append_new (path : String) : path ≠ path ++ ".new" := by
  intro eq
  have lengths := congrArg (fun text => text.toList.length) eq
  simp at lengths

theorem reencryptOne_ok {task : ReencryptTask} {salt : Salt} {content : Bytes}
    (staged : reencryptOne codec world task salt = .ok content) :
    OpensUnder codec task.newPassword task.compressed content := by
  unfold reencryptOne at staged
  cases read : world.files (resolveBackupPath task.path) with
  | none =>
    rw [read] at staged
    cases staged
  | some raw =>
    rw [read] at staged
    obtain ⟨wrapped, unpacked, staged⟩ := bind_ok staged
    obtain ⟨plaintext, opened, eq⟩ := bind_ok staged
    cases eq
    exact ⟨_, plaintext, codec.unpack_pack _ _ _,
      codec.decrypt_encrypt _ _ _ (codec.credible_of_decrypt opened)⟩

theorem Consistent.reencryptRow (consistent : Consistent codec cwd world) (salt : Salt)
    {faults : Nat → Faults} {task : ReencryptTask} (tasked : Tasked world task)
    (reverts : (faults task.backupId).replace → ¬ (faults task.backupId).revert) :
    Consistent codec cwd (reencryptRow codec salt faults world task) ∧
      ∀ other, other ≠ task.backupId →
        (StoredBackups.reencryptRow codec salt faults world task).rows.get other =
          world.rows.get other := by
  obtain ⟨row, found, path, compressed, encrypted, password⟩ := tasked
  have settled := consistent.settled found
  have success := settled.owned (.inr encrypted)
  have absolute := consistent.placed.absolute found success
  have resolved : resolveBackupPath task.path = row.path := by
    rw [← path, resolveBackupPath_of_absolute absolute]
  have unstaged : ∀ id row', world.rows.get id = some row' → row'.success →
      (world.unlink (row.path ++ ".new")).files row'.path = world.files row'.path := by
    intro id row' found' success'
    refine Function.update_of_ne ?_ _ _
    by_cases same : id = task.backupId
    · obtain rfl : row = row' := Option.some.inj (found.symm.trans (same ▸ found'))
      exact ne_append_new row.path
    · exact (consistent.placed.apart found' found success' success same).2.1
  unfold StoredBackups.reencryptRow
  cases staged : reencryptOne codec world task salt with
  | error text => exact ⟨consistent, fun _ _ => rfl⟩
  | ok content =>
    have opens := reencryptOne_ok staged
    rw [resolved]
    dsimp only
    split
    · exact ⟨consistent.same (fun _ => rfl) rfl unstaged, fun _ _ => rfl⟩
    split
    · exact ⟨consistent.same (fun _ => rfl) rfl unstaged, fun _ _ => rfl⟩
    split
    case isTrue replaces =>
      -- The revert writes the old password and size back, so the row is what it was.
      rw [if_neg (reverts replaces), found]
      have back : ((row.reencrypted task.newPassword (codec.size content)).reencrypted
          task.oldPassword row.sizeBytes) = row := by
        rw [Backup.reencrypted, Backup.reencrypted, ← password]
      have committed : ((world.unlink (row.path ++ ".new")).update task.backupId
          (Backup.reencrypted task.newPassword (codec.size content))).rows.get task.backupId =
            some (row.reencrypted task.newPassword (codec.size content)) :=
        World.get_reencrypted.trans ((if_pos rfl).trans (congrArg (Option.map _) found))
      have rows : ∀ wanted, (((world.unlink (row.path ++ ".new")).update task.backupId
          (Backup.reencrypted task.newPassword (codec.size content))).update task.backupId
          (Backup.reencrypted task.oldPassword row.sizeBytes)).rows.get wanted =
            world.rows.get wanted := by
        intro wanted
        refine World.get_reencrypted.trans ?_
        split
        case isTrue same =>
          rw [same]
          exact (congrArg (Option.map _) committed).trans ((congrArg some back).trans found.symm)
        case isFalse differ => exact World.get_reencrypted.trans (if_neg differ)
      exact ⟨consistent.same rows rfl unstaged, fun other _ => rows other⟩
    case isFalse =>
      have rows : ∀ wanted, (((world.unlink (row.path ++ ".new")).update task.backupId
          (Backup.reencrypted task.newPassword (codec.size content))).writeFile row.path
          content).rows.get wanted =
            if wanted = task.backupId then (world.rows.get wanted).map
              (Backup.reencrypted task.newPassword (codec.size content))
            else world.rows.get wanted := fun _ => World.get_reencrypted
      refine ⟨consistent.update task.backupId rows (fun _ => ⟨rfl, rfl⟩) (fun _ _ => rfl)
        (fun other row' differ found' success' => ?_) fun row' found' => ?_,
        fun other differ => (rows other).trans (if_neg differ)⟩
      · exact (Function.update_of_ne
          (consistent.placed.apart found' found success' success differ).1 _ _).trans
          (unstaged other row' found' success')
      · obtain rfl : row = row' := Option.some.inj (found.symm.trans found')
        refine ⟨fun _ => success, fun _ _ _ => ?_, settled.recorded⟩
        refine ⟨content, task.newPassword, ?_, rfl, compressed ▸ opens, rfl⟩
        exact (congrArg _ (openedPath_of_absolute cwd absolute)).trans (Function.update_self _ _ _)

theorem Consistent.reencryptRows (consistent : Consistent codec cwd world) {salt : Salt}
    {faults : Nat → Faults} (reverts : ∀ id, (faults id).replace → ¬ (faults id).revert)
    {completed : List ReencryptTask} (distinct : (completed.map ReencryptTask.backupId).Nodup)
    (tasked : ∀ task ∈ completed, Tasked world task) :
    Consistent codec cwd (reencryptRows codec salt faults world completed) := by
  induction completed generalizing world with
  | nil => exact consistent
  | cons task rest ih =>
    obtain ⟨fresh, distinct⟩ := List.nodup_cons.mp distinct
    obtain ⟨next, others⟩ := consistent.reencryptRow salt (tasked task List.mem_cons_self)
      (reverts task.backupId)
    refine ih next distinct fun other mem => ?_
    have differ : other.backupId ≠ task.backupId := fun eq => fresh (eq ▸ List.mem_map_of_mem mem)
    obtain ⟨row, found, rest⟩ := tasked other (List.mem_cons_of_mem _ mem)
    exact ⟨row, (others other.backupId differ).trans found, rest⟩

theorem reencryptTasks_tasked {instanceId : Option Nat} {newPassword : String}
    {task : ReencryptTask} (mem : task ∈ reencryptTasks world instanceId newPassword) :
    Tasked world task := by
  obtain ⟨row, mem, made⟩ := List.mem_filterMap.mp mem
  obtain ⟨listed, test⟩ := List.mem_filter.mp mem
  obtain ⟨oldPassword, stored, rfl⟩ := Option.map_eq_some_iff.mp made
  rw [Bool.and_eq_true] at test
  exact ⟨row, Table.get_of_mem listed, rfl, rfl, test.1, stored⟩

theorem reencryptTasks_distinct (world : World Bytes Digest) (instanceId : Option Nat)
    (newPassword : String) :
    ((reencryptTasks world instanceId newPassword).map ReencryptTask.backupId).Nodup := by
  have distinct := List.pairwise_map.mp world.rows.distinct
  refine List.pairwise_map.mpr ((distinct.filter _).filterMap _ fun row row' differ task made
    task' made' => ?_)
  obtain ⟨_, -, rfl⟩ := Option.map_eq_some_iff.mp made
  obtain ⟨_, -, rfl⟩ := Option.map_eq_some_iff.mp made'
  exact differ

/-! ### Backups -/

/-- A new row whose files lie apart from those of the others. -/
theorem Consistent.insert (consistent : Consistent codec cwd world) {row : Backup Digest}
    (fresh : world.rows.get row.id = none) (absolute : row.success → isAbsolute row.path)
    (apart : ∀ id row', world.rows.get id = some row' → row'.success → row.success →
      Apart row.path row'.path)
    (settled : Settled codec cwd world row.id row) :
    Consistent codec cwd { world with rows := world.rows.insert row } := by
  have rows : ∀ {wanted row'}, (world.rows.insert row).get wanted = some row' →
      (wanted = row.id ∧ row' = row) ∨ world.rows.get wanted = some row' := by
    intro wanted row' held
    rw [Table.get_insert fresh] at held
    split at held
    · exact .inl ⟨‹_›, (Option.some.inj held).symm⟩
    · exact .inr held
  have symmetric : ∀ {path other : String}, Apart path other → Apart other path :=
    fun both => ⟨both.1.symm, both.2.2, both.2.1⟩
  refine ⟨⟨fun held success => ?_, fun held held' success success' differ => ?_⟩, fun held => ?_⟩
  · rcases rows held with ⟨-, rfl⟩ | before
    · exact absolute success
    · exact consistent.placed.absolute before success
  · rcases rows held with ⟨rfl, rfl⟩ | before <;> rcases rows held' with ⟨rfl, rfl⟩ | before'
    · exact (differ rfl).elim
    · exact apart _ _ before' success' success
    · exact symmetric (apart _ _ before success success')
    · exact consistent.placed.apart before before' success success' differ
  · rcases rows held with ⟨rfl, rfl⟩ | before
    · exact settled.frame absolute rfl fun _ => rfl
    · exact (consistent.settled before).frame (consistent.placed.absolute before) rfl fun _ => rfl

theorem get_writeBackupHistory (world : World Bytes Digest) (run : BackupRun Bytes Salt)
    (result : SaveResult) : (writeBackupHistory world run result).rows.get world.rows.nextId =
      some (historyRow world.rows.nextId run result) := by
  have fresh : world.rows.get (historyRow world.rows.nextId run result : Backup Digest).id =
      none := Table.get_nextId
  exact (Table.get_insert fresh).trans (if_pos rfl)

theorem Consistent.backupFails (consistent : Consistent codec cwd world)
    (instanceId startedAt : Nat) :
    Consistent codec cwd (writeFailedHistory world instanceId startedAt) := by
  refine consistent.insert Table.get_nextId nofun (fun _ _ _ _ => nofun) ⟨?_, nofun, nofun⟩
  rintro (away | encrypted)
  · cases away
  · cases encrypted

theorem savedPath_absolute {run : BackupRun Bytes Salt} (absolute : isAbsolute run.xmlPath) :
    isAbsolute (savedPath run) := by
  unfold savedPath
  split
  · exact isAbsolute_append absolute ".gz"
  · exact absolute

/-- `_save_backup` over any gzip, where the content's probe came out as given. -/
def saveWith (gzip : Bytes → Bytes) (size : Bytes → Nat) (cwd : String) (world : World Bytes Digest)
    (run : BackupRun Bytes Salt) (contentEncrypted : Bool) : World Bytes Digest × SaveResult :=
  let written := world.writeFile (openedPath cwd run.xmlPath) run.content
  if run.compress then
    let gzPath := run.xmlPath ++ ".gz"
    let gz := gzip run.content
    ((written.writeFile (openedPath cwd gzPath) gz).unlink (openedPath cwd run.xmlPath),
      ⟨gzPath, size gz, true, contentEncrypted⟩)
  else
    (written, ⟨run.xmlPath, size run.content, false, contentEncrypted⟩)

theorem saveBackup_eq (codec : Codec Bytes Digest Salt) (cwd : String) (world : World Bytes Digest)
    (run : BackupRun Bytes Salt) : saveBackup codec cwd world run =
      saveWith (codec.gzip run.salt) codec.size cwd world run (codec.looksEncrypted run.content) :=
  rfl

/-- The saved file is the packed content; only the two paths of the save change. -/
theorem saveWith_spec (gzip : Bytes → Bytes) (size : Bytes → Nat) (cwd : String)
    (world : World Bytes Digest) {run : BackupRun Bytes Salt} (contentEncrypted : Bool)
    (absolute : isAbsolute run.xmlPath) :
    ∃ files, (saveWith gzip size cwd world run contentEncrypted).1 = { world with files } ∧
      files (savedPath run) = some (packWith gzip run.compress run.content) ∧
      (∀ path, path ≠ run.xmlPath → path ≠ savedPath run → files path = world.files path) ∧
      (saveWith gzip size cwd world run contentEncrypted).2 =
        ⟨savedPath run, size (packWith gzip run.compress run.content), run.compress,
          contentEncrypted⟩ := by
  have opened := openedPath_of_absolute cwd absolute
  have openedGz := openedPath_of_absolute cwd (isAbsolute_append absolute ".gz")
  unfold saveWith savedPath packWith
  rw [opened]
  cases run.compress with
  | true =>
    dsimp only
    rw [if_pos rfl, if_pos rfl, if_pos rfl, openedGz]
    have differ : run.xmlPath ++ ".gz" ≠ run.xmlPath := by
      intro eq
      have lengths := congrArg (fun text => text.toList.length) eq
      simp at lengths
    refine ⟨_, rfl, ?_, fun path other other' => ?_, rfl⟩
    · exact (Function.update_of_ne differ _ _).trans (Function.update_self _ _ _)
    · exact (Function.update_of_ne other _ _).trans
        ((Function.update_of_ne other' _ _).trans (Function.update_of_ne other _ _))
  | false =>
    dsimp only
    rw [if_neg (by simp), if_neg (by simp), if_neg (by simp)]
    exact ⟨_, rfl, Function.update_self _ _ _, fun path other _ => Function.update_of_ne other _ _,
      rfl⟩

/-- The saved file unpacks to the content; only the two paths of the save change. -/
theorem saveBackup_spec (codec : Codec Bytes Digest Salt) (cwd : String)
    (world : World Bytes Digest) {run : BackupRun Bytes Salt}
    (absolute : isAbsolute run.xmlPath) :
    ∃ files file, (saveBackup codec cwd world run).1 = { world with files } ∧
      files (savedPath run) = some file ∧ codec.unpack run.compress file = .ok run.content ∧
      (∀ path, path ≠ run.xmlPath → path ≠ savedPath run → files path = world.files path) ∧
      (saveBackup codec cwd world run).2 =
        ⟨savedPath run, codec.size file, run.compress, codec.looksEncrypted run.content⟩ := by
  obtain ⟨files, saved, written, others, result⟩ := saveWith_spec (codec.gzip run.salt) codec.size
    cwd world (codec.looksEncrypted run.content) absolute
  exact ⟨files, codec.pack run.salt run.compress run.content, saved, written,
    codec.unpack_pack run.salt run.compress run.content, others, result⟩

theorem Consistent.backup (consistent : Consistent codec cwd world) {run : BackupRun Bytes Salt}
    (absolute : isAbsolute run.xmlPath)
    (apart : ∀ id row, world.rows.get id = some row → row.success →
      run.xmlPath ≠ row.path ∧ Apart (savedPath run) row.path)
    (answered : run.backupEncrypt → codec.looksEncrypted run.content → ∀ password,
      truthy run.backupEncryptPassword = some password →
        ∃ text, codec.decrypt password run.content = .ok text)
    (named : run.replicate → ∀ cfg, run.prune.cfg = some cfg → run.backupEncrypt →
      Unambiguous cfg run.instanceName (pathName (savedPath run))) :
    Consistent codec cwd (backupInstance codec cwd world run) := by
  unfold backupInstance
  split
  · exact consistent
  case isFalse accepted =>
  obtain ⟨files, file, saved, written, unpacks, others, result⟩ :=
    saveBackup_spec codec cwd world absolute
  dsimp only
  rw [saved, result]
  -- The save touches no row's file, and the prune leaves the saved file.
  have stored : Consistent codec cwd { world with files } :=
    consistent.same (fun _ => rfl) rfl fun id row found success =>
      others row.path (apart id row found success).1.symm (apart id row found success).2.1.symm
  obtain ⟨pruned, thinned⟩ := stored.cleanup run.prune
  have kept : (cleanupOldBackups { world with files } run.prune).files (savedPath run) =
      some file :=
    (thinned.files fun id row found success => (apart id row found success).2.1.symm).trans written
  generalize cleanupOldBackups { world with files } run.prune = after at *
  have lies := savedPath_absolute absolute
  have listed : Consistent codec cwd (writeBackupHistory after run ⟨savedPath run,
      codec.size file, run.compress, codec.looksEncrypted run.content⟩) := by
    refine pruned.insert Table.get_nextId (fun _ => lies)
      (fun id row' found success _ => ?_) ⟨fun _ => rfl, fun _ _ encrypted => ?_, nofun⟩
    · obtain ⟨before, found, path, same⟩ := thinned.rows found
      exact path ▸ (apart id before found (same ▸ success)).2
    · obtain ⟨asked, looks⟩ := Bool.and_eq_true_iff.mp encrypted
      obtain ⟨password, given⟩ := Option.ne_none_iff_exists'.mp fun refused =>
        accepted ⟨asked, refused⟩
      obtain ⟨text, opens⟩ := answered asked looks password given
      refine ⟨file, password, (congrArg _ (openedPath_of_absolute cwd lies)).trans kept, ?_,
        ⟨run.content, text, unpacks, opens⟩, rfl⟩
      exact (if_pos encrypted).trans given
  split
  case isFalse => exact listed
  case isTrue replicates =>
  unfold replicateNewBackup
  split
  · exact listed
  case h_2 cfg given =>
    have pending := listed.unmark after.rows.nextId Backup.pending
      (fun _ => World.get_pending) rfl rfl (fun _ => ⟨rfl, rfl⟩)
      fun _ settled => ⟨settled.owned, settled.sound, nofun⟩
    refine pending.replicate fun settings row same found encrypted => ?_
    obtain rfl := Option.some.inj same
    obtain ⟨row, held, rfl⟩ := Option.map_eq_some_iff.mp
      ((World.get_pending.trans (if_pos rfl)).symm.trans found)
    obtain rfl := Option.some.inj ((get_writeBackupHistory after run _).symm.trans held)
    exact named replicates cfg given (Bool.and_eq_true_iff.mp encrypted).1

/-! ### Every run -/

/-- From an empty table, every run whose operations are allowed ends with files that open under
the stored passwords. -/
theorem stored_passwords_open [DecidableEq Digest] (codec : Codec Bytes Digest Salt) (cwd : String)
    (start : World Bytes Digest) (empty : start.rows = .empty) {world : World Bytes Digest}
    (reached : Reach (Step codec cwd) (Allowed codec) start world) : AllSound codec cwd world := by
  have first : Consistent codec cwd start := by
    refine ⟨⟨fun found => ?_, fun found => ?_⟩, fun found => ?_⟩ <;>
      simp [empty] at found
  have last : Consistent codec cwd world := by
    refine reached.invariant first fun before op after consistent allowed step => ?_
    cases step with
    | backup =>
      obtain ⟨absolute, apart, answered, named⟩ := allowed
      exact consistent.backup absolute apart answered named
    | backupFails => exact consistent.backupFails _ _
    | replicate => exact consistent.replicate allowed
    | reencrypt completed order =>
      refine consistent.reencryptRows allowed ?_ fun task mem =>
        reencryptTasks_tasked (order.mem_iff.mp mem)
      exact (order.map _).nodup_iff.mpr (reencryptTasks_distinct _ _ _)
    | prune => exact (consistent.cleanup _).1
    | retrieve returned => exact consistent.retrieve allowed returned
    | retrieveRaises => exact consistent
  exact fun id row found => (last.settled found).sound

/-! ### A password changed between the upload and the retrieval -/

inductive Blob where
  | xml (text : String)
  | wrapped (password : String) (inner : Blob)
  | gz (inner : Blob)
  deriving DecidableEq

def Blob.size : Blob → Nat
  | .xml text => text.length
  | .wrapped password inner => password.length + inner.size + 48
  | .gz inner => inner.size / 2

/-- Wrappers that show their passwords. -/
def showing : Codec Blob Blob Unit where
  encrypt password _ text := .wrapped password text
  decrypt password
    | .wrapped password' (.gz _) => .error "non-XML output"
    | .wrapped password' inner => if password' = password then .ok inner else .error "bad decrypt"
    | _ => .error "encrypted blob missing BEGIN/END markers"
  looksEncrypted
    | .wrapped _ _ => true
    | _ => false
  credible
    | .gz _ => false
    | _ => true
  gzip _ inner := .gz inner
  gunzip
    | .gz inner => .ok inner
    | _ => .error "Not a gzipped file"
  sha256 := id
  size := Blob.size
  decrypt_encrypt password _ text credible := by
    cases text with
    | gz _ => cases credible
    | _ => exact if_pos rfl
  decrypt_only := by
    intro password _ text other text' opens
    cases text with
    | gz _ => cases opens
    | _ =>
      simp only at opens
      split at opens
      · cases opens
        exact ⟨Eq.symm ‹_›, rfl⟩
      · cases opens
  credible_of_decrypt := by
    intro password blob text opens
    cases blob with
    | wrapped password' inner =>
      cases inner with
      | gz _ => cases opens
      | _ =>
        simp only at opens
        split at opens
        · cases opens
          rfl
        · cases opens
    | _ => cases opens
  looksEncrypted_encrypt _ _ _ := rfl
  credible_of_looksEncrypted := by
    intro text looks
    cases text with
    | gz _ => cases looks
    | _ => rfl
  gunzip_gzip _ _ := rfl
  sha256_injective := Function.injective_id

def emptyWorld : World Blob Blob where
  rows := .empty
  files _ := none
  objects _ := none
  uploadedUnder _ := none

def s3 : ReplicationConfig where
  basePath := "fleet"
  encryptPlaintext := true
  doubleEncrypt := false
  replicationPassword := some "offsite"
  mirrorDeletes := false

/-- Keeps no local backup of instance 1. -/
def pruneAll : PruneRun where
  instanceId := 1
  keep := []
  cfg := some s3
  unlinkFails _ := false
  deleteFails _ := false

def nightly : BackupRun Blob Unit where
  instanceName := "edge"
  backupEncrypt := true
  backupEncryptPassword := some "spring"
  compress := false
  replicate := true
  content := .wrapped "spring" (.xml "<?xml version='1.0'?><pfsense/>")
  xmlPath := "/backups/edge.xml"
  startedAt := 10
  prune := pruneAll
  replicaAt := 11
  salt := ()
  attempt := .succeeds

def backedUp : World Blob Blob := backupInstance showing "/app" emptyWorld nightly

def reencrypted : World Blob Blob :=
  reencryptRows showing () (fun _ => ⟨false, false, false, false⟩) backedUp
    (reencryptTasks backedUp none "summer")

def offsite : World Blob Blob := cleanupOldBackups reencrypted pruneAll

def retrievedAgain : Except String (World Blob Blob) :=
  retrieveReplica showing "/app" offsite 1 (some s3) () none

/-- The first row holds the new password and its file the old one. -/
def stale (world : World Blob Blob) : Bool :=
  (world.rows.get 1).any fun row => row.success && row.localPresent && row.encrypted &&
    !row.compressed && decide (row.encryptPassword = some "summer") &&
    decide (world.files (openedPath "/app" row.path) =
      some (.wrapped "spring" (.xml "<?xml version='1.0'?><pfsense/>")))

theorem not_allSound_of_stale {world : World Blob Blob} (shown : stale world) :
    ¬ AllSound showing "/app" world := by
  intro sound
  obtain ⟨row, found, test⟩ := (Option.any_eq_true _ _).mp shown
  simp only [Bool.and_eq_true, decide_eq_true_eq, Bool.not_eq_true'] at test
  obtain ⟨⟨⟨⟨⟨success, present⟩, encrypted⟩, plain⟩, changed⟩, read⟩ := test
  obtain ⟨file, password, held, stored, ⟨blob, text, unpacked, opens⟩, -⟩ :=
    sound 1 row found success present encrypted
  obtain rfl := Option.some.inj (changed.symm.trans stored)
  obtain rfl := Option.some.inj (read.symm.trans held)
  rw [plain] at unpacked
  obtain rfl := Except.ok.inj unpacked
  cases opens

theorem reencrypted_reached :
    Reach (Step showing "/app") (Allowed showing) emptyWorld reencrypted := by
  have nightlyAllowed : Allowed showing emptyWorld (.backup nightly) := by
    refine ⟨by decide, fun _ _ => nofun, fun _ _ password given => ?_, fun _ cfg given _ _ => ?_⟩
    · obtain rfl : "spring" = password := Option.some.inj given
      exact ⟨_, rfl⟩
    · obtain rfl : s3 = cfg := Option.some.inj given
      decide
  exact (Relation.ReflTransGen.refl.tail ⟨.backup nightly, nightlyAllowed, .backup⟩).tail
    ⟨.reencrypt none "summer" () fun _ => ⟨false, false, false, false⟩, fun _ => nofun,
      .reencrypt _ (.refl _)⟩

theorem reencrypted_opens : AllSound showing "/app" reencrypted :=
  stored_passwords_open showing "/app" emptyWorld rfl reencrypted_reached

/-- A retrieval after a re-encryption brings back a file that the stored password cannot open. -/
theorem retrievedAgain_unsound : ∃ before world,
    Reach (Step showing "/app") (Allowed showing) emptyWorld before ∧
      Step showing "/app" before (.retrieve 1 (some s3) () none) world ∧
      ¬ AllSound showing "/app" world := by
  have shown : retrievedAgain.toOption.any stale = true := by decide
  obtain ⟨world, some_, shown⟩ := (Option.any_eq_true _ _).mp shown
  have returned : retrievedAgain = .ok world := by
    cases result : retrievedAgain with
    | error text =>
      rw [result] at some_
      cases some_
    | ok other =>
      rw [result] at some_
      exact congrArg _ (Option.some.inj some_)
  exact ⟨offsite, world, reencrypted_reached.tail ⟨.prune pruneAll, trivial, .prune⟩,
    .retrieve returned, not_allSound_of_stale shown⟩

end PfsenseBackups.StoredBackups

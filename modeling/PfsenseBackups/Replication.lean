import PfsenseBackups.Tables
import Mathlib.Logic.Function.Basic

/-! Backup files and their off-site copies: the rows, the payloads, and the worker's operations on
the target, each run from its beginning to its end. -/

namespace PfsenseBackups.Replication
open Tables

/-! ### Names -/

/-- `Path.is_absolute`. -/
def isAbsolute (path : String) : Bool :=
  path.toList.head? = some '/'

def resolveBackupPath (raw : String) : String :=
  if isAbsolute raw then raw else "/backups/" ++ raw

/-- The file that `Path(raw)` opens in a worker started in a directory. -/
def openedPath (cwd raw : String) : String :=
  if isAbsolute raw then raw else cwd ++ "/" ++ raw

/-- `Path.name`. -/
def pathName (path : String) : String :=
  String.ofList (path.toList.reverse.takeWhile (· ≠ '/')).reverse

def endsWith (text ending : String) : Bool :=
  ending.toList.isSuffixOf text.toList

def removeSuffix (text ending : String) : String :=
  if endsWith text ending then String.ofList (text.toList.take (text.length - ending.length))
  else text

/-- A string that Python takes for true. -/
def truthy (text : Option String) : Option String :=
  text.filter (· ≠ "")

/-! ### Rows and settings -/

inductive ReplicaStatus where
  | pending | done | failed | skipped
  deriving DecidableEq, Repr

/-- A `Backup` row; the encrypted password is shown as what it decrypts to. -/
structure Backup (Digest : Type) where
  id : Nat
  instanceId : Nat
  startedAt : Nat
  filename : String
  path : String
  sizeBytes : Nat
  compressed : Bool
  success : Bool
  encrypted : Bool
  encryptPassword : Option String
  replicaStatus : Option ReplicaStatus := none
  replicaKey : Option String := none
  replicaAt : Option Nat := none
  replicaError : Option String := none
  replicaAttempts : Nat := 0
  replicaSha256 : Option Digest := none
  localPresent : Bool := true
  deriving DecidableEq

namespace Backup

variable {Digest : Type} (now : Nat)

def pending (row : Backup Digest) : Backup Digest :=
  { row with replicaStatus := some .pending }

def failed (text : String) (row : Backup Digest) : Backup Digest :=
  { row with
    replicaStatus := some .failed
    replicaAt := some now
    replicaAttempts := row.replicaAttempts + 1
    replicaError := some (String.ofList (text.toList.take 1000)) }

def skipped (row : Backup Digest) : Backup Digest :=
  { row with
    replicaStatus := some .skipped
    replicaAt := some now
    replicaError := some "local file missing on disk" }

def uploaded (key : String) (digest : Digest) (row : Backup Digest) : Backup Digest :=
  { row with
    replicaStatus := some .done
    replicaAt := some now
    replicaKey := some key
    replicaSha256 := some digest
    replicaError := none }

def retrieved (size : Nat) (row : Backup Digest) : Backup Digest :=
  { row with
    localPresent := true
    sizeBytes := size }

def reencrypted (password : String) (size : Nat) (row : Backup Digest) : Backup Digest :=
  { row with
    encryptPassword := some password
    sizeBytes := size }

theorem id_reencrypted (password : String) (size : Nat) (row : Backup Digest) :
    (row.reencrypted password size).id = row.id := rfl

def pruned (row : Backup Digest) : Backup Digest :=
  { row with localPresent := false }

end Backup

/-- What `load_config` returns while replication is enabled, less the transport's own fields. -/
structure ReplicationConfig where
  basePath : String
  encryptPlaintext : Bool
  doubleEncrypt : Bool
  replicationPassword : Option String
  mirrorDeletes : Bool

/-- The calls into libraries. A salt stands for the random or clock bytes that go into a wrapper
and a gzip header. -/
structure Codec (Bytes Digest Salt : Type) where
  encrypt : String → Salt → Bytes → Bytes
  decrypt : String → Bytes → Except String Bytes
  looksEncrypted : Bytes → Bool
  /-- `_looks_like_xml` or `looks_encrypted`: what a decryption may come to. -/
  credible : Bytes → Bool
  gzip : Salt → Bytes → Bytes
  gunzip : Bytes → Except String Bytes
  sha256 : Bytes → Digest
  size : Bytes → Nat
  decrypt_encrypt : ∀ password salt text, credible text →
    decrypt password (encrypt password salt text) = .ok text
  /-- A wrapper opens under no other password, and to nothing else. -/
  decrypt_only : ∀ {password salt text other text'},
    decrypt other (encrypt password salt text) = .ok text' → other = password ∧ text' = text
  credible_of_decrypt : ∀ {password blob text}, decrypt password blob = .ok text → credible text
  looksEncrypted_encrypt : ∀ password salt text, looksEncrypted (encrypt password salt text)
  credible_of_looksEncrypted : ∀ {text}, looksEncrypted text → credible text
  gunzip_gzip : ∀ salt text, gunzip (gzip salt text) = .ok text
  sha256_injective : Function.Injective sha256

variable {Bytes Digest Salt : Type} (codec : Codec Bytes Digest Salt)

/-! ### Payloads -/

def Codec.unpack (compressed : Bool) (raw : Bytes) : Except String Bytes :=
  if compressed then codec.gunzip raw else .ok raw

def Codec.pack (salt : Salt) (compressed : Bool) (blob : Bytes) : Bytes :=
  if compressed then codec.gzip salt blob else blob

@[simp] theorem Codec.unpack_pack (salt : Salt) (compressed : Bool) (blob : Bytes) :
    codec.unpack compressed (codec.pack salt compressed blob) = .ok blob := by
  cases compressed
  · rfl
  · exact codec.gunzip_gzip salt blob

/-- The payload and the file name suffix of an off-site object. -/
def preparePayload (salt : Salt) (raw : Bytes) (encrypted compressed : Bool)
    (cfg : ReplicationConfig) : Except String (Bytes × String) := do
  let blob ← codec.unpack compressed raw
  if encrypted then
    if cfg.doubleEncrypt then
      match truthy cfg.replicationPassword with
      | none => .error "double_encrypt is on but no replication password is set"
      | some password => .ok (codec.encrypt password salt blob, ".2x.xml.enc")
    else .ok (blob, ".xml.enc")
  else if cfg.encryptPlaintext then
    match truthy cfg.replicationPassword with
    | none => .error "encrypt_plaintext is on but no replication password is set"
    | some password => .ok (codec.encrypt password salt blob, ".xml.enc")
  else .ok (blob, ".xml")

/-- The key of an object without its suffix. -/
def objectStem (cfg : ReplicationConfig) (instanceName filename : String) : String :=
  cfg.basePath ++ "/" ++ instanceName ++ "/" ++ removeSuffix (removeSuffix filename ".gz") ".xml"

def objectKey (cfg : ReplicationConfig) (instanceName filename suffix : String) : String :=
  objectStem cfg instanceName filename ++ suffix

/-- Bytes to write to a row's path, from the object under a key. -/
def undoPayload (salt : Salt) (payload : Bytes) (key : String) (encrypted compressed : Bool)
    (cfg : ReplicationConfig) : Except String Bytes := do
  let blob ←
    if endsWith key ".2x.xml.enc" then
      match truthy cfg.replicationPassword with
      | none => .error "replication password required to strip outer layer"
      | some password => codec.decrypt password payload
    else if endsWith key ".xml.enc" && !encrypted then
      match truthy cfg.replicationPassword with
      | none => .error "replication password required to decrypt replica"
      | some password => codec.decrypt password payload
    else .ok payload
  return codec.pack salt compressed blob

/-! ### The world -/

/-- The database, the local files and the target's objects. -/
structure World (Bytes Digest : Type) where
  rows : Table (Backup Digest) Backup.id
  files : String → Option Bytes
  objects : String → Option Bytes
  /-- The password stored for a row when its replica was recorded; no operation reads it. -/
  uploadedUnder : Nat → Option String

namespace World

variable (world : World Bytes Digest)

def writeFile (path : String) (content : Bytes) : World Bytes Digest :=
  { world with files := Function.update world.files path (some content) }

def unlink (path : String) : World Bytes Digest :=
  { world with files := Function.update world.files path none }

def putObject (key : String) (content : Bytes) : World Bytes Digest :=
  { world with objects := Function.update world.objects key (some content) }

def deleteObject (key : String) : World Bytes Digest :=
  { world with objects := Function.update world.objects key none }

def update (id : Nat) (change : Backup Digest → Backup Digest)
    (keeps : ∀ row, (change row).id = row.id := by intro _; rfl) : World Bytes Digest :=
  { world with rows := world.rows.modify id change keeps }

def deleteRow (id : Nat) : World Bytes Digest :=
  { world with rows := world.rows.delete id }

/-- `_mark("failed", replica_error=…)`. -/
def markFailed (id now : Nat) (text : String) : World Bytes Digest :=
  world.update id (Backup.failed now text)

/-- `_mark("skipped", replica_error=…)`. -/
def markSkipped (id now : Nat) : World Bytes Digest :=
  world.update id (Backup.skipped now)

/-- `_mark("done", replica_key=…, replica_sha256=…, replica_error=None)`. -/
def markDone (id now : Nat) (key : String) (digest : Digest) : World Bytes Digest :=
  let marked := world.update id (Backup.uploaded now key digest)
  { marked with uploadedUnder :=
      Function.update world.uploadedUnder id ((world.rows.get id).bind Backup.encryptPassword) }

variable {world} {id now wanted : Nat}

theorem get_update (change : Backup Digest → Backup Digest)
    (keeps : ∀ row, (change row).id = row.id) : (world.update id change keeps).rows.get wanted =
      if wanted = id then (world.rows.get wanted).map change else world.rows.get wanted :=
  Table.get_modify keeps

theorem get_reencrypted {password : String} {size : Nat} :
    (world.update id (Backup.reencrypted password size)).rows.get wanted =
      if wanted = id then (world.rows.get wanted).map (Backup.reencrypted password size)
      else world.rows.get wanted :=
  get_update (Backup.reencrypted password size) fun _ => rfl

theorem get_pruned : (world.update id Backup.pruned).rows.get wanted =
    if wanted = id then (world.rows.get wanted).map Backup.pruned else world.rows.get wanted :=
  get_update Backup.pruned fun _ => rfl

theorem get_retrieved {size : Nat} : (world.update id (Backup.retrieved size)).rows.get wanted =
    if wanted = id then (world.rows.get wanted).map (Backup.retrieved size)
    else world.rows.get wanted :=
  get_update (Backup.retrieved size) fun _ => rfl

theorem get_pending : (world.update id Backup.pending).rows.get wanted =
    if wanted = id then (world.rows.get wanted).map Backup.pending else world.rows.get wanted :=
  get_update Backup.pending fun _ => rfl

theorem get_markFailed {text : String} : (world.markFailed id now text).rows.get wanted =
    if wanted = id then (world.rows.get wanted).map (Backup.failed now text)
    else world.rows.get wanted :=
  get_update (Backup.failed now text) fun _ => rfl

theorem get_markSkipped : (world.markSkipped id now).rows.get wanted =
    if wanted = id then (world.rows.get wanted).map (Backup.skipped now)
    else world.rows.get wanted :=
  get_update (Backup.skipped now) fun _ => rfl

theorem get_markDone {key : String} {digest : Digest} :
    (world.markDone id now key digest).rows.get wanted =
      if wanted = id then (world.rows.get wanted).map (Backup.uploaded now key digest)
      else world.rows.get wanted :=
  get_update (Backup.uploaded now key digest) fun _ => rfl

/-- An upload is recorded with its key. -/
theorem replicaKey_markDone {row : Backup Digest} {key : String} {digest : Digest}
    (found : world.rows.get id = some row) :
    ((world.markDone id now key digest).rows.get id).bind Backup.replicaKey = some key := by
  rw [get_markDone, if_pos rfl, found]
  rfl

theorem objects_markDone {key : String} {content : Bytes} {digest : Digest} :
    ((world.putObject key content).markDone id now key digest).objects key = some content := by
  change Function.update world.objects key (some content) key = some content
  exact Function.update_self _ _ _

end World

/-! ### Retention -/

/-- What becomes of a stale row: it stays for its replica, or it goes, with the key of an object
to delete as well. -/
inductive Disposal where
  | offsiteOnly
  | drop (remoteKey : Option String)
  deriving DecidableEq

def Disposal.remoteKey : Disposal → Option String
  | .offsiteOnly => none
  | .drop key => key

/-- The decision of `_cleanup_old_backups`, on the row as it was loaded. -/
def disposal (cfg : Option ReplicationConfig) (row : Backup Digest) : Disposal :=
  let mirrorDeletes := cfg.any ReplicationConfig.mirrorDeletes
  match row.replicaStatus, truthy row.replicaKey with
  | some .done, some key =>
    if cfg.isSome ∧ ¬ mirrorDeletes then .offsiteOnly
    else .drop (if mirrorDeletes then some key else none)
  | _, _ => .drop none

def World.dispose (world : World Bytes Digest) (id : Nat) : Disposal → World Bytes Digest
  | .offsiteOnly => world.update id Backup.pruned
  | .drop _ => world.deleteRow id

/-- The local file of a stale row goes, if the row names one. -/
def World.unlinkStale (world : World Bytes Digest) (row : Backup Digest) : World Bytes Digest :=
  if row.path ≠ "" then world.unlink (resolveBackupPath row.path) else world

/-! ### Upload and retrieval -/

/-- What the target's calls come to in one upload attempt. -/
inductive Attempt (Bytes : Type) where
  | succeeds
  /-- A call raises or the size differs; an upload may have left an object under the key. -/
  | raises (left : Option Bytes) (text : String)

/-- `replicate_backup`, in a worker started in a directory. -/
def replicateBackup (cwd : String) (world : World Bytes Digest) (id : Nat)
    (cfg : Option ReplicationConfig) (instanceName : String) (now : Nat) (salt : Salt)
    (attempt : Attempt Bytes) : Bool × World Bytes Digest :=
  match cfg, world.rows.get id with
  | none, _ | _, none => (false, world)
  | some cfg, some row =>
    if !row.localPresent then (false, world.markFailed id now "local file already pruned")
    else
      match world.files (openedPath cwd row.path) with
      | none => (false, world.markSkipped id now)
      | some raw =>
        match preparePayload codec salt raw row.encrypted row.compressed cfg with
        | .error text => (false, world.markFailed id now text)
        | .ok (payload, suffix) =>
          let key := objectKey cfg instanceName row.filename suffix
          match attempt with
          | .raises none text => (false, world.markFailed id now text)
          | .raises (some left) text => (false, (world.putObject key left).markFailed id now text)
          | .succeeds =>
            (true, (world.putObject key payload).markDone id now key (codec.sha256 payload))

/-- `retrieve_replica`; a fault is an exception of the download. -/
def retrieveReplica [DecidableEq Digest] (cwd : String) (world : World Bytes Digest) (id : Nat)
    (cfg : Option ReplicationConfig) (salt : Salt) (fault : Option String) :
    Except String (World Bytes Digest) :=
  match cfg, world.rows.get id with
  | none, _ => .error "replication is not enabled"
  | some _, none => .error "backup not found"
  | some cfg, some row =>
    if row.localPresent then .ok world
    else
      match row.replicaStatus, truthy row.replicaKey with
      | some .done, some key =>
        match fault, world.objects key with
        | some text, _ => .error text
        | none, none => .error "no such object" -- The target's own exception.
        | none, some payload =>
          if row.replicaSha256.any (· ≠ codec.sha256 payload) then
            .error "downloaded object failed sha256 verification"
          else do
            let content ← undoPayload codec salt payload key row.encrypted row.compressed cfg
            return (world.writeFile (openedPath cwd row.path) content).update id
              (Backup.retrieved (codec.size content))
      | _, _ => .error "no verified off-site copy recorded"

/-! ### Names that do not clash -/

/-- Neither path is the other's, nor its staging file's. -/
def Apart (path other : String) : Prop :=
  path ≠ other ∧ path ≠ other ++ ".new" ∧ other ≠ path ++ ".new"

instance (path other : String) : Decidable (Apart path other) :=
  inferInstanceAs (Decidable (_ ∧ _ ∧ _))

/-- The key of an encrypted source says `.2x` only where there is a second layer. -/
def Unambiguous (cfg : ReplicationConfig) (instanceName filename : String) : Prop :=
  cfg.doubleEncrypt = false →
    endsWith (objectKey cfg instanceName filename ".xml.enc") ".2x.xml.enc" = false

instance (cfg : ReplicationConfig) (instanceName filename : String) :
    Decidable (Unambiguous cfg instanceName filename) :=
  inferInstanceAs (Decidable (_ → _))

theorem openedPath_of_absolute (cwd : String) {path : String} (absolute : isAbsolute path) :
    openedPath cwd path = path :=
  if_pos absolute

theorem resolveBackupPath_of_absolute {path : String} (absolute : isAbsolute path) :
    resolveBackupPath path = path :=
  if_pos absolute

theorem isAbsolute_append {path : String} (absolute : isAbsolute path) (ending : String) :
    isAbsolute (path ++ ending) := by
  rw [isAbsolute, decide_eq_true_eq] at absolute ⊢
  rw [String.toList_append, List.head?_append, absolute]
  rfl

theorem ne_empty_of_absolute {path : String} (absolute : isAbsolute path) : path ≠ "" := by
  rintro rfl
  cases absolute

theorem endsWith_append (stem ending : String) : endsWith (stem ++ ending) ending = true := by
  simp [endsWith]

/-! ### What the operations come to -/

theorem bind_ok {α β : Type} {first : Except String α} {next : α → Except String β} {result : β}
    (ran : first >>= next = .ok result) : ∃ middle, first = .ok middle ∧ next middle = .ok result := by
  cases first with
  | error text => cases ran
  | ok middle => exact ⟨middle, rfl, ran⟩

/-! ### Payloads over any wrapper -/

/-- Whether an upload adds a layer under the replication password. -/
def addsLayer (cfg : ReplicationConfig) (encrypted : Bool) : Bool :=
  if encrypted then cfg.doubleEncrypt else cfg.encryptPlaintext

/-- The key says that the replication password is needed. -/
def layered (key : String) (encrypted : Bool) : Bool :=
  endsWith key ".2x.xml.enc" || endsWith key ".xml.enc" && !encrypted

section Layers

variable {Blob : Type} (gunzip : Blob → Except String Blob) (gzip : Blob → Blob)
  (encrypt : Blob → String → Blob) (decrypt : Blob → String → Except String Blob)

def unpackWith (compressed : Bool) (raw : Blob) : Except String Blob :=
  if compressed then gunzip raw else .ok raw

def packWith (compressed : Bool) (blob : Blob) : Blob :=
  if compressed then gzip blob else blob

def prepareWith (raw : Blob) (encrypted compressed : Bool) (cfg : ReplicationConfig) :
    Except String (Blob × String) := do
  let blob ← unpackWith gunzip compressed raw
  if encrypted then
    if cfg.doubleEncrypt then
      match truthy cfg.replicationPassword with
      | none => .error "double_encrypt is on but no replication password is set"
      | some password => .ok (encrypt blob password, ".2x.xml.enc")
    else .ok (blob, ".xml.enc")
  else if cfg.encryptPlaintext then
    match truthy cfg.replicationPassword with
    | none => .error "encrypt_plaintext is on but no replication password is set"
    | some password => .ok (encrypt blob password, ".xml.enc")
  else .ok (blob, ".xml")

def undoWith (payload : Blob) (key : String) (encrypted compressed : Bool)
    (cfg : ReplicationConfig) : Except String Blob := do
  let blob ←
    if endsWith key ".2x.xml.enc" then
      match truthy cfg.replicationPassword with
      | none => .error "replication password required to strip outer layer"
      | some password => decrypt payload password
    else if endsWith key ".xml.enc" && !encrypted then
      match truthy cfg.replicationPassword with
      | none => .error "replication password required to decrypt replica"
      | some password => decrypt payload password
    else .ok payload
  return packWith gzip compressed blob

variable {gunzip gzip encrypt decrypt} {raw payload content : Blob} {key suffix : String}
  {encrypted compressed : Bool} {cfg : ReplicationConfig}

/-- An object is the unpacked file, or that under a layer. -/
theorem prepareWith_ok
    (made : prepareWith gunzip encrypt raw encrypted compressed cfg = .ok (payload, suffix)) :
    ∃ blob, unpackWith gunzip compressed raw = .ok blob ∧
      ((addsLayer cfg encrypted = false ∧ payload = blob ∧
          suffix = if encrypted then ".xml.enc" else ".xml") ∨
        addsLayer cfg encrypted = true ∧ ∃ password, truthy cfg.replicationPassword = some password ∧
          payload = encrypt blob password ∧
          suffix = if encrypted then ".2x.xml.enc" else ".xml.enc") := by
  obtain ⟨blob, unpacked, rest⟩ := bind_ok made
  refine ⟨blob, unpacked, ?_⟩
  cases encrypted with
  | true =>
    rw [if_pos rfl] at rest
    by_cases double : cfg.doubleEncrypt = true
    · rw [if_pos double] at rest
      cases password : truthy cfg.replicationPassword with
      | none =>
        rw [password] at rest
        cases rest
      | some password' =>
        rw [password] at rest
        cases rest
        exact .inr ⟨double, password', rfl, rfl, rfl⟩
    · rw [if_neg double] at rest
      cases rest
      exact .inl ⟨Bool.eq_false_iff.mpr double, rfl, rfl⟩
  | false =>
    rw [if_neg (by simp)] at rest
    by_cases plaintext : cfg.encryptPlaintext = true
    · rw [if_pos plaintext] at rest
      cases password : truthy cfg.replicationPassword with
      | none =>
        rw [password] at rest
        cases rest
      | some password' =>
        rw [password] at rest
        cases rest
        exact .inr ⟨plaintext, password', rfl, rfl, rfl⟩
    · rw [if_neg plaintext] at rest
      cases rest
      exact .inl ⟨Bool.eq_false_iff.mpr plaintext, rfl, rfl⟩

theorem undoWith_bare (bare : layered key encrypted = false) :
    undoWith gzip decrypt payload key encrypted compressed cfg =
      .ok (packWith gzip compressed payload) := by
  obtain ⟨outer, wrapped⟩ := Bool.or_eq_false_iff.mp bare
  rw [undoWith, if_neg (by simp [outer]), if_neg (by simp [wrapped])]
  rfl

theorem undoWith_layered {password : String} (layer : layered key encrypted = true)
    (given : truthy cfg.replicationPassword = some password) :
    undoWith gzip decrypt payload key encrypted compressed cfg =
      (decrypt payload password).map (packWith gzip compressed) := by
  have mapped : ∀ result : Except String Blob,
      (result >>= fun blob => .ok (packWith gzip compressed blob)) =
        result.map (packWith gzip compressed) := by
    intro result
    cases result <;> rfl
  rw [← mapped, undoWith]
  by_cases outer : endsWith key ".2x.xml.enc" = true
  · rw [if_pos outer, given]
    rfl
  · have wrapped : (endsWith key ".xml.enc" && !encrypted) = true :=
      (Bool.or_eq_true_iff.mp layer).resolve_left outer
    rw [if_neg outer, if_pos wrapped, given]
    rfl

theorem undoWith_no_password (layer : layered key encrypted = true)
    (absent : truthy cfg.replicationPassword = none) :
    undoWith gzip decrypt payload key encrypted compressed cfg ≠ .ok content := by
  by_cases outer : endsWith key ".2x.xml.enc" = true
  · rw [undoWith, if_pos outer, absent]
    intro undone
    cases undone
  · have wrapped : (endsWith key ".xml.enc" && !encrypted) = true :=
      (Bool.or_eq_true_iff.mp layer).resolve_left outer
    rw [undoWith, if_neg outer, if_pos wrapped, absent]
    intro undone
    cases undone

/-- What is written back is what the object holds under its layer, if it has one. -/
theorem undoWith_ok
    (undone : undoWith gzip decrypt payload key encrypted compressed cfg = .ok content) :
    ∃ blob, content = packWith gzip compressed blob ∧
      ((layered key encrypted = true ∧ ∃ password, truthy cfg.replicationPassword = some password ∧
          decrypt payload password = .ok blob) ∨
        layered key encrypted = false ∧ payload = blob) := by
  cases layer : layered key encrypted with
  | false =>
    rw [undoWith_bare layer] at undone
    cases undone
    exact ⟨payload, rfl, .inr ⟨rfl, rfl⟩⟩
  | true =>
    cases given : truthy cfg.replicationPassword with
    | none => exact absurd undone (undoWith_no_password layer given)
    | some password =>
      rw [undoWith_layered layer given] at undone
      cases opened : decrypt payload password with
      | error text =>
        rw [opened] at undone
        cases undone
      | ok blob =>
        rw [opened] at undone
        cases undone
        exact ⟨blob, rfl, .inl ⟨rfl, password, rfl, opened⟩⟩

end Layers

theorem preparePayload_eq (salt : Salt) (raw : Bytes) (encrypted compressed : Bool)
    (cfg : ReplicationConfig) : preparePayload codec salt raw encrypted compressed cfg =
      prepareWith codec.gunzip (fun blob password => codec.encrypt password salt blob) raw encrypted
        compressed cfg :=
  rfl

theorem undoPayload_eq (salt : Salt) (payload : Bytes) (key : String) (encrypted compressed : Bool)
    (cfg : ReplicationConfig) : undoPayload codec salt payload key encrypted compressed cfg =
      undoWith (codec.gzip salt) (fun blob password => codec.decrypt password blob) payload key
        encrypted compressed cfg :=
  rfl

variable {codec}

/-- The four layouts of an object. -/
theorem preparePayload_ok {salt : Salt} {raw payload : Bytes} {encrypted compressed : Bool}
    {cfg : ReplicationConfig} {suffix : String}
    (made : preparePayload codec salt raw encrypted compressed cfg = .ok (payload, suffix)) :
    ∃ blob, codec.unpack compressed raw = .ok blob ∧
      ((encrypted = true ∧ cfg.doubleEncrypt = false ∧ payload = blob ∧ suffix = ".xml.enc") ∨
        (encrypted = false ∧ payload = blob ∧ suffix = ".xml") ∨
        ∃ password, truthy cfg.replicationPassword = some password ∧
          payload = codec.encrypt password salt blob ∧
          suffix = if encrypted then ".2x.xml.enc" else ".xml.enc") := by
  rw [preparePayload_eq] at made
  obtain ⟨blob, unpacked, ⟨bare, same, named⟩ | ⟨-, layer⟩⟩ := prepareWith_ok made
  · cases encrypted with
    | true => exact ⟨blob, unpacked, .inl ⟨rfl, bare, same, named⟩⟩
    | false => exact ⟨blob, unpacked, .inr (.inl ⟨rfl, same, named⟩)⟩
  · exact ⟨blob, unpacked, .inr (.inr layer)⟩

/-- What is written back is what the object holds under its replication layer, if it has one. -/
theorem undoPayload_ok {salt : Salt} {payload content : Bytes} {key : String}
    {encrypted compressed : Bool} {cfg : ReplicationConfig}
    (undone : undoPayload codec salt payload key encrypted compressed cfg = .ok content) :
    ∃ blob, content = codec.pack salt compressed blob ∧
      ((layered key encrypted = true ∧ ∃ password, truthy cfg.replicationPassword = some password ∧
          codec.decrypt password payload = .ok blob) ∨
        layered key encrypted = false ∧ payload = blob) := by
  rw [undoPayload_eq] at undone
  exact undoWith_ok undone

/-- `replicate_backup` over any payloads. -/
def replicateWith (prepare : Bytes → Bool → Bool → ReplicationConfig → Except String (Bytes × String))
    (sha256 : Bytes → Digest) (cwd : String) (world : World Bytes Digest) (id : Nat)
    (cfg : Option ReplicationConfig) (instanceName : String) (now : Nat)
    (attempt : Attempt Bytes) : Bool × World Bytes Digest :=
  match cfg, world.rows.get id with
  | none, _ | _, none => (false, world)
  | some cfg, some row =>
    if !row.localPresent then (false, world.markFailed id now "local file already pruned")
    else
      match world.files (openedPath cwd row.path) with
      | none => (false, world.markSkipped id now)
      | some raw =>
        match prepare raw row.encrypted row.compressed cfg with
        | .error text => (false, world.markFailed id now text)
        | .ok (payload, suffix) =>
          let key := objectKey cfg instanceName row.filename suffix
          match attempt with
          | .raises none text => (false, world.markFailed id now text)
          | .raises (some left) text => (false, (world.putObject key left).markFailed id now text)
          | .succeeds => (true, (world.putObject key payload).markDone id now key (sha256 payload))

theorem replicateBackup_eq (cwd : String) (world : World Bytes Digest) (id : Nat)
    (cfg : Option ReplicationConfig) (instanceName : String) (now : Nat) (salt : Salt)
    (attempt : Attempt Bytes) :
    replicateBackup codec cwd world id cfg instanceName now salt attempt =
      replicateWith (preparePayload codec salt) codec.sha256 cwd world id cfg instanceName now
        attempt :=
  rfl

/-- An upload that goes through. -/
theorem replicateWith_succeeds
    {prepare : Bytes → Bool → Bool → ReplicationConfig → Except String (Bytes × String)}
    (sha256 : Bytes → Digest) (cwd : String) {world : World Bytes Digest} {id : Nat}
    {cfg : ReplicationConfig} (instanceName : String) (now : Nat) {row : Backup Digest}
    {raw payload : Bytes} {suffix : String} (found : world.rows.get id = some row)
    (here : row.localPresent = true) (read : world.files (openedPath cwd row.path) = some raw)
    (made : prepare raw row.encrypted row.compressed cfg = .ok (payload, suffix)) :
    replicateWith prepare sha256 cwd world id (some cfg) instanceName now .succeeds =
      (true, (world.putObject (objectKey cfg instanceName row.filename suffix) payload).markDone id now
        (objectKey cfg instanceName row.filename suffix) (sha256 payload)) := by
  simp only [replicateWith, found, here, Bool.not_true, Bool.false_eq_true, if_false, read, made]

theorem replicateBackup_cases (cwd : String) (world : World Bytes Digest) (id : Nat)
    (cfg : Option ReplicationConfig) (instanceName : String) (now : Nat) (salt : Salt)
    (attempt : Attempt Bytes) {ok : Bool} {after : World Bytes Digest}
    (ran : replicateBackup codec cwd world id cfg instanceName now salt attempt = (ok, after)) :
    after = world ∨ after = world.markSkipped id now ∨
      (∃ objects text, after = { world with objects }.markFailed id now text) ∨
      ∃ settings row raw payload suffix, cfg = some settings ∧ world.rows.get id = some row ∧
        row.localPresent = true ∧ world.files (openedPath cwd row.path) = some raw ∧
        preparePayload codec salt raw row.encrypted row.compressed settings =
          .ok (payload, suffix) ∧
        after = (world.putObject (objectKey settings instanceName row.filename suffix) payload).markDone
          id now (objectKey settings instanceName row.filename suffix) (codec.sha256 payload) := by
  unfold replicateBackup at ran
  split at ran
  · cases ran
    exact .inl rfl
  · cases ran
    exact .inl rfl
  case h_3 settings row found =>
    split at ran
    · cases ran
      exact .inr (.inr (.inl ⟨world.objects, _, rfl⟩))
    case isFalse here =>
      split at ran
      · cases ran
        exact .inr (.inl rfl)
      case h_2 raw read =>
        split at ran
        · cases ran
          exact .inr (.inr (.inl ⟨world.objects, _, rfl⟩))
        case h_2 payload suffix made =>
          have local_ : row.localPresent = true := by simpa using here
          cases attempt with
          | succeeds =>
            cases ran
            exact .inr (.inr (.inr ⟨settings, row, raw, payload, suffix, rfl, found, local_, read,
              made, rfl⟩))
          | raises left text =>
            cases left with
            | none =>
              cases ran
              exact .inr (.inr (.inl ⟨world.objects, _, rfl⟩))
            | some left =>
              cases ran
              exact .inr (.inr (.inl ⟨_, _, rfl⟩))

/-- A retrieval that returns had nothing to do, or wrote the undone object to the row's path. -/
theorem retrieveReplica_ok [DecidableEq Digest] {cwd : String} {world after : World Bytes Digest}
    {id : Nat} {cfg : Option ReplicationConfig} {salt : Salt} {fault : Option String}
    (returned : retrieveReplica codec cwd world id cfg salt fault = .ok after) :
    after = world ∨ ∃ settings row key payload content, cfg = some settings ∧
      world.rows.get id = some row ∧ row.localPresent = false ∧ row.replicaStatus = some .done ∧
      row.replicaKey = some key ∧ world.objects key = some payload ∧
      (∀ digest, row.replicaSha256 = some digest → digest = codec.sha256 payload) ∧
      undoPayload codec salt payload key row.encrypted row.compressed settings = .ok content ∧
      after = (world.writeFile (openedPath cwd row.path) content).update id
        (Backup.retrieved (codec.size content)) := by
  unfold retrieveReplica at returned
  split at returned
  · cases returned
  · cases returned
  case h_3 settings row found =>
    split at returned
    · cases returned
      exact .inl rfl
    case isFalse away =>
      split at returned
      case h_1 key done recorded =>
        split at returned
        · cases returned
        · cases returned
        case h_3 payload stored =>
          split at returned
          · cases returned
          case isFalse same =>
            obtain ⟨content, undone, eq⟩ := bind_ok returned
            cases eq
            refine .inr ⟨settings, row, key, payload, content, rfl, found, by simpa using away,
              done, (Option.filter_eq_some_iff.mp recorded).1, stored, ?_, undone, rfl⟩
            intro digest held
            simpa [held] using same
      · cases returned

end PfsenseBackups.Replication

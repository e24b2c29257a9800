import PfsenseBackups.Runs
import PfsenseBackups.Tables
import Mathlib.Data.List.Sort

/-! `rotate_key`: every stored ciphertext under a fresh Fernet key, and the legacy keys pruned
from the secret-key file. A stop after any step leaves a state that some run reaches. -/

namespace PfsenseBackups.KeyRotation
open Runs Tables

/-- Fernet as the `cryptography` package documents it. A salt stands for the time and the IV
that go into a token. -/
structure Fernet (Key Text Salt Ct : Type) where
  encrypt : Key → Salt → Text → Ct
  decrypt : Key → Ct → Option Text
  decrypt_encrypt : ∀ key salt text, decrypt key (encrypt key salt text) = some text
  /-- What decrypts under a key was encrypted with it. -/
  authentic : ∀ key ct text, decrypt key ct = some text → ∃ salt, ct = encrypt key salt text
  decrypt_other : ∀ key other salt text, other ≠ key →
    decrypt other (encrypt key salt text) = none

/-! ### The database -/

/-- The ciphertext columns of an `Instance` row. -/
structure Instance (Ct : Type) where
  id : Nat
  usernameCt : Ct
  passwordCt : Ct
  backupEncryptPasswordCt : Option Ct

/-- The ciphertext column of a `Backup` row. -/
structure Backup (Ct : Type) where
  id : Nat
  encryptPasswordCt : Option Ct

/-- The ciphertext columns of the `ReplicationSettings` row. -/
structure ReplicationSettings (Ct : Type) where
  s3SecretAccessKeyCt : Option Ct
  sftpPasswordCt : Option Ct
  sftpPrivateKeyCt : Option Ct
  replicationPasswordCt : Option Ct

structure Db (Ct : Type) where
  instances : Table (Instance Ct) Instance.id
  backups : Table (Backup Ct) Backup.id
  replicationSettings : Option (ReplicationSettings Ct)

/-- A ciphertext column of one row. -/
inductive Column where
  | username (id : Nat)
  | password (id : Nat)
  | backupEncryptPassword (id : Nat)
  | encryptPassword (id : Nat)
  | s3SecretAccessKey
  | sftpPassword
  | sftpPrivateKey
  | replicationPassword
  deriving DecidableEq

def replicationColumns : List Column :=
  [.s3SecretAccessKey, .sftpPassword, .sftpPrivateKey, .replicationPassword]

section

variable {Key Text Salt Ct : Type}

/-- What a column holds, if it is not null. -/
def Db.ct (db : Db Ct) : Column → Option Ct
  | .username id => (db.instances.get id).map Instance.usernameCt
  | .password id => (db.instances.get id).map Instance.passwordCt
  | .backupEncryptPassword id => (db.instances.get id).bind Instance.backupEncryptPasswordCt
  | .encryptPassword id => (db.backups.get id).bind Backup.encryptPasswordCt
  | .s3SecretAccessKey => db.replicationSettings.bind ReplicationSettings.s3SecretAccessKeyCt
  | .sftpPassword => db.replicationSettings.bind ReplicationSettings.sftpPasswordCt
  | .sftpPrivateKey => db.replicationSettings.bind ReplicationSettings.sftpPrivateKeyCt
  | .replicationPassword => db.replicationSettings.bind ReplicationSettings.replicationPasswordCt

/-! ### Re-encryption -/

variable (fernet : Fernet Key Text Salt Ct)

/-- `MultiFernet.decrypt`: the first key that decrypts. -/
def multiDecrypt (keys : List Key) (ct : Ct) : Option Text :=
  keys.findSome? fun key => fernet.decrypt key ct

/-- `crypto.encrypt(crypto.decrypt(ct))`; encryption uses the first key. -/
def rotateCt (keys : List Key) (salt : Salt) (ct : Ct) : Option Ct := do
  let text ← multiDecrypt fernet keys ct
  let newest ← keys.head?
  return fernet.encrypt newest salt text

/-- The same for a column that may be null. -/
def rotateOptional (keys : List Key) (salt : Salt) : Option Ct → Option (Option Ct)
  | none => some none
  | some ct => (rotateCt fernet keys salt ct).map some

/-- The loop body of `_rotate_instance_rows`. -/
def rotateInstance (keys : List Key) (salt : Column → Salt) (row : Instance Ct) :
    Option (Instance Ct) := do
  let usernameCt ← rotateCt fernet keys (salt (.username row.id)) row.usernameCt
  let passwordCt ← rotateCt fernet keys (salt (.password row.id)) row.passwordCt
  let backupEncryptPasswordCt ← rotateOptional fernet keys (salt (.backupEncryptPassword row.id))
    row.backupEncryptPasswordCt
  return ⟨row.id, usernameCt, passwordCt, backupEncryptPasswordCt⟩

/-- The loop body of `_rotate_backup_rows`. -/
def rotateBackup (keys : List Key) (salt : Column → Salt) (row : Backup Ct) :
    Option (Backup Ct) := do
  let encryptPasswordCt ← rotateOptional fernet keys (salt (.encryptPassword row.id))
    row.encryptPasswordCt
  return ⟨row.id, encryptPasswordCt⟩

theorem rotateInstance_eq_some {keys : List Key} {salt : Column → Salt} {row row' : Instance Ct}
    (rotated : rotateInstance fernet keys salt row = some row') :
    row'.id = row.id ∧
      rotateCt fernet keys (salt (.username row.id)) row.usernameCt = some row'.usernameCt ∧
      rotateCt fernet keys (salt (.password row.id)) row.passwordCt = some row'.passwordCt ∧
      rotateOptional fernet keys (salt (.backupEncryptPassword row.id))
        row.backupEncryptPasswordCt = some row'.backupEncryptPasswordCt := by
  simp only [rotateInstance, Option.bind_eq_bind, Option.bind_eq_some_iff] at rotated
  obtain ⟨username, rotatedUsername, password, rotatedPassword, optional, rotatedOptional, eq⟩ :=
    rotated
  obtain rfl := Option.some.inj eq
  exact ⟨rfl, rotatedUsername, rotatedPassword, rotatedOptional⟩

theorem rotateBackup_eq_some {keys : List Key} {salt : Column → Salt} {row row' : Backup Ct}
    (rotated : rotateBackup fernet keys salt row = some row') :
    row'.id = row.id ∧
      rotateOptional fernet keys (salt (.encryptPassword row.id)) row.encryptPasswordCt =
        some row'.encryptPasswordCt := by
  simp only [rotateBackup, Option.bind_eq_bind, Option.bind_eq_some_iff] at rotated
  obtain ⟨optional, rotatedOptional, eq⟩ := rotated
  obtain rfl := Option.some.inj eq
  exact ⟨rfl, rotatedOptional⟩

/-- `_rotate_instance_rows`. -/
def rotateInstanceRows (keys : List Key) (salt : Column → Salt) (db : Db Ct) :
    Option (Db Ct) := do
  let instances ← db.instances.traverse (rotateInstance fernet keys salt)
    fun _ _ rotated => (rotateInstance_eq_some fernet rotated).1
  return { db with instances }

/-- The ids of the `Backup` rows that have a password, in order. -/
def encryptedIds (db : Db Ct) : List Nat :=
  ((db.backups.rows.filter fun row => row.encryptPasswordCt.isSome).map Backup.id).insertionSort (· ≤ ·)

/-- `.offset(offset).limit(chunk)`. -/
def chunkIds (db : Db Ct) (offset : Nat) : List Nat :=
  ((encryptedIds db).drop offset).take 500

/-- A row of a chunk is rewritten, another row is left. -/
def rotateListed (keys : List Key) (salt : Column → Salt) (ids : List Nat) (row : Backup Ct) :
    Option (Backup Ct) :=
  if row.id ∈ ids then rotateBackup fernet keys salt row else some row

theorem rotateListed_eq_some {keys : List Key} {salt : Column → Salt} {ids : List Nat}
    {row row' : Backup Ct} (rotated : rotateListed fernet keys salt ids row = some row') :
    row'.id = row.id ∧
      if row.id ∈ ids then
        rotateOptional fernet keys (salt (.encryptPassword row.id)) row.encryptPasswordCt =
          some row'.encryptPasswordCt
      else row'.encryptPasswordCt = row.encryptPasswordCt := by
  rw [rotateListed] at rotated
  by_cases listed : row.id ∈ ids
  · rw [if_pos listed] at rotated ⊢
    exact rotateBackup_eq_some fernet rotated
  · rw [if_neg listed] at rotated ⊢
    obtain rfl := Option.some.inj rotated
    exact ⟨rfl, rfl⟩

theorem rotateOptional_isSome {keys : List Key} {salt : Salt} {ct ct' : Option Ct}
    (rotated : rotateOptional fernet keys salt ct = some ct') : ct'.isSome = ct.isSome := by
  cases ct with
  | none => obtain rfl := Option.some.inj rotated; rfl
  | some ct =>
    obtain ⟨_, -, rfl⟩ := Option.map_eq_some_iff.mp rotated
    rfl

theorem rotateListed_isSome {keys : List Key} {salt : Column → Salt} {ids : List Nat}
    {row row' : Backup Ct} (rotated : rotateListed fernet keys salt ids row = some row') :
    row'.encryptPasswordCt.isSome = row.encryptPasswordCt.isSome := by
  have column := (rotateListed_eq_some fernet rotated).2
  split at column
  · exact rotateOptional_isSome fernet column
  · rw [column]

/-- One chunk of `_rotate_backup_rows`. -/
def rotateChunk (keys : List Key) (salt : Column → Salt) (offset : Nat) (db : Db Ct) :
    Option (Db Ct) := do
  let backups ← db.backups.traverse (rotateListed fernet keys salt (chunkIds db offset))
    fun _ _ rotated => (rotateListed_eq_some fernet rotated).1
  return { db with backups }

/-! ### What the loops do to the columns -/

def Column.inInstance : Column → Prop
  | .username _ | .password _ | .backupEncryptPassword _ => True
  | _ => False

/-- The touched columns are re-encrypted and the others are left. -/
def Rewritten (keys : List Key) (touched : Column → Prop) (db db' : Db Ct) : Prop :=
  ∀ column, (touched column →
      ∃ salt, rotateOptional fernet keys salt (db.ct column) = some (db'.ct column)) ∧
    (¬ touched column → db'.ct column = db.ct column)

theorem inInstance_replication : ∀ column ∈ replicationColumns, ¬ column.inInstance := by
  simp [replicationColumns, Column.inInstance]

theorem rotateInstanceRows_rewritten {keys : List Key} {salt : Column → Salt} {db db' : Db Ct}
    (rotated : rotateInstanceRows fernet keys salt db = some db') :
    Rewritten fernet keys Column.inInstance db db' := by
  obtain ⟨instances, changed, eq⟩ := Option.bind_eq_some_iff.mp rotated
  obtain rfl := Option.some.inj eq
  have columns : ∀ id,
      rotateOptional fernet keys (salt (.username id)) (db.ct (.username id)) =
        some ((instances.get id).map Instance.usernameCt) ∧
      rotateOptional fernet keys (salt (.password id)) (db.ct (.password id)) =
        some ((instances.get id).map Instance.passwordCt) ∧
      rotateOptional fernet keys (salt (.backupEncryptPassword id))
          (db.ct (.backupEncryptPassword id)) =
        some ((instances.get id).bind Instance.backupEncryptPasswordCt) := by
    intro id
    have pair := Table.get_traverse changed id
    simp only [Db.ct]
    generalize db.instances.get id = old at pair
    generalize instances.get id = new at pair
    cases pair with
    | none => exact ⟨rfl, rfl, rfl⟩
    | @some row row' both =>
      obtain ⟨rfl, rotated⟩ := both
      obtain ⟨-, username, password, optional⟩ := rotateInstance_eq_some fernet rotated
      refine ⟨?_, ?_, optional⟩
      · simp [rotateOptional, username]
      · simp [rotateOptional, password]
  intro column
  cases column with
  | username id => exact ⟨fun _ => ⟨_, (columns id).1⟩, fun other => (other trivial).elim⟩
  | password id => exact ⟨fun _ => ⟨_, (columns id).2.1⟩, fun other => (other trivial).elim⟩
  | backupEncryptPassword id =>
    exact ⟨fun _ => ⟨_, (columns id).2.2⟩, fun other => (other trivial).elim⟩
  | _ => exact ⟨False.elim, fun _ => rfl⟩

/-- The column of a `Backup` row that a chunk rewrites. -/
def Column.inChunk (db : Db Ct) (offset : Nat) (column : Column) : Prop :=
  ∃ id ∈ chunkIds db offset, column = .encryptPassword id

theorem inChunk_replication {db : Db Ct} {offset : Nat} :
    ∀ column ∈ replicationColumns, ¬ column.inChunk db offset := by
  rintro _ member ⟨id, -, rfl⟩
  simp [replicationColumns] at member

theorem rotateChunk_rewritten {keys : List Key} {salt : Column → Salt} {offset : Nat}
    {db db' : Db Ct} (rotated : rotateChunk fernet keys salt offset db = some db') :
    Rewritten fernet keys (Column.inChunk db offset) db db' := by
  obtain ⟨backups, changed, eq⟩ := Option.bind_eq_some_iff.mp rotated
  obtain rfl := Option.some.inj eq
  intro column
  cases column with
  | encryptPassword id =>
    have pair := Table.get_traverse changed id
    simp only [Db.ct]
    generalize db.backups.get id = old at pair
    generalize backups.get id = new at pair
    cases pair with
    | none => exact ⟨fun _ => ⟨salt (.encryptPassword id), rfl⟩, fun _ => rfl⟩
    | @some row row' both =>
      obtain ⟨rfl, rotated⟩ := both
      have column := (rotateListed_eq_some fernet rotated).2
      refine ⟨fun touched => ?_, fun untouched => ?_⟩
      · obtain ⟨id, listed, eq⟩ := touched
        cases eq
        rw [if_pos listed] at column
        exact ⟨_, column⟩
      · rw [if_neg fun listed => untouched ⟨_, listed, rfl⟩] at column
        exact column
  | _ => exact ⟨fun ⟨_, _, eq⟩ => (nomatch eq), fun _ => rfl⟩

theorem inInstance_inChunk {db : Db Ct} {offset : Nat} {column : Column}
    (inside : column.inInstance) : ¬ column.inChunk db offset := by
  rintro ⟨id, -, rfl⟩
  exact inside

/-- A chunk leaves the list of rows that are still to come. -/
theorem rotateChunk_encryptedIds {keys : List Key} {salt : Column → Salt} {offset : Nat}
    {db db' : Db Ct} (rotated : rotateChunk fernet keys salt offset db = some db') :
    encryptedIds db' = encryptedIds db := by
  obtain ⟨backups, changed, eq⟩ := Option.bind_eq_some_iff.mp rotated
  obtain rfl := Option.some.inj eq
  have ids := filter_ids_of_mapM
    (fun _ _ rotated => (rotateListed_eq_some fernet rotated).1)
    (fun _ _ rotated => rotateListed_isSome fernet rotated) (Table.mapM_of_traverse changed)
  exact congrArg (List.insertionSort (· ≤ ·)) ids

theorem mem_encryptedIds {db : Db Ct} {id : Nat} :
    id ∈ encryptedIds db ↔ (db.ct (.encryptPassword id)).isSome := by
  rw [encryptedIds, List.mem_insertionSort, List.mem_map]
  constructor
  · rintro ⟨row, mem, rfl⟩
    obtain ⟨mem, stored⟩ := List.mem_filter.mp mem
    simpa [Db.ct, Table.get_of_mem mem] using stored
  · intro stored
    obtain ⟨ct, eq⟩ := Option.isSome_iff_exists.mp stored
    obtain ⟨row, found, stored⟩ := Option.bind_eq_some_iff.mp eq
    refine ⟨row, List.mem_filter.mpr ⟨Table.mem_of_get found, ?_⟩, Table.id_of_get found⟩
    rw [stored]
    rfl

/-- The column is null or decrypts. -/
def decrypts (keys : List Key) (ct : Option Ct) : Bool :=
  ct.all fun ct => (multiDecrypt fernet keys ct).isSome

/-- `_verify_all_rows_decrypt` finds nothing bad. -/
def verifyAllRowsDecrypt (keys : List Key) (db : Db Ct) : Bool :=
  (db.instances.rows.all fun row => decrypts fernet keys (some row.usernameCt) &&
      decrypts fernet keys (some row.passwordCt) &&
      decrypts fernet keys row.backupEncryptPasswordCt) &&
    db.backups.rows.all fun row => decrypts fernet keys row.encryptPasswordCt

theorem decrypts_of_verify {keys : List Key} {db : Db Ct}
    (sound : verifyAllRowsDecrypt fernet keys db = true) {column : Column}
    (other : column ∉ replicationColumns) : decrypts fernet keys (db.ct column) = true := by
  rw [verifyAllRowsDecrypt, Bool.and_eq_true, List.all_eq_true, List.all_eq_true] at sound
  obtain ⟨instances, backups⟩ := sound
  cases found : db.ct column with
  | none => rfl
  | some ct =>
    have columns : ∀ id row, db.instances.get id = some row →
        decrypts fernet keys (some row.usernameCt) = true ∧
        decrypts fernet keys (some row.passwordCt) = true ∧
        decrypts fernet keys row.backupEncryptPasswordCt = true := by
      intro id row eq
      have all := instances row (Table.mem_of_get eq)
      simpa only [Bool.and_eq_true, and_assoc] using all
    cases column with
    | username id =>
      obtain ⟨row, eq, rfl⟩ := Option.map_eq_some_iff.mp found
      exact (columns id row eq).1
    | password id =>
      obtain ⟨row, eq, rfl⟩ := Option.map_eq_some_iff.mp found
      exact (columns id row eq).2.1
    | backupEncryptPassword id =>
      obtain ⟨row, eq, stored⟩ := Option.bind_eq_some_iff.mp found
      exact stored ▸ (columns id row eq).2.2
    | encryptPassword id =>
      obtain ⟨row, eq, stored⟩ := Option.bind_eq_some_iff.mp found
      exact stored ▸ backups row (Table.mem_of_get eq)
    | _ => exact (other (by decide)).elim

theorem verify_of_decrypts {keys : List Key} {db : Db Ct}
    (all : ∀ column, column ∉ replicationColumns → decrypts fernet keys (db.ct column) = true) :
    verifyAllRowsDecrypt fernet keys db = true := by
  rw [verifyAllRowsDecrypt, Bool.and_eq_true, List.all_eq_true, List.all_eq_true]
  constructor
  · intro row mem
    have found := Table.get_of_mem mem
    have username := all (.username row.id) (by simp [replicationColumns])
    have password := all (.password row.id) (by simp [replicationColumns])
    have optional := all (.backupEncryptPassword row.id) (by simp [replicationColumns])
    simp only [Db.ct, found, Option.map_some, Option.bind_some] at username password optional
    rw [username, password, optional]
    rfl
  · intro row mem
    have found := Table.get_of_mem mem
    have column := all (.encryptPassword row.id) (by simp [replicationColumns])
    simpa only [Db.ct, found, Option.bind_some] using column

/-! ### The run -/

/-- How far `rotate_key` has come. -/
inductive Phase (Key : Type) where
  | start
  | loaded (oldKeys : List Key)
  | instances (transitional : List Key)
  | backups (transitional : List Key) (offset : Nat)
  | verify
  | prune
  | returned (code : Nat)
  | raised

structure State (Key Ct : Type) where
  phase : Phase Key
  keyFile : Option (List Key)
  db : Db Ct

/-- The keys in the file. -/
def State.keys (state : State Key Ct) : List Key :=
  state.keyFile.getD []

/-- What an exception in a phase comes to: the `try` turns it into the exit code 1. -/
def failed : Phase Key → Option (Phase Key)
  | .start | .loaded _ | .prune => some .raised
  | .instances _ | .backups _ _ | .verify => some (.returned 1)
  | .returned _ | .raised => none

/-- The steps of `rotate_key`. Key files are written and transactions committed as a whole. -/
inductive Op where
  | ensureKeys | writeTransitional | rotateInstances | rotateChunk | chunksDone | verify | prune
  | fail

inductive Step (newKey : Key) : State Key Ct → Op → State Key Ct → Prop
  | ensureKeys {keys db} (nonempty : keys ≠ []) :
    Step newKey ⟨.start, some keys, db⟩ .ensureKeys ⟨.loaded keys, some keys, db⟩
  | firstBoot (generated : Key) {db} :
    Step newKey ⟨.start, none, db⟩ .ensureKeys ⟨.loaded [generated], some [generated], db⟩
  | writeTransitional {oldKeys file db} :
    Step newKey ⟨.loaded oldKeys, file, db⟩ .writeTransitional
      ⟨.instances (newKey :: oldKeys), some (newKey :: oldKeys), db⟩
  | rotateInstances {keys file db db'} (salt : Column → Salt)
      (rotated : rotateInstanceRows fernet keys salt db = some db') :
    Step newKey ⟨.instances keys, file, db⟩ .rotateInstances ⟨.backups keys 0, file, db'⟩
  | rotateChunk {keys offset file db db'} (salt : Column → Salt)
      (more : chunkIds db offset ≠ [])
      (rotated : rotateChunk fernet keys salt offset db = some db') :
    Step newKey ⟨.backups keys offset, file, db⟩ .rotateChunk
      ⟨.backups keys (offset + 500), file, db'⟩
  | chunksDone {keys offset file db} (none : chunkIds db offset = []) :
    Step newKey ⟨.backups keys offset, file, db⟩ .chunksDone ⟨.verify, file, db⟩
  | verify {file db} (sound : verifyAllRowsDecrypt fernet [newKey] db = true) :
    Step newKey ⟨.verify, file, db⟩ .verify ⟨.prune, file, db⟩
  | prune {file db} :
    Step newKey ⟨.prune, file, db⟩ .prune ⟨.returned 0, some [newKey], db⟩
  | fail {phase phase' file db} (stops : failed phase = some phase') :
    Step newKey ⟨phase, file, db⟩ .fail ⟨phase', file, db⟩

/-- What a column opens to: nothing if it is null, else the text or a failure. -/
def State.opens (state : State Key Ct) (column : Column) : Option (Option Text) :=
  (state.db.ct column).map (multiDecrypt fernet state.keys)

/-- Every column opens to what it opened to at the start, and the exit code 0 leaves one key. -/
structure Safe (start state : State Key Ct) : Prop where
  opens : ∀ column, state.opens fernet column = start.opens fernet column
  single : state.phase = .returned 0 → ∃ key, state.keyFile = some [key]

/-! ### Keys -/

theorem decrypt_unique {key other : Key} {ct : Ct} {text text' : Text}
    (first : fernet.decrypt key ct = some text) (second : fernet.decrypt other ct = some text') :
    other = key := by
  obtain ⟨salt, rfl⟩ := fernet.authentic key ct text first
  by_contra ne
  rw [fernet.decrypt_other key other salt text ne] at second
  cases second

theorem multiDecrypt_eq_some {keys : List Key} {ct : Ct} {text : Text} :
    multiDecrypt fernet keys ct = some text ↔ ∃ key ∈ keys, fernet.decrypt key ct = some text := by
  constructor
  · exact List.exists_of_findSome?_eq_some
  · rintro ⟨key, mem, opens⟩
    cases found : multiDecrypt fernet keys ct with
    | none =>
      have fails := List.findSome?_eq_none_iff.mp found key mem
      rw [opens] at fails
      cases fails
    | some text' =>
      obtain ⟨other, -, opens'⟩ := List.exists_of_findSome?_eq_some found
      obtain rfl := decrypt_unique fernet opens opens'
      exact opens'.symm.trans opens

theorem multiDecrypt_mono {keys more : List Key} (subset : keys ⊆ more) {ct : Ct} {text : Text}
    (opens : multiDecrypt fernet keys ct = some text) : multiDecrypt fernet more ct = some text := by
  obtain ⟨key, mem, opens⟩ := (multiDecrypt_eq_some fernet).mp opens
  exact (multiDecrypt_eq_some fernet).mpr ⟨key, subset mem, opens⟩

theorem multiDecrypt_encrypt {keys : List Key} {key : Key} (mem : key ∈ keys) (salt : Salt)
    (text : Text) : multiDecrypt fernet keys (fernet.encrypt key salt text) = some text :=
  (multiDecrypt_eq_some fernet).mpr ⟨key, mem, fernet.decrypt_encrypt key salt text⟩

/-- A column is as it was, or holds what it opened to under the new key. -/
def Carried (keys : List Key) (newKey : Key) (old now : Option Ct) : Prop :=
  now = old ∨ ∃ ct salt text, old = some ct ∧ multiDecrypt fernet keys ct = some text ∧
    now = some (fernet.encrypt newKey salt text)

variable {fernet} {keys more : List Key} {newKey : Key} {old now : Option Ct}

theorem Carried.opens (carried : Carried fernet keys newKey old now)
    (readable : old.map (multiDecrypt fernet keys) ≠ some none) (subset : keys ⊆ more)
    (accepted : newKey ∈ more ∨ now = old) :
    now.map (multiDecrypt fernet more) = old.map (multiDecrypt fernet keys) := by
  have same : old.map (multiDecrypt fernet more) = old.map (multiDecrypt fernet keys) := by
    cases old with
    | none => rfl
    | some ct =>
      cases opens : multiDecrypt fernet keys ct with
      | none => exact (readable (congrArg some opens)).elim
      | some text => simp [opens, multiDecrypt_mono fernet subset opens]
  rcases carried with rfl | ⟨ct, salt, text, rfl, opens, rfl⟩
  · exact same
  · rcases accepted with mem | unchanged
    · simp [opens, multiDecrypt_encrypt fernet mem]
    · rw [unchanged, same]

theorem Carried.rotate (carried : Carried fernet keys newKey old now)
    (readable : old.map (multiDecrypt fernet keys) ≠ some none) (subset : keys ⊆ more)
    (newest : more.head? = some newKey) {salt : Salt} {now' : Option Ct}
    (rotated : rotateOptional fernet more salt now = some now') :
    Carried fernet keys newKey old now' ∧ decrypts fernet [newKey] now' = true := by
  have opens := carried.opens readable subset (.inl (List.mem_of_mem_head? newest))
  cases now with
  | none =>
    obtain rfl := Option.some.inj rotated
    exact ⟨carried, rfl⟩
  | some ct =>
    obtain ⟨ct', steps, rfl⟩ := Option.map_eq_some_iff.mp rotated
    simp only [rotateCt, newest, Option.bind_eq_bind, Option.bind_eq_some_iff] at steps
    obtain ⟨text, opened, _, head, eq⟩ := steps
    obtain rfl := Option.some.inj head
    obtain rfl := Option.some.inj eq
    rw [Option.map_some, opened] at opens
    obtain ⟨first, rfl, opened⟩ := Option.map_eq_some_iff.mp opens.symm
    refine ⟨.inr ⟨first, salt, text, rfl, opened, rfl⟩, ?_⟩
    rw [decrypts, Option.all_some, multiDecrypt_encrypt fernet List.mem_cons_self]
    rfl

/-! ### What holds after every step -/

variable (fernet)

/-- Every column that the verification reads opens under the new key alone. -/
def Verified (newKey : Key) (db : Db Ct) : Prop :=
  ∀ column, column ∉ replicationColumns → decrypts fernet [newKey] (db.ct column) = true

/-- The old keys are in the file, and the new one too once a column was re-encrypted. -/
def Legacy (newKey : Key) (start state : State Key Ct) : Prop :=
  start.keys ⊆ state.keys ∧ (newKey ∈ state.keys ∨ state.db = start.db)

/-- What a phase relies on in the key file and the database. -/
def PhaseHolds (newKey : Key) (start state : State Key Ct) : Prop :=
  match state.phase with
  | .start => state.keyFile = start.keyFile ∧ state.db = start.db
  | .loaded oldKeys =>
    state.keyFile = some oldKeys ∧ start.keys ⊆ oldKeys ∧ state.db = start.db
  | .instances keys | .backups keys _ =>
    state.keyFile = some keys ∧ start.keys ⊆ keys ∧ keys.head? = some newKey
  | .verify => start.keys ⊆ state.keys ∧ newKey ∈ state.keys
  | .prune => (start.keys ⊆ state.keys ∧ newKey ∈ state.keys) ∧ Verified fernet newKey state.db
  | .returned 0 => state.keyFile = some [newKey] ∧ Verified fernet newKey state.db
  | .returned (_ + 1) | .raised => Legacy newKey start state

structure Holds (newKey : Key) (start state : State Key Ct) : Prop where
  carried : ∀ column,
    Carried fernet start.keys newKey (start.db.ct column) (state.db.ct column)
  replication : ∀ column ∈ replicationColumns, state.db.ct column = start.db.ct column
  phase : PhaseHolds fernet newKey start state

variable {fernet} {start state after : State Key Ct}

theorem PhaseHolds.legacy (holds : PhaseHolds fernet newKey start state)
    (unpruned : state.phase ≠ .returned 0) : Legacy newKey start state := by
  obtain ⟨phase, file, db⟩ := state
  cases phase with
  | start =>
    obtain ⟨rfl, rfl⟩ := holds
    exact ⟨List.Subset.refl _, .inr rfl⟩
  | loaded oldKeys =>
    obtain ⟨rfl, subset, rfl⟩ := holds
    exact ⟨subset, .inr rfl⟩
  | instances keys =>
    obtain ⟨rfl, subset, newest⟩ := holds
    exact ⟨subset, .inl (List.mem_of_mem_head? newest)⟩
  | backups keys offset =>
    obtain ⟨rfl, subset, newest⟩ := holds
    exact ⟨subset, .inl (List.mem_of_mem_head? newest)⟩
  | verify => exact ⟨holds.1, .inl holds.2⟩
  | prune => exact ⟨holds.1.1, .inl holds.1.2⟩
  | returned code =>
    cases code with
    | zero => exact (unpruned rfl).elim
    | succ code => exact holds
  | raised => exact holds

/-- A rewrite of columns of `Instance` and `Backup` rows. -/
theorem Holds.rewrite (holds : Holds fernet newKey start state)
    (readable : ∀ column, start.opens fernet column ≠ some none)
    (subset : start.keys ⊆ more) (newest : more.head? = some newKey) {touched : Column → Prop}
    (own : ∀ column ∈ replicationColumns, ¬ touched column) {db : Db Ct}
    (rewritten : Rewritten fernet more touched state.db db) :
    (∀ column, Carried fernet start.keys newKey (start.db.ct column) (db.ct column)) ∧
      (∀ column ∈ replicationColumns, db.ct column = start.db.ct column) ∧
      ∀ column, touched column → decrypts fernet [newKey] (db.ct column) = true := by
  have rotates : ∀ column, touched column →
      Carried fernet start.keys newKey (start.db.ct column) (db.ct column) ∧
      decrypts fernet [newKey] (db.ct column) = true := by
    intro column touch
    obtain ⟨salt, rotated⟩ := (rewritten column).1 touch
    exact (holds.carried column).rotate (readable column) subset newest rotated
  refine ⟨fun column => ?_, fun column member => ?_, fun column touch => (rotates column touch).2⟩
  · by_cases touch : touched column
    · exact (rotates column touch).1
    · rw [(rewritten column).2 touch]
      exact holds.carried column
  · rw [(rewritten column).2 (own column member)]
    exact holds.replication column member

theorem Holds.step {op : Op} (readable : ∀ column, start.opens fernet column ≠ some none)
    (holds : Holds fernet newKey start state) (step : Step fernet newKey state op after) :
    Holds fernet newKey start after := by
  cases step with
  | ensureKeys nonempty =>
    obtain ⟨file, db⟩ := holds.phase
    refine ⟨holds.carried, holds.replication, rfl, ?_, db⟩
    rw [State.keys, ← file]
    exact List.Subset.refl _
  | firstBoot generated =>
    obtain ⟨file, db⟩ := holds.phase
    refine ⟨holds.carried, holds.replication, rfl, ?_, db⟩
    rw [State.keys, ← file]
    exact List.nil_subset _
  | writeTransitional =>
    obtain ⟨-, subset, -⟩ := holds.phase
    exact ⟨holds.carried, holds.replication, rfl, List.subset_cons_of_subset _ subset, rfl⟩
  | rotateInstances salt rotated =>
    obtain ⟨file, subset, newest⟩ := holds.phase
    obtain ⟨carried, replication, -⟩ := holds.rewrite readable subset newest
      inInstance_replication (rotateInstanceRows_rewritten fernet rotated)
    exact ⟨carried, replication, file, subset, newest⟩
  | rotateChunk salt more rotated =>
    obtain ⟨file, subset, newest⟩ := holds.phase
    obtain ⟨carried, replication, -⟩ := holds.rewrite readable subset newest
      inChunk_replication (rotateChunk_rewritten fernet rotated)
    exact ⟨carried, replication, file, subset, newest⟩
  | chunksDone none =>
    obtain ⟨rfl, subset, newest⟩ := holds.phase
    exact ⟨holds.carried, holds.replication, subset, List.mem_of_mem_head? newest⟩
  | verify sound =>
    exact ⟨holds.carried, holds.replication, holds.phase,
      fun _ other => decrypts_of_verify fernet sound other⟩
  | prune => exact ⟨holds.carried, holds.replication, rfl, holds.phase.2⟩
  | @fail phase phase' file db stops =>
    have unpruned : phase ≠ .returned 0 := by rintro rfl; cases stops
    have legacy : Legacy newKey start ⟨phase, file, db⟩ := holds.phase.legacy unpruned
    refine ⟨holds.carried, holds.replication, ?_⟩
    cases phase <;> cases stops <;> exact legacy

/-- A column that opens under the new key alone opens to its old text there. -/
theorem Carried.opens_pruned (carried : Carried fernet keys newKey old now)
    (readable : old.map (multiDecrypt fernet keys) ≠ some none)
    (verified : decrypts fernet [newKey] now = true) :
    now.map (multiDecrypt fernet [newKey]) = old.map (multiDecrypt fernet keys) := by
  have both := carried.opens readable (List.subset_cons_self newKey keys)
    (.inl List.mem_cons_self)
  rw [← both]
  cases now with
  | none => rfl
  | some ct =>
    obtain ⟨text, opens⟩ := Option.isSome_iff_exists.mp verified
    have wider := multiDecrypt_mono fernet
      (List.cons_subset_cons newKey (List.nil_subset keys)) opens
    simp [opens, wider]

theorem Holds.safe (holds : Holds fernet newKey start state)
    (readable : ∀ column, start.opens fernet column ≠ some none)
    (unset : ∀ column ∈ replicationColumns, start.db.ct column = none) :
    Safe fernet start state := by
  by_cases pruned : state.phase = .returned 0
  · have last := holds.phase
    rw [PhaseHolds, pruned] at last
    obtain ⟨file, verified⟩ := last
    refine ⟨fun column => ?_, fun _ => ⟨newKey, file⟩⟩
    simp only [State.opens, State.keys, file, Option.getD_some]
    by_cases member : column ∈ replicationColumns
    · rw [holds.replication column member, unset column member]
      rfl
    · exact (holds.carried column).opens_pruned (readable column) (verified column member)
  · obtain ⟨subset, accepted⟩ := holds.phase.legacy pruned
    refine ⟨fun column => (holds.carried column).opens (readable column) subset ?_,
      fun success => (pruned success).elim⟩
    exact accepted.imp_right fun unchanged => by rw [unchanged]

/-! ### A run to the end -/

theorem rotateOptional_defined (salt : Salt)
    (readable : now.map (multiDecrypt fernet more) ≠ some none)
    (newest : more.head? = some newKey) :
    ∃ now', rotateOptional fernet more salt now = some now' := by
  cases now with
  | none => exact ⟨none, rfl⟩
  | some ct =>
    cases opens : multiDecrypt fernet more ct with
    | none => exact (readable (congrArg some opens)).elim
    | some text =>
      exact ⟨some (fernet.encrypt newKey salt text),
        by simp [rotateOptional, rotateCt, opens, newest]⟩

theorem rotateCt_defined (salt : Salt) {ct : Ct}
    (readable : some (multiDecrypt fernet more ct) ≠ some none)
    (newest : more.head? = some newKey) : ∃ ct', rotateCt fernet more salt ct = some ct' := by
  have column : (some ct).map (multiDecrypt fernet more) ≠ some none := readable
  obtain ⟨now, rotated⟩ := rotateOptional_defined salt column newest
  obtain ⟨ct', steps, -⟩ := Option.map_eq_some_iff.mp rotated
  exact ⟨ct', steps⟩

theorem rotateInstanceRows_defined (salt : Column → Salt) {db : Db Ct}
    (readable : ∀ column, (db.ct column).map (multiDecrypt fernet more) ≠ some none)
    (newest : more.head? = some newKey) :
    ∃ db', rotateInstanceRows fernet more salt db = some db' := by
  have defined : ∀ row ∈ db.instances.rows, ∃ row', rotateInstance fernet more salt row = some row' := by
    intro row mem
    have found := Table.get_of_mem mem
    have username := readable (.username row.id)
    have password := readable (.password row.id)
    have optional := readable (.backupEncryptPassword row.id)
    simp only [Db.ct, found, Option.map_some, Option.bind_some] at username password optional
    obtain ⟨_, rotatedUsername⟩ := rotateCt_defined (salt (.username row.id)) username newest
    obtain ⟨_, rotatedPassword⟩ := rotateCt_defined (salt (.password row.id)) password newest
    obtain ⟨_, rotatedOptional⟩ :=
      rotateOptional_defined (salt (.backupEncryptPassword row.id)) optional newest
    simp only [rotateInstance, rotatedUsername, rotatedPassword, rotatedOptional]
    exact ⟨_, rfl⟩
  obtain ⟨instances, changed⟩ := Table.exists_traverse defined
  exact ⟨{ db with instances }, by rw [rotateInstanceRows, changed]; rfl⟩

theorem rotateChunk_defined (salt : Column → Salt) (offset : Nat) {db : Db Ct}
    (readable : ∀ column, (db.ct column).map (multiDecrypt fernet more) ≠ some none)
    (newest : more.head? = some newKey) :
    ∃ db', rotateChunk fernet more salt offset db = some db' := by
  have defined : ∀ row ∈ db.backups.rows, ∃ row',
      rotateListed fernet more salt (chunkIds db offset) row = some row' := by
    intro row mem
    by_cases listed : row.id ∈ chunkIds db offset
    · have column := readable (.encryptPassword row.id)
      simp only [Db.ct, Table.get_of_mem mem, Option.bind_some] at column
      obtain ⟨_, rotated⟩ :=
        rotateOptional_defined (salt (.encryptPassword row.id)) column newest
      simp only [rotateListed, if_pos listed, rotateBackup, rotated]
      exact ⟨_, rfl⟩
    · exact ⟨row, if_neg listed⟩
  obtain ⟨backups, changed⟩ := Table.exists_traverse defined
  exact ⟨{ db with backups }, by rw [rotateChunk, changed]; rfl⟩

/-- The columns stay readable with the keys that a phase before the pruning works with. -/
theorem Holds.readable (holds : Holds fernet newKey start state)
    (readable : ∀ column, start.opens fernet column ≠ some none) (subset : start.keys ⊆ more)
    (newest : more.head? = some newKey) (column : Column) :
    (state.db.ct column).map (multiDecrypt fernet more) ≠ some none := by
  rw [(holds.carried column).opens (readable column) subset
    (.inl (List.mem_of_mem_head? newest))]
  exact readable column

variable (fernet) in
/-- The rows that the chunks before an offset listed, and the instances, are under the new key. -/
structure Rotated (newKey : Key) (offset : Nat) (db : Db Ct) : Prop where
  instances : ∀ column : Column, column.inInstance →
    decrypts fernet [newKey] (db.ct column) = true
  backups : ∀ id ∈ (encryptedIds db).take offset,
    decrypts fernet [newKey] (db.ct (.encryptPassword id)) = true

theorem Rotated.verified {offset : Nat} {db : Db Ct} (rotated : Rotated fernet newKey offset db)
    (done : chunkIds db offset = []) : Verified fernet newKey db := by
  have covered : (encryptedIds db).take offset = encryptedIds db := by
    have rest : (encryptedIds db).drop offset = [] := by
      rcases List.take_eq_nil_iff.mp done with zero | rest
      · cases zero
      · exact rest
    rw [List.take_of_length_le (List.drop_eq_nil_iff.mp rest)]
  intro column other
  cases column with
  | encryptPassword id =>
    cases stored : db.ct (.encryptPassword id) with
    | none => rfl
    | some ct =>
      have listed : id ∈ encryptedIds db := mem_encryptedIds.mpr (by rw [stored]; rfl)
      rw [← covered] at listed
      exact stored ▸ rotated.backups id listed
  | username id => exact rotated.instances _ trivial
  | password id => exact rotated.instances _ trivial
  | backupEncryptPassword id => exact rotated.instances _ trivial
  | _ => exact (other (by decide)).elim

/-- The chunk loop comes to its end with every `Backup` row under the new key. -/
theorem chunks_run (salt : Column → Salt)
    (readable : ∀ column, start.opens fernet column ≠ some none) (rounds : Nat) :
    ∀ (offset : Nat) (file : Option (List Key)) (db : Db Ct),
      (encryptedIds db).length ≤ offset + rounds →
      Holds fernet newKey start ⟨.backups more offset, file, db⟩ →
      Rotated fernet newKey offset db →
      ∃ db', Reach (Step fernet newKey) unguarded ⟨.backups more offset, file, db⟩
          ⟨.verify, file, db'⟩ ∧ Verified fernet newKey db' := by
  induction rounds with
  | zero =>
    intro offset file db short holds rotated
    have done : chunkIds db offset = [] := by
      rw [chunkIds, List.drop_eq_nil_of_le (by simpa using short), List.take_nil]
    exact ⟨db, .single ⟨.chunksDone, trivial, .chunksDone done⟩, rotated.verified done⟩
  | succ rounds ih =>
    intro offset file db short holds rotated
    by_cases done : chunkIds db offset = []
    · exact ⟨db, .single ⟨.chunksDone, trivial, .chunksDone done⟩, rotated.verified done⟩
    · obtain ⟨keyFile, subset, newest⟩ := holds.phase
      obtain ⟨db', chunk⟩ := rotateChunk_defined salt offset
        (holds.readable readable subset newest) newest
      have step : Step fernet newKey ⟨.backups more offset, file, db⟩ .rotateChunk
          ⟨.backups more (offset + 500), file, db'⟩ := .rotateChunk salt done chunk
      have rewritten := rotateChunk_rewritten fernet chunk
      have ids : encryptedIds db' = encryptedIds db := rotateChunk_encryptedIds fernet chunk
      have touched := (holds.rewrite readable subset newest inChunk_replication rewritten).2.2
      have next : Rotated fernet newKey (offset + 500) db' := by
        refine ⟨fun column inside => ?_, fun id mem => ?_⟩
        · rw [(rewritten column).2 (inInstance_inChunk inside)]
          exact rotated.instances column inside
        · by_cases listed : id ∈ chunkIds db offset
          · exact touched _ ⟨id, listed, rfl⟩
          · rw [ids, List.take_add, List.mem_append] at mem
            rw [(rewritten _).2 fun ⟨_, other, eq⟩ => listed (by cases eq; exact other)]
            exact rotated.backups id (mem.resolve_right listed)
      obtain ⟨last, reached, verified⟩ := ih (offset + 500) file db' (by rw [ids]; omega)
        (holds.step readable step) next
      exact ⟨last, .head ⟨.rotateChunk, trivial, step⟩ reached, verified⟩

/-- With keys in the file, and every column readable, some run returns 0. -/
theorem rotation_completes (newKey : Key) (salt : Column → Salt) {oldKeys : List Key} {db : Db Ct}
    (nonempty : oldKeys ≠ [])
    (readable : ∀ column, State.opens fernet ⟨.start, some oldKeys, db⟩ column ≠ some none) :
    ∃ db', Reach (Step fernet newKey) unguarded ⟨.start, some oldKeys, db⟩
      ⟨.returned 0, some [newKey], db'⟩ := by
  have begun : Holds fernet newKey ⟨.start, some oldKeys, db⟩
      ⟨.instances (newKey :: oldKeys), some (newKey :: oldKeys), db⟩ :=
    ⟨fun _ => .inl rfl, fun _ _ => rfl, rfl, List.subset_cons_self newKey oldKeys, rfl⟩
  obtain ⟨-, subset, newest⟩ := begun.phase
  obtain ⟨rows, rotated⟩ := rotateInstanceRows_defined salt
    (begun.readable readable subset newest) newest
  have step : Step fernet newKey ⟨.instances (newKey :: oldKeys), some (newKey :: oldKeys), db⟩
      .rotateInstances ⟨.backups (newKey :: oldKeys) 0, some (newKey :: oldKeys), rows⟩ :=
    .rotateInstances salt rotated
  have rewritten := rotateInstanceRows_rewritten fernet rotated
  have touched := (begun.rewrite readable subset newest inInstance_replication rewritten).2.2
  obtain ⟨last, chunks, verified⟩ := chunks_run salt readable (encryptedIds rows).length 0
    (some (newKey :: oldKeys)) rows (by omega) (begun.step readable step)
    ⟨touched, fun _ mem => (List.not_mem_nil mem).elim⟩
  refine ⟨last, ?_⟩
  have loaded : Reach (Step fernet newKey) unguarded ⟨.start, some oldKeys, db⟩
      ⟨.backups (newKey :: oldKeys) 0, some (newKey :: oldKeys), rows⟩ :=
    (((Relation.ReflTransGen.refl.tail ⟨.ensureKeys, trivial, .ensureKeys nonempty⟩).tail
      ⟨.writeTransitional, trivial, .writeTransitional⟩).tail ⟨.rotateInstances, trivial, step⟩)
  have sound := verify_of_decrypts fernet verified
  exact ((loaded.trans chunks).tail ⟨.verify, trivial, .verify sound⟩).tail
    ⟨.prune, trivial, .prune⟩

theorem holds_of_reach (begins : start.phase = .start)
    (readable : ∀ column, start.opens fernet column ≠ some none)
    (reached : Reach (Step fernet newKey) unguarded start state) :
    Holds fernet newKey start state := by
  have first : Holds fernet newKey start start :=
    ⟨fun _ => .inl rfl, fun _ _ => rfl, by rw [PhaseHolds, begins]; exact ⟨rfl, rfl⟩⟩
  exact reached.invariant first fun _ _ _ holds _ step => holds.step readable step

/-- A column that no stage touches is lost with the old keys. -/
theorem replication_lost (begins : start.phase = .start) (fresh : newKey ∉ start.keys)
    (readable : ∀ column, start.opens fernet column ≠ some none) {column : Column}
    (member : column ∈ replicationColumns) (set : start.db.ct column ≠ none) :
    ∃ state, Reach (Step fernet newKey) unguarded start state ∧ state.phase = .returned 0 ∧
      state.opens fernet column = some none := by
  obtain ⟨ct, stored⟩ := Option.ne_none_iff_exists'.mp set
  obtain ⟨key, mem, text, opens⟩ : ∃ key ∈ start.keys, ∃ text, fernet.decrypt key ct = some text := by
    have opened := readable column
    rw [State.opens, stored, Option.map_some, Ne, Option.some.injEq] at opened
    obtain ⟨text, opened⟩ := Option.ne_none_iff_exists'.mp opened
    obtain ⟨key, mem, opens⟩ := (multiDecrypt_eq_some fernet).mp opened
    exact ⟨key, mem, text, opens⟩
  obtain ⟨salt, -⟩ := fernet.authentic key ct text opens
  have locked : multiDecrypt fernet [newKey] ct = none := by
    by_contra unlocked
    obtain ⟨other, opened⟩ := Option.ne_none_iff_exists'.mp unlocked
    obtain ⟨new, single, opens'⟩ := (multiDecrypt_eq_some fernet).mp opened
    obtain rfl := List.mem_singleton.mp single
    exact fresh (decrypt_unique fernet opens opens' ▸ mem)
  obtain ⟨phase, file, db⟩ := start
  obtain rfl : phase = .start := begins
  cases file with
  | none => cases mem
  | some oldKeys =>
    obtain ⟨db', reached⟩ :=
      rotation_completes newKey (fun _ => salt) (List.ne_nil_of_mem mem) readable
    have holds := holds_of_reach rfl readable reached
    have same : db'.ct column = some ct := (holds.replication column member).trans stored
    refine ⟨_, reached, rfl, ?_⟩
    rw [State.opens, same]
    exact congrArg some locked

/-- The rotation is safe at every step exactly when no column of `ReplicationSettings` is set. -/
theorem rotation_safe_iff (fernet : Fernet Key Text Salt Ct) (newKey : Key)
    (start : State Key Ct) (begins : start.phase = .start) (fresh : newKey ∉ start.keys)
    (readable : ∀ column, start.opens fernet column ≠ some none) :
    (∀ state, Reach (Step fernet newKey) unguarded start state → Safe fernet start state) ↔
      ∀ column ∈ replicationColumns, start.db.ct column = none := by
  constructor
  · intro safe column member
    by_contra set
    obtain ⟨state, reached, -, lost⟩ := replication_lost begins fresh readable member set
    exact readable column (((safe state reached).opens column).symm.trans lost)
  · intro unset state reached
    exact (holds_of_reach begins readable reached).safe readable unset

end

/-! ### One instance and one backup, with and without replication -/

/-- A ciphertext that shows its key. -/
def labelled : Fernet Nat String Unit (Nat × String) where
  encrypt key _ text := (key, text)
  decrypt key ct := if ct.1 = key then some ct.2 else none
  decrypt_encrypt key _ text := if_pos rfl
  authentic key ct text opens := by
    obtain ⟨rfl, eq⟩ : ct.1 = key ∧ ct.2 = text := by simpa using opens
    exact ⟨(), by rw [← eq]⟩
  decrypt_other key other _ text ne := if_neg (Ne.symm ne)

def oneInstance (replicationSettings : Option (ReplicationSettings (Nat × String))) :
    State Nat (Nat × String) where
  phase := .start
  keyFile := some [1]
  db := {
    instances := ⟨[⟨7, (1, "admin"), (1, "pfsense"), none⟩], by decide⟩
    backups := ⟨[⟨3, some (1, "letmein")⟩], by decide⟩
    replicationSettings }

theorem oneInstance_readable {settings : Option (ReplicationSettings (Nat × String))}
    (readable : ∀ column ∈ replicationColumns,
      (oneInstance settings).opens labelled column ≠ some none) (column : Column) :
    (oneInstance settings).opens labelled column ≠ some none := by
  cases column with
  | username id | password id | backupEncryptPassword id =>
    by_cases found : 7 = id <;>
      simp [State.opens, State.keys, Db.ct, Table.get, oneInstance, multiDecrypt, labelled, found]
  | encryptPassword id =>
    by_cases found : 3 = id <;>
      simp [State.opens, State.keys, Db.ct, Table.get, oneInstance, multiDecrypt, labelled, found]
  | _ => exact readable _ (by decide)

theorem oneInstance_safe_iff :
    (∀ state, Reach (Step labelled 2) unguarded (oneInstance none) state →
      Safe labelled (oneInstance none) state) ↔
      ∀ column ∈ replicationColumns, (oneInstance none).db.ct column = none :=
  rotation_safe_iff labelled 2 (oneInstance none) rfl (by decide)
    (oneInstance_readable (by simp [replicationColumns, State.opens, Db.ct, oneInstance]))

/-- The S3 secret is gone after a rotation that returns 0. -/
theorem s3SecretAccessKey_lost :
    ∃ start state : State Nat (Nat × String), start.phase = .start ∧ 2 ∉ start.keys ∧
      (∀ column, start.opens labelled column ≠ some none) ∧
      Reach (Step labelled 2) unguarded start state ∧ state.phase = .returned 0 ∧
      ¬ Safe labelled start state := by
  let settings : ReplicationSettings (Nat × String) := ⟨some (1, "wJalrXUt"), none, none, none⟩
  have readable : ∀ column, (oneInstance (some settings)).opens labelled column ≠ some none :=
    oneInstance_readable (by
      simp [replicationColumns, State.opens, State.keys, Db.ct, oneInstance, settings,
        multiDecrypt, labelled])
  have fresh : 2 ∉ (oneInstance (some settings)).keys := by decide
  have set : (oneInstance (some settings)).db.ct .s3SecretAccessKey ≠ none := by
    simp [Db.ct, oneInstance, settings]
  obtain ⟨state, reached, returned, lost⟩ := replication_lost rfl fresh readable (by decide) set
  exact ⟨oneInstance (some settings), state, rfl, fresh, readable, reached, returned,
    fun safe => readable .s3SecretAccessKey ((safe.opens _).symm.trans lost)⟩

end PfsenseBackups.KeyRotation

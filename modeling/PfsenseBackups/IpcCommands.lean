import PfsenseBackups.InstanceForms
import PfsenseBackups.StoredValues

/-! The commands that the web pushes to the worker: their schemas, the text of their frames, and
what the worker makes of a frame. Bytes in a command are texts, since a Fernet token is ASCII. -/

namespace PfsenseBackups.IpcCommands
open Value JsonReader StoredValues
open EventLog (json jsonFields)
open InstanceForms (backupAreas)

structure BackupOverrides where
  backupArea : Option String
  backupIncludeRrd : Option Bool
  backupIncludePackages : Option Bool
  backupIncludeSsh : Option Bool
  backupEncrypt : Option Bool
  backupEncryptPasswordCt : Option String
  /-- `_area_whitelist` -/
  known : ∀ area ∈ backupArea, area ∈ backupAreas

inductive IpcCommand where
  | runBackup (instanceId jobId : Int) (overrides : Option BackupOverrides)
  | runBackupAll (jobId : Int) (overrides : Option BackupOverrides)
  | testConnection (instanceId jobId : Int)
  | reloadSchedule (instanceId : Option Int)
  | sendTestNotification (notificationId jobId : Int)
  | reencryptBackups (instanceId jobId : Int)
  | reencryptAllBackups (jobId : Int) (newPasswordCt : String) (alsoUpdateInstancePasswords : Bool)
  | testReplication (requestId : String)
  | deleteReplicaObject (replicaKey : String)
  | retrieveReplica (backupId jobId : Int)

/-! ### The writer -/

/-- `model_dump_json` leaves all but the control characters as they are. -/
def escapeChar (char : Char) : List Char :=
  if char = '\\' then ['\\', '\\']
  else if char = '"' then ['\\', '"']
  else if char = '\n' then ['\\', 'n']
  else if char = '\r' then ['\\', 'r']
  else if char = '\t' then ['\\', 't']
  else if char = Char.ofNat 12 then ['\\', 'f']
  else if char = Char.ofNat 8 then ['\\', 'b']
  else if char.toNat < 32 then JsonText.unicodeEscape char.toNat
  else [char]

theorem readable_escapeChar : Readable escapeChar := by
  intro char
  refine ⟨[char.toNat], fun rest => ?_, joinSurrogates_char char⟩
  rw [escapeChar]
  split_ifs with slash quote line back tab feed rub control
  · subst slash
    exact readUnits_escape (by decide) rfl rest
  · subst quote
    exact readUnits_escape (by decide) rfl rest
  · subst line
    exact readUnits_escape (by decide) rfl rest
  · subst back
    exact readUnits_escape (by decide) rfl rest
  · subst tab
    exact readUnits_escape (by decide) rfl rest
  · subst feed
    exact readUnits_escape (by decide) rfl rest
  · subst rub
    exact readUnits_escape (by decide) rfl rest
  · exact readUnits_unicodeEscape (Nat.lt_trans control (by decide)) rest
  · exact readUnits_plain quote slash (Nat.not_lt.mp control) rest

/-- `model_dump_json()`. -/
def dumpFormat : Format where
  gap := []
  escapeChar := escapeChar
  blank := nofun
  readable := readable_escapeChar

def optional {α : Type} (wrap : α → Val) (value : Option α) : Val :=
  value.elim .none wrap

def BackupOverrides.dump (overrides : BackupOverrides) : Val :=
  .dict [
    ("backup_area", optional .str overrides.backupArea),
    ("backup_include_rrd", optional .bool overrides.backupIncludeRrd),
    ("backup_include_packages", optional .bool overrides.backupIncludePackages),
    ("backup_include_ssh", optional .bool overrides.backupIncludeSsh),
    ("backup_encrypt", optional .bool overrides.backupEncrypt),
    ("backup_encrypt_password_ct", optional .str overrides.backupEncryptPasswordCt)]

def IpcCommand.dump : IpcCommand → Dict
  | .runBackup instanceId jobId overrides => [("cmd", .str "run_backup"),
      ("instance_id", .int instanceId), ("job_id", .int jobId),
      ("overrides", optional BackupOverrides.dump overrides)]
  | .runBackupAll jobId overrides => [("cmd", .str "run_backup_all"), ("job_id", .int jobId),
      ("overrides", optional BackupOverrides.dump overrides)]
  | .testConnection instanceId jobId => [("cmd", .str "test_connection"),
      ("instance_id", .int instanceId), ("job_id", .int jobId)]
  | .reloadSchedule instanceId => [("cmd", .str "reload_schedule"),
      ("instance_id", optional .int instanceId)]
  | .sendTestNotification notificationId jobId => [("cmd", .str "send_test_notification"),
      ("notification_id", .int notificationId), ("job_id", .int jobId)]
  | .reencryptBackups instanceId jobId => [("cmd", .str "reencrypt_backups"),
      ("instance_id", .int instanceId), ("job_id", .int jobId)]
  | .reencryptAllBackups jobId newPasswordCt alsoUpdateInstancePasswords => [
      ("cmd", .str "reencrypt_all_backups"), ("job_id", .int jobId),
      ("new_password_ct", .str newPasswordCt),
      ("also_update_instance_passwords", .bool alsoUpdateInstancePasswords)]
  | .testReplication requestId => [("cmd", .str "test_replication"), ("request_id", .str requestId)]
  | .deleteReplicaObject replicaKey => [("cmd", .str "delete_replica_object"),
      ("replica_key", .str replicaKey)]
  | .retrieveReplica backupId jobId => [("cmd", .str "retrieve_replica"),
      ("backup_id", .int backupId), ("job_id", .int jobId)]

/-- The frame that `IpcClient.send` pushes. -/
def IpcCommand.frame (command : IpcCommand) : List Char :=
  dumpFormat.write (toJson (.dict command.dump))

/-! ### The reader -/

/-- What pydantic makes of values that are of another kind than the field. -/
structure Lax where
  int : Val → Option Int
  bool : Val → Option Bool

section Reader

variable (lax : Lax)

def readInt : Val → Option Int
  | .int number => some number
  | .none => none
  | value => lax.int value

def readBool : Val → Option Bool
  | .bool flag => some flag
  | .none => none
  | value => lax.bool value

/-- A field of text, or of bytes. -/
def readStr : Val → Option String
  | .str text => some text
  | _ => none

/-- A field that may be `None`, which is its default, too. -/
def readOptional {α : Type} (read : Val → Option α) : Val → Option (Option α)
  | .none => some none
  | value => (read value).map some

def overrideNames : List String :=
  ["backup_area", "backup_include_rrd", "backup_include_packages", "backup_include_ssh",
    "backup_encrypt", "backup_encrypt_password_ct"]

def readOverrides : Val → Option BackupOverrides
  | .dict fields => do
    let backupArea ← readOptional readStr (Dict.get fields "backup_area")
    let backupIncludeRrd ← readOptional (readBool lax) (Dict.get fields "backup_include_rrd")
    let backupIncludePackages ←
      readOptional (readBool lax) (Dict.get fields "backup_include_packages")
    let backupIncludeSsh ← readOptional (readBool lax) (Dict.get fields "backup_include_ssh")
    let backupEncrypt ← readOptional (readBool lax) (Dict.get fields "backup_encrypt")
    let backupEncryptPasswordCt ←
      readOptional readStr (Dict.get fields "backup_encrypt_password_ct")
    if known : (∀ area ∈ backupArea, area ∈ backupAreas) ∧
        ∀ name ∈ Dict.keys fields, name ∈ overrideNames then
      return { backupArea, backupIncludeRrd, backupIncludePackages, backupIncludeSsh, backupEncrypt,
               backupEncryptPasswordCt, known := known.1 }
    else none
  | _ => none

/-- `model_validate`, of the schema that a handler has for its command. -/
abbrev Schema := Dict → Option IpcCommand

def runBackup : Schema := fun payload => do
  return .runBackup (← readInt lax (Dict.get payload "instance_id"))
    (← readInt lax (Dict.get payload "job_id"))
    (← readOptional (readOverrides lax) (Dict.get payload "overrides"))

def runBackupAll : Schema := fun payload => do
  return .runBackupAll (← readInt lax (Dict.get payload "job_id"))
    (← readOptional (readOverrides lax) (Dict.get payload "overrides"))

def testConnection : Schema := fun payload => do
  return .testConnection (← readInt lax (Dict.get payload "instance_id"))
    (← readInt lax (Dict.get payload "job_id"))

def reloadSchedule : Schema := fun payload => do
  return .reloadSchedule (← readOptional (readInt lax) (Dict.get payload "instance_id"))

def sendTestNotification : Schema := fun payload => do
  return .sendTestNotification (← readInt lax (Dict.get payload "notification_id"))
    (← readInt lax (Dict.get payload "job_id"))

def reencryptBackups : Schema := fun payload => do
  return .reencryptBackups (← readInt lax (Dict.get payload "instance_id"))
    (← readInt lax (Dict.get payload "job_id"))

def reencryptAllBackups : Schema := fun payload => do
  let flag := Dict.get payload "also_update_instance_passwords"
  return .reencryptAllBackups (← readInt lax (Dict.get payload "job_id"))
    (← readStr (Dict.get payload "new_password_ct"))
    (← if "also_update_instance_passwords" ∈ Dict.keys payload then readBool lax flag
      else some true)

def testReplication : Schema := fun payload => do
  return .testReplication (← readStr (Dict.get payload "request_id"))

def retrieveReplica : Schema := fun payload => do
  return .retrieveReplica (← readInt lax (Dict.get payload "backup_id"))
    (← readInt lax (Dict.get payload "job_id"))

def deleteReplicaObject : Schema := fun payload => do
  return .deleteReplicaObject (← readStr (Dict.get payload "replica_key"))

/-- The table of `_dispatch`. -/
def handlers : List (String × Schema) := [
  ("run_backup", runBackup lax),
  ("run_backup_all", runBackupAll lax),
  ("test_connection", testConnection lax),
  ("reload_schedule", reloadSchedule lax),
  ("send_test_notification", sendTestNotification lax),
  ("reencrypt_backups", reencryptBackups lax),
  ("reencrypt_all_backups", reencryptAllBackups lax),
  ("test_replication", testReplication),
  ("retrieve_replica", retrieveReplica lax),
  ("delete_replica_object", deleteReplicaObject)]

inductive Received where
  /-- Not JSON. -/
  | dropped
  /-- Not an object, or one whose `cmd` is a list or an object. -/
  | raised
  | unknown
  /-- Refused by the schema of its command. -/
  | invalid
  | handled (command : IpcCommand)

/-- `_dispatch`, up to the command that is handled. -/
def dispatch : Val → Received
  | .dict payload =>
    match Dict.get payload "cmd" with
    | .str cmd =>
      match (handlers lax).lookup cmd with
      | none => .unknown
      | some schema => (schema payload).elim .invalid .handled
    | .list _ | .dict _ => .raised
    | _ => .unknown
  | _ => .raised

/-- What `_run_loop` makes of a frame. -/
def receive (frame : List Char) : Received :=
  (loadsValue frame).elim .dropped (dispatch lax)

end Reader

/-! ### A frame is its command -/

theorem readOptional_str (value : Option String) :
    readOptional readStr (optional .str value) = some value := by
  cases value <;> rfl

theorem readOptional_bool (lax : Lax) (value : Option Bool) :
    readOptional (readBool lax) (optional .bool value) = some value := by
  cases value <;> rfl

theorem readOptional_int (lax : Lax) (value : Option Int) :
    readOptional (readInt lax) (optional .int value) = some value := by
  cases value <;> rfl

theorem readOverrides_dump (lax : Lax) (overrides : BackupOverrides) :
    readOverrides lax overrides.dump = some overrides := by
  obtain ⟨area, rrd, packages, ssh, encrypt, password, known⟩ := overrides
  simp [BackupOverrides.dump, readOverrides, Dict.get_cons, Dict.keys, readOptional_str,
    readOptional_bool, overrideNames]
  exact known

theorem readOptional_overrides (lax : Lax) (overrides : Option BackupOverrides) :
    readOptional (readOverrides lax) (optional BackupOverrides.dump overrides) =
      some overrides := by
  cases overrides with
  | none => rfl
  | some overrides =>
    change (readOverrides lax overrides.dump).map some = _
    rw [readOverrides_dump]
    rfl

theorem dispatch_dump (lax : Lax) (command : IpcCommand) :
    dispatch lax (.dict command.dump) = .handled command := by
  cases command with
  | runBackup instanceId jobId overrides =>
    simp [IpcCommand.dump, dispatch, Dict.get_cons, handlers, runBackup, readInt,
      readOptional_overrides]
  | runBackupAll jobId overrides =>
    simp [IpcCommand.dump, dispatch, Dict.get_cons, handlers, List.lookup_cons, runBackupAll,
      readInt, readOptional_overrides]
  | reloadSchedule instanceId =>
    simp [IpcCommand.dump, dispatch, Dict.get_cons, handlers, List.lookup_cons, reloadSchedule,
      readOptional_int]
  | _ =>
    simp [IpcCommand.dump, dispatch, Dict.get_cons, Dict.keys, handlers, List.lookup_cons, readInt,
      readBool, readStr, testConnection, sendTestNotification, reencryptBackups,
      reencryptAllBackups, testReplication, retrieveReplica, deleteReplicaObject]

theorem proper_fields {fields : Dict} (unique : (Dict.keys fields).Nodup)
    (values : ∀ field ∈ fields, Proper field.2) : Proper (.dict fields) := by
  refine proper_dict unique ?_
  clear unique
  induction fields with
  | nil => trivial
  | cons field rest ih =>
    rw [List.forall_mem_cons] at values
    exact ⟨values.1, ih values.2⟩

theorem proper_optional {α : Type} {wrap : α → Val} (proper : ∀ value, Proper (wrap value))
    (value : Option α) : Proper (optional wrap value) := by
  cases value with
  | none => exact proper_none
  | some value => exact proper value

theorem proper_str (text : String) : Proper (.str text) := trivial

theorem proper_bool (flag : Bool) : Proper (.bool flag) := trivial

theorem proper_int (number : Int) : Proper (.int number) := trivial

theorem proper_overrides (overrides : BackupOverrides) : Proper overrides.dump := by
  refine proper_fields (by simp [Dict.keys]) ?_
  simp [proper_optional, proper_str, proper_bool]

theorem proper_dump (command : IpcCommand) : Proper (.dict command.dump) := by
  refine proper_fields ?_ ?_
  · cases command <;> simp [IpcCommand.dump, Dict.keys]
  · cases command <;>
      simp [IpcCommand.dump, proper_optional, proper_overrides, proper_str, proper_bool, proper_int]

theorem json_optional_str (value : Option String) :
    json (optional .str value) = optional .str value := by
  cases value <;> rfl

theorem json_optional_bool (value : Option Bool) :
    json (optional .bool value) = optional .bool value := by
  cases value <;> rfl

theorem json_optional_int (value : Option Int) :
    json (optional .int value) = optional .int value := by
  cases value <;> rfl

theorem json_overrides (overrides : BackupOverrides) : json overrides.dump = overrides.dump := by
  simp [BackupOverrides.dump, json, jsonFields, json_optional_str, json_optional_bool]

theorem json_optional_overrides (overrides : Option BackupOverrides) :
    json (optional BackupOverrides.dump overrides) = optional BackupOverrides.dump overrides := by
  cases overrides with
  | none => rfl
  | some overrides => exact json_overrides overrides

theorem json_dump (command : IpcCommand) : json (.dict command.dump) = .dict command.dump := by
  cases command <;>
    simp [IpcCommand.dump, json, jsonFields, json_optional_int, json_optional_overrides]

theorem loadsValue_frame (command : IpcCommand) :
    loadsValue command.frame = some (.dict command.dump) := by
  rw [IpcCommand.frame, loadsValue, dumpFormat.loads_write (proper_dump command),
    Option.bind_some, ofJson_coded, json_dump]

/-- The worker handles the command that the web has sent. -/
theorem receive_frame (lax : Lax) (command : IpcCommand) :
    receive lax command.frame = .handled command := by
  rw [receive, loadsValue_frame]
  exact dispatch_dump lax command

end PfsenseBackups.IpcCommands

import PfsenseBackups.InstanceForms

/-! `put_replication`, the handler that writes the one row of replication settings. -/

namespace PfsenseBackups.ReplicationForms
open InstanceForms Labels PythonText Value

inductive Column where
  | enabled | kind | s3EndpointUrl | s3Region | s3Bucket | s3AccessKeyId | sftpHost | sftpPort
  | sftpUsername | basePath | encryptPlaintext | doubleEncrypt | mirrorDeletes
  deriving DecidableEq

def columns : List Column := [
  .enabled, .kind, .s3EndpointUrl, .s3Region, .s3Bucket, .s3AccessKeyId, .sftpHost, .sftpPort,
  .sftpUsername, .basePath, .encryptPlaintext, .doubleEncrypt, .mirrorDeletes]

theorem mem_columns (column : Column) : column ∈ columns := by
  cases column <;> decide

/-- What the request model takes for a field. -/
def Column.fits : Column → Val → Bool
  | .kind, .str text => text = "s3" || text = "sftp"
  | .enabled, value | .encryptPlaintext, value | .doubleEncrypt, value | .mirrorDeletes, value =>
    Shape.flag.fits value
  | .sftpPort, value => (Shape.number 1 65535).fits value
  | _, value => Shape.text.fits value

def Column.nullable : Column → Bool
  | .s3EndpointUrl | .s3Region | .s3Bucket | .s3AccessKeyId | .sftpHost | .sftpUsername => true
  | _ => false

inductive Secret where
  | s3SecretAccessKey | sftpPassword | sftpPrivateKey | replicationPassword
  deriving DecidableEq

def Secret.text : Secret → String
  | .s3SecretAccessKey => "s3_secret_access_key"
  | .sftpPassword => "sftp_password"
  | .sftpPrivateKey => "sftp_private_key"
  | .replicationPassword => "replication_password"

structure ReplicationSettings (Ct : Type) where
  plain : Column → Val
  secret : Secret → Option Ct

/-- The row that the columns' defaults make. -/
def defaults {Ct : Type} : ReplicationSettings Ct where
  plain
    | .enabled | .doubleEncrypt | .mirrorDeletes => .bool false
    | .kind => .str "s3"
    | .sftpPort => .int 22
    | .basePath => .str "pfsense-backups"
    | .encryptPlaintext => .bool true
    | _ => .none
  secret _ := none

structure ReplicationSettingsUpdate where
  plain : Column → Option Val
  secret : Secret → Option (Option String)

section

variable {Salt Ct : Type} (crypto : Crypto Salt Ct) (env : Surroundings Salt)

/-- The sentinel keeps a secret, null and the empty text clear it. -/
def setSecret (stored : Option Ct) (name : Secret) (sent : Option (Option String)) : Option Ct :=
  match sent with
  | none => stored
  | some sent =>
    if sent = some sentinel then stored
    else (truthy sent).map fun text => crypto.encrypt (env.draw name.text) text

def setFields (row : ReplicationSettings Ct) (payload : ReplicationSettingsUpdate) :
    ReplicationSettings Ct where
  plain := fun column => (payload.plain column).getD (row.plain column)
  secret := fun name => setSecret crypto env (row.secret name) name (payload.secret name)

/-- Replication is on and wraps what it uploads. -/
def wraps (row : ReplicationSettings Ct) : Bool :=
  Val.truthy (row.plain .enabled) &&
    (Val.truthy (row.plain .encryptPlaintext) || Val.truthy (row.plain .doubleEncrypt))

def storable (row : ReplicationSettings Ct) : Bool :=
  columns.all fun column => column.nullable || row.plain column ≠ .none

/-- The row that is committed, and the answer. A missing row is made with the defaults first. -/
def putReplication (stored : Option (ReplicationSettings Ct))
    (payload : ReplicationSettingsUpdate) :
    Option (ReplicationSettings Ct) × Except Failure (ReplicationSettings Ct) :=
  if !columns.all fun column => (payload.plain column).all column.fits then
    (stored, .error .unprocessable)
  else
    let row := setFields crypto env (stored.getD defaults) payload
    if wraps row && (row.secret .replicationPassword).isNone then
      (stored, .error (.http 400 ("replication encryption is on but no replication password " ++
        "is set — set one (or explicitly disable encrypt_plaintext)")))
    else if !env.commits || !storable row then (stored, .error .database)
    else (some row, .ok row)

end

/-! ### What is read -/

structure ReplicationSettingsRead where
  plain : Column → Val
  secret : Secret → Option String

section

variable {Salt Ct : Type}

/-- `_replication_to_read`: a missing row is read as the defaults. -/
def toRead (stored : Option (ReplicationSettings Ct)) : ReplicationSettingsRead where
  plain := (stored.getD defaults).plain
  secret name := if ((stored.getD defaults).secret name).isSome then some sentinel else none

/-- What was read, sent back. -/
def ReplicationSettingsRead.asUpdate (read : ReplicationSettingsRead) :
    ReplicationSettingsUpdate where
  plain column := some (read.plain column)
  secret name := some (read.secret name)

/-- The fields that were read set a row to what it is. -/
theorem setFields_toRead (crypto : Crypto Salt Ct) (env : Surroundings Salt)
    (stored : Option (ReplicationSettings Ct)) :
    setFields crypto env (stored.getD defaults) (toRead stored).asUpdate =
      stored.getD defaults := by
  have secrets : (fun name => setSecret crypto env ((stored.getD defaults).secret name) name
      ((toRead stored).asUpdate.secret name)) = (stored.getD defaults).secret := by
    funext name
    cases kept : (stored.getD defaults).secret name with
    | none => simp [setSecret, toRead, ReplicationSettingsRead.asUpdate, kept, truthy]
    | some ct => simp [setSecret, toRead, ReplicationSettingsRead.asUpdate, kept]
  exact congrArg (ReplicationSettings.mk (stored.getD defaults).plain) secrets

theorem storable_defaults : storable (defaults : ReplicationSettings Ct) = true :=
  rfl

end

end PfsenseBackups.ReplicationForms

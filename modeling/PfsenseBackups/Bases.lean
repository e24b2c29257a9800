import PfsenseBackups.Replication
import PfsenseBackups.Selections

/-! The backups that a backup is compared with, as the web and the worker look them up. -/

namespace PfsenseBackups.Bases
open Replication Selections Tables

variable {Digest : Type}

/-! ### The queries -/

inductive DiffKind where
  | previous | first
  deriving DecidableEq, Repr

/-- The successful backups of an instance other than one of them. -/
def others (rows : Table (Backup Digest) Backup.id) (instanceId id : Nat) : List (Backup Digest) :=
  rows.rows.filter fun row => row.instanceId = instanceId && row.success && row.id ≠ id

def before (startedAt : Nat) (row : Backup Digest) : Bool :=
  row.startedAt < startedAt

/-- `_find_base`; rows with the same start come in the table's order. -/
def findBase (rows : Table (Backup Digest) Backup.id) (backup : Backup Digest) :
    DiffKind → Option (Backup Digest)
  | .previous =>
    (newestFirst Backup.startedAt
      ((others rows backup.instanceId backup.id).filter (before backup.startedAt))).head?
  | .first => (oldestFirst Backup.startedAt (others rows backup.instanceId backup.id)).head?

/-- The bases of `_compute_and_persist_diffs`, the previous backup and the first one. -/
def ingestionBases (rows : Table (Backup Digest) Backup.id) (newBackupId instanceId : Nat) :
    Option (Option (Backup Digest) × Option (Backup Digest)) := do
  let newRow ← rows.get newBackupId
  let previous := (newestFirst Backup.startedAt
    ((others rows instanceId newBackupId).filter (before newRow.startedAt))).head?
  let first := (oldestFirst Backup.startedAt (others rows instanceId newBackupId)).head?
  return (previous, first)

/-! ### What they should find -/

/-- A successful older backup of the same instance that can be read. -/
structure Readable (rows : Table (Backup Digest) Backup.id) (backup row : Backup Digest) : Prop where
  listed : row ∈ rows.rows
  sibling : row.instanceId = backup.instanceId
  success : row.success
  present : row.localPresent
  older : row.startedAt < backup.startedAt

variable {rows : Table (Backup Digest) Backup.id} {backup : Backup Digest}

/-- The web and the worker ask the same. -/
theorem ingestionBases_eq (held : rows.get backup.id = some backup) :
    ingestionBases rows backup.id backup.instanceId =
      some (findBase rows backup .previous, findBase rows backup .first) := by
  rw [ingestionBases, held]
  rfl

theorem Readable.differs (held : rows.get backup.id = some backup) {row : Backup Digest}
    (readable : Readable rows backup row) : row.id ≠ backup.id := by
  intro same
  have found := Table.get_of_mem readable.listed
  rw [same, held] at found
  obtain rfl := Option.some.inj found
  exact lt_irrefl _ readable.older

/-- A row with an id, a start and a local file or none. -/
def row (id startedAt : Nat) (localPresent : Bool) : Backup Unit where
  id
  instanceId := 1
  startedAt
  filename := "fw.xml"
  path := "/backups/fw.xml"
  sizeBytes := 0
  compressed := false
  success := true
  encrypted := false
  encryptPassword := none
  localPresent

end PfsenseBackups.Bases

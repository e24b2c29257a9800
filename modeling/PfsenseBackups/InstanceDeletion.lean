import PfsenseBackups.ForeignKeys
import PfsenseBackups.Notifications

/-! The deletion of an instance: the scopes of the notification rows are edited by the endpoint, and
backups, diffs, anchor events and jobs follow by the relationship and the foreign keys. -/

namespace PfsenseBackups.InstanceDeletion
open Notifications Tables ForeignKeys

variable {Columns : Type*}

/-! ### The tables, with the columns that no key is about as they are -/

structure Instance (Columns : Type*) where
  id : Nat
  columns : Columns

structure Job (Columns : Type*) where
  id : Nat
  instanceId : Option Nat
  columns : Columns

structure Backup (Columns : Type*) where
  id : Nat
  instanceId : Nat
  jobId : Option Nat
  columns : Columns

structure BackupDiff (Columns : Type*) where
  backupId : Nat
  baseBackupId : Option Nat
  columns : Columns

structure AnchorEvent (Columns : Type*) where
  id : Nat
  instanceId : Nat
  backupId : Nat
  prevBackupId : Option Nat
  columns : Columns

structure Database (Columns : Type*) where
  instances : Table (Instance Columns) Instance.id
  notifications : Table Notification Notification.id
  jobs : List (Job Columns)
  backups : Table (Backup Columns) Backup.id
  diffs : List (BackupDiff Columns)
  events : List (AnchorEvent Columns)

/-- There is a backup of the instance with the id. -/
def Database.owns (db : Database Columns) (instanceId backupId : Nat) : Bool :=
  (db.backups.get backupId).any fun bkp => bkp.instanceId = instanceId

/-! ### `delete_instance` -/

/-- `[i for i in ids if i != instance_id]` -/
def without (instanceId : Nat) (ids : List Int) : List Int :=
  ids.filter fun id => id ≠ (instanceId : Int)

/-- The scope without an instance; a list that becomes empty is cleared. -/
def unscope (instanceId : Nat) : ScopeColumn → ScopeColumn
  | .unset => .unset
  | .broken => .broken
  | .ids ids =>
    if (instanceId : Int) ∈ ids then
      if without instanceId ids = [] then .unset else .ids (without instanceId ids)
    else .ids ids

def unscopeRow (instanceId : Nat) (hook : Notification) : Notification :=
  { hook with instanceIds := unscope instanceId hook.instanceIds }

/-- The backups of the instance are deleted, and the rows that refer to them follow. -/
def Database.deleteBackups (db : Database Columns) (instanceId : Nat) : Database Columns :=
  { db with
    backups := db.backups.filter fun bkp => bkp.instanceId ≠ instanceId
    diffs := (cascade (db.owns instanceId) BackupDiff.backupId db.diffs).map
      (setNull (db.owns instanceId) BackupDiff.baseBackupId ({ · with baseBackupId := none }))
    events := (cascade (db.owns instanceId) AnchorEvent.backupId db.events).map
      (setNull (db.owns instanceId) AnchorEvent.prevBackupId ({ · with prevBackupId := none })) }

/-- The row of the instance is deleted, and the rows that refer to it follow. -/
def Database.deleteRow (db : Database Columns) (instanceId : Nat) : Database Columns :=
  { db with
    instances := db.instances.delete instanceId
    events := cascade (· = instanceId) AnchorEvent.instanceId db.events
    jobs := db.jobs.map
      (setNull (· = instanceId) Job.instanceId ({ · with instanceId := none })) }

/-- `delete_instance`, or nothing where it answers 404. -/
def Database.deleteInstance (db : Database Columns) (instanceId : Nat) : Option (Database Columns) :=
  if (db.instances.get instanceId).isNone then none
  else
    let pruned : Database Columns :=
      { db with
        notifications := db.notifications.map (unscopeRow instanceId) fun _ => rfl }
    some ((pruned.deleteBackups instanceId).deleteRow instanceId)

/-! ### What is expected -/

/-- An instance is in the scope of a row, as the notifier resolves it. -/
def concerns (column : ScopeColumn) (instanceId : Nat) : Bool :=
  match column with
  | .unset => true
  | .broken => false
  | .ids ids => ids = [] || ids.contains (instanceId : Int)

/-- A row is told about the run of one instance, unless its trigger holds it back, exactly if the
instance is in its scope. -/
theorem resolveScope_isSome {hook : Notification} {instances : List (Int × String)}
    {name details : String} {instanceId : Nat}
    (named : nameToId instances name = some (instanceId : Int)) (isSuccess : Bool) :
    (resolveScope hook [] [name] instances isSuccess details).isSome =
      concerns hook.instanceIds instanceId := by
  unfold resolveScope concerns
  cases hook.instanceIds with
  | unset => rfl
  | broken => rfl
  | ids ids =>
    by_cases empty : ids = []
    · simp [empty]
    · by_cases member : (instanceId : Int) ∈ ids
      · simp [empty, inScope, named, member]
      · simp [empty, inScope, named, member]

/-- There is another instance than the one that is deleted. -/
def Database.Other (db : Database Columns) (instanceId other : Nat) : Prop :=
  (db.instances.get other).isSome ∧ other ≠ instanceId

/-- No row is scoped to the instance alone while there is another one, and no diff or event of
another instance refers to a backup of the instance. -/
structure Separate (db : Database Columns) (instanceId : Nat) : Prop where
  scopes : ∀ other, db.Other instanceId other → ∀ hook ∈ db.notifications.rows, ∀ ids,
    hook.instanceIds = .ids ids → (instanceId : Int) ∈ ids → ∃ id ∈ ids, id ≠ instanceId
  diffs : ∀ other, db.Other instanceId other → ∀ diff ∈ db.diffs,
    db.owns other diff.backupId = true → ∀ base, diff.baseBackupId = some base →
      db.owns instanceId base = false
  events : ∀ other, db.Other instanceId other → ∀ event ∈ db.events,
    event.instanceId = other → db.owns instanceId event.backupId = false ∧
      ∀ prev, event.prevBackupId = some prev → db.owns instanceId prev = false

/-! ### Scopes -/

section

variable {db after : Database Columns} {instanceId other : Nat}

variable (deleted : db.deleteInstance instanceId = some after)
include deleted

end

/-! ### A row for one instance -/

end PfsenseBackups.InstanceDeletion

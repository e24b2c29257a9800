import PfsenseBackups.StoredBackups

/-! What an operation leaves of each row, as a relation between the row before and the row after;
and the operations that need no more than that the relation allows each single change. -/

namespace PfsenseBackups.RowFrames
open Replication StoredBackups Tables

variable {Bytes Digest Salt : Type}

/-- No row is new, and each is related to what it was. -/
def Follows (rel : Backup Digest → Backup Digest → Prop) (before after : World Bytes Digest) :
    Prop :=
  ∀ id row', after.rows.get id = some row' → ∃ row, before.rows.get id = some row ∧ rel row row'

/-- The relation allows the changes that retention, retrievals and re-encryptions make. -/
structure Frame (rel : Backup Digest → Backup Digest → Prop) : Prop where
  refl : ∀ row, rel row row
  trans : ∀ row row' row'', rel row row' → rel row' row'' → rel row row''
  pruned : ∀ row, rel row row.pruned
  retrieved : ∀ size row, rel row (row.retrieved size)
  reencrypted : ∀ password size row, rel row (row.reencrypted password size)

namespace Frame

variable {rel : Backup Digest → Backup Digest → Prop} (frame : Frame rel)
  {before middle after : World Bytes Digest}
include frame

theorem of_rows (same : after.rows = before.rows) : Follows rel before after := by
  intro id row' found
  rw [same] at found
  exact ⟨row', found, frame.refl row'⟩

theorem same (world : World Bytes Digest) : Follows rel world world :=
  frame.of_rows rfl

theorem comp (first : Follows rel before middle) (second : Follows rel middle after) :
    Follows rel before after := by
  intro id row'' found
  obtain ⟨row', found, later⟩ := second id row'' found
  obtain ⟨row, found, earlier⟩ := first id row' found
  exact ⟨row, found, frame.trans row row' row'' earlier later⟩

theorem of_update {id : Nat} {change : Backup Digest → Backup Digest}
    (rows : ∀ wanted, after.rows.get wanted =
      if wanted = id then (before.rows.get wanted).map change else before.rows.get wanted)
    (allowed : ∀ row, rel row (change row)) : Follows rel before after := by
  intro wanted row' found
  rw [rows] at found
  split at found
  · obtain ⟨row, held, rfl⟩ := Option.map_eq_some_iff.mp found
    exact ⟨row, held, allowed row⟩
  · exact ⟨row', found, frame.refl row'⟩

theorem deleteRow (world : World Bytes Digest) (id : Nat) :
    Follows rel world (world.deleteRow id) := by
  intro wanted row' found
  rw [show (world.deleteRow id).rows.get wanted = _ from Table.get_delete] at found
  split at found
  · cases found
  · exact ⟨row', found, frame.refl row'⟩

/-- Operations one after another. -/
theorem foldl {Task : Type} {change : World Bytes Digest → Task → World Bytes Digest}
    (each : ∀ world task, Follows rel world (change world task)) (world : World Bytes Digest)
    (tasks : List Task) : Follows rel world (tasks.foldl change world) := by
  induction tasks generalizing world with
  | nil => exact frame.same world
  | cons task tasks ih => exact frame.comp (each world task) (ih (change world task))

theorem pruneRow (cfg : Option ReplicationConfig) (unlinkFails : Nat → Bool)
    (world : World Bytes Digest) (row : Backup Digest) :
    Follows rel world (pruneRow cfg unlinkFails world row).1 := by
  unfold StoredBackups.pruneRow
  split
  · exact frame.same world
  · have unlinked : Follows rel world (world.unlinkStale row) := by
      apply frame.of_rows
      rw [World.unlinkStale]
      split <;> rfl
    apply frame.comp unlinked
    cases disposal cfg row with
    | offsiteOnly => exact frame.of_update (fun _ => World.get_pruned) frame.pruned
    | drop key => exact frame.deleteRow _ _

theorem pruneRows (run : PruneRun) (world : World Bytes Digest) (stale : List (Backup Digest)) :
    Follows rel world (pruneRows run world stale).1 := by
  induction stale generalizing world with
  | nil => exact frame.same world
  | cons row rows ih =>
    exact frame.comp (frame.pruneRow run.cfg run.unlinkFails world row) (ih _)

theorem cleanupOldBackups (world : World Bytes Digest) (run : PruneRun) :
    Follows rel world (cleanupOldBackups world run) := by
  apply frame.comp (frame.pruneRows run world (staleRows world run))
  obtain ⟨objects, same⟩ := deleteObjects_eq
    ((StoredBackups.pruneRows run world (staleRows world run)).2.filter fun key =>
      !run.deleteFails key) (StoredBackups.pruneRows run world (staleRows world run)).1
  apply frame.of_rows
  rw [StoredBackups.cleanupOldBackups, same]

theorem reencryptRow (codec : Codec Bytes Digest Salt) (salt : Salt) (faults : Nat → Faults)
    (world : World Bytes Digest) (task : ReencryptTask) :
    Follows rel world (reencryptRow codec salt faults world task) := by
  have unstaged : Follows rel world (world.unlink (resolveBackupPath task.path ++ ".new")) :=
    frame.of_rows rfl
  have reencrypted (world : World Bytes Digest) (password : String) (size : Nat) :
      Follows rel world (world.update task.backupId (Backup.reencrypted password size)) :=
    frame.of_update (fun _ => World.get_reencrypted) (frame.reencrypted password size)
  unfold StoredBackups.reencryptRow
  dsimp only
  split
  · exact frame.same world
  · split
    · exact unstaged
    · split
      · exact unstaged
      · split
        · split
          · exact frame.comp unstaged (reencrypted _ _ _)
          · exact frame.comp (frame.comp unstaged (reencrypted _ _ _)) (reencrypted _ _ _)
        · exact frame.comp (frame.comp unstaged (reencrypted _ _ _)) (frame.of_rows rfl)

theorem retrieveReplica [DecidableEq Digest] {codec : Codec Bytes Digest Salt} {cwd : String}
    {id : Nat} {cfg : Option ReplicationConfig} {salt : Salt} {fault : Option String}
    (returned : retrieveReplica codec cwd before id cfg salt fault = .ok after) :
    Follows rel before after := by
  rcases retrieveReplica_ok returned with
    rfl | ⟨settings, row, key, payload, content, -, -, -, -, -, -, -, -, rfl⟩
  · exact frame.same _
  · apply frame.comp (frame.of_rows rfl)
    exact frame.of_update (fun _ => World.get_retrieved) (frame.retrieved _)

end Frame

end PfsenseBackups.RowFrames

import PfsenseBackups.StoredBackups
import Mathlib.Algebra.Group.Nat.Defs

/-! Verifications and sweeps over the off-site copies: what a sweep makes of the rows that a
verification flagged, over uploads, sweeps, verifications, retention and retrievals in any order. -/

namespace PfsenseBackups.ReplicaHealing
open Replication StoredBackups Runs Tables

variable {Bytes Digest Salt : Type}

/-! ### `sweep_pending` -/

def maxAttempts : Nat :=
  8

def alertAfterAttempts : Nat :=
  3

/-- `_attempt_due`, in seconds. -/
def attemptDue (attempts : Nat) (lastAttempt : Option Nat) (now : Nat) : Bool :=
  match lastAttempt with
  | none => true
  | some last => last + min (10 * 60 * 2 ^ (attempts - 1)) (24 * 60 * 60) ≤ now

/-- What one upload attempt of a sweep comes upon. -/
structure Call (Bytes Salt : Type) where
  instanceName : String
  replicaAt : Nat
  salt : Salt
  attempt : Attempt Bytes

structure SweepRun (Bytes Salt : Type) where
  cfg : Option ReplicationConfig
  now : Nat
  /-- By the row's id. -/
  call : Nat → Call Bytes Salt

/-- The row is one that a sweep lists. -/
def Listed (row : Backup Digest) : Bool :=
  (row.replicaStatus = some .pending || row.replicaStatus = some .failed) &&
    row.replicaAttempts < maxAttempts && row.localPresent

def sweepRows (world : World Bytes Digest) : List (Backup Digest) :=
  world.rows.rows.filter Listed

structure Swept (Bytes Digest : Type) where
  world : World Bytes Digest
  /-- The successful uploads. -/
  ok : Nat := 0
  /-- The rows whose failures are notified. -/
  alerts : List Nat := []

section
variable (codec : Codec Bytes Digest Salt) (cwd : String)

def sweepRow (run : SweepRun Bytes Salt) (cfg : ReplicationConfig) (swept : Swept Bytes Digest)
    (row : Backup Digest) : Swept Bytes Digest :=
  if attemptDue row.replicaAttempts row.replicaAt run.now then
    let call := run.call row.id
    let tried := replicateBackup codec cwd swept.world row.id (some cfg) call.instanceName
      call.replicaAt call.salt call.attempt
    { world := tried.2
      ok := if tried.1 then swept.ok + 1 else swept.ok
      alerts :=
        if !tried.1 && row.replicaAttempts + 1 = alertAfterAttempts then swept.alerts ++ [row.id]
        else swept.alerts }
  else swept

def sweepPending (world : World Bytes Digest) (run : SweepRun Bytes Salt) : Swept Bytes Digest :=
  match run.cfg with
  | none => { world }
  | some cfg => (sweepRows world).foldl (sweepRow codec cwd run cfg) { world }

/-! ### `verify_replicas` -/

structure VerifyRun where
  cfg : Option ReplicationConfig
  instanceId : Option Nat
  deep : Bool
  /-- What the target's calls for a row raise. -/
  fault : Nat → Option String

def verifyRows (world : World Bytes Digest) (run : VerifyRun) : List (Backup Digest) :=
  world.rows.rows.filter fun row =>
    row.replicaStatus = some .done && run.instanceId.all (· = row.instanceId)

def problem [DecidableEq Digest] (world : World Bytes Digest) (run : VerifyRun)
    (row : Backup Digest) : Option String :=
  match run.fault row.id with
  | some text => some ("verify error: " ++ text)
  | none =>
    match row.replicaKey.bind world.objects with
    | none => some "remote object missing"
    | some blob =>
      if run.deep && row.replicaSha256.any (· ≠ codec.sha256 blob) then
        some "remote object corrupt (sha256 mismatch)"
      else none

def flag (problem : String) (row : Backup Digest) : Backup Digest :=
  { row with
    replicaStatus := some .failed
    replicaError := some problem }

theorem id_flag (problem : String) (row : Backup Digest) : (flag problem row).id = row.id := rfl

structure Verified (Bytes Digest : Type) where
  world : World Bytes Digest
  checked : Nat := 0
  flagged : List Nat := []

def verifyRow [DecidableEq Digest] (run : VerifyRun) (verified : Verified Bytes Digest)
    (row : Backup Digest) : Verified Bytes Digest :=
  match problem codec verified.world run row with
  | none => { verified with checked := verified.checked + 1 }
  | some text =>
    { world := verified.world.update row.id (flag text) (id_flag text)
      checked := verified.checked + 1
      flagged := verified.flagged ++ [row.id] }

def verifyReplicas [DecidableEq Digest] (world : World Bytes Digest) (run : VerifyRun) :
    Verified Bytes Digest :=
  match run.cfg with
  | none => { world }
  | some _ => (verifyRows world run).foldl (verifyRow codec run) { world }

/-! ### Runs -/

structure State (Bytes Digest : Type) where
  world : World Bytes Digest
  /-- The rows that were flagged and that no sweep has followed; no operation reads it. -/
  waiting : Nat → Prop := fun _ => False

inductive Op (Bytes Salt : Type) where
  /-- A fresh backup: its file and its row. -/
  | record (run : BackupRun Bytes Salt)
  | recordFailed (instanceId startedAt : Nat)
  /-- The hook after a backup. -/
  | hook (id : Nat) (run : BackupRun Bytes Salt)
  | sweep (run : SweepRun Bytes Salt)
  | verify (run : VerifyRun)
  | prune (run : PruneRun)
  | retrieve (id : Nat) (cfg : Option ReplicationConfig) (salt : Salt) (fault : Option String)

def recordBackup (world : World Bytes Digest) (run : BackupRun Bytes Salt) : World Bytes Digest :=
  let saved := saveBackup codec cwd world run
  writeBackupHistory saved.1 run saved.2

inductive Step [DecidableEq Digest] :
    State Bytes Digest → Op Bytes Salt → State Bytes Digest → Prop
  | record {state run} :
    Step state (.record run) { state with world := recordBackup codec cwd state.world run }
  | recordFailed {state instanceId startedAt} :
    Step state (.recordFailed instanceId startedAt)
      { state with world := writeFailedHistory state.world instanceId startedAt }
  | hook {state id run row} (found : state.world.rows.get id = some row)
      (fresh : row.replicaStatus = none) :
    Step state (.hook id run)
      { state with world := replicateNewBackup codec cwd state.world id run }
  | sweep {state run} :
    Step state (.sweep run) { world := (sweepPending codec cwd state.world run).world }
  | verify {state run} :
    Step state (.verify run)
      { world := (verifyReplicas codec state.world run).world
        waiting := fun id =>
          state.waiting id ∨ id ∈ (verifyReplicas codec state.world run).flagged }
  | prune {state run} :
    Step state (.prune run)
      { world := cleanupOldBackups state.world run
        waiting := fun id =>
          state.waiting id ∧ ((cleanupOldBackups state.world run).rows.get id).isSome }
  | retrieve {state id cfg salt fault after}
      (returned : retrieveReplica codec cwd state.world id cfg salt fault = .ok after) :
    Step state (.retrieve id cfg salt fault) { state with world := after }
  | retrieveRaises {state id cfg salt fault text}
      (raised : retrieveReplica codec cwd state.world id cfg salt fault = .error text) :
    Step state (.retrieve id cfg salt fault) state

/-- No row has been uploaded yet. -/
def Fresh (world : World Bytes Digest) : Prop :=
  ∀ id row, world.rows.get id = some row → row.replicaStatus = none ∧ row.replicaAttempts = 0

/-! ### What is promised -/

/-- The row is done, and the target holds under its key what it recorded: a payload made of the
file. -/
def Healed (world : World Bytes Digest) (id : Nat) (raw : Bytes) (encrypted compressed : Bool)
    (cfg : ReplicationConfig) : Prop :=
  ∃ row key payload salt suffix, world.rows.get id = some row ∧
    row.replicaStatus = some .done ∧ row.replicaKey = some key ∧
    world.objects key = some payload ∧ row.replicaSha256 = some (codec.sha256 payload) ∧
    preparePayload codec salt raw encrypted compressed cfg = .ok (payload, suffix)

/-- The object that a sweep uploads for a row while the target is healthy. -/
def upload? (world : World Bytes Digest) (run : SweepRun Bytes Salt) (cfg : ReplicationConfig)
    (row : Backup Digest) : Option (String × Bytes) :=
  if attemptDue row.replicaAttempts row.replicaAt run.now then
    match world.files (openedPath cwd row.path) with
    | none => none
    | some raw =>
      match preparePayload codec (run.call row.id).salt raw row.encrypted row.compressed cfg with
      | .error _ => none
      | .ok (payload, suffix) =>
        some (objectKey cfg (run.call row.id).instanceName row.filename suffix, payload)
  else none

/-- The objects that the sweep uploads under a key, in order. -/
def uploadsUnder (world : World Bytes Digest) (run : SweepRun Bytes Salt)
    (cfg : ReplicationConfig) (key : String) : List (String × Bytes) :=
  ((sweepRows world).filterMap (upload? codec cwd world run cfg)).filter fun upload =>
    upload.1 = key

/-- Of the objects that the sweep uploads under the row's key, the last is like the row's own. -/
def OwnLast (world : World Bytes Digest) (run : SweepRun Bytes Salt) (cfg : ReplicationConfig)
    (row : Backup Digest) : Prop :=
  ∃ upload, upload? codec cwd world run cfg row = some upload ∧
    (uploadsUnder codec cwd world run cfg upload.1).getLast? = some upload

end

/-! ### One upload attempt -/

/-- What an attempt may make of its row. -/
def Outcome (now : Nat) (row row' : Backup Digest) : Prop :=
  row' = row ∨ (∃ text, row' = row.failed now text) ∨ row' = row.skipped now ∨
    ∃ key digest, row' = row.uploaded now key digest

section
variable {codec : Codec Bytes Digest Salt} {cwd : String} {world : World Bytes Digest}
  {id wanted now : Nat} {cfg : ReplicationConfig} {instanceName : String} {salt : Salt}
  {attempt : Attempt Bytes} {row : Backup Digest}

theorem replicate_frame (config : Option ReplicationConfig) :
    (replicateBackup codec cwd world id config instanceName now salt attempt).2.files =
        world.files ∧
      ∀ wanted, wanted ≠ id →
        (replicateBackup codec cwd world id config instanceName now salt attempt).2.rows.get
          wanted = world.rows.get wanted := by
  have failed (world : World Bytes Digest) (text : String) (wanted : Nat) (differ : wanted ≠ id) :
      (world.markFailed id now text).rows.get wanted = world.rows.get wanted :=
    World.get_markFailed.trans (if_neg differ)
  unfold replicateBackup
  split
  · exact ⟨rfl, fun _ _ => rfl⟩
  · exact ⟨rfl, fun _ _ => rfl⟩
  · split
    · exact ⟨rfl, failed _ _⟩
    · split
      · exact ⟨rfl, fun _ differ => World.get_markSkipped.trans (if_neg differ)⟩
      · split
        · exact ⟨rfl, failed _ _⟩
        · split
          · exact ⟨rfl, failed _ _⟩
          · exact ⟨rfl, failed _ _⟩
          · exact ⟨rfl, fun _ differ => World.get_markDone.trans (if_neg differ)⟩

theorem replicate_outcome (config : Option ReplicationConfig)
    (found : world.rows.get id = some row) :
    ∃ row', (replicateBackup codec cwd world id config instanceName now salt attempt).2.rows.get
      id = some row' ∧ Outcome now row row' := by
  have failed (after : World Bytes Digest) (same : after.rows = world.rows) (text : String) :
      ∃ row', (after.markFailed id now text).rows.get id = some row' ∧ Outcome now row row' := by
    refine ⟨row.failed now text, ?_, .inr (.inl ⟨text, rfl⟩)⟩
    rw [World.get_markFailed, if_pos rfl, same, found]
    rfl
  unfold replicateBackup
  rw [found]
  cases config with
  | none => exact ⟨row, found, .inl rfl⟩
  | some cfg =>
    simp only
    split
    · exact failed _ rfl _
    · split
      · refine ⟨row.skipped now, ?_, .inr (.inr (.inl rfl))⟩
        rw [World.get_markSkipped, if_pos rfl, found]
        rfl
      · split
        · exact failed _ rfl _
        · split
          · exact failed _ rfl _
          · exact failed _ rfl _
          · exact ⟨_, (World.get_markDone.trans (if_pos rfl)).trans (congrArg _ found),
              .inr (.inr (.inr ⟨_, _, rfl⟩))⟩

/-! ### One row of a sweep -/

variable {run : SweepRun Bytes Salt} {swept : Swept Bytes Digest} {rows : List (Backup Digest)}
  {key : String} {payload : Bytes}

theorem sweepRow_frame (row : Backup Digest) :
    (sweepRow codec cwd run cfg swept row).world.files = swept.world.files ∧
      ∀ wanted, wanted ≠ row.id →
        (sweepRow codec cwd run cfg swept row).world.rows.get wanted =
          swept.world.rows.get wanted := by
  unfold sweepRow
  split
  · exact replicate_frame (some cfg)
  · exact ⟨rfl, fun _ _ => rfl⟩

theorem sweepRow_outcome (found : swept.world.rows.get row.id = some row) :
    ∃ row', (sweepRow codec cwd run cfg swept row).world.rows.get row.id = some row' ∧
      Outcome (run.call row.id).replicaAt row row' := by
  unfold sweepRow
  split
  · exact replicate_outcome (some cfg) found
  · exact ⟨row, found, .inl rfl⟩

/-- While the target is healthy, a row gets its object or the target stays as it is. -/
theorem sweepRow_healthy (codec : Codec Bytes Digest Salt) (cwd : String)
    (cfg : ReplicationConfig) (healthy : (run.call row.id).attempt = .succeeds)
    (found : swept.world.rows.get row.id = some row) (present : row.localPresent = true) :
    match upload? codec cwd swept.world run cfg row with
    | none => (sweepRow codec cwd run cfg swept row).world.objects = swept.world.objects
    | some (key, payload) => (sweepRow codec cwd run cfg swept row).world =
        (swept.world.putObject key payload).markDone row.id (run.call row.id).replicaAt key
          (codec.sha256 payload) := by
  unfold upload? sweepRow replicateBackup
  simp only [healthy, found, present, Bool.not_true, Bool.false_eq_true, if_false]
  cases due : attemptDue row.replicaAttempts row.replicaAt run.now with
  | false => rfl
  | true =>
    simp only [if_true]
    cases swept.world.files (openedPath cwd row.path) with
    | none => rfl
    | some raw =>
      simp only
      cases preparePayload codec (run.call row.id).salt raw row.encrypted row.compressed cfg <;> rfl

theorem upload?_congr {after : World Bytes Digest} (files : after.files = world.files) :
    upload? codec cwd after run cfg row = upload? codec cwd world run cfg row := by
  rw [upload?, upload?, files]

/-! ### Whole sweeps -/

/-- The rows of a loop as they were listed, each with its own id. -/
structure Pending (world : World Bytes Digest) (rows : List (Backup Digest)) : Prop where
  distinct : (rows.map Backup.id).Nodup
  found : ∀ row ∈ rows, world.rows.get row.id = some row

theorem pending_filter (world : World Bytes Digest) (test : Backup Digest → Bool) :
    Pending world (world.rows.rows.filter test) where
  distinct := world.rows.distinct.sublist (List.filter_sublist.map _)
  found _ member := Table.get_of_mem (List.mem_of_mem_filter member)

/-- After the first row of a loop, the others are as they were listed. -/
theorem Pending.tail (pending : Pending world (row :: rows)) {after : World Bytes Digest}
    (others : ∀ wanted, wanted ≠ row.id → after.rows.get wanted = world.rows.get wanted) :
    Pending after rows := by
  have ⟨fresh, distinct⟩ := List.nodup_cons.mp pending.distinct
  refine ⟨distinct, fun other member => ?_⟩
  rw [others other.id fun same => fresh (same ▸ List.mem_map_of_mem member)]
  exact pending.found other (List.mem_cons_of_mem row member)

theorem sweep_frame (rows : List (Backup Digest)) :
    (rows.foldl (sweepRow codec cwd run cfg) swept).world.files = swept.world.files ∧
      ∀ wanted, wanted ∉ rows.map Backup.id →
        (rows.foldl (sweepRow codec cwd run cfg) swept).world.rows.get wanted =
          swept.world.rows.get wanted := by
  induction rows generalizing swept with
  | nil => exact ⟨rfl, fun _ _ => rfl⟩
  | cons row rows ih =>
    have ⟨files, others⟩ := @sweepRow_frame _ _ _ codec cwd cfg run swept row
    have ⟨files', others'⟩ := @ih (sweepRow codec cwd run cfg swept row)
    refine ⟨files'.trans files, fun wanted absent => ?_⟩
    rw [List.map_cons, List.mem_cons, not_or] at absent
    exact (others' wanted absent.2).trans (others wanted absent.1)

theorem Pending.sweepRow (pending : Pending swept.world (row :: rows)) :
    Pending (ReplicaHealing.sweepRow codec cwd run cfg swept row).world rows :=
  pending.tail (sweepRow_frame row).2

/-- A listed row comes out of the sweep as its own attempt leaves it. -/
theorem sweep_keeps (pending : Pending swept.world rows) (member : row ∈ rows)
    {result : Backup Digest → Prop}
    (one : ∀ swept : Swept Bytes Digest, swept.world.rows.get row.id = some row →
      ∃ row', (sweepRow codec cwd run cfg swept row).world.rows.get row.id = some row' ∧
        result row') :
    ∃ row', (rows.foldl (sweepRow codec cwd run cfg) swept).world.rows.get row.id = some row' ∧
      result row' := by
  induction rows generalizing swept with
  | nil => exact absurd member List.not_mem_nil
  | cons first rows ih =>
    rcases List.mem_cons.mp member with rfl | later
    · have ⟨row', found, holds⟩ := one swept (pending.found row List.mem_cons_self)
      have fresh := (List.nodup_cons.mp pending.distinct).1
      exact ⟨row', ((sweep_frame rows).2 _ fresh).trans found, holds⟩
    · exact ih pending.sweepRow later

theorem sweep_outcome (pending : Pending swept.world rows) (member : row ∈ rows) :
    ∃ row', (rows.foldl (sweepRow codec cwd run cfg) swept).world.rows.get row.id = some row' ∧
      Outcome (run.call row.id).replicaAt row row' :=
  sweep_keeps pending member fun _ found => sweepRow_outcome found

/-- A row that the healthy target gets is done with its object's key and digest. -/
theorem sweep_uploaded (healthy : ∀ id, (run.call id).attempt = .succeeds)
    (pending : Pending swept.world rows) (member : row ∈ rows) (present : row.localPresent = true)
    (uploads : upload? codec cwd swept.world run cfg row = some (key, payload)) :
    (rows.foldl (sweepRow codec cwd run cfg) swept).world.rows.get row.id =
      some (row.uploaded (run.call row.id).replicaAt key (codec.sha256 payload)) := by
  induction rows generalizing swept with
  | nil => exact absurd member List.not_mem_nil
  | cons first rows ih =>
    rcases List.mem_cons.mp member with rfl | later
    · have found := pending.found row List.mem_cons_self
      have one := sweepRow_healthy codec cwd cfg (healthy row.id) found present
      simp only [uploads] at one
      have fresh := (List.nodup_cons.mp pending.distinct).1
      rw [List.foldl_cons, (sweep_frame rows).2 _ fresh, one, World.get_markDone, if_pos rfl]
      exact congrArg _ found
    · exact ih pending.sweepRow later ((upload?_congr (sweepRow_frame first).1).trans uploads)

/-- Under each key the healthy target holds what the sweep uploaded last. -/
theorem sweep_objects (healthy : ∀ id, (run.call id).attempt = .succeeds)
    (pending : Pending swept.world rows) (present : ∀ row ∈ rows, row.localPresent = true) :
    (rows.foldl (sweepRow codec cwd run cfg) swept).world.objects key =
      match ((rows.filterMap (upload? codec cwd swept.world run cfg)).filter fun upload =>
        upload.1 = key).getLast? with
      | none => swept.world.objects key
      | some upload => some upload.2 := by
  induction rows generalizing swept with
  | nil => rfl
  | cons row rows ih =>
    have found := pending.found row List.mem_cons_self
    have one := sweepRow_healthy codec cwd cfg (healthy row.id) found
      (present row List.mem_cons_self)
    have later : upload? codec cwd (sweepRow codec cwd run cfg swept row).world run cfg =
        upload? codec cwd swept.world run cfg :=
      funext fun _ => upload?_congr (sweepRow_frame row).1
    have rest := @ih (sweepRow codec cwd run cfg swept row) pending.sweepRow
      fun other member => present other (List.mem_cons_of_mem row member)
    rw [later] at rest
    rw [List.foldl_cons, rest]
    cases uploads : upload? codec cwd swept.world run cfg row with
    | none =>
      simp only [uploads] at one
      rw [List.filterMap_cons_none uploads, one]
    | some upload =>
      simp only [uploads] at one
      rw [List.filterMap_cons_some uploads, List.filter_cons]
      have objects : (sweepRow codec cwd run cfg swept row).world.objects =
          Function.update swept.world.objects upload.1 (some upload.2) := by
        rw [one]
        rfl
      rw [objects]
      by_cases same : upload.1 = key
      · rw [if_pos (by simpa using same), List.getLast?_cons, same, Function.update_self]
        cases ((rows.filterMap (upload? codec cwd swept.world run cfg)).filter fun upload =>
          upload.1 = key).getLast? <;> rfl
      · rw [if_neg (by simpa using same), Function.update_of_ne (Ne.symm same)]

/-! ### The attempts of a done row -/

/-- The counter of a row that is done has not reached its bound. -/
def Counted (row : Backup Digest) : Prop :=
  (row.replicaStatus = none → row.replicaAttempts = 0) ∧
    (row.replicaStatus = some .done → row.replicaAttempts < maxAttempts)

/-- A row that the next sweep lists. -/
def Flagged (row : Backup Digest) : Prop :=
  row.replicaStatus = some .failed ∧ row.replicaAttempts < maxAttempts

structure Inv (world : World Bytes Digest) (waiting : Nat → Prop) : Prop where
  counted : ∀ id row, world.rows.get id = some row → Counted row
  flagged : ∀ id, waiting id → ∃ row, world.rows.get id = some row ∧ Flagged row

variable {after : World Bytes Digest} {waiting : Nat → Prop}

theorem Outcome.counted {row' : Backup Digest} (outcome : Outcome now row row')
    (counted : Counted row) (fewer : row.replicaAttempts < maxAttempts) : Counted row' := by
  rcases outcome with rfl | ⟨text, rfl⟩ | rfl | ⟨key, digest, rfl⟩
  · exact counted
  · exact ⟨fun none => (nomatch none), fun done => (nomatch done)⟩
  · exact ⟨fun none => (nomatch none), fun done => (nomatch done)⟩
  · exact ⟨fun none => (nomatch none), fun _ => fewer⟩

/-- What is said of the rows carries over where statuses and counters do. -/
theorem Inv.kept (inv : Inv world waiting) {waiting' : Nat → Prop}
    (rows : ∀ wanted row', after.rows.get wanted = some row' →
      ∃ row, world.rows.get wanted = some row ∧ row'.replicaStatus = row.replicaStatus ∧
        row'.replicaAttempts = row.replicaAttempts)
    (still : ∀ wanted, waiting' wanted →
      waiting wanted ∧ (after.rows.get wanted).isSome = true) : Inv after waiting' where
  counted wanted row' found := by
    have ⟨row, before, status, attempts⟩ := rows wanted row' found
    unfold Counted
    rw [status, attempts]
    exact inv.counted wanted row before
  flagged wanted awaited := by
    have ⟨waited, present⟩ := still wanted awaited
    have ⟨row', found⟩ := Option.isSome_iff_exists.mp present
    have ⟨row, before, status, attempts⟩ := rows wanted row' found
    have ⟨other, same, flagged⟩ := inv.flagged wanted waited
    rw [before] at same
    refine ⟨row', found, ?_⟩
    unfold Flagged
    rw [status, attempts, Option.some.inj same]
    exact flagged

theorem Inv.one (inv : Inv world waiting) {row' : Backup Digest}
    (others : ∀ wanted, wanted ≠ id → after.rows.get wanted = world.rows.get wanted)
    (self : after.rows.get id = some row') (counted : Counted row')
    (still : waiting id → Flagged row') : Inv after waiting where
  counted wanted other found := by
    by_cases same : wanted = id
    · rw [same, self] at found
      exact Option.some.inj found ▸ counted
    · exact inv.counted wanted other (others wanted same ▸ found)
  flagged wanted awaited := by
    by_cases same : wanted = id
    · rw [same] at awaited ⊢
      exact ⟨row', self, still awaited⟩
    · rw [others wanted same]
      exact inv.flagged wanted awaited

theorem Inv.insert (inv : Inv world waiting) (rows : after.rows = world.rows.insert row)
    (next : row.id = world.rows.nextId) (fresh : row.replicaStatus = none)
    (zero : row.replicaAttempts = 0) : Inv after waiting := by
  have free : world.rows.get row.id = none := next ▸ Table.get_nextId
  constructor
  · intro wanted row' found
    rw [rows, Table.get_insert free] at found
    split at found
    · rw [← Option.some.inj found]
      exact ⟨fun _ => zero, fun done => by simp [fresh] at done⟩
    · exact inv.counted wanted row' found
  · intro wanted awaited
    have ⟨other, found, flagged⟩ := inv.flagged wanted awaited
    refine ⟨other, ?_, flagged⟩
    rw [rows, Table.get_insert free, if_neg, found]
    intro same
    rw [same, free] at found
    cases found

theorem saveBackup_rows (codec : Codec Bytes Digest Salt) (cwd : String)
    (world : World Bytes Digest) (run : BackupRun Bytes Salt) :
    (saveBackup codec cwd world run).1.rows = world.rows := by
  unfold saveBackup
  simp only
  split <;> rfl

theorem Inv.hook (inv : Inv world waiting) (run : BackupRun Bytes Salt)
    (found : world.rows.get id = some row) (fresh : row.replicaStatus = none) :
    Inv (replicateNewBackup codec cwd world id run) waiting := by
  unfold replicateNewBackup
  split
  · exact inv
  · next cfg _ =>
    have pending : (world.update id Backup.pending).rows.get id = some row.pending := by
      rw [World.get_pending, if_pos rfl, found]
      rfl
    have zero := (inv.counted id row found).1 fresh
    have tried : ∃ row', (replicateBackup codec cwd (world.update id Backup.pending) id (some cfg)
        run.instanceName run.replicaAt run.salt run.attempt).2.rows.get id = some row' ∧
          Outcome run.replicaAt row.pending row' := replicate_outcome (some cfg) pending
    have ⟨row', after, outcome⟩ := tried
    apply inv.one _ after
    · apply outcome.counted ⟨fun none => (nomatch none), fun done => (nomatch done)⟩
      show row.replicaAttempts < maxAttempts
      rw [zero]
      decide
    · intro awaited
      have ⟨other, same, flagged⟩ := inv.flagged id awaited
      rw [← Option.some.inj (found.symm.trans same), Flagged, fresh] at flagged
      exact absurd flagged.1 (by simp)
    · exact fun wanted differ => ((replicate_frame (some cfg)).2 wanted differ).trans
        (World.get_pending.trans (if_neg differ))

/-- The rows of a sweep's end, each with what its attempt made of it. -/
theorem Inv.sweep (inv : Inv world waiting) (run : SweepRun Bytes Salt) :
    Inv (sweepPending codec cwd world run).world fun _ => False := by
  refine ⟨fun wanted row' found => ?_, fun _ never => never.elim⟩
  unfold sweepPending at found
  split at found
  · exact inv.counted wanted row' found
  · next cfg _ =>
    have pending := pending_filter world Listed
    by_cases listed : wanted ∈ (sweepRows world).map Backup.id
    · have ⟨row, member, same⟩ := List.mem_map.mp listed
      rw [← same] at found
      have came : ∃ row'', ((sweepRows world).foldl (sweepRow codec cwd run cfg)
          { world }).world.rows.get row.id = some row'' ∧
            Outcome (run.call row.id).replicaAt row row'' := sweep_outcome pending member
      have ⟨row'', after, outcome⟩ := came
      rw [after] at found
      rw [← Option.some.inj found]
      have test := List.of_mem_filter member
      simp only [Listed, Bool.and_eq_true, decide_eq_true_eq] at test
      exact outcome.counted (inv.counted row.id row (pending.found row member)) test.1.2
    · rw [(sweep_frame (sweepRows world)).2 wanted listed] at found
      exact inv.counted wanted row' found

/-- The rows that are left have their statuses and counters. -/
def Kept (world after : World Bytes Digest) : Prop :=
  ∀ wanted row', after.rows.get wanted = some row' → ∃ row, world.rows.get wanted = some row ∧
    row'.replicaStatus = row.replicaStatus ∧ row'.replicaAttempts = row.replicaAttempts

theorem Kept.refl (world : World Bytes Digest) : Kept world world :=
  fun _ row' found => ⟨row', found, rfl, rfl⟩

theorem Kept.trans {middle : World Bytes Digest} (first : Kept world middle)
    (second : Kept middle after) : Kept world after := by
  intro wanted row' found
  have ⟨row, between, status, attempts⟩ := second wanted row' found
  have ⟨before, found', status', attempts'⟩ := first wanted row between
  exact ⟨before, found', status.trans status', attempts.trans attempts'⟩

theorem kept_pruneRow (config : Option ReplicationConfig) (unlinkFails : Nat → Bool)
    (world : World Bytes Digest) (row : Backup Digest) :
    Kept world (pruneRow config unlinkFails world row).1 := by
  have unlinked : (world.unlinkStale row).rows = world.rows := by
    unfold World.unlinkStale
    split <;> rfl
  unfold pruneRow
  split
  · exact .refl world
  · intro wanted row' found
    simp only [World.dispose] at found
    split at found
    · rw [World.get_pruned, unlinked] at found
      split at found
      · obtain ⟨before, found', same⟩ := Option.map_eq_some_iff.mp found
        exact ⟨before, found', same ▸ rfl, same ▸ rfl⟩
      · exact ⟨row', found, rfl, rfl⟩
    · rw [World.deleteRow, Table.get_delete, unlinked] at found
      split at found
      · cases found
      · exact ⟨row', found, rfl, rfl⟩

theorem kept_cleanup (world : World Bytes Digest) (run : PruneRun) :
    Kept world (cleanupOldBackups world run) := by
  have rows (stale : List (Backup Digest)) (world : World Bytes Digest) :
      Kept world (pruneRows run world stale).1 := by
    induction stale generalizing world with
    | nil => exact .refl world
    | cons row rows ih => exact (kept_pruneRow run.cfg run.unlinkFails world row).trans (ih _)
  have ⟨objects, same⟩ := deleteObjects_eq
    ((pruneRows run world (staleRows world run)).2.filter fun key => !run.deleteFails key)
    (pruneRows run world (staleRows world run)).1
  rw [cleanupOldBackups, same]
  exact rows (staleRows world run) world

variable [DecidableEq Digest]

/-- The rows that a verification's loop has flagged so far wait with those before. -/
theorem Inv.verifyRows {run : VerifyRun} {verified : Verified Bytes Digest}
    (inv : Inv verified.world fun id => waiting id ∨ id ∈ verified.flagged)
    (pending : Pending verified.world rows)
    (done : ∀ row ∈ rows, row.replicaStatus = some .done) :
    Inv (rows.foldl (verifyRow codec run) verified).world fun id =>
      waiting id ∨ id ∈ (rows.foldl (verifyRow codec run) verified).flagged := by
  induction rows generalizing verified with
  | nil => exact inv
  | cons row rows ih =>
    have found := pending.found row List.mem_cons_self
    have later (other : Backup Digest) (member : other ∈ rows) :=
      done other (List.mem_cons_of_mem row member)
    rw [List.foldl_cons]
    cases wrong : problem codec verified.world run row with
    | none =>
      have same : (verifyRow codec run verified row).world = verified.world ∧
          (verifyRow codec run verified row).flagged = verified.flagged := by
        rw [verifyRow, wrong]
        exact ⟨rfl, rfl⟩
      apply ih _ (pending.tail fun _ _ => by rw [same.1]) later
      rw [same.1, same.2]
      exact inv
    | some text =>
      have same : (verifyRow codec run verified row).world =
            verified.world.update row.id (flag text) (id_flag text) ∧
          (verifyRow codec run verified row).flagged = verified.flagged ++ [row.id] := by
        rw [verifyRow, wrong]
        exact ⟨rfl, rfl⟩
      have others (wanted : Nat) (differ : wanted ≠ row.id) :
          (verifyRow codec run verified row).world.rows.get wanted =
            verified.world.rows.get wanted := by
        rw [same.1]
        exact (World.get_update (flag text) (id_flag text)).trans (if_neg differ)
      have self :
          (verifyRow codec run verified row).world.rows.get row.id = some (flag text row) := by
        rw [same.1, World.get_update (flag text) (id_flag text), if_pos rfl, found]
        rfl
      have fewer := (inv.counted row.id row found).2 (done row List.mem_cons_self)
      have flagged : Flagged (flag text row) := ⟨rfl, fewer⟩
      apply ih _ (pending.tail others) later
      have once := inv.one others self ⟨fun none => (nomatch none), fun done => (nomatch done)⟩
        fun _ => flagged
      refine ⟨once.counted, fun wanted awaited => ?_⟩
      rw [same.2, List.mem_append, List.mem_singleton, ← or_assoc] at awaited
      rcases awaited with before | new
      · exact once.flagged wanted before
      · exact ⟨flag text row, new ▸ self, flagged⟩

theorem Inv.verify (inv : Inv world waiting) (run : VerifyRun) :
    Inv (verifyReplicas codec world run).world fun id =>
      waiting id ∨ id ∈ (verifyReplicas codec world run).flagged := by
  have start : Inv world fun id => waiting id ∨ id ∈ ([] : List Nat) :=
    ⟨inv.counted, fun id awaited => inv.flagged id (by simpa using awaited)⟩
  unfold verifyReplicas
  split
  · exact start
  · apply Inv.verifyRows start (pending_filter world _)
    intro row member
    have test := List.of_mem_filter member
    simp only [Bool.and_eq_true, decide_eq_true_eq] at test
    exact test.1

/-- A retrieval changes a row's presence and size. -/
theorem retrieve_rows {config : Option ReplicationConfig} {fault : Option String}
    (returned : retrieveReplica codec cwd world id config salt fault = .ok after) :
    after.rows = world.rows ∨ ∃ size, ∀ wanted, after.rows.get wanted =
      if wanted = id then (world.rows.get wanted).map (Backup.retrieved size)
      else world.rows.get wanted := by
  unfold retrieveReplica at returned
  split at returned
  · cases returned
  · cases returned
  · split at returned
    · cases returned
      exact .inl rfl
    · split at returned
      · split at returned
        · cases returned
        · cases returned
        · split at returned
          · cases returned
          · obtain ⟨content, _, written⟩ := bind_ok returned
            cases written
            exact .inr ⟨_, fun _ => World.get_retrieved⟩
      · cases returned

theorem Inv.retrieve (inv : Inv world waiting) {config : Option ReplicationConfig}
    {fault : Option String}
    (returned : retrieveReplica codec cwd world id config salt fault = .ok after) :
    Inv after waiting := by
  rcases retrieve_rows returned with same | ⟨size, rows⟩
  · exact ⟨same ▸ inv.counted, same ▸ inv.flagged⟩
  · apply inv.kept
    · intro wanted row' found
      rw [rows] at found
      split at found
      · have ⟨before, found', same⟩ := Option.map_eq_some_iff.mp found
        exact ⟨before, found', same ▸ rfl, same ▸ rfl⟩
      · exact ⟨row', found, rfl, rfl⟩
    · intro wanted awaited
      have ⟨row, found, _⟩ := inv.flagged wanted awaited
      refine ⟨awaited, ?_⟩
      rw [rows, found]
      split <;> rfl

theorem Inv.step {state after : State Bytes Digest} {op : Op Bytes Salt}
    (inv : Inv state.world state.waiting) (taken : Step codec cwd state op after) :
    Inv after.world after.waiting := by
  cases taken with
  | record =>
    exact inv.insert (by rw [recordBackup, writeBackupHistory, saveBackup_rows]) rfl rfl rfl
  | recordFailed => exact inv.insert rfl rfl rfl rfl
  | hook found fresh => exact inv.hook _ found fresh
  | sweep => exact inv.sweep _
  | verify => exact inv.verify _
  | prune => exact inv.kept (kept_cleanup _ _) fun _ awaited => awaited
  | retrieve returned => exact inv.retrieve returned
  | retrieveRaises => exact inv

/-! ### What a sweep heals -/

omit [DecidableEq Digest]

theorem attemptDue_late {last : Option Nat} (attempts : Nat)
    (late : ∀ time, last = some time → time + 24 * 60 * 60 ≤ now) :
    attemptDue attempts last now = true := by
  unfold attemptDue
  split
  · rfl
  · next time =>
    have day := late time rfl
    have capped := Nat.min_le_right (10 * 60 * 2 ^ (attempts - 1)) (24 * 60 * 60)
    rw [decide_eq_true_eq]
    omega

theorem sweepPending_uploaded (configured : run.cfg = some cfg)
    (healthy : ∀ id, (run.call id).attempt = .succeeds) (listed : row ∈ sweepRows world)
    (uploads : upload? codec cwd world run cfg row = some (key, payload)) :
    (sweepPending codec cwd world run).world.rows.get row.id =
      some (row.uploaded (run.call row.id).replicaAt key (codec.sha256 payload)) := by
  have test := List.of_mem_filter listed
  simp only [Listed, Bool.and_eq_true] at test
  rw [sweepPending, configured]
  exact sweep_uploaded healthy (pending_filter world Listed) listed test.2 uploads

theorem sweepPending_objects (configured : run.cfg = some cfg)
    (healthy : ∀ id, (run.call id).attempt = .succeeds) (key : String) :
    (sweepPending codec cwd world run).world.objects key =
      match (uploadsUnder codec cwd world run cfg key).getLast? with
      | none => world.objects key
      | some upload => some upload.2 := by
  rw [sweepPending, configured]
  apply sweep_objects healthy (pending_filter world Listed)
  intro row member
  have test := List.of_mem_filter member
  simp only [Listed, Bool.and_eq_true] at test
  exact test.2

/-- A row that is uploaded is one of those uploaded under its key. -/
theorem exists_lastUpload (listed : row ∈ sweepRows world)
    (uploads : upload? codec cwd world run cfg row = some (key, payload)) :
    ∃ content, (uploadsUnder codec cwd world run cfg key).getLast? = some (key, content) := by
  cases last : (uploadsUnder codec cwd world run cfg key).getLast? with
  | none =>
    have own : (key, payload) ∈ uploadsUnder codec cwd world run cfg key :=
      List.mem_filter.mpr ⟨List.mem_filterMap.mpr ⟨row, listed, uploads⟩, by simp⟩
    rw [List.getLast?_eq_none_iff.mp last] at own
    exact absurd own List.not_mem_nil
  | some upload =>
    have under := List.of_mem_filter (List.mem_of_getLast? last)
    exact ⟨upload.2, congrArg some (Prod.ext (of_decide_eq_true under) rfl)⟩

/-- A row that waits is healed by a late enough sweep of a healthy target exactly if what the sweep
uploads last under its key is like its own object. -/
theorem healed_iff (inv : Inv world waiting) (awaited : waiting id)
    (found : world.rows.get id = some row) (present : row.localPresent = true) {raw : Bytes}
    (read : world.files (openedPath cwd row.path) = some raw) (configured : run.cfg = some cfg)
    (healthy : ∀ id, (run.call id).attempt = .succeeds)
    (late : ∀ time, row.replicaAt = some time → time + 24 * 60 * 60 ≤ run.now)
    (prepares : ∃ made, preparePayload codec (run.call id).salt raw row.encrypted row.compressed
      cfg = .ok made) :
    Healed codec (sweepPending codec cwd world run).world id raw row.encrypted row.compressed cfg ↔
      OwnLast codec cwd world run cfg row := by
  have ⟨other, same, status, fewer⟩ := inv.flagged id awaited
  rw [← Option.some.inj (found.symm.trans same)] at status fewer
  have isId : row.id = id := Table.id_of_get found
  have ⟨⟨payload, suffix⟩, made⟩ := prepares
  have listed : row ∈ sweepRows world := by
    refine List.mem_filter.mpr ⟨Table.mem_of_get found, ?_⟩
    simp [Listed, status, fewer, present]
  have ⟨key, uploads⟩ : ∃ key, upload? codec cwd world run cfg row = some (key, payload) := by
    rw [upload?, attemptDue_late _ late, if_pos rfl, read]
    simp only [isId, made]
    exact ⟨_, rfl⟩
  have done := sweepPending_uploaded configured healthy listed uploads
  have objects := @sweepPending_objects _ _ _ codec cwd world cfg run configured healthy key
  rw [isId] at done
  refine ⟨?_, ?_⟩
  · rintro ⟨row', key', payload', _, _, found', _, recorded, held, digest, _⟩
    rw [done, Option.some.injEq] at found'
    rw [← found'] at recorded digest
    have sameKey : key = key' := Option.some.inj recorded
    have samePayload := codec.sha256_injective (Option.some.inj digest)
    rw [← sameKey, objects, ← samePayload] at held
    have ⟨content, last⟩ := exists_lastUpload listed uploads
    rw [last] at held
    exact ⟨(key, payload), uploads, Option.some.inj held ▸ last⟩
  · rintro ⟨upload, uploads', last⟩
    rw [uploads, Option.some.injEq] at uploads'
    rw [← uploads'] at last
    rw [last] at objects
    exact ⟨_, key, payload, (run.call id).salt, suffix, done, rfl, rfl, objects, rfl, made⟩

/-- In particular if no other row of the sweep has the key. -/
theorem ownLast_of_alone (listed : row ∈ sweepRows world)
    (uploads : upload? codec cwd world run cfg row = some (key, payload))
    (alone : ∀ other ∈ sweepRows world, ∀ content,
      upload? codec cwd world run cfg other = some (key, content) → content = payload) :
    OwnLast codec cwd world run cfg row := by
  have ⟨content, last⟩ := exists_lastUpload listed uploads
  have ⟨inside, _⟩ := List.mem_filter.mp (List.mem_of_getLast? last)
  have ⟨other, member, made⟩ := List.mem_filterMap.mp inside
  exact ⟨(key, payload), uploads, alone other member content made ▸ last⟩

theorem inv_of_reach [DecidableEq Digest] {start : World Bytes Digest} (fresh : Fresh start)
    {state : State Bytes Digest}
    (reached : Reach (Step codec cwd) unguarded { world := start } state) :
    Inv state.world state.waiting := by
  have first : Inv start fun _ => False := by
    refine ⟨fun id row found => ?_, fun _ never => never.elim⟩
    have ⟨status, zero⟩ := fresh id row found
    exact ⟨fun _ => zero, fun done => by simp [status] at done⟩
  induction reached with
  | refl => exact first
  | tail _ last ih =>
    have ⟨_, _, taken⟩ := last
    exact ih.step taken

/-- A flagged row with its file is healed by the first sweep that follows, late enough and of a
healthy target, exactly if what that sweep uploads last under the row's key is like its own. -/
theorem verified_heals_iff [DecidableEq Digest] {start : World Bytes Digest} (fresh : Fresh start)
    {state : State Bytes Digest}
    (reached : Reach (Step codec cwd) unguarded { world := start } state)
    (awaited : state.waiting id) (found : state.world.rows.get id = some row)
    (present : row.localPresent = true) {raw : Bytes}
    (read : state.world.files (openedPath cwd row.path) = some raw)
    (configured : run.cfg = some cfg) (healthy : ∀ id, (run.call id).attempt = .succeeds)
    (late : ∀ time, row.replicaAt = some time → time + 24 * 60 * 60 ≤ run.now)
    (prepares : ∃ made, preparePayload codec (run.call id).salt raw row.encrypted row.compressed
      cfg = .ok made) :
    Healed codec (sweepPending codec cwd state.world run).world id raw row.encrypted row.compressed
      cfg ↔ OwnLast codec cwd state.world run cfg row :=
  healed_iff (inv_of_reach fresh reached) awaited found present read configured healthy late
    prepares

end

/-! ### Two backups of a day, in two subfolders -/

/-- A plain backup with a time stamp of days. -/
def daily (folder text : String) : BackupRun Blob Unit :=
  { nightly with
    backupEncrypt := false
    content := .xml text
    xmlPath := "/backups/" ++ folder ++ "/edge_2025-01-01.xml" }

def backUp (world : World Blob Blob) (run : BackupRun Blob Unit) : World Blob Blob :=
  replicateNewBackup showing "/app" (recordBackup showing "/app" world run) world.rows.nextId run

def first : World Blob Blob := backUp emptyWorld (daily "a" "<pfsense>a</pfsense>")

def second : World Blob Blob := backUp first (daily "b" "<pfsense>b</pfsense>")

/-- The target times out. -/
def timeout : VerifyRun where
  cfg := some s3
  instanceId := none
  deep := true
  fault _ := some "timed out"

def doubted (world : World Blob Blob) : State Blob Blob where
  world := (verifyReplicas showing world timeout).world
  waiting id := False ∨ id ∈ (verifyReplicas showing world timeout).flagged

def nextDay : SweepRun Blob Unit where
  cfg := some s3
  now := 100000
  call _ := ⟨"edge", 100000, (), .succeeds⟩

theorem reach_backUp {start world : World Blob Blob}
    (reached : Reach (Step showing "/app") unguarded { world := start } { world })
    (run : BackupRun Blob Unit) :
    Reach (Step showing "/app") unguarded { world := start } { world := backUp world run } := by
  have recorded : Reach (Step showing "/app") unguarded { world := start }
      { world := recordBackup showing "/app" world run } := reached.snoc trivial .record
  have found := get_writeBackupHistory (saveBackup showing "/app" world run).1 run
    (saveBackup showing "/app" world run).2
  rw [saveBackup_rows] at found
  exact recorded.snoc trivial (.hook found rfl)

theorem reach_first : Reach (Step showing "/app") unguarded { world := emptyWorld }
    { world := first } :=
  reach_backUp .refl _

theorem fresh_empty : Fresh emptyWorld :=
  fun _ _ found => nomatch found

theorem reach_doubted {world : World Blob Blob}
    (reached : Reach (Step showing "/app") unguarded { world := emptyWorld } { world }) :
    Reach (Step showing "/app") unguarded { world := emptyWorld } (doubted world) :=
  @Reach.snoc _ _ _ _ _ _ _ (.verify timeout) reached trivial .verify

theorem late_nextDay : ∀ time, some 11 = some time → time + 24 * 60 * 60 ≤ nextDay.now := by
  rintro time ⟨⟩
  decide

theorem first_healed : Healed showing
    (sweepPending showing "/app" (doubted first).world nextDay).world 1
      (.xml "<pfsense>a</pfsense>") false false s3 := by
  have awaited : (doubted first).waiting 1 := .inr (by decide)
  exact (verified_heals_iff fresh_empty (reach_doubted reach_first) awaited rfl rfl rfl rfl
    (fun _ => rfl) late_nextDay ⟨_, rfl⟩).mpr ⟨_, rfl, rfl⟩

/-- With the second backup's object after its own under one key, the first is not healed. -/
theorem second_unhealed : ∃ row,
    Reach (Step showing "/app") unguarded { world := emptyWorld } (doubted second) ∧
      (doubted second).waiting 1 ∧ (doubted second).world.rows.get 1 = some row ∧
      row.localPresent = true ∧
      (doubted second).world.files (openedPath "/app" row.path) =
        some (.xml "<pfsense>a</pfsense>") ∧
      (∀ time, row.replicaAt = some time → time + 24 * 60 * 60 ≤ nextDay.now) ∧
      ¬Healed showing (sweepPending showing "/app" (doubted second).world nextDay).world 1
        (.xml "<pfsense>a</pfsense>") row.encrypted row.compressed s3 := by
  have reached := reach_doubted (reach_backUp reach_first (daily "b" "<pfsense>b</pfsense>"))
  have awaited : (doubted second).waiting 1 := .inr (by decide)
  refine ⟨_, reached, awaited, rfl, rfl, rfl, late_nextDay, fun healed => ?_⟩
  have ⟨upload, own, last⟩ := (healed_iff (inv_of_reach fresh_empty reached) awaited rfl rfl rfl rfl
    (fun _ => rfl) late_nextDay ⟨_, rfl⟩).mp healed
  have own' : some ("fleet/edge/edge_2025-01-01.xml.enc",
    Blob.wrapped "offsite" (.xml "<pfsense>a</pfsense>")) = some upload := own
  rw [← Option.some.inj own'] at last
  have other : some ("fleet/edge/edge_2025-01-01.xml.enc",
    Blob.wrapped "offsite" (.xml "<pfsense>b</pfsense>")) =
      some ("fleet/edge/edge_2025-01-01.xml.enc",
        Blob.wrapped "offsite" (.xml "<pfsense>a</pfsense>")) := last
  exact absurd other (by decide)

end PfsenseBackups.ReplicaHealing

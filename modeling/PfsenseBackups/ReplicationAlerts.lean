import PfsenseBackups.ReplicaHealing
import PfsenseBackups.RowFrames

/-! The notifications of replications that fail: what the sweeps tell the notifier, over upload
attempts by the hook after a backup, by the sweeps of the worker and by those of the command line,
each between any steps of the others. -/

namespace PfsenseBackups.ReplicationAlerts
open Replication StoredBackups ReplicaHealing RowFrames Runs Tables

variable {Bytes Digest Salt : Type}

/-! ### How an attempt ends -/

inductive Ending where
  /-- Replication is off, or the row is gone. -/
  | untried
  | succeeds
  | fails
  | skipped
  deriving DecidableEq

theorem id_pending (row : Backup Digest) : row.pending.id = row.id := rfl

def markPending (world : World Bytes Digest) (id : Nat) : World Bytes Digest :=
  world.update id Backup.pending id_pending

section
variable (codec : Codec Bytes Digest Salt) (cwd : String)

/-- What `replicate_backup` comes to, from what it comes upon. -/
def ending (world : World Bytes Digest) (id : Nat) (cfg : Option ReplicationConfig) (salt : Salt)
    (attempt : Attempt Bytes) : Ending :=
  match cfg, world.rows.get id with
  | none, _ | _, none => .untried
  | some cfg, some row =>
    if !row.localPresent then .fails
    else
      match world.files (openedPath cwd row.path) with
      | none => .skipped
      | some raw =>
        match preparePayload codec salt raw row.encrypted row.compressed cfg with
        | .error _ => .fails
        | .ok _ =>
          match attempt with
          | .raises _ _ => .fails
          | .succeeds => .succeeds

/-- The attempt of `_replicate_new_backup`. -/
def hookEnding (world : World Bytes Digest) (id : Nat) (run : BackupRun Bytes Salt) : Ending :=
  ending codec cwd (markPending world id) id run.prune.cfg run.salt run.attempt

/-- The attempt of a sweep for a row that is due. -/
def sweepEnding (world : World Bytes Digest) (run : SweepRun Bytes Salt) (cfg : ReplicationConfig)
    (row : Backup Digest) : Ending :=
  ending codec cwd world row.id (some cfg) (run.call row.id).salt (run.call row.id).attempt

/-! ### The system -/

/-- A sweep on its way, with the rows that it has still to visit as it read them at its start. -/
structure Sweep (Bytes Digest Salt : Type) where
  run : SweepRun Bytes Salt
  cfg : ReplicationConfig
  /-- The worker's sweeps have a notifier, those of the command line have none. -/
  notifies : Bool
  rows : List (Backup Digest)

/-- A verify pass on its way. -/
structure Verification (Digest : Type) where
  run : VerifyRun
  rows : List (Backup Digest)

structure State (Bytes Digest Salt : Type) where
  world : World Bytes Digest
  sweeps : List (Sweep Bytes Digest Salt) := []
  verifications : List (Verification Digest) := []
  /-- The backups whose uploads failed, once for each time; no operation reads it. -/
  failures : List Nat := []
  /-- The backups that the notifier was told of; no operation reads it. -/
  alerts : List Nat := []

inductive Op (Bytes Digest Salt : Type) where
  /-- A backup or an import wrote its file and its row. -/
  | record (row : Backup Digest)
  | hook (id : Nat) (run : BackupRun Bytes Salt)
  /-- The command line queues the backups that were never replicated. -/
  | backfill (replicates : Nat → Bool) (instanceId : Option Nat)
  | sweep (run : SweepRun Bytes Salt) (notifies : Bool)
  /-- A sweep comes to its next row. -/
  | attempt (run : SweepRun Bytes Salt) (cfg : ReplicationConfig) (notifies : Bool)
      (row : Backup Digest)
  | verify (run : VerifyRun)
  /-- A verify pass comes to its next row. -/
  | check (run : VerifyRun) (row : Backup Digest)
  | prune (run : PruneRun)
  | delete (id : Nat)
  | retrieve (id : Nat) (cfg : Option ReplicationConfig) (salt : Salt) (fault : Option String)
  | reencrypt (task : ReencryptTask)
  /-- Files and objects come and go by other hands. -/
  | outside (files objects : String → Option Bytes)

/-- The backups that `replicate_backfill` marks pending. -/
def backfillIds (world : World Bytes Digest) (replicates : Nat → Bool) (instanceId : Option Nat) :
    List Nat :=
  (world.rows.rows.filter fun row =>
    row.success && row.localPresent && row.replicaStatus = none && replicates row.instanceId &&
      instanceId.all (· = row.instanceId)).map Backup.id

def failuresOf (id : Nat) (ending : Ending) : List Nat :=
  if ending = .fails then [id] else []

/-- An attempt and what follows from it are one step; between two rows of a sweep anything else may
take its turn. -/
inductive Step [DecidableEq Digest] :
    State Bytes Digest Salt → Op Bytes Digest Salt → State Bytes Digest Salt → Prop
  | record {state row} (files : String → Option Bytes) (fresh : row.id = state.world.rows.nextId)
      (untried : row.replicaAttempts = 0) :
    Step state (.record row)
      { state with
        world := { state.world with rows := state.world.rows.insert row, files }
        -- The id may have been that of another backup, deleted since.
        failures := state.failures.filter (· ≠ row.id)
        alerts := state.alerts.filter (· ≠ row.id) }
  | hook {state id run} :
    Step state (.hook id run)
      { state with
        world := replicateNewBackup codec cwd state.world id run
        failures := state.failures ++ failuresOf id (hookEnding codec cwd state.world id run) }
  | backfill {state replicates instanceId} :
    Step state (.backfill replicates instanceId)
      { state with
        world := (backfillIds state.world replicates instanceId).foldl markPending state.world }
  | sweep {state run cfg notifies} (configured : run.cfg = some cfg) :
    Step state (.sweep run notifies)
      { state with sweeps := state.sweeps ++ [⟨run, cfg, notifies, sweepRows state.world⟩] }
  | attempt {state run cfg notifies row rows front back}
      (next : state.sweeps = front ++ ⟨run, cfg, notifies, row :: rows⟩ :: back) :
    Step state (.attempt run cfg notifies row)
      { state with
        world := (sweepRow codec cwd run cfg { world := state.world } row).world
        sweeps := front ++ ⟨run, cfg, notifies, rows⟩ :: back
        failures := state.failures ++
          if attemptDue row.replicaAttempts row.replicaAt run.now then
            failuresOf row.id (sweepEnding codec cwd state.world run cfg row)
          else []
        alerts := state.alerts ++
          if notifies then (sweepRow codec cwd run cfg { world := state.world } row).alerts
          else [] }
  | verify {state run cfg} (configured : run.cfg = some cfg) :
    Step state (.verify run)
      { state with
        verifications := state.verifications ++ [⟨run, verifyRows state.world run⟩] }
  | check {state run row rows front back}
      (next : state.verifications = front ++ ⟨run, row :: rows⟩ :: back) :
    Step state (.check run row)
      { state with
        world := (verifyRow codec run { world := state.world } row).world
        verifications := front ++ ⟨run, rows⟩ :: back }
  | prune {state run} :
    Step state (.prune run) { state with world := cleanupOldBackups state.world run }
  | delete {state id row} (found : state.world.rows.get id = some row) :
    Step state (.delete id)
      { state with world := (state.world.unlink (openedPath cwd row.path)).deleteRow id }
  | retrieve {state id cfg salt fault after}
      (returned : retrieveReplica codec cwd state.world id cfg salt fault = .ok after) :
    Step state (.retrieve id cfg salt fault) { state with world := after }
  | reencrypt {state task} (salt : Salt) (faults : Nat → Faults) :
    Step state (.reencrypt task)
      { state with world := reencryptRow codec salt faults state.world task }
  | outside {state files objects} :
    Step state (.outside files objects)
      { state with world := { state.world with files, objects } }

/-! ### The promise, and its condition -/

/-- The notifier was told of the backup once, if its uploads failed as often as the threshold says,
and never otherwise. -/
def OneAlert (id : Nat) (state : State Bytes Digest Salt) : Prop :=
  state.alerts.count id = if alertAfterAttempts ≤ state.failures.count id then 1 else 0

instance (id : Nat) (state : State Bytes Digest Salt) : Decidable (OneAlert id state) :=
  inferInstanceAs (Decidable (state.alerts.count id = _))

/-- One more failure takes the row's counter to the threshold. -/
def OneShort (row : Backup Digest) : Prop :=
  row.replicaAttempts + 1 = alertAfterAttempts

instance (row : Backup Digest) : Decidable (OneShort row) :=
  inferInstanceAs (Decidable (row.replicaAttempts + 1 = alertAfterAttempts))

/-- An attempt with this ending takes a row's counter to the threshold. -/
def Crosses (world : World Bytes Digest) (id : Nat) (ending : Ending) : Prop :=
  ending = .fails ∧ ∃ row, world.rows.get id = some row ∧ OneShort row

/-- No upload by the hook takes the backup's counter to the threshold; and of the unsuccessful ones
by a sweep, those do for which the sweep has a notifier and read a counter one short of it. -/
def Timely (id : Nat) (state : State Bytes Digest Salt) : Op Bytes Digest Salt → Prop
  | .hook backup run =>
    backup = id → ¬Crosses state.world id (hookEnding codec cwd state.world id run)
  | .attempt run cfg notifies row =>
    row.id = id → attemptDue row.replicaAttempts row.replicaAt run.now →
      sweepEnding codec cwd state.world run cfg row ≠ .succeeds →
        (Crosses state.world id (sweepEnding codec cwd state.world run cfg row) ↔
          notifies ∧ OneShort row)
  | _ => True

end

/-! ### What becomes of the counters -/

/-- No row is new, and the counter of each goes up once for each time that its id is listed. -/
def Counted (failed : List Nat) (before after : World Bytes Digest) : Prop :=
  ∀ id row', after.rows.get id = some row' → ∃ row, before.rows.get id = some row ∧
    row'.replicaAttempts = row.replicaAttempts + failed.count id

/-- The counters are left alone. -/
theorem counter_frame :
    Frame fun row row' : Backup Digest => row'.replicaAttempts = row.replicaAttempts where
  refl _ := rfl
  trans _ _ _ earlier later := later.trans earlier
  pruned _ := rfl
  retrieved _ _ := rfl
  reencrypted _ _ _ := rfl

section
variable {before middle after : World Bytes Digest} {failed : List Nat}

theorem Counted.comp (quiet : Counted [] before middle) (counted : Counted failed middle after) :
    Counted failed before after := by
  intro id row'' found
  obtain ⟨row', found', count'⟩ := counted id row'' found
  obtain ⟨row, found, count⟩ := quiet id row' found'
  refine ⟨row, found, ?_⟩
  rw [count', count]
  rfl

/-- A change of one row that counts a failure. -/
theorem Counted.markFailed (world : World Bytes Digest) (id now : Nat) (text : String) :
    Counted [id] world (world.markFailed id now text) := by
  intro wanted row' found
  rw [World.get_markFailed] at found
  split at found
  case isTrue same =>
    obtain ⟨row, held, rfl⟩ := Option.map_eq_some_iff.mp found
    rw [same, List.count_singleton_self]
    exact ⟨row, same ▸ held, rfl⟩
  case isFalse other =>
    refine ⟨row', found, ?_⟩
    rw [List.count_eq_zero.mpr fun member => other (List.mem_singleton.mp member), Nat.add_zero]

theorem verifyRow_counted [DecidableEq Digest] (codec : Codec Bytes Digest Salt) (run : VerifyRun)
    (verified : Verified Bytes Digest) (row : Backup Digest) :
    Counted [] verified.world (verifyRow codec run verified row).world := by
  unfold verifyRow
  cases problem codec verified.world run row with
  | none => exact counter_frame.same _
  | some text =>
    apply counter_frame.of_update fun _ => World.get_update (flag text) (id_flag text)
    exact fun _ => rfl

/-- An attempt counts if it fails. -/
theorem replicateBackup_counted (codec : Codec Bytes Digest Salt) (cwd : String)
    (world : World Bytes Digest) (id : Nat) (cfg : Option ReplicationConfig) (instanceName : String)
    (now : Nat) (salt : Salt) (attempt : Attempt Bytes) :
    ((replicateBackup codec cwd world id cfg instanceName now salt attempt).1 = true ↔
        ending codec cwd world id cfg salt attempt = .succeeds) ∧
      Counted (failuresOf id (ending codec cwd world id cfg salt attempt)) world
        (replicateBackup codec cwd world id cfg instanceName now salt attempt).2 := by
  have stored (key : String) (content : Bytes) :
      Counted [] world (world.putObject key content) := counter_frame.of_rows rfl
  cases cfg with
  | none => exact ⟨by simp [replicateBackup, ending], counter_frame.same world⟩
  | some cfg =>
    unfold replicateBackup ending
    cases found : world.rows.get id with
    | none => exact ⟨by simp, counter_frame.same world⟩
    | some row =>
      dsimp only
      cases row.localPresent with
      | false => exact ⟨by simp, .markFailed world id now _⟩
      | true =>
        cases world.files (openedPath cwd row.path) with
        | none =>
          exact ⟨by simp, counter_frame.of_update (fun _ => World.get_markSkipped) fun _ => rfl⟩
        | some raw =>
          dsimp only [Bool.not_true, Bool.false_eq_true, if_false]
          cases preparePayload codec salt raw row.encrypted row.compressed cfg with
          | error text => exact ⟨by simp, .markFailed world id now _⟩
          | ok made =>
            cases attempt with
            | raises left text =>
              cases left with
              | none => exact ⟨by simp, .markFailed world id now _⟩
              | some left => exact ⟨by simp, (stored _ _).comp (.markFailed _ id now _)⟩
            | succeeds =>
              exact ⟨by simp, (stored _ _).comp
                (counter_frame.of_update (fun _ => World.get_markDone) fun _ => rfl)⟩

theorem replicateNewBackup_counted (codec : Codec Bytes Digest Salt) (cwd : String)
    (world : World Bytes Digest) (id : Nat) (run : BackupRun Bytes Salt) :
    Counted (failuresOf id (hookEnding codec cwd world id run)) world
      (replicateNewBackup codec cwd world id run) := by
  have pending : Counted [] world (markPending world id) :=
    counter_frame.of_update (fun _ => World.get_pending) fun _ => rfl
  unfold replicateNewBackup hookEnding
  cases run.prune.cfg with
  | none => exact counter_frame.same world
  | some cfg => exact pending.comp (replicateBackup_counted codec cwd _ id _ _ _ _ _).2

end

/-! ### One step -/

/-- The counters are the numbers of failures. -/
def Inv (state : State Bytes Digest Salt) : Prop :=
  ∀ id row, state.world.rows.get id = some row → row.replicaAttempts = state.failures.count id

/-- Where the alerts were right, they stay so exactly if there is one more as the threshold is
reached, and none otherwise. -/
theorem once_iff {threshold failures alerts failed told : Nat} (single : failed ≤ 1)
    (once : alerts = if threshold ≤ failures then 1 else 0) :
    alerts + told = (if threshold ≤ failures + failed then 1 else 0) ↔
      told = if failed = 1 ∧ failures + 1 = threshold then 1 else 0 := by
  split_ifs at * <;> omega

theorem count_failuresOf (backup id : Nat) (ending : Ending) :
    (failuresOf backup ending).count id = if backup = id ∧ ending = .fails then 1 else 0 := by
  unfold failuresOf
  by_cases same : backup = id <;> by_cases fails : ending = .fails <;> simp [same, fails]

theorem count_told (backup id : Nat) (notifies : Bool) (alarming : Prop) [Decidable alarming] :
    (if notifies then if alarming then [backup] else [] else []).count id =
      if backup = id ∧ notifies ∧ alarming then 1 else 0 := by
  by_cases same : backup = id <;> cases notifies <;> by_cases alarmed : alarming <;>
    simp [same, alarmed]

theorem count_failuresOf_le (backup : Nat) (ending : Ending) (id : Nat) :
    (failuresOf backup ending).count id ≤ 1 := by
  rw [count_failuresOf]
  split <;> omega

section
variable {codec : Codec Bytes Digest Salt} {cwd : String} {world : World Bytes Digest}
  {state next : State Bytes Digest Salt} {id : Nat}

theorem exists_of_fails {cfg : Option ReplicationConfig} {salt : Salt} {attempt : Attempt Bytes}
    (fails : ending codec cwd world id cfg salt attempt = .fails) :
    ∃ row, world.rows.get id = some row := by
  unfold ending at fails
  cases found : world.rows.get id with
  | none =>
    rw [found] at fails
    cases cfg <;> cases fails
  | some row => exact ⟨row, rfl⟩

theorem exists_of_hook_fails {run : BackupRun Bytes Salt}
    (fails : hookEnding codec cwd world id run = .fails) : ∃ row, world.rows.get id = some row := by
  obtain ⟨row', found⟩ := exists_of_fails fails
  rw [markPending, World.get_pending, if_pos rfl] at found
  obtain ⟨row, found, -⟩ := Option.map_eq_some_iff.mp found
  exact ⟨row, found⟩

theorem Inv.crosses_iff (inv : Inv state) {ending : Ending}
    (listed : ending = .fails → ∃ row, state.world.rows.get id = some row) :
    Crosses state.world id ending ↔
      ending = .fails ∧ state.failures.count id + 1 = alertAfterAttempts := by
  apply and_congr_right
  intro fails
  constructor
  · intro crossed
    obtain ⟨row, found, short⟩ := crossed
    rw [← inv id row found]
    exact short
  · intro short
    obtain ⟨row, found⟩ := listed fails
    rw [← inv id row found] at short
    exact ⟨row, found, short⟩

theorem Inv.grow (inv : Inv state) {failed : List Nat}
    (counted : Counted failed state.world next.world)
    (failures : next.failures = state.failures ++ failed) : Inv next := by
  intro id row' found
  obtain ⟨row, found, count⟩ := counted id row' found
  rw [count, failures, List.count_append, inv id row found]

/-- What a sweep tells about a row. -/
theorem sweepRow_alerts (codec : Codec Bytes Digest Salt) (cwd : String) (run : SweepRun Bytes Salt)
    (cfg : ReplicationConfig) (swept : Swept Bytes Digest) (row : Backup Digest) :
    (sweepRow codec cwd run cfg swept row).alerts = swept.alerts ++
      if attemptDue row.replicaAttempts row.replicaAt run.now ∧
        sweepEnding codec cwd swept.world run cfg row ≠ .succeeds ∧ OneShort row
      then [row.id] else [] := by
  have succeeded := (replicateBackup_counted codec cwd swept.world row.id (some cfg)
    (run.call row.id).instanceName (run.call row.id).replicaAt (run.call row.id).salt
    (run.call row.id).attempt).1
  unfold sweepRow sweepEnding OneShort
  by_cases due : attemptDue row.replicaAttempts row.replicaAt run.now = true
  · simp only [due, if_true, ne_eq, ← succeeded, true_and, Bool.and_eq_true, Bool.not_eq_true',
      decide_eq_true_eq, Bool.not_eq_true]
    split <;> simp
  · simp [due]

theorem sweepRow_counted (codec : Codec Bytes Digest Salt) (cwd : String)
    (run : SweepRun Bytes Salt) (cfg : ReplicationConfig) (swept : Swept Bytes Digest)
    (row : Backup Digest) :
    Counted (if attemptDue row.replicaAttempts row.replicaAt run.now then
        failuresOf row.id (sweepEnding codec cwd swept.world run cfg row) else [])
      swept.world (sweepRow codec cwd run cfg swept row).world := by
  unfold sweepRow
  split
  · exact (replicateBackup_counted codec cwd swept.world row.id _ _ _ _ _).2
  · exact counter_frame.same swept.world

variable {op : Op Bytes Digest Salt} {failed told : List Nat}

/-- A step keeps the counters right, and keeps the alerts of a backup right exactly if it is
timely. -/
def Settles (codec : Codec Bytes Digest Salt) (cwd : String) (state : State Bytes Digest Salt)
    (op : Op Bytes Digest Salt) (next : State Bytes Digest Salt) : Prop :=
  Inv next ∧ ∀ id, OneAlert id state → (OneAlert id next ↔ Timely codec cwd id state op)

theorem Inv.settles (inv : Inv state) (counted : Counted failed state.world next.world)
    (failures : next.failures = state.failures ++ failed)
    (alerts : next.alerts = state.alerts ++ told) (single : ∀ id, failed.count id ≤ 1)
    (timely : ∀ id, Timely codec cwd id state op ↔
      told.count id =
        if failed.count id = 1 ∧ state.failures.count id + 1 = alertAfterAttempts then 1 else 0) :
    Settles codec cwd state op next := by
  refine ⟨inv.grow counted failures, fun id once => ?_⟩
  unfold OneAlert at once ⊢
  rw [timely, failures, alerts, List.count_append, List.count_append]
  exact once_iff (single id) once

/-- A step without attempts. -/
theorem Inv.quiet (inv : Inv state) (counted : Counted [] state.world next.world)
    (failures : next.failures = state.failures) (alerts : next.alerts = state.alerts)
    (timely : ∀ id, Timely codec cwd id state op) : Settles codec cwd state op next := by
  have none : next.alerts = state.alerts ++ [] := by rw [alerts, List.append_nil]
  apply inv.settles counted _ none
  · exact fun _ => Nat.zero_le 1
  · exact fun id => iff_of_true (timely id) rfl
  · rw [failures, List.append_nil]

theorem Inv.record (inv : Inv state) {row : Backup Digest} (files : String → Option Bytes)
    (fresh : row.id = state.world.rows.nextId) (untried : row.replicaAttempts = 0)
    (rows : next.world = { state.world with rows := state.world.rows.insert row, files })
    (failures : next.failures = state.failures.filter (· ≠ row.id))
    (alerts : next.alerts = state.alerts.filter (· ≠ row.id)) :
    Settles codec cwd state (.record row) next := by
  have gone (ids : List Nat) : (ids.filter (· ≠ row.id)).count row.id = 0 :=
    List.count_eq_zero.mpr fun member => of_decide_eq_true (List.mem_filter.mp member).2 rfl
  have kept (ids : List Nat) (id : Nat) (other : id ≠ row.id) :
      (ids.filter (· ≠ row.id)).count id = ids.count id :=
    List.count_filter (decide_eq_true other)
  have free : state.world.rows.get row.id = none := fresh ▸ Table.get_nextId
  constructor
  · intro id found held
    rw [rows] at held
    change (state.world.rows.insert row).get id = some found at held
    rw [Table.get_insert free] at held
    rw [failures]
    split at held
    case isTrue same =>
      obtain rfl := Option.some.inj held
      rw [same, gone, untried]
    case isFalse other =>
      rw [kept _ id other]
      exact inv id found held
  · intro id once
    apply iff_of_true _ trivial
    unfold OneAlert at once ⊢
    rw [failures, alerts]
    by_cases same : id = row.id
    · rw [same, gone, gone]
      rfl
    · rw [kept _ id same, kept _ id same]
      exact once

theorem Inv.hook (inv : Inv state) {backup : Nat} {run : BackupRun Bytes Salt}
    (world : next.world = replicateNewBackup codec cwd state.world backup run)
    (failures : next.failures =
      state.failures ++ failuresOf backup (hookEnding codec cwd state.world backup run))
    (alerts : next.alerts = state.alerts) : Settles codec cwd state (.hook backup run) next := by
  have none : next.alerts = state.alerts ++ [] := by rw [alerts, List.append_nil]
  have counted := replicateNewBackup_counted codec cwd state.world backup run
  rw [← world] at counted
  apply inv.settles counted failures none (count_failuresOf_le backup _)
  intro id
  rw [Timely, count_failuresOf, List.count_nil]
  by_cases same : backup = id
  · subst same
    rw [inv.crosses_iff exists_of_hook_fails]
    simp
  · simp [same]

theorem Inv.attempt (inv : Inv state) {run : SweepRun Bytes Salt} {cfg : ReplicationConfig}
    {notifies : Bool} {row : Backup Digest}
    (world : next.world = (sweepRow codec cwd run cfg { world := state.world } row).world)
    (failures : next.failures = state.failures ++
      if attemptDue row.replicaAttempts row.replicaAt run.now then
        failuresOf row.id (sweepEnding codec cwd state.world run cfg row)
      else [])
    (alerts : next.alerts = state.alerts ++
      if notifies then (sweepRow codec cwd run cfg { world := state.world } row).alerts else []) :
    Settles codec cwd state (.attempt run cfg notifies row) next := by
  have counted := sweepRow_counted codec cwd run cfg { world := state.world } row
  rw [← world] at counted
  rw [sweepRow_alerts, List.nil_append] at alerts
  apply inv.settles counted failures alerts
  · intro id
    split
    · exact count_failuresOf_le row.id _ id
    · exact Nat.zero_le 1
  · intro id
    have crosses : Crosses state.world row.id (sweepEnding codec cwd state.world run cfg row) ↔ _ :=
      inv.crosses_iff exists_of_fails
    rw [Timely, count_told]
    dsimp only
    by_cases due : attemptDue row.replicaAttempts row.replicaAt run.now = true
    · by_cases same : row.id = id
      · subst same
        rw [crosses, if_pos due, count_failuresOf]
        generalize sweepEnding codec cwd state.world run cfg row = ending
        cases ending <;> cases notifies <;> by_cases short : OneShort row <;> simp [due, short]
      · rw [if_pos due, count_failuresOf]
        simp [same]
    · simp [due]

theorem Inv.step [DecidableEq Digest] (inv : Inv state) (taken : Step codec cwd state op next) :
    Settles codec cwd state op next := by
  cases taken with
  | record files fresh untried => exact inv.record files fresh untried rfl rfl rfl
  | hook => exact inv.hook rfl rfl rfl
  | attempt next => exact inv.attempt rfl rfl rfl
  | sweep configured => exact inv.quiet (counter_frame.of_rows rfl) rfl rfl fun _ => trivial
  | verify configured => exact inv.quiet (counter_frame.of_rows rfl) rfl rfl fun _ => trivial
  | outside => exact inv.quiet (counter_frame.of_rows rfl) rfl rfl fun _ => trivial
  | backfill =>
    refine inv.quiet (counter_frame.foldl ?_ _ _) rfl rfl fun _ => trivial
    exact fun _ _ => counter_frame.of_update (fun _ => World.get_pending) fun _ => rfl
  | check next =>
    exact inv.quiet (verifyRow_counted codec _ _ _) rfl rfl fun _ => trivial
  | prune =>
    exact inv.quiet (counter_frame.cleanupOldBackups _ _) rfl rfl fun _ => trivial
  | delete found =>
    refine inv.quiet ?_ rfl rfl fun _ => trivial
    exact counter_frame.comp (counter_frame.of_rows rfl) (counter_frame.deleteRow _ _)
  | retrieve returned =>
    exact inv.quiet (counter_frame.retrieveReplica returned) rfl rfl fun _ => trivial
  | reencrypt salt faults =>
    exact inv.quiet (counter_frame.reencryptRow _ _ _ _ _) rfl rfl fun _ => trivial

/-! ### Whole sweeps -/

theorem sweepRows_reach [DecidableEq Digest] {run : SweepRun Bytes Salt} {cfg : ReplicationConfig}
    {notifies : Bool} {front back : List (Sweep Bytes Digest Salt)} {rows : List (Backup Digest)}
    {swept : Swept Bytes Digest} (here : state.world = swept.world)
    (next : state.sweeps = front ++ ⟨run, cfg, notifies, rows⟩ :: back) :
    ∃ after told, Reach (Step codec cwd) unguarded state after ∧
      after.world = (rows.foldl (sweepRow codec cwd run cfg) swept).world ∧
      after.alerts = state.alerts ++ (if notifies then told else []) ∧
      (rows.foldl (sweepRow codec cwd run cfg) swept).alerts = swept.alerts ++ told := by
  induction rows generalizing state swept with
  | nil =>
    refine ⟨state, [], .refl, here, ?_, (List.append_nil _).symm⟩
    cases notifies <;> exact (List.append_nil _).symm
  | cons row rows ih =>
    have world : (sweepRow codec cwd run cfg { world := state.world } row).world =
        (sweepRow codec cwd run cfg swept row).world := by
      unfold sweepRow
      rw [here]
      split <;> rfl
    obtain ⟨new, alerts⟩ : ∃ new,
        (sweepRow codec cwd run cfg { world := state.world } row).alerts = new ∧
          (sweepRow codec cwd run cfg swept row).alerts = swept.alerts ++ new := by
      refine ⟨_, rfl, ?_⟩
      rw [sweepRow_alerts, sweepRow_alerts, here]
      rfl
    obtain ⟨middle, taken, here', next', tells⟩ : ∃ middle,
        Step codec cwd state (.attempt run cfg notifies row) middle ∧
          middle.world = (sweepRow codec cwd run cfg swept row).world ∧
          middle.sweeps = front ++ ⟨run, cfg, notifies, rows⟩ :: back ∧
          middle.alerts = state.alerts ++ if notifies then new else [] :=
      ⟨_, .attempt next, world, rfl, by rw [alerts.1]⟩
    obtain ⟨after, told, reached, last, tells', all⟩ := ih here' next'
    have first : Reach (Step codec cwd) unguarded state middle :=
      Reach.snoc .refl trivial taken
    refine ⟨after, new ++ told, first.trans reached, last, ?_, ?_⟩
    · rw [tells', tells, List.append_assoc]
      cases notifies <;> rfl
    · rw [List.foldl_cons, all, alerts.2, List.append_assoc]

/-- A sweep whose rows nothing comes between is `sweep_pending`. -/
theorem sweepPending_reach [DecidableEq Digest] (codec : Codec Bytes Digest Salt) (cwd : String)
    (state : State Bytes Digest Salt) (run : SweepRun Bytes Salt) (notifies : Bool) :
    ∃ after, Reach (Step codec cwd) unguarded state after ∧
      after.world = (sweepPending codec cwd state.world run).world ∧
      after.alerts = state.alerts ++
        if notifies then (sweepPending codec cwd state.world run).alerts else [] := by
  unfold sweepPending
  cases configured : run.cfg with
  | none =>
    refine ⟨state, .refl, rfl, ?_⟩
    cases notifies <;> exact (List.append_nil _).symm
  | some cfg =>
    obtain ⟨begun, taken, here, next, alerts⟩ : ∃ begun,
        Step codec cwd state (.sweep run notifies) begun ∧ begun.world = state.world ∧
          begun.sweeps = state.sweeps ++ [⟨run, cfg, notifies, sweepRows state.world⟩] ∧
          begun.alerts = state.alerts := ⟨_, .sweep configured, rfl, rfl, rfl⟩
    obtain ⟨after, told, reached, last, tells, all⟩ :=
      @sweepRows_reach _ _ _ codec cwd begun _ run cfg notifies state.sweeps [] _
        { world := state.world } here next
    have first : Reach (Step codec cwd) unguarded state begun := Reach.snoc .refl trivial taken
    refine ⟨after, first.trans reached, last, ?_⟩
    dsimp only
    rw [tells, alerts, all, List.nil_append]

/-! ### Whole runs -/

theorem inv_of_fresh {start : World Bytes Digest} (fresh : Fresh start) :
    Inv { world := start : State Bytes Digest Salt } :=
  fun id row found => (fresh id row found).2

/-- In every run that starts before any upload: the notifier is told of a backup once, at the
failure that takes it to the threshold, and never otherwise, all along the run, exactly if every
step of the run is timely. -/
theorem oneAlert_iff [DecidableEq Digest] {start : World Bytes Digest} (fresh : Fresh start)
    {path : List (State Bytes Digest Salt × Op Bytes Digest Salt)}
    (run : Path (Step codec cwd) { world := start } path state) (id : Nat) :
    (∀ move ∈ path, OneAlert id move.1) ∧ OneAlert id state ↔
      ∀ move ∈ path, Timely codec cwd id move.1 move.2 := by
  have first : Inv { world := start : State Bytes Digest Salt } ∧
      OneAlert id { world := start : State Bytes Digest Salt } := ⟨inv_of_fresh fresh, rfl⟩
  apply (run.holds_iff (Timely codec cwd id) first _ _).2
  · intro before op after inv taken
    exact (inv.step taken).1
  · intro before op after inv once taken
    exact (inv.step taken).2 id once

end

/-! ### Three uploads of a backup that fail -/

/-- The target times out from the start. -/
def stuck : BackupRun Blob Unit :=
  { daily "a" "<pfsense>a</pfsense>" with attempt := .raises none "timed out" }

def retry (now : Nat) : SweepRun Blob Unit where
  cfg := some s3
  now := now
  call _ := ⟨"edge", now, (), .raises none "timed out"⟩

def newRow : Backup Blob :=
  historyRow 1 stuck (saveBackup showing "/app" emptyWorld stuck).2

def start : State Blob Blob Unit := { world := emptyWorld }

def recorded : State Blob Blob Unit := { world := recordBackup showing "/app" emptyWorld stuck }

def failedOnce : State Blob Blob Unit where
  world := replicateNewBackup showing "/app" recorded.world 1 stuck
  failures := [1]

/-- The row after the hook. -/
def onceRow : Backup Blob :=
  newRow.pending.failed 11 "timed out"

def sweeping (state : State Blob Blob Unit) (now : Nat) (notifies : Bool) : State Blob Blob Unit :=
  { state with sweeps := state.sweeps ++ [⟨retry now, s3, notifies, sweepRows state.world⟩] }

def swept (state : State Blob Blob Unit) (now : Nat) (notifies : Bool) (row : Backup Blob)
    (told : List Nat) : State Blob Blob Unit where
  world := (sweepRow showing "/app" (retry now) s3 { world := state.world } row).world
  sweeps := state.sweeps ++ [⟨retry now, s3, notifies, []⟩]
  failures := state.failures ++ [1]
  alerts := state.alerts ++ told

def failedTwice : State Blob Blob Unit :=
  swept failedOnce 1000 true onceRow []

def twiceRow : Backup Blob :=
  onceRow.failed 1000 "timed out"

/-- The third failure comes about in a sweep of the worker, or in one of the command line. -/
def failedThrice (notifies : Bool) : State Blob Blob Unit :=
  swept failedTwice 10000 notifies twiceRow (if notifies then [1] else [])

def moves (notifies : Bool) : List (State Blob Blob Unit × Op Blob Blob Unit) :=
  [(start, .record newRow), (recorded, .hook 1 stuck), (failedOnce, .sweep (retry 1000) true),
    (sweeping failedOnce 1000 true, .attempt (retry 1000) s3 true onceRow),
    (failedTwice, .sweep (retry 10000) notifies),
    (sweeping failedTwice 10000 notifies, .attempt (retry 10000) s3 notifies twiceRow)]

theorem path_thrice (notifies : Bool) :
    Path (Step showing "/app") start (moves notifies) (failedThrice notifies) := by
  have record : Step showing "/app" start (.record newRow) recorded := .record _ rfl rfl
  have hook : Step showing "/app" recorded (.hook 1 stuck) failedOnce := .hook
  have first : Step showing "/app" failedOnce (.sweep (retry 1000) true)
      (sweeping failedOnce 1000 true) := .sweep rfl
  have second : Step showing "/app" failedTwice (.sweep (retry 10000) notifies)
      (sweeping failedTwice 10000 notifies) := .sweep rfl
  have firstFails : Step showing "/app" (sweeping failedOnce 1000 true)
      (.attempt (retry 1000) s3 true onceRow) failedTwice :=
    @Step.attempt _ _ _ _ _ _ _ _ _ _ _ [] [] [] rfl
  have secondFails : Step showing "/app" (sweeping failedTwice 10000 notifies)
      (.attempt (retry 10000) s3 notifies twiceRow) (failedThrice notifies) := by
    cases notifies with
    | false => exact @Step.attempt _ _ _ _ _ _ _ _ _ _ _ [] failedTwice.sweeps [] rfl
    | true => exact @Step.attempt _ _ _ _ _ _ _ _ _ _ _ [] failedTwice.sweeps [] rfl
  exact .snoc (.snoc (.snoc (.snoc (.snoc (.snoc .nil record) hook) first) firstFails) second)
    secondFails

/-- With the worker's sweeps the run is timely: the notifier is told at the third failure. -/
theorem thrice_timely : (failedThrice true).alerts = [1] ∧
    ∀ move ∈ moves true, Timely showing "/app" 1 move.1 move.2 := by
  refine ⟨rfl, (oneAlert_iff fresh_empty (path_thrice true) 1).mp ?_⟩
  exact ⟨by decide +kernel, by decide +kernel⟩

/-- A third failure in a sweep of the command line is never told, for the next one is the fourth. -/
theorem thrice_unseen : Fresh start.world ∧
    Path (Step showing "/app") start (moves false) (failedThrice false) ∧
    (failedThrice false).failures.count 1 = alertAfterAttempts ∧ (failedThrice false).alerts = [] ∧
    ¬OneAlert 1 (failedThrice false) := by
  refine ⟨fresh_empty, path_thrice false, rfl, rfl, ?_⟩
  decide +kernel

end PfsenseBackups.ReplicationAlerts

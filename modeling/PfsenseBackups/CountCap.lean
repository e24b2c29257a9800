import PfsenseBackups.Retention
import PfsenseBackups.StoredBackups

/-! The count cap of an instance over its backups: each of them saves its file, prunes the rows
that are there, and only then adds its own row. -/

namespace PfsenseBackups.CountCap
open Replication Retention Selections StoredBackups Tables

variable {Bytes Digest Salt : Type}

/-! ### Backups under a policy -/

def governs (instanceId : Nat) (row : Backup Digest) : Bool :=
  row.instanceId = instanceId && row.success && row.localPresent

def startedOf (row : Backup Digest) : Started :=
  (row.id, ⟨row.startedAt, none⟩)

/-- What `_cleanup_old_backups` passes to `compute_keep_ids`. -/
def startedIn (instanceId : Nat) (world : World Bytes Digest) : List Started :=
  (world.rows.rows.filter (governs instanceId)).map startedOf

/-- The prune of `_cleanup_old_backups` under the policy of the instance, unless a window raises. -/
def policyPrune (policy : RetentionPolicy) (world : World Bytes Digest) (now : Datetime)
    (run : PruneRun) : Option PruneRun :=
  let started := startedIn run.instanceId world
  if policy.countCap ≤ 0 ∧ ¬ policy.hasTiers then
    some { run with keep := started.map Prod.fst }
  else (computeKeepIds started policy now).map fun kept =>
    { run with keep := (started.map Prod.fst).filter (· ∈ kept) }

/-- `backup_instance` under the policy of the instance. Saving the file changes no row, so that the
ids to keep can be computed before it. -/
def backupUnder (codec : Codec Bytes Digest Salt) (cwd : String) (policy : RetentionPolicy)
    (world : World Bytes Digest) (call : BackupRun Bytes Salt × Datetime) :
    Option (World Bytes Digest) :=
  (policyPrune policy world call.2 call.1.prune).map fun prune =>
    backupInstance codec cwd world { call.1 with prune }

def backups (codec : Codec Bytes Digest Salt) (cwd : String) (policy : RetentionPolicy) :
    World Bytes Digest → List (BackupRun Bytes Salt × Datetime) → Option (World Bytes Digest)
  | world, [] => some world
  | world, call :: calls => do
    backups codec cwd policy (← backupUnder codec cwd policy world call) calls

/-- The backup is of the instance and not refused, and no file removal fails. -/
structure Succeeds (instanceId : Nat) (run : BackupRun Bytes Salt) : Prop where
  mine : run.prune.instanceId = instanceId
  notRefused : ¬ (run.backupEncrypt = true ∧ truthy run.backupEncryptPassword = none)
  unlinks : ∀ id, run.prune.unlinkFails id = false

/-- Of the backups started at some times, those with a local copy are the newest, as many as the
cap allows. -/
def Capped (instanceId cap : Nat) (times : List Datetime) (world : World Bytes Digest) : Prop :=
  ((startedIn instanceId world).map Prod.snd).Perm
    ((newestFirst Datetime.instant times).take cap)

def countOnly (cap : Nat) : RetentionPolicy where
  countCap := cap

@[simp] theorem hasTiers_countOnly (cap : Nat) : (countOnly cap).hasTiers = false :=
  rfl

/-! ### What the steps do to the governed rows -/

variable {instanceId : Nat} {world after : World Bytes Digest}

theorem startedIn_update {id : Nat} (change : Backup Digest → Backup Digest)
    (keeps : ∀ row, (change row).id = row.id)
    (same : ∀ row, governs instanceId (change row) = governs instanceId row ∧
      startedOf (change row) = startedOf row) :
    startedIn instanceId (world.update id change keeps) = startedIn instanceId world := by
  unfold startedIn World.update Table.modify
  dsimp only
  induction world.rows.rows with
  | nil => rfl
  | cons row rows ih =>
    rw [List.map_cons, List.filter_cons, List.filter_cons]
    by_cases here : row.id = id
    · rw [if_pos here, (same row).1]
      split
      · rw [List.map_cons, List.map_cons, (same row).2, ih]
      · exact ih
    · rw [if_neg here]
      split
      · rw [List.map_cons, List.map_cons, ih]
      · exact ih

/-- A row that is disposed of is no longer governed. -/
theorem startedIn_dispose (id : Nat) (disposal : Disposal) :
    startedIn instanceId (world.dispose id disposal) =
      (startedIn instanceId world).filter fun backup => backup.1 ≠ id := by
  unfold startedIn
  cases disposal with
  | offsiteOnly =>
    unfold World.dispose World.update Table.modify
    dsimp only
    induction world.rows.rows with
    | nil => rfl
    | cons row rows ih =>
      rw [List.map_cons, List.filter_cons, List.filter_cons]
      by_cases here : row.id = id
      · have gone : governs instanceId row.pruned = false := Bool.and_false _
        rw [if_pos here, gone, if_neg (by simp), ih]
        split
        · rw [List.map_cons, List.filter_cons_of_neg]
          exact fun other => of_decide_eq_true other here
        · rfl
      · rw [if_neg here]
        split
        · have kept : decide ((startedOf row).1 ≠ id) = true := decide_eq_true here
          rw [List.map_cons, List.map_cons, List.filter_cons, if_pos kept, ih]
        · exact ih
  | drop key =>
    unfold World.dispose World.deleteRow Table.delete
    rw [List.filter_filter, List.filter_map, List.filter_filter]
    congr 1
    exact List.filter_congr fun row _ => Bool.and_comm _ _

theorem startedIn_pruneRows {run : PruneRun} (unlinks : ∀ id, run.unlinkFails id = false)
    (stale : List (Backup Digest)) (world : World Bytes Digest) :
    startedIn instanceId (pruneRows run world stale).1 =
      (startedIn instanceId world).filter fun backup => backup.1 ∉ stale.map Backup.id := by
  induction stale generalizing world with
  | nil => simp [pruneRows]
  | cons row rows ih =>
    have pruned : startedIn instanceId (pruneRow run.cfg run.unlinkFails world row).1 =
        (startedIn instanceId world).filter fun backup => backup.1 ≠ row.id := by
      rw [pruneRow, if_neg fun fails => by simp [unlinks row.id] at fails, startedIn_dispose,
        World.unlinkStale]
      split <;> rfl
    rw [pruneRows, ih, pruned, List.filter_filter]
    refine List.filter_congr fun backup _ => ?_
    rw [Bool.eq_iff_iff, Bool.and_eq_true, decide_eq_true_eq, decide_eq_true_eq, decide_eq_true_eq,
      List.map_cons, List.mem_cons, not_or]
    exact and_comm

theorem startedIn_deleteObjects (keys : List String) (world : World Bytes Digest) :
    startedIn instanceId (keys.foldl World.deleteObject world) = startedIn instanceId world := by
  obtain ⟨objects, eq⟩ := deleteObjects_eq keys world
  rw [eq]
  rfl

/-- What is left is what is kept. -/
theorem startedIn_cleanup {run : PruneRun} (unlinks : ∀ id, run.unlinkFails id = false)
    (world : World Bytes Digest) :
    startedIn run.instanceId (cleanupOldBackups world run) =
      (startedIn run.instanceId world).filter fun backup => backup.1 ∈ run.keep := by
  rw [cleanupOldBackups, startedIn_deleteObjects, startedIn_pruneRows unlinks]
  refine List.filter_congr fun backup member => ?_
  obtain ⟨row, listed, rfl⟩ := List.mem_map.mp member
  rw [Bool.eq_iff_iff, decide_eq_true_eq, decide_eq_true_eq, staleRows]
  constructor
  · intro fresh
    by_contra dropped
    refine fresh (List.mem_map.mpr ⟨row, List.mem_filter.mpr ⟨(List.mem_filter.mp listed).1, ?_⟩, rfl⟩)
    rw [Bool.and_eq_true]
    exact ⟨(List.mem_filter.mp listed).2, decide_eq_true dropped⟩
  · intro kept stale
    obtain ⟨other, inside, same⟩ := List.mem_map.mp stale
    have dropped := (Bool.and_eq_true _ _ ▸ (List.mem_filter.mp inside).2).2
    exact of_decide_eq_true dropped (same ▸ kept)

theorem startedIn_replicate (codec : Codec Bytes Digest Salt) (cwd : String)
    (world : World Bytes Digest) (id : Nat) (run : BackupRun Bytes Salt) :
    startedIn instanceId (replicateNewBackup codec cwd world id run) = startedIn instanceId world := by
  rw [replicateNewBackup]
  cases run.prune.cfg with
  | none => rfl
  | some cfg =>
    have pending : startedIn instanceId (world.update id Backup.pending) =
        startedIn instanceId world := startedIn_update Backup.pending (fun _ => rfl) fun _ => ⟨rfl, rfl⟩
    dsimp only
    generalize ran : replicateBackup codec cwd (world.update id Backup.pending) id (some cfg)
      run.instanceName run.replicaAt run.salt run.attempt = result
    obtain ⟨ok, after⟩ := result
    rw [← pending]
    rcases replicateBackup_cases _ _ _ _ _ _ _ _ ran with
      rfl | rfl | ⟨objects, text, rfl⟩ | ⟨settings, row, raw, payload, suffix, -, -, -, -, -, rfl⟩
    · rfl
    · exact startedIn_update (Backup.skipped run.replicaAt) (fun _ => rfl) fun _ => ⟨rfl, rfl⟩
    · exact startedIn_update (Backup.failed run.replicaAt text) (fun _ => rfl) fun _ => ⟨rfl, rfl⟩
    · exact startedIn_update (Backup.uploaded run.replicaAt _ _) (fun _ => rfl) fun _ => ⟨rfl, rfl⟩

theorem startedIn_history {run : BackupRun Bytes Salt} (result : SaveResult)
    (world : World Bytes Digest) :
    startedIn run.prune.instanceId (writeBackupHistory world run result) =
      startedIn run.prune.instanceId world ++ [(world.rows.nextId, ⟨run.startedAt, none⟩)] := by
  have fresh : world.rows.nextId ∉ world.rows.rows.map Backup.id :=
    Table.get_eq_none.mp Table.get_nextId
  have governed : governs run.prune.instanceId
      (historyRow world.rows.nextId run result : Backup Digest) = true := by
    simp [governs, historyRow]
  rw [startedIn, writeBackupHistory, Table.insert, dif_neg (by exact fresh), List.filter_append,
    List.map_append, List.filter_cons_of_pos governed]
  rfl

theorem startedIn_save (codec : Codec Bytes Digest Salt) (cwd : String)
    (world : World Bytes Digest) (run : BackupRun Bytes Salt) :
    startedIn instanceId (saveBackup codec cwd world run).1 = startedIn instanceId world := by
  rw [saveBackup]
  split <;> rfl

/-- A backup prunes first and is added after that. -/
theorem startedIn_backup (codec : Codec Bytes Digest Salt) (cwd : String)
    (world : World Bytes Digest) {run : BackupRun Bytes Salt} (succeeds : Succeeds instanceId run) :
    ∃ id, startedIn instanceId (backupInstance codec cwd world run) =
      ((startedIn instanceId world).filter fun backup => backup.1 ∈ run.prune.keep) ++
        [(id, ⟨run.startedAt, none⟩)] := by
  obtain ⟨rfl, notRefused, unlinks⟩ := succeeds
  have pruned := startedIn_cleanup unlinks (saveBackup codec cwd world run).1
  rw [startedIn_save] at pruned
  rw [backupInstance, if_neg notRefused, ← pruned]
  dsimp only
  split
  · rw [startedIn_replicate, startedIn_history]
    exact ⟨_, rfl⟩
  · rw [startedIn_history]
    exact ⟨_, rfl⟩

/-! ### Under a count cap -/

theorem nodup_startedIn (instanceId : Nat) (world : World Bytes Digest) :
    ((startedIn instanceId world).map Prod.fst).Nodup := by
  rw [startedIn, List.map_map]
  exact world.rows.distinct.sublist (List.filter_sublist.map Backup.id)

theorem ordered_ids (backups : List Started) :
    ((ordered backups).map Prod.fst).Perm (backups.map Prod.fst) := by
  have perm := (newestFirst_perm (fun backup : Started => backup.2.instant)
    (backups.map aware)).map Prod.fst
  rw [List.map_map] at perm
  exact perm

/-- As many are kept as the cap allows. -/
theorem length_retain_take {backups : List Started} (distinct : (backups.map Prod.fst).Nodup)
    (cap : Nat) :
    (retain backups (ids ((ordered backups).take cap))).length = min cap backups.length := by
  have perm := ordered_ids backups
  have taken : ((retain backups (ids ((ordered backups).take cap))).map Prod.fst).Perm
      (((ordered backups).take cap).map Prod.fst) := by
    refine (List.perm_ext_iff_of_nodup (distinct.sublist (List.filter_sublist.map _))
      ((perm.nodup_iff.mpr distinct).sublist ((List.take_sublist _ _).map _))).mpr fun id => ?_
    constructor
    · intro member
      obtain ⟨backup, kept, rfl⟩ := List.mem_map.mp member
      exact List.mem_toFinset.mp (of_decide_eq_true (List.mem_filter.mp kept).2)
    · intro member
      obtain ⟨backup, listed, rfl⟩ := List.mem_map.mp
        (perm.subset (((List.take_sublist _ _).map _).subset member))
      exact List.mem_map_of_mem
        (List.mem_filter.mpr ⟨listed, decide_eq_true (List.mem_toFinset.mpr member)⟩)
  rw [← List.length_map Prod.fst, taken.length_eq, List.length_map, List.length_take,
    ← List.length_map Prod.fst, perm.length_eq, List.length_map]

theorem retain_take_of_le {backups : List Started} {cap : Nat} (few : backups.length ≤ cap) :
    retain backups (ids ((ordered backups).take cap)) = backups := by
  have perm := ordered_ids backups
  rw [retain, List.filter_eq_self, List.take_of_length_le]
  · intro backup member
    rw [decide_eq_true_eq, ids, List.mem_toFinset, perm.mem_iff]
    exact List.mem_map_of_mem member
  · rw [← List.length_map Prod.fst, perm.length_eq, List.length_map]
    exact few

theorem computeKeepIds_countOnly {cap : Nat} (positive : 0 < cap) (backups : List Started)
    (now : Datetime) :
    computeKeepIds backups (countOnly cap) now = some (ids ((ordered backups).take cap)) := by
  rw [computeKeepIds_eq (by simp [RetentionPolicy.Uncapped])]
  split
  case isTrue none =>
    subst none
    simp [ordered, newestFirst, ids]
  case isFalse _ =>
    have count : max (countOnly cap).countCap.toNat 1 = cap := by
      simp [countOnly]
      omega
    rw [selection, if_neg (by simp), count]
    rfl

/-- One backup under a count cap leaves as many rows as the cap allows, and its own. -/
theorem startedIn_backupUnder (codec : Codec Bytes Digest Salt) (cwd : String) {cap : Nat}
    (positive : 0 < cap) (world : World Bytes Digest) {call : BackupRun Bytes Salt × Datetime}
    (succeeds : Succeeds instanceId call.1) :
    ∃ after id, backupUnder codec cwd (countOnly cap) world call = some after ∧
      startedIn instanceId after =
        retain (startedIn instanceId world) (ids ((ordered (startedIn instanceId world)).take cap)) ++
          [(id, ⟨call.1.startedAt, none⟩)] := by
  obtain ⟨run, now⟩ := call
  obtain ⟨rfl, notRefused, unlinks⟩ := succeeds
  let started := startedIn run.prune.instanceId world
  let kept := ids ((ordered started).take cap)
  let prune := { run.prune with keep := (started.map Prod.fst).filter (· ∈ kept) }
  have pruned : policyPrune (countOnly cap) world now run.prune = some prune := by
    have capped : ¬ ((countOnly cap).countCap ≤ 0 ∧ ¬ (countOnly cap).hasTiers) := by
      simp [countOnly]
      omega
    rw [policyPrune, if_neg capped, computeKeepIds_countOnly positive]
    rfl
  have succeeds' : Succeeds run.prune.instanceId { run with prune } := ⟨rfl, notRefused, unlinks⟩
  obtain ⟨id, left⟩ := startedIn_backup codec cwd world succeeds'
  refine ⟨backupInstance codec cwd world { run with prune }, id, ?_, ?_⟩
  · rw [backupUnder, pruned]
    rfl
  · rw [left]
    congr 1
    refine List.filter_congr fun backup member => ?_
    rw [Bool.eq_iff_iff, decide_eq_true_eq, decide_eq_true_eq, List.mem_filter, decide_eq_true_eq]
    exact and_iff_right (List.mem_map_of_mem member)

def startTime (call : BackupRun Bytes Salt × Datetime) : Datetime :=
  ⟨call.1.startedAt, none⟩

/-- One row too many is there from the call on that the cap has no room for. -/
theorem startedIn_backups (codec : Codec Bytes Digest Salt) (cwd : String) {cap : Nat}
    (positive : 0 < cap) (start : World Bytes Digest)
    {calls : List (BackupRun Bytes Salt × Datetime)}
    (succeed : ∀ call ∈ calls, Succeeds instanceId call.1) :
    ∃ after, backups codec cwd (countOnly cap) start calls = some after ∧
      (calls ≠ [] → (startedIn instanceId after).length =
        min cap ((startedIn instanceId start).length + calls.length - 1) + 1) ∧
      ((startedIn instanceId start).length + calls.length ≤ cap →
        (startedIn instanceId after).map Prod.snd =
          (startedIn instanceId start).map Prod.snd ++ calls.map startTime) := by
  induction calls generalizing start with
  | nil => exact ⟨start, rfl, fun some_ => absurd rfl some_, fun _ => by simp⟩
  | cons call calls ih =>
    rw [List.forall_mem_cons] at succeed
    obtain ⟨middle, id, ran, left⟩ := startedIn_backupUnder codec cwd positive start succeed.1
    obtain ⟨after, ranAll, many, few⟩ := ih middle succeed.2
    have length : (startedIn instanceId middle).length =
        min cap (startedIn instanceId start).length + 1 := by
      rw [left, List.length_append, length_retain_take (nodup_startedIn instanceId start)]
      rfl
    refine ⟨after, ?_, fun _ => ?_, fun room => ?_⟩
    · rw [backups, ran]
      exact ranAll
    · cases calls with
      | nil =>
        obtain rfl : middle = after := Option.some.inj ranAll
        rw [length, List.length_singleton, Nat.add_sub_cancel]
      | cons next calls =>
        rw [many (List.cons_ne_nil _ _), length]
        simp only [List.length_cons]
        omega
    · rw [List.length_cons] at room
      rw [few (by omega), left, retain_take_of_le (by omega), List.map_append, List.append_assoc]
      rfl

/-- The cap holds after the calls of a run as long as it has room for all that was there and has
been added, and no longer. -/
theorem capped_iff (codec : Codec Bytes Digest Salt) (cwd : String) {cap : Nat}
    (positive : 0 < cap) (instanceId : Nat) (start : World Bytes Digest)
    (calls : List (BackupRun Bytes Salt × Datetime)) (called : calls ≠ [])
    (succeed : ∀ call ∈ calls, Succeeds instanceId call.1) :
    ∃ after, backups codec cwd (countOnly cap) start calls = some after ∧
      (Capped instanceId cap ((startedIn instanceId start).map Prod.snd ++ calls.map startTime) after ↔
        (startedIn instanceId start).length + calls.length ≤ cap) := by
  obtain ⟨after, ran, many, few⟩ := startedIn_backups codec cwd positive start succeed
  refine ⟨after, ran, fun capped => ?_, fun room => ?_⟩
  · have length := capped.length_eq
    rw [List.length_map, many called, List.length_take] at length
    have one := List.length_pos_of_ne_nil called
    omega
  · rw [Capped, few room, List.take_of_length_le]
    · exact (newestFirst_perm _ _).symm
    · rw [(newestFirst_perm _ _).length_eq, List.length_append, List.length_map, List.length_map]
      exact room

/-- The next day's backup. -/
def tomorrow : BackupRun Blob Unit :=
  { nightly with
    xmlPath := "/backups/edge-2.xml"
    startedAt := 20 }

theorem nightly_succeeds : Succeeds 1 nightly :=
  ⟨rfl, by decide, fun _ => rfl⟩

theorem tomorrow_succeeds : Succeeds 1 tomorrow :=
  ⟨rfl, by decide, fun _ => rfl⟩

theorem oneBackup_capped : ∃ after,
    backups showing "/app" (countOnly 1) emptyWorld [(nightly, ⟨15, none⟩)] = some after ∧
      (Capped 1 1 ((startedIn 1 emptyWorld).map Prod.snd ++ [(nightly, ⟨15, none⟩)].map startTime)
        after ↔ (startedIn 1 emptyWorld).length + [(nightly, (⟨15, none⟩ : Datetime))].length ≤ 1) :=
  capped_iff showing "/app" (by decide) 1 emptyWorld [(nightly, ⟨15, none⟩)] (by simp)
    (by simpa using nightly_succeeds)

/-- Of two backups under a cap of one, both are there. -/
theorem twoBackups_exceed : ∃ after,
    backups showing "/app" (countOnly 1) emptyWorld
        [(nightly, ⟨15, none⟩), (tomorrow, ⟨25, none⟩)] = some after ∧
      ¬ Capped 1 1 [⟨10, none⟩, ⟨20, none⟩] after := by
  have succeed : ∀ call ∈ [(nightly, (⟨15, none⟩ : Datetime)), (tomorrow, ⟨25, none⟩)],
      Succeeds 1 call.1 := by
    simpa using ⟨nightly_succeeds, tomorrow_succeeds⟩
  obtain ⟨after, ran, many, -⟩ := startedIn_backups showing "/app" Nat.one_pos emptyWorld succeed
  refine ⟨after, ran, fun capped => ?_⟩
  have length := capped.length_eq
  rw [List.length_map, many (List.cons_ne_nil _ _), List.length_take] at length
  simp only [emptyWorld, List.length_cons, List.length_nil] at length
  omega

end PfsenseBackups.CountCap

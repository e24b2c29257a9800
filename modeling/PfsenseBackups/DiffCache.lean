import PfsenseBackups.Bases
import PfsenseBackups.EventLog
import PfsenseBackups.StoredBackups
import Mathlib.Algebra.GroupWithZero.Nat

/-! The stored diffs of backups and those who read them: ingestion, the diff summary and the
instance history. -/

namespace PfsenseBackups.DiffCache
open Bases Config Diff DiffConfigs Replication Runs Selections StoredBackups Tables

/-! ### Diffs in storage -/

structure Counts where
  added : Nat
  removed : Nat
  modified : Nat
  deriving DecidableEq, Repr

/-- The section diffs among the fields of a diff. -/
def sections (diff : ConfigDiff) : List SectionDiff :=
  [diff.system, diff.revision, diff.sysctl, diff.cron, diff.interfaces, diff.vlans, diff.bridges,
    diff.gifs, diff.gres, diff.ppps, diff.qinqs, diff.laggs, diff.wol, diff.gateways,
    diff.gatewayGroups, diff.staticRoutes, diff.virtualIps, diff.hasync, diff.firewallRules,
    diff.natRules, diff.aliases, diff.dyndnsEntries, diff.notifications, diff.dhcpServers,
    diff.dhcpRelays, diff.dns, diff.ntpd, diff.snmpd, diff.syslog, diff.schedules,
    diff.shaperQueues, diff.dnshaperPipes, diff.lbPools, diff.lbVirtualServers,
    diff.captivePortalZones, diff.igmpproxyEntries, diff.radvdInterfaces, diff.ups,
    diff.voucherRolls, diff.ftpproxy, diff.openvpnServers, diff.openvpnClients, diff.openvpnCscs,
    diff.ipsecPhase1, diff.ipsecPhase2, diff.ipsecPsks, diff.certificateAuthorities,
    diff.certificates, diff.crls, diff.installedpackages, diff.users, diff.groups,
    diff.authservers, diff.sshdata, diff.lastchange, diff.theme, diff.diag, diff.dhcpBackend,
    diff.legacyBridge, diff.proxyarp, diff.interfaceGroups, diff.ezshaper, diff.ovpnserverWizard,
    diff.apikeys, diff.l2tp, diff.pppoeServers, diff.unrecognizedSections, diff.configVersion]

def summariseDiff (diff : ConfigDiff) : Counts where
  added := ((sections diff).map fun section_ => section_.added.length).sum
  removed := ((sections diff).map fun section_ => section_.removed.length).sum
  modified := ((sections diff).map fun section_ => section_.modified.length).sum

/-- A row of `backup_diff`, less its key. -/
structure BackupDiff where
  baseBackupId : Option Nat
  counts : Counts
  fullDiff : ConfigDiff

/-- The world, with the stored diffs by backup and kind. -/
structure State (Bytes Digest : Type) where
  world : World Bytes Digest
  diffs : Nat → DiffKind → Option BackupDiff
  /-- What was written for a backup; no operation reads it. -/
  saved : Nat → Option Bytes

variable {Bytes Digest Salt : Type} (codec : Codec Bytes Digest Salt)
  (parse : Bytes → Option ParsedConfig) (cwd webCwd : String)

/-- `path.suffix == ".gz"`. -/
def gzipped (path : String) : Bool :=
  endsWith (pathName path) ".gz" && pathName path ≠ ".gz"

/-- `read_backup_bytes` on what is in the file of a row. -/
def plainBytes (row : Backup Digest) (raw : Bytes) : Option Bytes :=
  if row.encrypted then
    row.encryptPassword.bind fun password => (codec.decrypt password raw).toOption
  else if gzipped row.path then (codec.gunzip raw).toOption
  else some raw

/-- `read_backup_bytes`, with the path that it opens. -/
def readBackupBytes (world : World Bytes Digest) (path : String) (row : Backup Digest) :
    Option Bytes :=
  (world.files path).bind (plainBytes codec row)

/-- The diff of a backup with a base, from the files that a process opens for them. -/
def diffOf (world : World Bytes Digest) (opens : String → String) (row base : Backup Digest) :
    Option ConfigDiff := do
  let newBytes ← readBackupBytes codec world (opens row.path) row
  let baseBytes ← readBackupBytes codec world (opens base.path) base
  EventLog.computeDiff parse newBytes baseBytes

namespace State

variable (state : State Bytes Digest)

/-- The row that replaces what was stored under its key. -/
def store (id : Nat) (kind : DiffKind) (base : Nat) (diff : ConfigDiff) : State Bytes Digest :=
  { state with diffs := fun id' kind' =>
      if id' = id ∧ kind' = kind then some ⟨some base, summariseDiff diff, diff⟩
      else state.diffs id' kind' }

/-- The rows of a world whose deletions the stored diffs follow: those of a deleted backup go,
those that have it as their base lose the base. -/
def cascade (world : World Bytes Digest) : State Bytes Digest :=
  { state with
    world
    diffs := fun id kind =>
      if (world.rows.get id).isSome then
        (state.diffs id kind).map fun stored =>
          { stored with baseBackupId :=
              stored.baseBackupId.filter fun base => (world.rows.get base).isSome }
      else none }

end State

/-! ### Writers -/

/-- One round of the loop of `_compute_and_persist_diffs`. -/
def persistDiff (new : Backup Digest) (kind : DiffKind) (base : Option (Backup Digest))
    (state : State Bytes Digest) : State Bytes Digest :=
  match base with
  | none => state
  | some base =>
    match diffOf codec parse state.world (openedPath cwd) new base with
    | none => state
    | some diff => state.store new.id kind base.id diff

/-- `_compute_and_persist_diffs`, less its anchor events. -/
def computeAndPersistDiffs (state : State Bytes Digest) (newBackupId instanceId : Nat) :
    State Bytes Digest :=
  match state.world.rows.get newBackupId, ingestionBases state.world.rows newBackupId instanceId with
  | some new, some (previous, first) =>
    persistDiff codec parse cwd new .first first
      (persistDiff codec parse cwd new .previous previous state)
  | _, _ => state

/-- `backup_instance` from its snapshot on; an exception of the diffs is logged only. -/
def backupInstance (state : State Bytes Digest) (run : BackupRun Bytes Salt) (diffRaises : Bool) :
    State Bytes Digest :=
  if run.backupEncrypt ∧ truthy run.backupEncryptPassword = none then state
  else
    let saved := saveBackup codec cwd state.world run
    let pruned := state.cascade (cleanupOldBackups saved.1 run.prune)
    let id := pruned.world.rows.nextId
    let listed : State Bytes Digest :=
      { pruned with
        world := writeBackupHistory pruned.world run saved.2
        saved := Function.update pruned.saved id (saved.1.files (openedPath cwd saved.2.path)) }
    let stored :=
      if diffRaises then listed
      else computeAndPersistDiffs codec parse cwd listed id run.prune.instanceId
    if run.replicate then
      { stored with world := replicateNewBackup codec cwd stored.world id run }
    else stored

def backupFails (state : State Bytes Digest) (instanceId startedAt : Nat) : State Bytes Digest :=
  { state with world := writeFailedHistory state.world instanceId startedAt }

/-- `delete_backup`, with the worker's deletion of the object. -/
def deleteBackup (state : State Bytes Digest) (id : Nat) (unlinkFails deleteFails : Bool) :
    State Bytes Digest :=
  match state.world.rows.get id with
  | none => state
  | some row =>
    if unlinkFails then state
    else
      let deleted := (state.world.unlink (openedPath webCwd row.path)).deleteRow id
      match row.replicaStatus, truthy row.replicaKey with
      | some .done, some key =>
        state.cascade (if deleteFails then deleted else deleted.deleteObject key)
      | _, _ => state.cascade deleted

/-! ### Readers -/

def isFresh (cached : Option BackupDiff) (base : Option (Backup Digest)) : Bool :=
  match cached, base with
  | some cached, some base => cached.baseBackupId = some base.id
  | _, _ => false

/-- The stored diff of one kind that the web answers with: the cached one if it is fresh, else
that of `_recompute_diff_row`. -/
def currentDiff (state : State Bytes Digest) (backup : Backup Digest) (kind : DiffKind) :
    State Bytes Digest × Option ConfigDiff × Option Counts :=
  match findBase state.world.rows backup kind, state.diffs backup.id kind with
  | none, _ => (state, none, none)
  | some base, cached =>
    match cached, isFresh cached (some base) with
    | some cached, true => (state, some cached.fullDiff, some cached.counts)
    | _, _ =>
      match diffOf codec parse state.world resolveBackupPath backup base with
      | none => (state, none, none)
      | some diff => (state.store backup.id kind base.id diff, some diff, some (summariseDiff diff))

structure DiffSummaryResponse where
  vsPrevious : Option Counts
  vsFirst : Option Counts
  firstBackup : Option (Nat × Nat)

def backupDiffSummary (state : State Bytes Digest) (id : Nat) :
    State Bytes Digest × Except (Nat × String) DiffSummaryResponse :=
  match state.world.rows.get id with
  | none => (state, .error (404, "backup not found"))
  | some backup =>
    let firstBase := findBase state.world.rows backup .first
    let previous := currentDiff codec parse state backup .previous
    let first := currentDiff codec parse previous.1 backup .first
    (first.1, .ok ⟨previous.2.2, first.2.2, firstBase.map fun base => (base.id, base.startedAt)⟩)

def backupDiffVsFirstParsed (state : State Bytes Digest) (id : Nat) :
    State Bytes Digest × Except (Nat × String) ConfigDiff :=
  match state.world.rows.get id with
  | none => (state, .error (404, "backup not found"))
  | some backup =>
    let first := currentDiff codec parse state backup .first
    (first.1,
      match first.2.1, findBase state.world.rows backup .first with
      | some diff, _ => .ok diff
      | none, some _ => .error (409, "could not compute diff against first backup " ++
          "(base file missing or XML malformed)")
      | none, none => .error (404, "no earlier backup to diff against — this is the first " ++
          "successful backup for its instance"))

structure HistoryItem where
  id : Nat
  startedAt : Nat
  sizeBytes : Nat
  changesSinceFirst : Option Counts

/-- `list_backup_history`. -/
def listBackupHistory (state : State Bytes Digest) (instanceId : Nat) : List HistoryItem :=
  (oldestFirst Backup.startedAt
    (state.world.rows.rows.filter fun row => row.instanceId = instanceId && row.success)).map
      fun row => ⟨row.id, row.startedAt, row.sizeBytes, (state.diffs row.id .first).map (·.counts)⟩

/-! ### Runs -/

inductive Op (Bytes Salt : Type) where
  | backup (run : BackupRun Bytes Salt) (diffRaises : Bool)
  | backupFails (instanceId startedAt : Nat)
  | prune (run : PruneRun)
  | delete (id : Nat) (unlinkFails deleteFails : Bool)
  | diffSummary (id : Nat)
  | diffVsFirstParsed (id : Nat)
  | history (instanceId : Nat)

inductive Step : State Bytes Digest → Op Bytes Salt → State Bytes Digest → Prop
  | backup {state run diffRaises} : Step state (.backup run diffRaises)
      (backupInstance codec parse cwd state run diffRaises)
  | backupFails {state instanceId startedAt} :
    Step state (.backupFails instanceId startedAt) (backupFails state instanceId startedAt)
  | prune {state run} : Step state (.prune run) (state.cascade (cleanupOldBackups state.world run))
  | delete {state id unlinkFails deleteFails} : Step state (.delete id unlinkFails deleteFails)
      (deleteBackup webCwd state id unlinkFails deleteFails)
  | diffSummary {state id} : Step state (.diffSummary id) (backupDiffSummary codec parse state id).1
  | diffVsFirstParsed {state id} : Step state (.diffVsFirstParsed id)
      (backupDiffVsFirstParsed codec parse state id).1
  | history {state instanceId} : Step state (.history instanceId) state

/-- The config that a backup saved. -/
def original (saved : Nat → Option Bytes) (row : Backup Digest) : Option ParsedConfig :=
  ((saved row.id).bind (plainBytes codec row)).bind parse

/-- Counts that the history returns are those of the diff of what the backup saved against what
its first backup, as the diff summary would find it now, saved. -/
def HistoryCurrent (state : State Bytes Digest) : Prop :=
  ∀ instanceId, ∀ item ∈ listBackupHistory state instanceId, ∀ counts,
    item.changesSinceFirst = some counts → ∃ row first new old,
      state.world.rows.get item.id = some row ∧
      findBase state.world.rows row .first = some first ∧
      original codec parse state.saved row = some new ∧
      original codec parse state.saved first = some old ∧
      counts = summariseDiff (diffConfigs old new)

/-! ### Conditions on the operations -/

def Disposal.drops : Disposal → Bool
  | .offsiteOnly => false
  | .drop _ => true

/-- The stale rows that a prune deletes. -/
def dropped (world : World Bytes Digest) (run : PruneRun) : List Nat :=
  ((staleRows world run).filter fun row =>
    !(row.path ≠ "" && run.unlinkFails row.id) && Disposal.drops (disposal run.cfg row)).map
      Backup.id

/-- No backup with stored counts outlives its first one. -/
def KeepsFirst (state : State Bytes Digest) (deleted : List Nat) : Prop :=
  ∀ row ∈ state.world.rows.rows, row.success → (state.diffs row.id .first).isSome →
    row.id ∉ deleted → ∀ first, findBase state.world.rows row .first = some first →
      first.id ∉ deleted

/-- What each operation has to meet in the state that it starts from. -/
def Allowed (state : State Bytes Digest) : Op Bytes Salt → Prop
  | .backup run _ =>
    isAbsolute run.xmlPath ∧
    (∀ row ∈ state.world.rows.rows, row.success → run.xmlPath ≠ row.path ∧ savedPath run ≠ row.path) ∧
    KeepsFirst state (dropped state.world run.prune) ∧
    ∀ row ∈ state.world.rows.rows, row.instanceId = run.prune.instanceId → row.success →
      (state.diffs row.id .first).isSome → row.id ∉ dropped state.world run.prune → ∀ first,
        findBase state.world.rows row .first = some first → first.startedAt ≤ run.startedAt
  | .prune run => KeepsFirst state (dropped state.world run)
  | .delete id _ _ => KeepsFirst state [id]
  | .backupFails _ _ | .diffSummary _ | .diffVsFirstParsed _ | .history _ => True

/-! ### Rows less their replication fields -/

section Cores

/-- What a row says about the backup itself. -/
def core (row : Backup Digest) : Backup Digest :=
  { row with
    replicaStatus := none
    replicaKey := none
    replicaAt := none
    replicaError := none
    replicaAttempts := 0
    replicaSha256 := none
    localPresent := true }

def cores (rows : Table (Backup Digest) Backup.id) : List (Backup Digest) :=
  rows.rows.map core

/-- The first of the other backups of an instance. -/
def firstIn (rows : List (Backup Digest)) (backup : Backup Digest) : Option (Backup Digest) :=
  (oldestFirst Backup.startedAt (rows.filter fun row =>
    row.instanceId = backup.instanceId && row.success && row.id ≠ backup.id)).head?

variable {rows : Table (Backup Digest) Backup.id} {id : Nat}

theorem firstIn_cores (backup : Backup Digest) :
    firstIn (cores rows) (core backup) = (findBase rows backup .first).map core := by
  have sorted : oldestFirst Backup.startedAt
      ((others rows backup.instanceId backup.id).map core) =
        (oldestFirst Backup.startedAt (others rows backup.instanceId backup.id)).map core :=
    newestFirst_map (fun _ => rfl) _
  rw [findBase, ← List.head?_map, ← sorted, firstIn, cores, List.filter_map]
  rfl

theorem firstIn_cores_eq_some {backup first : Backup Digest}
    (found : firstIn (cores rows) (core backup) = some first) :
    ∃ base, findBase rows backup .first = some base ∧ core base = first :=
  Option.map_eq_some_iff.mp ((firstIn_cores backup).symm.trans found)

theorem exists_core : (rows.get id).isSome ↔ ∃ row ∈ cores rows, row.id = id := by
  rw [Option.isSome_iff_ne_none, ne_eq, Table.get_eq_none, not_not, List.mem_map]
  constructor
  · rintro ⟨row, listed, same⟩
    exact ⟨core row, List.mem_map_of_mem listed, same⟩
  · rintro ⟨_, member, same⟩
    obtain ⟨row, listed, rfl⟩ := List.mem_map.mp member
    exact ⟨row, listed, same⟩

theorem core_eq_of_id {row other : Backup Digest} (listed : row ∈ rows.rows)
    (member : other ∈ cores rows) (same : other.id = row.id) : other = core row := by
  obtain ⟨row', listed', rfl⟩ := List.mem_map.mp member
  rw [List.inj_on_of_nodup_map rows.distinct listed' listed same]

theorem cores_update (world : World Bytes Digest) (id : Nat)
    (change : Backup Digest → Backup Digest) (keeps : ∀ row, (change row).id = row.id)
    (same : ∀ row, core (change row) = core row) :
    cores (world.update id change keeps).rows = cores world.rows := by
  rw [cores, World.update, Table.modify, List.map_map]
  refine List.map_congr_left fun row _ => ?_
  rw [Function.comp_apply]
  split
  · exact same row
  · rfl

theorem cores_delete :
    cores (rows.delete id) = (cores rows).filter fun row => row.id ≠ id := by
  rw [cores, cores, Table.delete, List.filter_map]
  rfl

theorem cores_insert {row : Backup Digest} (fresh : rows.get row.id = none) :
    cores (rows.insert row) = cores rows ++ [core row] := by
  rw [cores, Table.insert, dif_neg (Table.get_eq_none.mp fresh), List.map_append]
  rfl

theorem firstIn_filter {listed : List (Backup Digest)} {backup first : Backup Digest}
    (keep : Nat → Bool) (found : firstIn listed backup = some first) (kept : keep first.id) :
    firstIn (listed.filter fun row => keep row.id) backup = some first := by
  rw [firstIn, List.filter_comm]
  exact head_filter found kept

theorem firstIn_append {listed : List (Backup Digest)} {backup first last : Backup Digest}
    (found : firstIn listed backup = some first)
    (order : last.instanceId = backup.instanceId → last.success → first.startedAt ≤ last.startedAt) :
    firstIn (listed ++ [last]) backup = some first := by
  rw [firstIn, List.filter_append, List.filter_cons, List.filter_nil]
  split
  case isTrue test =>
    simp only [Bool.and_eq_true, decide_eq_true_eq] at test
    exact head_append found (order test.1.1 test.1.2)
  case isFalse =>
    rw [List.append_nil]
    exact found

theorem mem_of_firstIn {listed : List (Backup Digest)} {backup first : Backup Digest}
    (found : firstIn listed backup = some first) : first ∈ listed ∧ first.success := by
  obtain ⟨member, test⟩ := List.mem_filter.mp (mem_of_head found)
  simp only [Bool.and_eq_true] at test
  exact ⟨member, test.1.2⟩

/-! ### What retention does to them -/

theorem cores_pruneRows (run : PruneRun) (stale : List (Backup Digest))
    (world : World Bytes Digest) : cores (pruneRows run world stale).1.rows =
      (cores world.rows).filter fun row => row.id ∉ (stale.filter fun row =>
        !(row.path ≠ "" && run.unlinkFails row.id) && Disposal.drops (disposal run.cfg row)).map
          Backup.id := by
  induction stale generalizing world with
  | nil => simp [pruneRows]
  | cons row stale ih =>
    rw [pruneRows, ih, pruneRow]
    by_cases fails : row.path ≠ "" ∧ run.unlinkFails row.id = true
    · rw [if_pos fails, List.filter_cons_of_neg (by simp [fails])]
    · have unlinked : (world.unlinkStale row).rows = world.rows := by
        rw [World.unlinkStale]
        split <;> rfl
      rw [if_neg fails]
      cases disposed : disposal run.cfg row with
      | offsiteOnly =>
        rw [List.filter_cons_of_neg (by simp [disposed, Disposal.drops])]
        have pruned : cores ((world.unlinkStale row).update row.id Backup.pruned).rows =
            cores world.rows := by
          rw [← unlinked]
          exact cores_update _ _ Backup.pruned (fun _ => rfl) fun _ => rfl
        exact congrArg _ pruned
      | drop key =>
        rw [List.filter_cons_of_pos
          (by simpa [disposed, Disposal.drops, imp_iff_not_or] using not_and_or.mp fails)]
        have gone : cores ((world.unlinkStale row).deleteRow row.id).rows =
            (cores world.rows).filter fun other => other.id ≠ row.id := by
          rw [← unlinked]
          exact cores_delete
        refine (congrArg _ gone).trans ?_
        rw [List.filter_filter]
        refine List.filter_congr fun other _ => ?_
        rw [List.map_cons, Bool.eq_iff_iff, Bool.and_eq_true, decide_eq_true_eq,
          decide_eq_true_eq, decide_eq_true_eq, List.mem_cons, not_or]
        exact and_comm

theorem files_pruneRows (run : PruneRun) (stale : List (Backup Digest))
    (world : World Bytes Digest) (path : String) :
    (pruneRows run world stale).1.files path = world.files path ∨
      (pruneRows run world stale).1.files path = none := by
  induction stale generalizing world with
  | nil => exact .inl rfl
  | cons row stale ih =>
    have one : (pruneRow run.cfg run.unlinkFails world row).1.files path = world.files path ∨
        (pruneRow run.cfg run.unlinkFails world row).1.files path = none := by
      rw [pruneRow]
      split
      · exact .inl rfl
      · have disposed : ((world.unlinkStale row).dispose row.id (disposal run.cfg row)).files =
            (world.unlinkStale row).files := by
          cases disposal run.cfg row <;> rfl
        rw [disposed, World.unlinkStale]
        split
        · by_cases same : path = resolveBackupPath row.path
          · exact .inr (same ▸ Function.update_self _ _ _)
          · exact .inl (Function.update_of_ne same _ _)
        · exact .inl rfl
    rw [pruneRows]
    rcases ih (pruneRow run.cfg run.unlinkFails world row).1 with rest | rest
    · rcases one with one | one
      · exact .inl (rest.trans one)
      · exact .inr (rest.trans one)
    · exact .inr rest

theorem cores_cleanup (world : World Bytes Digest) (run : PruneRun) :
    cores (cleanupOldBackups world run).rows =
      (cores world.rows).filter fun row => row.id ∉ dropped world run := by
  obtain ⟨objects, same⟩ := deleteObjects_eq ((pruneRows run world (staleRows world run)).2.filter
    fun key => !run.deleteFails key) (pruneRows run world (staleRows world run)).1
  rw [cleanupOldBackups, same]
  exact cores_pruneRows run _ world

theorem files_cleanup (world : World Bytes Digest) (run : PruneRun) (path : String) :
    (cleanupOldBackups world run).files path = world.files path ∨
      (cleanupOldBackups world run).files path = none := by
  obtain ⟨objects, same⟩ := deleteObjects_eq ((pruneRows run world (staleRows world run)).2.filter
    fun key => !run.deleteFails key) (pruneRows run world (staleRows world run)).1
  rw [cleanupOldBackups, same]
  exact files_pruneRows run _ world path

theorem replicate_frame (world : World Bytes Digest) (id : Nat) (run : BackupRun Bytes Salt) :
    cores (replicateNewBackup codec cwd world id run).rows = cores world.rows ∧
      (replicateNewBackup codec cwd world id run).files = world.files := by
  rw [replicateNewBackup]
  cases run.prune.cfg with
  | none => exact ⟨rfl, rfl⟩
  | some cfg =>
    have pending : cores (world.update id Backup.pending).rows = cores world.rows :=
      cores_update _ _ Backup.pending (fun _ => rfl) fun _ => rfl
    dsimp only
    generalize ran : replicateBackup codec cwd (world.update id Backup.pending) id (some cfg)
      run.instanceName run.replicaAt run.salt run.attempt = result
    obtain ⟨ok, after⟩ := result
    rw [← pending]
    rcases replicateBackup_cases _ _ _ _ _ _ _ _ ran with
      rfl | rfl | ⟨objects, text, rfl⟩ | ⟨settings, row, raw, payload, suffix, -, -, -, -, -, rfl⟩
    · exact ⟨rfl, rfl⟩
    · exact ⟨cores_update _ _ (Backup.skipped run.replicaAt) (fun _ => rfl) fun _ => rfl, rfl⟩
    · exact ⟨cores_update _ _ (Backup.failed run.replicaAt text) (fun _ => rfl) fun _ => rfl, rfl⟩
    · exact ⟨cores_update _ _ (Backup.uploaded run.replicaAt _ _) (fun _ => rfl) fun _ => rfl, rfl⟩

end Cores

/-! ### Counts that stay current -/

/-- A stored diff is that of what was saved for a backup and for its first one. -/
def Matches (rows : List (Backup Digest)) (saved : Nat → Option Bytes) (row : Backup Digest)
    (stored : BackupDiff) : Prop :=
  ∃ first new old, firstIn rows row = some first ∧ stored.baseBackupId = some first.id ∧
    original codec parse saved row = some new ∧ original codec parse saved first = some old ∧
    stored.counts = summariseDiff (diffConfigs old new)

structure Current (state : State Bytes Digest) : Prop where
  absolute : ∀ row ∈ cores state.world.rows, row.success → isAbsolute row.path
  unchanged : ∀ row ∈ cores state.world.rows, row.success → ∀ raw,
    state.world.files row.path = some raw → state.saved row.id = some raw
  stored : ∀ id stored, state.diffs id .first = some stored →
    ∃ row ∈ cores state.world.rows, row.id = id ∧
      (row.success → Matches codec parse (cores state.world.rows) state.saved row stored)

variable {codec} {parse} {cwd} {webCwd} {state : State Bytes Digest}

theorem Current.same (current : Current codec parse state) {world : World Bytes Digest}
    (rows : cores world.rows = cores state.world.rows) (files : world.files = state.world.files) :
    Current codec parse { state with world } := by
  constructor
  · rw [rows]
    exact current.absolute
  · rw [rows, files]
    exact current.unchanged
  · rw [rows]
    exact current.stored

/-- A deletion that leaves no backup with stored counts without its first one. -/
theorem Current.cascade (current : Current codec parse state) {world : World Bytes Digest}
    (keep : Nat → Bool)
    (rows : cores world.rows = (cores state.world.rows).filter fun row => keep row.id)
    (files : ∀ path, world.files path = state.world.files path ∨ world.files path = none)
    (kept : ∀ row ∈ cores state.world.rows, row.success → (state.diffs row.id .first).isSome →
      keep row.id → ∀ first, firstIn (cores state.world.rows) row = some first → keep first.id) :
    Current codec parse (state.cascade world) := by
  have listed : ∀ row ∈ cores world.rows, row ∈ cores state.world.rows ∧ keep row.id = true := by
    intro row member
    rw [rows] at member
    exact List.mem_filter.mp member
  refine ⟨fun row member => current.absolute row (listed row member).1,
    fun row member success raw read => ?_, fun id stored found => ?_⟩
  · refine current.unchanged row (listed row member).1 success raw ?_
    rcases files row.path with same | none
    · exact same.symm.trans read
    · cases none.symm.trans read
  · rw [State.cascade] at found
    dsimp only at found
    split at found
    case isFalse => cases found
    case isTrue present =>
      obtain ⟨before, held, rfl⟩ := Option.map_eq_some_iff.mp found
      obtain ⟨row, member, rfl, was⟩ := current.stored id before held
      obtain ⟨same, remains, eq⟩ := exists_core.mp present
      have keeps : keep row.id = true := eq ▸ (listed same remains).2
      refine ⟨row, rows ▸ List.mem_filter.mpr ⟨member, keeps⟩, rfl, fun success => ?_⟩
      obtain ⟨first, new, old, canonical, base, parsed, parsed', counts⟩ := was success
      have stays := kept row member success (held ▸ rfl) keeps first canonical
      have there : (world.rows.get first.id).isSome := by
        refine exists_core.mpr ⟨first, ?_, rfl⟩
        rw [rows]
        exact List.mem_filter.mpr ⟨(mem_of_firstIn canonical).1, stays⟩
      refine ⟨first, new, old, rows ▸ firstIn_filter keep canonical stays, ?_, parsed, parsed', counts⟩
      rw [base, Option.filter_some, if_pos there]

/-- A new row that does not come before the first one of a backup with stored counts. -/
theorem Current.insert (current : Current codec parse state) {row : Backup Digest}
    {raw : Option Bytes} (fresh : state.world.rows.get row.id = none)
    (absolute : row.success → isAbsolute row.path)
    (written : row.success → ∀ content, state.world.files row.path = some content →
      raw = some content)
    (order : ∀ other ∈ cores state.world.rows, other.success →
      (state.diffs other.id .first).isSome → ∀ first,
        firstIn (cores state.world.rows) other = some first →
          row.instanceId = other.instanceId → row.success → first.startedAt ≤ row.startedAt) :
    Current codec parse
      { state with
        world := { state.world with rows := state.world.rows.insert row }
        saved := Function.update state.saved row.id raw } := by
  have rows : cores (state.world.rows.insert row) = cores state.world.rows ++ [core row] :=
    cores_insert fresh
  have old : ∀ other ∈ cores state.world.rows, other.id ≠ row.id := by
    intro other member same
    have present := exists_core.mpr ⟨other, member, same⟩
    rw [fresh] at present
    cases present
  have unread : ∀ other ∈ cores state.world.rows,
      original codec parse (Function.update state.saved row.id raw) other =
        original codec parse state.saved other := by
    intro other member
    rw [original, original, Function.update_of_ne (old other member)]
  refine ⟨fun other member success => ?_, fun other member success content read => ?_,
    fun id stored found => ?_⟩
  · rcases List.mem_append.mp (rows ▸ member) with member | new
    · exact current.absolute other member success
    · obtain rfl := List.mem_singleton.mp new
      exact absolute success
  · rcases List.mem_append.mp (rows ▸ member) with member | new
    · exact (Function.update_of_ne (old other member) _ _).trans
        (current.unchanged other member success content read)
    · obtain rfl := List.mem_singleton.mp new
      exact (Function.update_self _ _ _).trans (written success content read)
  · obtain ⟨other, member, rfl, was⟩ := current.stored id stored found
    refine ⟨other, rows ▸ List.mem_append_left _ member, rfl, fun success => ?_⟩
    obtain ⟨first, new, before, canonical, base, parsed, parsed', counts⟩ := was success
    have still : firstIn (cores state.world.rows ++ [core row]) other = some first :=
      firstIn_append canonical (order other member success (found ▸ rfl) first canonical)
    refine ⟨first, new, before, rows ▸ still, base, ?_, ?_, counts⟩
    · exact (unread other member).trans parsed
    · exact (unread first (mem_of_firstIn canonical).1).trans parsed'

/-! ### Storing a diff -/

theorem Current.store (current : Current codec parse state) {row : Backup Digest}
    (member : row ∈ cores state.world.rows) {kind : DiffKind} {base : Nat} {diff : ConfigDiff}
    (right : kind = .first → row.success → Matches codec parse (cores state.world.rows) state.saved
      row ⟨some base, summariseDiff diff, diff⟩) :
    Current codec parse (state.store row.id kind base diff) := by
  refine ⟨current.absolute, current.unchanged, fun id stored found => ?_⟩
  rw [State.store] at found
  dsimp only at found
  split at found
  case isTrue same =>
    obtain ⟨rfl, rfl⟩ := same
    obtain rfl := Option.some.inj found
    exact ⟨row, member, rfl, right rfl⟩
  case isFalse => exact current.stored id stored found

/-- A diff that can be computed from the files is that of what was saved. -/
theorem Current.diffOf_eq (current : Current codec parse state) {opens : String → String}
    (opened : ∀ {path}, isAbsolute path → opens path = path) {row base : Backup Digest}
    (member : core row ∈ cores state.world.rows) (success : row.success)
    (member' : core base ∈ cores state.world.rows) (success' : base.success) {diff : ConfigDiff}
    (computed : diffOf codec parse state.world opens row base = some diff) :
    ∃ new old, original codec parse state.saved row = some new ∧
      original codec parse state.saved base = some old ∧ diff = diffConfigs old new := by
  have readable : ∀ {other : Backup Digest} {bytes : Bytes}, core other ∈ cores state.world.rows →
      other.success → readBackupBytes codec state.world (opens other.path) other = some bytes →
        original codec parse state.saved other = parse bytes := by
    intro other bytes member success read
    obtain ⟨raw, file, plain⟩ := Option.bind_eq_some_iff.mp read
    have lies : isAbsolute other.path := current.absolute (core other) member success
    rw [opened lies] at file
    have unchanged : state.saved other.id = some raw :=
      current.unchanged _ member success raw file
    rw [original, unchanged, Option.bind_some, plain, Option.bind_some]
  simp only [diffOf, EventLog.computeDiff, Option.bind_eq_bind, Option.bind_eq_some_iff] at computed
  obtain ⟨newBytes, read, baseBytes, read', old, parsed', new, parsed, eq⟩ := computed
  exact ⟨new, old, (readable member success read).trans parsed,
    (readable member' success' read').trans parsed', (Option.some.inj eq).symm⟩

theorem mem_of_findBase {rows : Table (Backup Digest) Backup.id} {row base : Backup Digest}
    {kind : DiffKind} (found : findBase rows row kind = some base) :
    base ∈ rows.rows ∧ base.success := by
  have among : base ∈ others rows row.instanceId row.id := by
    cases kind with
    | previous => exact (List.mem_filter.mp (mem_of_head found)).1
    | first => exact mem_of_head found
  obtain ⟨listed, test⟩ := List.mem_filter.mp among
  simp only [Bool.and_eq_true] at test
  exact ⟨listed, test.1.2⟩

/-- To store a diff with the base that the web finds keeps the stored counts current. -/
theorem Current.storeBase (current : Current codec parse state) {opens : String → String}
    (opened : ∀ {path}, isAbsolute path → opens path = path) {row base : Backup Digest}
    {kind : DiffKind} (listed : row ∈ state.world.rows.rows)
    (found : findBase state.world.rows row kind = some base) {diff : ConfigDiff}
    (computed : diffOf codec parse state.world opens row base = some diff) :
    Current codec parse (state.store row.id kind base.id diff) := by
  have member : core row ∈ cores state.world.rows := List.mem_map_of_mem listed
  refine current.store member fun first success => ?_
  subst first
  obtain ⟨listed', success'⟩ := mem_of_findBase found
  obtain ⟨new, old, parsed, parsed', rfl⟩ := current.diffOf_eq opened member success
    (List.mem_map_of_mem listed') success' computed
  refine ⟨core base, new, old, ?_, rfl, parsed, parsed', rfl⟩
  rw [firstIn_cores, found, Option.map_some]

theorem world_persistDiff (codec : Codec Bytes Digest Salt) (parse : Bytes → Option ParsedConfig)
    (cwd : String) (state : State Bytes Digest) (new : Backup Digest) (kind : DiffKind)
    (base : Option (Backup Digest)) : (persistDiff codec parse cwd new kind base state).world = state.world := by
  unfold persistDiff
  split
  · rfl
  · split <;> rfl

theorem Current.persistDiff (current : Current codec parse state) (cwd : String)
    {new : Backup Digest} (listed : new ∈ state.world.rows.rows) (kind : DiffKind) :
    Current codec parse
      (persistDiff codec parse cwd new kind (findBase state.world.rows new kind) state) := by
  unfold DiffCache.persistDiff
  split
  · exact current
  case h_2 base found =>
    split
    · exact current
    case h_2 diff computed =>
      exact current.storeBase (openedPath_of_absolute cwd) listed found computed

theorem Current.persistDiffs (current : Current codec parse state) (cwd : String)
    {new : Backup Digest} (held : state.world.rows.get new.id = some new) :
    Current codec parse (computeAndPersistDiffs codec parse cwd state new.id new.instanceId) := by
  rw [computeAndPersistDiffs, held, ingestionBases_eq held]
  have listed := Table.mem_of_get held
  have once := current.persistDiff cwd listed .previous
  have same := world_persistDiff codec parse cwd state new .previous
    (findBase state.world.rows new .previous)
  have twice := once.persistDiff cwd (same ▸ listed) .first
  rw [same] at twice
  exact twice

theorem Current.currentDiff (current : Current codec parse state) {backup : Backup Digest}
    (listed : backup ∈ state.world.rows.rows) (kind : DiffKind) :
    Current codec parse (currentDiff codec parse state backup kind).1 := by
  unfold DiffCache.currentDiff
  split
  · exact current
  case h_2 base cached found =>
    split
    · exact current
    · split
      · exact current
      case h_2 diff computed =>
        exact current.storeBase resolveBackupPath_of_absolute listed found computed

theorem world_currentDiff (codec : Codec Bytes Digest Salt) (parse : Bytes → Option ParsedConfig)
    (state : State Bytes Digest) (backup : Backup Digest) (kind : DiffKind) :
    (currentDiff codec parse state backup kind).1.world = state.world := by
  unfold currentDiff
  split
  · rfl
  · split
    · rfl
    · split <;> rfl

/-! ### Every run -/

theorem KeepsFirst.cores {deleted : List Nat} (keeps : KeepsFirst state deleted) :
    ∀ row ∈ cores state.world.rows, row.success → (state.diffs row.id .first).isSome →
      decide (row.id ∉ deleted) → ∀ first, firstIn (cores state.world.rows) row = some first →
        decide (first.id ∉ deleted) := by
  intro row member success stored kept first canonical
  obtain ⟨row, listed, rfl⟩ := List.mem_map.mp member
  obtain ⟨first, found, rfl⟩ := firstIn_cores_eq_some canonical
  exact decide_eq_true (keeps row listed success stored (of_decide_eq_true kept) first found)

theorem Current.prune (current : Current codec parse state) {run : PruneRun}
    (keeps : KeepsFirst state (dropped state.world run)) :
    Current codec parse (state.cascade (cleanupOldBackups state.world run)) :=
  current.cascade (fun id => id ∉ dropped state.world run) (cores_cleanup state.world run)
    (files_cleanup state.world run) keeps.cores

theorem Current.delete (current : Current codec parse state) {id : Nat}
    {unlinkFails deleteFails : Bool} (keeps : KeepsFirst state [id]) :
    Current codec parse (deleteBackup webCwd state id unlinkFails deleteFails) := by
  have gone : ∀ world : World Bytes Digest, world.rows = state.world.rows.delete id →
      (∀ path, world.files path = state.world.files path ∨ world.files path = none) →
        Current codec parse (state.cascade world) := by
    intro world rows files
    refine current.cascade (fun other => other ∉ [id]) ?_ files keeps.cores
    rw [rows, cores_delete]
    exact List.filter_congr fun row _ => by simp
  unfold deleteBackup
  split
  · exact current
  case h_2 row held =>
    split
    · exact current
    · have files : ∀ path, (state.world.unlink (openedPath webCwd row.path)).files path =
          state.world.files path ∨
            (state.world.unlink (openedPath webCwd row.path)).files path = none := by
        intro path
        by_cases same : path = openedPath webCwd row.path
        · exact .inr (same ▸ Function.update_self _ _ _)
        · exact .inl (Function.update_of_ne same _ _)
      dsimp only
      split
      · split
        · exact gone _ rfl files
        · exact gone _ rfl files
      · exact gone _ rfl files

/-- The first one of a backup with stored counts, once the backups that it can do without went. -/
theorem Current.first_kept (current : Current codec parse state) {deleted : List Nat}
    (keeps : KeepsFirst state deleted) {row first : Backup Digest}
    (member : row ∈ cores state.world.rows) (success : row.success)
    (stored : (state.diffs row.id .first).isSome) (kept : row.id ∉ deleted)
    (canonical : firstIn ((cores state.world.rows).filter fun row => row.id ∉ deleted) row =
      some first) : firstIn (cores state.world.rows) row = some first := by
  obtain ⟨diff, held⟩ := Option.isSome_iff_exists.mp stored
  obtain ⟨row', member', same, was⟩ := current.stored row.id diff held
  obtain ⟨row, listed, rfl⟩ := List.mem_map.mp member
  obtain rfl := core_eq_of_id listed member' same
  obtain ⟨former, -, -, found, -⟩ := was success
  have stays := keeps.cores (core row) member success stored (decide_eq_true kept) former found
  obtain rfl := Option.some.inj
    ((firstIn_filter (fun id => id ∉ deleted) found stays).symm.trans canonical)
  exact found

theorem Current.backup (current : Current codec parse state) {run : BackupRun Bytes Salt}
    {diffRaises : Bool} (allowed : Allowed state (.backup run diffRaises)) :
    Current codec parse (backupInstance codec parse cwd state run diffRaises) := by
  obtain ⟨absolute, apart, keeps, order⟩ := allowed
  unfold backupInstance
  split
  · exact current
  obtain ⟨files, file, saved, written, -, elsewhere, result⟩ :=
    saveBackup_spec codec cwd state.world absolute
  dsimp only
  rw [saved, result]
  have lies := savedPath_absolute absolute
  -- The save touches no row's file.
  have stored : Current codec parse { state with world := { state.world with files } } := by
    refine ⟨current.absolute, fun row member success raw read => ?_, current.stored⟩
    obtain ⟨row, listed, rfl⟩ := List.mem_map.mp member
    obtain ⟨other, other'⟩ := apart row listed success
    exact current.unchanged (core row) member success raw
      ((elsewhere row.path other.symm other'.symm).symm.trans read)
  have pruned : Current codec parse ({ state with world := { state.world with files } }.cascade
      (cleanupOldBackups { state.world with files } run.prune)) := stored.prune keeps
  have kept : (cleanupOldBackups { state.world with files } run.prune).files (savedPath run) =
      some file ∨ (cleanupOldBackups { state.world with files } run.prune).files (savedPath run) =
        none := written ▸ files_cleanup { state.world with files } run.prune (savedPath run)
  have left : cores (cleanupOldBackups { state.world with files } run.prune).rows =
      (cores state.world.rows).filter fun row => row.id ∉ dropped state.world run.prune :=
    cores_cleanup { state.world with files } run.prune
  have result' : files (openedPath cwd (savedPath run)) = some file := by
    rw [openedPath_of_absolute cwd lies, written]
  dsimp only
  rw [result']
  generalize cleanupOldBackups { state.world with files } run.prune = after at *
  let new : Backup Digest := historyRow after.rows.nextId run
    ⟨savedPath run, codec.size file, run.compress, codec.looksEncrypted run.content⟩
  let listing : State Bytes Digest :=
    { state.cascade after with
      world := { after with rows := after.rows.insert new }
      saved := Function.update state.saved after.rows.nextId (some file) }
  have listed : Current codec parse listing := by
    refine pruned.insert Table.get_nextId (fun _ => lies) (fun _ content read => ?_) ?_
    · rcases kept with same | none
      · exact same.symm.trans read
      · cases none.symm.trans read
    · intro other member success present first canonical sibling _
      have among : other ∈ (cores state.world.rows).filter fun row =>
          row.id ∉ dropped state.world run.prune := left ▸ member
      obtain ⟨member, stays⟩ := List.mem_filter.mp among
      have before : (state.diffs other.id .first).isSome := by
        obtain ⟨diff, held⟩ := Option.isSome_iff_exists.mp present
        simp only [State.cascade] at held
        split at held
        · obtain ⟨was, held, -⟩ := Option.map_eq_some_iff.mp held
          rw [held]
          rfl
        · cases held
      have found := current.first_kept keeps member success before (of_decide_eq_true stays)
        (left ▸ canonical)
      obtain ⟨row, listed, rfl⟩ := List.mem_map.mp member
      obtain ⟨base, here, rfl⟩ := firstIn_cores_eq_some found
      exact order row listed sibling.symm success before (of_decide_eq_true stays) base here
  have persisted : Current codec parse (if diffRaises then listing else
      computeAndPersistDiffs codec parse cwd listing after.rows.nextId run.prune.instanceId) := by
    split
    · exact listed
    · have held : listing.world.rows.get new.id = some new := get_writeBackupHistory after run _
      exact listed.persistDiffs cwd held
  split
  · obtain ⟨rows, files⟩ := replicate_frame codec cwd _ _ _
    exact persisted.same rows files
  · exact persisted

theorem Current.backupFails (current : Current codec parse state) (instanceId startedAt : Nat) :
    Current codec parse (backupFails state instanceId startedAt) := by
  let failed : Backup Digest := failedRow state.world.rows.nextId instanceId startedAt
  have fresh : state.world.rows.get failed.id = none := Table.get_nextId
  have listed : Current codec parse
      { state with
        world := { state.world with rows := state.world.rows.insert failed }
        saved := Function.update state.saved failed.id (state.saved failed.id) } :=
    current.insert fresh nofun nofun fun _ _ _ _ _ _ _ => nofun
  rw [Function.update_eq_self] at listed
  exact listed

theorem Current.diffSummary (current : Current codec parse state) (id : Nat) :
    Current codec parse (backupDiffSummary codec parse state id).1 := by
  unfold backupDiffSummary
  split
  · exact current
  case h_2 backup held =>
    have listed := Table.mem_of_get held
    have same := world_currentDiff codec parse state backup .previous
    exact (current.currentDiff listed .previous).currentDiff (same ▸ listed) .first

theorem Current.diffVsFirstParsed (current : Current codec parse state) (id : Nat) :
    Current codec parse (backupDiffVsFirstParsed codec parse state id).1 := by
  unfold backupDiffVsFirstParsed
  split
  · exact current
  case h_2 backup held => exact current.currentDiff (Table.mem_of_get held) .first

theorem Current.historyCurrent (current : Current codec parse state) :
    HistoryCurrent codec parse state := by
  intro instanceId item member counts shown
  obtain ⟨row, among, rfl⟩ := List.mem_map.mp member
  obtain ⟨listed, test⟩ := List.mem_filter.mp ((newestFirst_perm _ _).mem_iff.mp among)
  simp only [Bool.and_eq_true] at test
  obtain ⟨stored, held, rfl⟩ := Option.map_eq_some_iff.mp shown
  obtain ⟨row', member', same, was⟩ := current.stored row.id stored held
  obtain rfl := core_eq_of_id listed member' same
  obtain ⟨first, new, old, canonical, -, parsed, parsed', counts⟩ := was test.2
  obtain ⟨first, found, rfl⟩ := firstIn_cores_eq_some canonical
  exact ⟨row, first, new, old, Table.get_of_mem listed, found, parsed, parsed', counts⟩

/-- From an empty database, the history is current in every run in which no backup with stored
counts loses its first one or gets another. -/
theorem history_current (codec : Codec Bytes Digest Salt) (parse : Bytes → Option ParsedConfig)
    (cwd webCwd : String) (start : State Bytes Digest) (empty : start.world.rows = .empty)
    (none : ∀ id kind, start.diffs id kind = none)
    (reached : Reach (Step codec parse cwd webCwd) Allowed start state) :
    HistoryCurrent codec parse state := by
  have first : Current codec parse start := by
    have bare : cores start.world.rows = [] := by rw [empty, cores, Table.empty, List.map_nil]
    refine ⟨fun row member => ?_, fun row member => ?_, fun id stored found => ?_⟩
    · rw [bare] at member
      cases member
    · rw [bare] at member
      cases member
    · rw [none] at found
      cases found
  have last : Current codec parse state := by
    refine reached.invariant first fun before op after current allowed step => ?_
    cases step with
    | backup => exact current.backup allowed
    | backupFails => exact current.backupFails _ _
    | prune => exact current.prune allowed
    | delete => exact current.delete allowed
    | diffSummary => exact current.diffSummary _
    | diffVsFirstParsed => exact current.diffVsFirstParsed _
    | history => exact current
  exact last.historyCurrent

/-! ### A first backup that goes -/

def parseBlob : Blob → Option ParsedConfig
  | .xml "empty" => some {}
  | .xml _ => some (.ofAlias "lan_hosts" "")
  | _ => none

/-- The backup of a day, in the clear and kept here. -/
def daily (xmlPath text : String) (startedAt : Nat) : BackupRun Blob Unit where
  instanceName := "edge"
  backupEncrypt := false
  backupEncryptPassword := none
  compress := false
  replicate := false
  content := .xml text
  xmlPath
  startedAt
  prune := ⟨1, [1, 2, 3], none, fun _ => false, fun _ => false⟩
  replicaAt := 0
  salt := ()
  attempt := .succeeds

def noBackups : State Blob Blob where
  world := emptyWorld
  diffs _ _ := none
  saved _ := none

def oneBackup : State Blob Blob :=
  backupInstance showing parseBlob "/app" noBackups (daily "/backups/1.xml" "empty" 10) false

def twoBackups : State Blob Blob :=
  backupInstance showing parseBlob "/app" oneBackup (daily "/backups/2.xml" "alias" 20) false

def threeBackups : State Blob Blob :=
  backupInstance showing parseBlob "/app" twoBackups (daily "/backups/3.xml" "alias" 30) false

/-- The first backup is deleted. -/
def firstDeleted : State Blob Blob :=
  deleteBackup "/web" threeBackups 1 false false

/-- The history returns the counts of a diff against another backup than the first one. -/
def stale (state : State Blob Blob) : Bool :=
  (listBackupHistory state 1).any fun item =>
    (state.world.rows.get item.id).any fun row =>
      (findBase state.world.rows row .first).any fun first =>
        (original showing parseBlob state.saved row).any fun new =>
          (original showing parseBlob state.saved first).any fun old =>
            item.changesSinceFirst.any fun counts =>
              decide (counts ≠ summariseDiff (diffConfigs old new))

theorem not_historyCurrent_of_stale {state : State Blob Blob} (shown : stale state) :
    ¬ HistoryCurrent showing parseBlob state := by
  intro current
  obtain ⟨item, member, shown⟩ := List.any_eq_true.mp shown
  obtain ⟨row, held, shown⟩ := (Option.any_eq_true _ _).mp shown
  obtain ⟨first, found, shown⟩ := (Option.any_eq_true _ _).mp shown
  obtain ⟨new, parsed, shown⟩ := (Option.any_eq_true _ _).mp shown
  obtain ⟨old, parsed', shown⟩ := (Option.any_eq_true _ _).mp shown
  obtain ⟨counts, returned, shown⟩ := (Option.any_eq_true _ _).mp shown
  obtain ⟨row', first', new', old', held', found', again, again', eq⟩ :=
    current 1 item member counts returned
  obtain rfl := Option.some.inj (held.symm.trans held')
  obtain rfl := Option.some.inj (found.symm.trans found')
  obtain rfl := Option.some.inj (parsed.symm.trans again)
  obtain rfl := Option.some.inj (parsed'.symm.trans again')
  exact of_decide_eq_true shown eq

theorem allowed_daily {state : State Blob Blob} {xmlPath text : String} {startedAt : Nat}
    (absolute : isAbsolute xmlPath)
    (apart : ∀ row ∈ state.world.rows.rows, xmlPath ≠ row.path)
    (fresh : ∀ row ∈ state.world.rows.rows, (state.diffs row.id .first).isSome = false) :
    Allowed state (.backup (daily xmlPath text startedAt) false) := by
  refine ⟨absolute, fun row member _ => ⟨apart row member, apart row member⟩, ?_, ?_⟩
  · intro row member _ stored
    rw [fresh row member] at stored
    cases stored
  · intro row member _ _ stored
    rw [fresh row member] at stored
    cases stored

theorem twoBackups_current : HistoryCurrent showing parseBlob twoBackups :=
  history_current showing parseBlob "/app" "/web" noBackups rfl (fun _ _ => rfl)
    ((Relation.ReflTransGen.refl.tail ⟨.backup (daily "/backups/1.xml" "empty" 10) false,
      allowed_daily (by decide) (by decide) (by decide), .backup⟩).tail
        ⟨.backup (daily "/backups/2.xml" "alias" 20) false,
          allowed_daily (by decide) (by decide) (by decide), .backup⟩)

/-- After the first of three backups is deleted, the third one is still shown with the counts of
the diff against it, although the second one is the first now and the third does not differ. -/
theorem firstDeleted_notCurrent :
    Reach (Step showing parseBlob "/app" "/web") unguarded noBackups firstDeleted ∧
      ¬ HistoryCurrent showing parseBlob firstDeleted := by
  refine ⟨?_, not_historyCurrent_of_stale (by decide)⟩
  refine Relation.ReflTransGen.tail ?_ ⟨.delete 1 false false, trivial, .delete⟩
  refine Relation.ReflTransGen.tail ?_
    ⟨.backup (daily "/backups/3.xml" "alias" 30) false, trivial, .backup⟩
  refine Relation.ReflTransGen.tail ?_
    ⟨.backup (daily "/backups/2.xml" "alias" 20) false, trivial, .backup⟩
  exact .single ⟨.backup (daily "/backups/1.xml" "empty" 10) false, trivial, .backup⟩

end PfsenseBackups.DiffCache

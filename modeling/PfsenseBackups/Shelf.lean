import PfsenseBackups.StoredBackups

/-! Where backup files lie: the paths that are put together from the settings and the instances,
and the operations that write, adopt and remove the files. -/

namespace PfsenseBackups.Shelf
open Replication Runs StoredBackups Tables

/-! ### Paths -/

def segments : List Char → List (List Char)
  | [] => [[]]
  | '/' :: rest => [] :: segments rest
  | letter :: rest =>
    match segments rest with
    | [] => [[letter]]
    | first :: others => (letter :: first) :: others

/-- `str(Path(raw))`. -/
def pathText (raw : String) : String :=
  let parts := (segments raw.toList).filter fun part => part ≠ [] ∧ part ≠ ['.']
  let body := List.intercalate ['/'] parts
  if ['/', '/'].isPrefixOf raw.toList ∧ ¬ ['/', '/', '/'].isPrefixOf raw.toList then
    String.ofList ('/' :: '/' :: body)
  else if isAbsolute raw then String.ofList ('/' :: body)
  else if parts = [] then "."
  else String.ofList body

/-- `str(Path(first) / second)`. -/
def joinPath (first second : String) : String :=
  if isAbsolute second then pathText second else pathText (pathText first ++ "/" ++ second)

example : joinPath "/backups/./" "edge" = "/backups/edge" := by decide

/-- `Path.resolve` of an absolute path: the file that it leads to through the links. -/
structure FileSystem where
  resolve : String → String
  resolve_resolve : ∀ path, resolve (resolve path) = resolve path
  resolve_absolute : ∀ {path}, isAbsolute path → isAbsolute (resolve path)

/-- The file that a process started in a directory opens by a path. -/
def FileSystem.file (disk : FileSystem) (cwd path : String) : String :=
  disk.resolve (openedPath cwd path)

/-! ### Instances and settings -/

structure BackupSettings where
  filenameFormat : String
  timestampFormat : String
  directory : String

structure Instance where
  id : Nat
  name : String
  subfolder : Option String
  backupPrefix : String
  compress : Bool
  deriving DecidableEq

/-- `strftime` of a time, and `str.format` with the three names of a file name format, which
raises for others. -/
structure Texts where
  strftime : String → Nat → String
  format : (template backupPrefix instanceName timestamp : String) → Option String

def fsUnsafe : List Char :=
  ['/', '\\', '*', '?', '[', ']', '<', '>', '|', '"', Char.ofNat 0]

/-- `str.isspace`. -/
def isSpace (letter : Char) : Bool :=
  let code := letter.toNat
  (9 ≤ code && code ≤ 13) || (28 ≤ code && code ≤ 32) || (8192 ≤ code && code ≤ 8202) ||
    code ∈ [133, 160, 5760, 8232, 8233, 8239, 8287, 12288]

def noFsSpecial (text : String) : Bool :=
  text.toList.all (· ∉ fsUnsafe) && !text.toList.head?.any isSpace &&
    !text.toList.getLast?.any isSpace && text ≠ ""

def subfolderSafe (subfolder : Option String) : Bool :=
  match truthy subfolder with
  | none => true
  | some subfolder => subfolder ≠ "." && subfolder ≠ ".." && noFsSpecial subfolder

/-- `Path(directory) / subfolder`, or the directory itself. -/
def instanceDir (settings : BackupSettings) (inst : Instance) : String :=
  match truthy inst.subfolder with
  | some subfolder => joinPath settings.directory subfolder
  | none => pathText settings.directory

/-- The path under which `_save_backup` writes, before it compresses. -/
def xmlPath (texts : Texts) (settings : BackupSettings) (inst : Instance) (now : Nat) :
    Option String := do
  let timestamp := texts.strftime settings.timestampFormat now
  let filename ← texts.format settings.filenameFormat inst.backupPrefix inst.name timestamp
  return joinPath (instanceDir settings inst) filename

/-! ### Files -/

/-- The world's files are named by their resolved paths. -/
structure State (Bytes Digest : Type) where
  settings : BackupSettings
  instances : Table Instance Instance.id
  world : World Bytes Digest

variable {Bytes Digest Salt : Type} (codec : Codec Bytes Digest Salt) (disk : FileSystem)
  (texts : Texts) (cwd webCwd : String)

def saveBackup (world : World Bytes Digest) (run : BackupRun Bytes Salt) :
    World Bytes Digest × SaveResult :=
  let xml := disk.file cwd run.xmlPath
  let written := world.writeFile xml run.content
  if run.compress then
    let gzPath := run.xmlPath ++ ".gz"
    let gz := codec.gzip run.salt run.content
    ((written.writeFile (disk.file cwd gzPath) gz).unlink xml,
      ⟨gzPath, codec.size gz, true, codec.looksEncrypted run.content⟩)
  else
    (written, ⟨run.xmlPath, codec.size run.content, false, codec.looksEncrypted run.content⟩)

def pruneRow (run : PruneRun) (world : World Bytes Digest) (row : Backup Digest) :
    World Bytes Digest :=
  if row.path ≠ "" then
    if run.unlinkFails row.id then world
    else
      (world.unlink (disk.resolve (resolveBackupPath row.path))).dispose row.id
        (disposal run.cfg row)
  else world.dispose row.id (disposal run.cfg row)

/-- `_cleanup_old_backups`, less the remote deletes. -/
def cleanupOldBackups (world : World Bytes Digest) (run : PruneRun) : World Bytes Digest :=
  (staleRows world run).foldl (pruneRow disk run) world

/-- `backup_instance` from its download on; what raises before a file is written only adds a
failed row. -/
def backupInstance (state : State Bytes Digest) (run : BackupRun Bytes Salt) (now : Nat)
    (raises : Bool) : State Bytes Digest :=
  let failed : State Bytes Digest :=
    { state with world := writeFailedHistory state.world run.prune.instanceId run.startedAt }
  match state.instances.get run.prune.instanceId with
  | none => state
  | some inst =>
    match xmlPath texts state.settings inst now, raises with
    | some xmlPath, false =>
      let run := { run with instanceName := inst.name, compress := inst.compress, xmlPath }
      let saved := saveBackup codec disk cwd state.world run
      let pruned := cleanupOldBackups disk saved.1 run.prune
      { state with world := writeBackupHistory pruned run saved.2 }
    | _, _ => failed

/-- An entry of a directory. -/
structure Entry where
  name : String
  size : Nat
  mtime : Nat

/-- `p.suffix == ".xml" or p.name.endswith(".xml.gz")`. -/
def importable (name : String) : Bool :=
  (endsWith name ".xml" && name ≠ ".xml") || endsWith name ".xml.gz"

def importedRow (id instanceId : Nat) (entry : Entry) (path : String) : Backup Digest where
  id
  instanceId
  startedAt := entry.mtime
  filename := entry.name
  path
  sizeBytes := entry.size
  compressed := endsWith entry.name ".gz"
  success := true
  encrypted := false
  encryptPassword := none

/-- The files of a directory listing that an import adopts, by their resolved paths. -/
def adopted (state : State Bytes Digest) (inst : Instance) (entries : List Entry) :
    List (Entry × String) :=
  let resolved := entries.map fun entry =>
    (entry, disk.file webCwd (joinPath (instanceDir state.settings inst) entry.name))
  resolved.filter fun found =>
    importable found.1.name && (state.world.files found.2).isSome &&
      found.2 ∉ state.world.rows.rows.map Backup.path

def adopt (instanceId : Nat) (world : World Bytes Digest) (found : Entry × String) :
    World Bytes Digest :=
  { world with rows :=
      world.rows.insert (importedRow world.rows.nextId instanceId found.1 found.2) }

/-- `import_backups`, with the listing of the scanned directory. -/
def importBackups (state : State Bytes Digest) (instanceId : Nat) (entries : List Entry) :
    State Bytes Digest :=
  match state.instances.get instanceId with
  | none => state
  | some inst =>
    { state with world :=
        (adopted disk webCwd state inst entries).foldl (adopt instanceId) state.world }

/-- `delete_backup`, less the off-site object; a path that is empty or refuses is an error. -/
def deleteBackup (state : State Bytes Digest) (id : Nat) (unlinkFails : Bool) :
    State Bytes Digest :=
  match state.world.rows.get id with
  | none => state
  | some row =>
    if row.path = "" ∨ unlinkFails then state
    else
      { state with world := (state.world.unlink (disk.file webCwd row.path)).deleteRow id }

/-! ### Settings that the API accepts -/

/-- The fields of an `InstanceCreate`, or of an instance after an `InstanceUpdate`. -/
def Instance.accepted (inst : Instance) : Bool :=
  noFsSpecial inst.name && noFsSpecial inst.backupPrefix && subfolderSafe inst.subfolder

def createInstance (state : State Bytes Digest) (inst : Instance) : State Bytes Digest :=
  if inst.accepted ∧ inst.name ∉ state.instances.rows.map Instance.name then
    { state with instances := state.instances.insert { inst with id := state.instances.nextId } }
  else state

structure InstanceUpdate where
  name : Option String
  subfolder : Option (Option String)
  backupPrefix : Option String
  compress : Option Bool

def InstanceUpdate.apply (payload : InstanceUpdate) (inst : Instance) : Instance :=
  { inst with
    name := payload.name.getD inst.name
    subfolder := payload.subfolder.getD inst.subfolder
    backupPrefix := payload.backupPrefix.getD inst.backupPrefix
    compress := payload.compress.getD inst.compress }

def InstanceUpdate.accepted (payload : InstanceUpdate) : Bool :=
  payload.name.all noFsSpecial && payload.backupPrefix.all noFsSpecial &&
    payload.subfolder.all subfolderSafe

def updateInstance (state : State Bytes Digest) (id : Nat) (payload : InstanceUpdate) :
    State Bytes Digest :=
  if payload.accepted ∧ ∀ other ∈ state.instances.rows, other.id ≠ id →
      payload.name ≠ some other.name then
    { state with instances := state.instances.modify id payload.apply }
  else state

/-- `BackupSettingsUpdate`: no field is looked at. -/
structure BackupSettingsUpdate where
  filenameFormat : Option String
  timestampFormat : Option String
  directory : Option String

def putBackup (state : State Bytes Digest) (payload : BackupSettingsUpdate) : State Bytes Digest :=
  { state with settings :=
      { filenameFormat := payload.filenameFormat.getD state.settings.filenameFormat
        timestampFormat := payload.timestampFormat.getD state.settings.timestampFormat
        directory := payload.directory.getD state.settings.directory } }

/-! ### Runs -/

inductive Op (Bytes Salt : Type) where
  | createInstance (inst : Instance)
  | updateInstance (id : Nat) (payload : InstanceUpdate)
  | putBackup (payload : BackupSettingsUpdate)
  | backup (run : BackupRun Bytes Salt) (now : Nat) (raises : Bool)
  | importBackups (instanceId : Nat) (entries : List Entry)
  | prune (run : PruneRun)
  | delete (id : Nat) (unlinkFails : Bool)
  /-- An upload marks a row. -/
  | mark (id : Nat) (status : ReplicaStatus) (key : Option String)

def marked (status : ReplicaStatus) (key : Option String) (row : Backup Digest) : Backup Digest :=
  { row with
    replicaStatus := some status
    replicaKey := key }

def perform (state : State Bytes Digest) : Op Bytes Salt → State Bytes Digest
  | .createInstance inst => createInstance state inst
  | .updateInstance id payload => updateInstance state id payload
  | .putBackup payload => putBackup state payload
  | .backup run now raises => backupInstance codec disk texts cwd state run now raises
  | .importBackups instanceId entries => importBackups disk webCwd state instanceId entries
  | .prune run => { state with world := cleanupOldBackups disk state.world run }
  | .delete id unlinkFails => deleteBackup disk webCwd state id unlinkFails
  | .mark id status key => { state with world := state.world.update id (marked status key) }

def Step (before : State Bytes Digest) (op : Op Bytes Salt) (after : State Bytes Digest) : Prop :=
  after = perform codec disk texts cwd webCwd before op

/-- A row that has a file of its own. -/
def shelved (row : Backup Digest) : Bool :=
  row.success && row.localPresent

/-- Rows refer to different files, and the files are there. -/
structure OneToOne (world : World Bytes Digest) : Prop where
  apart : ∀ row ∈ world.rows.rows, ∀ other ∈ world.rows.rows, shelved row → shelved other →
    disk.file cwd row.path = disk.file cwd other.path → row = other
  present : ∀ row ∈ world.rows.rows, shelved row → (world.files (disk.file cwd row.path)).isSome

/-! ### Conditions on the operations -/

/-- No row has its file there. -/
def Vacant (world : World Bytes Digest) (file : String) : Prop :=
  ∀ row ∈ world.rows.rows, shelved row → disk.file cwd row.path ≠ file

/-- What each operation has to meet in the state that it starts from. -/
def Allowed (state : State Bytes Digest) : Op Bytes Salt → Prop
  | .backup run now _ => ∀ inst path, state.instances.get run.prune.instanceId = some inst →
    xmlPath texts state.settings inst now = some path →
      isAbsolute path ∧ Vacant disk cwd state.world (disk.file cwd path) ∧
      (inst.compress → Vacant disk cwd state.world (disk.file cwd (path ++ ".gz")) ∧
        disk.file cwd (path ++ ".gz") ≠ disk.file cwd path)
  | .importBackups instanceId entries => ∀ inst, state.instances.get instanceId = some inst →
    ((adopted disk webCwd state inst entries).map Prod.snd).Nodup ∧
      ∀ found ∈ adopted disk webCwd state inst entries, Vacant disk cwd state.world found.2
  | .delete id _ => ∀ row, state.world.rows.get id = some row → ¬ shelved row →
    Vacant disk cwd state.world (disk.file webCwd row.path)
  | .createInstance _ | .updateInstance _ _ | .putBackup _ | .prune _ | .mark _ _ _ => True

/-! ### What the operations keep -/

structure Shelved (world : World Bytes Digest) : Prop extends OneToOne disk cwd world where
  absolute : ∀ row ∈ world.rows.rows, row.success → isAbsolute row.path

variable {codec} {disk} {texts} {cwd} {webCwd} {world : World Bytes Digest}

theorem file_absolute {path : String} (absolute : isAbsolute path) (cwd : String) :
    disk.file cwd path = disk.resolve path := by
  rw [FileSystem.file, openedPath_of_absolute cwd absolute]

theorem success_of_shelved {row : Backup Digest} (own : shelved row) : row.success :=
  (Bool.and_eq_true_iff.mp own).1

/-- Rows that become of rows, and files that stay for those that keep one. -/
theorem Shelved.thin (kept : Shelved disk cwd world) {after : World Bytes Digest}
    (rows : ∀ row ∈ after.rows.rows, shelved row → row ∈ world.rows.rows ∧
      after.files (disk.file cwd row.path) = world.files (disk.file cwd row.path))
    (paths : ∀ row ∈ after.rows.rows, ∃ before ∈ world.rows.rows,
      row.path = before.path ∧ row.success = before.success) : Shelved disk cwd after := by
  refine ⟨⟨fun row member other member' own own' same => ?_, fun row member own => ?_⟩,
    fun row member success => ?_⟩
  · exact kept.apart row (rows row member own).1 other (rows other member' own').1 own own' same
  · rw [(rows row member own).2]
    exact kept.present row (rows row member own).1 own
  · obtain ⟨before, member, path, same⟩ := paths row member
    rw [path]
    exact kept.absolute before member (same ▸ success)

theorem mem_dispose {id : Nat} {disposal : Disposal} {row : Backup Digest}
    (member : row ∈ (world.dispose id disposal).rows.rows) :
    (row ∈ world.rows.rows ∧ row.id ≠ id) ∨
      ∃ before ∈ world.rows.rows, row = before.pruned := by
  cases disposal with
  | offsiteOnly =>
    obtain ⟨before, listed, rfl⟩ := List.mem_map.mp member
    split
    · exact .inr ⟨before, listed, rfl⟩
    · exact .inl ⟨listed, ‹_›⟩
  | drop key =>
    obtain ⟨listed, other⟩ := List.mem_filter.mp member
    exact .inl ⟨listed, of_decide_eq_true other⟩

theorem mem_dispose_of_ne {id : Nat} (disposal : Disposal) {row : Backup Digest}
    (listed : row ∈ world.rows.rows) (other : row.id ≠ id) :
    row ∈ (world.dispose id disposal).rows.rows := by
  cases disposal with
  | offsiteOnly => exact List.mem_map.mpr ⟨row, listed, if_neg other⟩
  | drop key => exact List.mem_filter.mpr ⟨listed, decide_eq_true other⟩

/-- What a prune keeps: the files that no row has, and vacancies. -/
structure Frame (disk : FileSystem) (cwd : String) (world after : World Bytes Digest) : Prop where
  shelved : Shelved disk cwd after
  vacant : ∀ {file}, Vacant disk cwd world file →
    Vacant disk cwd after file ∧ after.files file = world.files file

theorem Shelved.pruneRow (kept : Shelved disk cwd world) (run : PruneRun) {row : Backup Digest}
    (listed : row ∈ world.rows.rows) (own : shelved row) :
    Frame disk cwd world (pruneRow disk run world row) ∧
      ∀ other ∈ world.rows.rows, other.id ≠ row.id →
        other ∈ (Shelf.pruneRow disk run world row).rows.rows := by
  have absolute := kept.absolute row listed (success_of_shelved own)
  unfold Shelf.pruneRow
  rw [if_pos (ne_empty_of_absolute absolute)]
  split
  · exact ⟨⟨kept, fun vacant => ⟨vacant, rfl⟩⟩, fun other member _ => member⟩
  have here : disk.resolve (resolveBackupPath row.path) = disk.file cwd row.path := by
    rw [resolveBackupPath_of_absolute absolute, file_absolute absolute]
  rw [here]
  generalize disposal run.cfg row = disposal
  have files : ∀ file, file ≠ disk.file cwd row.path →
      ((world.unlink (disk.file cwd row.path)).dispose row.id disposal).files file =
        world.files file := by
    intro file other
    cases disposal <;> exact Function.update_of_ne other _ _
  have remain : ∀ other ∈ ((world.unlink (disk.file cwd row.path)).dispose row.id disposal).rows.rows,
      shelved other → other ∈ world.rows.rows ∧ other.id ≠ row.id := by
    intro other member own'
    rcases mem_dispose member with still | ⟨before, -, rfl⟩
    · exact still
    · exact absurd (Bool.and_eq_true_iff.mp own').2 Bool.false_ne_true
  refine ⟨⟨kept.thin (fun other member own' => ?_) fun other member => ?_, fun vacant => ⟨?_, ?_⟩⟩,
    fun other member differ => mem_dispose_of_ne disposal member differ⟩
  · obtain ⟨listed', differ⟩ := remain other member own'
    refine ⟨listed', files _ fun same => differ ?_⟩
    rw [kept.apart other listed' row listed own' own same]
  · rcases mem_dispose member with ⟨listed', -⟩ | ⟨before, listed', rfl⟩
    · exact ⟨other, listed', rfl, rfl⟩
    · exact ⟨before, listed', rfl, rfl⟩
  · intro other member own'
    exact vacant other (remain other member own').1 own'
  · exact files _ (vacant row listed own).symm

theorem Shelved.pruneRows (kept : Shelved disk cwd world) (run : PruneRun)
    {stale : List (Backup Digest)} (distinct : (stale.map Backup.id).Nodup)
    (listed : ∀ row ∈ stale, row ∈ world.rows.rows ∧ shelved row) :
    Frame disk cwd world (stale.foldl (Shelf.pruneRow disk run) world) := by
  induction stale generalizing world with
  | nil => exact ⟨kept, fun vacant => ⟨vacant, rfl⟩⟩
  | cons row rest ih =>
    rw [List.map_cons, List.nodup_cons] at distinct
    rw [List.forall_mem_cons] at listed
    obtain ⟨one, others⟩ := kept.pruneRow run listed.1.1 listed.1.2
    have rest := ih one.shelved distinct.2 fun other member =>
      ⟨others other (listed.2 other member).1 fun same =>
        distinct.1 (same ▸ List.mem_map_of_mem member), (listed.2 other member).2⟩
    refine ⟨rest.shelved, fun vacant => ?_⟩
    obtain ⟨vacant, same⟩ := one.vacant vacant
    obtain ⟨vacant, same'⟩ := rest.vacant vacant
    exact ⟨vacant, same'.trans same⟩

theorem Shelved.cleanup (kept : Shelved disk cwd world) (run : PruneRun) :
    Frame disk cwd world (cleanupOldBackups disk world run) := by
  refine kept.pruneRows run (world.rows.distinct.sublist (List.filter_sublist.map _)) ?_
  intro row member
  obtain ⟨listed, test⟩ := List.mem_filter.mp member
  simp only [Bool.and_eq_true] at test
  exact ⟨listed, Bool.and_eq_true_iff.mpr ⟨test.1.1.2, test.1.2⟩⟩

theorem Shelved.insert (kept : Shelved disk cwd world) {row : Backup Digest}
    (fresh : world.rows.get row.id = none) (absolute : row.success → isAbsolute row.path)
    (vacant : shelved row → Vacant disk cwd world (disk.file cwd row.path))
    (present : shelved row → (world.files (disk.file cwd row.path)).isSome) :
    Shelved disk cwd { world with rows := world.rows.insert row } := by
  have rows : (world.rows.insert row).rows = world.rows.rows ++ [row] := by
    rw [Table.insert, dif_neg (Table.get_eq_none.mp fresh)]
  have cases_ : ∀ other ∈ (world.rows.insert row).rows, other ∈ world.rows.rows ∨ other = row := by
    intro other member
    rw [rows, List.mem_append, List.mem_singleton] at member
    exact member
  refine ⟨⟨fun first member second member' own own' same => ?_, fun other member own => ?_⟩,
    fun other member success => ?_⟩
  · rcases cases_ first member with old | rfl <;> rcases cases_ second member' with old' | rfl
    · exact kept.apart first old second old' own own' same
    · exact absurd same (vacant own' first old own)
    · exact absurd same.symm (vacant own second old' own')
    · rfl
  · rcases cases_ other member with old | rfl
    · exact kept.present other old own
    · exact present own
  · rcases cases_ other member with old | rfl
    · exact kept.absolute other old success
    · exact absolute success

/-- A save to places where no row has its file. -/
theorem Shelved.save (kept : Shelved disk cwd world) (codec : Codec Bytes Digest Salt)
    (run : BackupRun Bytes Salt)
    (xml : Vacant disk cwd world (disk.file cwd run.xmlPath))
    (gz : run.compress → Vacant disk cwd world (disk.file cwd (run.xmlPath ++ ".gz")) ∧
      disk.file cwd (run.xmlPath ++ ".gz") ≠ disk.file cwd run.xmlPath) :
    Shelved disk cwd (saveBackup codec disk cwd world run).1 ∧
      (saveBackup codec disk cwd world run).2.path = savedPath run ∧
      Vacant disk cwd (saveBackup codec disk cwd world run).1 (disk.file cwd (savedPath run)) ∧
      ((saveBackup codec disk cwd world run).1.files (disk.file cwd (savedPath run))).isSome := by
  have unchanged : ∀ {after : World Bytes Digest}, after.rows = world.rows →
      (∀ row ∈ world.rows.rows, shelved row → after.files (disk.file cwd row.path) =
        world.files (disk.file cwd row.path)) → Shelved disk cwd after := by
    intro after rows files
    refine kept.thin (fun row member own => ?_) fun row member => ?_
    · rw [rows] at member
      exact ⟨member, files row member own⟩
    · rw [rows] at member
      exact ⟨row, member, rfl, rfl⟩
  unfold saveBackup savedPath
  by_cases compress : run.compress = true
  · obtain ⟨apart, differ⟩ := gz compress
    rw [if_pos compress, if_pos compress]
    refine ⟨unchanged rfl fun row member own => ?_, rfl, apart, ?_⟩
    · exact (Function.update_of_ne (xml row member own) _ _).trans
        ((Function.update_of_ne (apart row member own) _ _).trans
          (Function.update_of_ne (xml row member own) _ _))
    · exact Option.isSome_iff_exists.mpr ⟨_, (Function.update_of_ne differ _ _).trans
        (Function.update_self _ _ _)⟩
  · rw [if_neg compress, if_neg compress]
    refine ⟨unchanged rfl fun row member own => ?_, rfl, xml, ?_⟩
    · exact Function.update_of_ne (xml row member own) _ _
    · exact Option.isSome_iff_exists.mpr ⟨_, Function.update_self _ _ _⟩

theorem Shelved.backupFails (kept : Shelved disk cwd world) (instanceId startedAt : Nat) :
    Shelved disk cwd (writeFailedHistory world instanceId startedAt) :=
  kept.insert Table.get_nextId nofun nofun nofun

theorem Shelved.backup {state : State Bytes Digest} (kept : Shelved disk cwd state.world)
    {run : BackupRun Bytes Salt} {now : Nat} {raises : Bool}
    (allowed : Allowed disk texts cwd webCwd state (.backup run now raises)) :
    Shelved disk cwd (backupInstance codec disk texts cwd state run now raises).world := by
  unfold backupInstance
  dsimp only
  split
  · exact kept
  case h_2 inst found =>
    split
    case h_2 => exact kept.backupFails _ _
    case h_1 path written =>
      obtain ⟨absolute, xml, gz⟩ := allowed inst path found written
      let snapshot : BackupRun Bytes Salt :=
        { run with
          instanceName := inst.name
          compress := inst.compress
          xmlPath := path }
      have lies : isAbsolute (savedPath snapshot) := savedPath_absolute absolute
      obtain ⟨saved, same, vacant, present⟩ := kept.save codec snapshot xml gz
      have pruned := saved.cleanup run.prune
      obtain ⟨vacant, files⟩ := pruned.vacant vacant
      have listed : Shelved disk cwd (writeBackupHistory
          (cleanupOldBackups disk (saveBackup codec disk cwd state.world snapshot).1 run.prune)
          snapshot (saveBackup codec disk cwd state.world snapshot).2) := by
        refine pruned.shelved.insert Table.get_nextId (fun _ => ?_) (fun _ => ?_) fun _ => ?_
        · rw [historyRow, same]
          exact lies
        · rw [historyRow, same]
          exact vacant
        · rw [historyRow, same]
          exact files ▸ present
      exact listed

theorem adopt_vacant {instanceId : Nat} {found : Entry × String} {file : String}
    (vacant : Vacant disk cwd world file) (differ : disk.file cwd found.2 ≠ file) :
    Vacant disk cwd (adopt instanceId world found) file := by
  intro row member own
  have fresh : world.rows.get (importedRow world.rows.nextId instanceId found.1 found.2 :
      Backup Digest).id = none := Table.get_nextId
  rw [adopt, Table.insert, dif_neg (Table.get_eq_none.mp fresh)] at member
  rcases List.mem_append.mp member with old | new
  · exact vacant row old own
  · obtain rfl := List.mem_singleton.mp new
    exact differ

/-- Adopted one after the other, different files of no row each get one. -/
theorem Shelved.adopts (kept : Shelved disk cwd world) (instanceId : Nat)
    {found : List (Entry × String)} (distinct : (found.map Prod.snd).Nodup)
    (fit : ∀ entry ∈ found, isAbsolute entry.2 ∧ disk.resolve entry.2 = entry.2 ∧
      (world.files entry.2).isSome ∧ Vacant disk cwd world entry.2) :
    Shelved disk cwd (found.foldl (adopt instanceId) world) := by
  induction found generalizing world with
  | nil => exact kept
  | cons entry rest ih =>
    rw [List.map_cons, List.nodup_cons] at distinct
    rw [List.forall_mem_cons] at fit
    obtain ⟨absolute, resolved, present, vacant⟩ := fit.1
    have own : disk.file cwd entry.2 = entry.2 := (file_absolute absolute cwd).trans resolved
    have listed : Shelved disk cwd (adopt instanceId world entry) := by
      refine kept.insert Table.get_nextId (fun _ => absolute) (fun _ => ?_) fun _ => ?_
      · exact own.symm ▸ vacant
      · exact own.symm ▸ present
    refine ih listed distinct.2 fun other member => ?_
    obtain ⟨absolute', resolved', present', vacant'⟩ := fit.2 other member
    refine ⟨absolute', resolved', present', adopt_vacant vacant' fun same => ?_⟩
    rw [own] at same
    exact distinct.1 (same ▸ List.mem_map_of_mem member)

theorem isAbsolute_openedPath (rooted : isAbsolute webCwd) (path : String) :
    isAbsolute (openedPath webCwd path) := by
  unfold openedPath
  split
  · assumption
  · rw [String.append_assoc]
    exact isAbsolute_append rooted _

theorem Shelved.adopted {state : State Bytes Digest} (kept : Shelved disk cwd state.world)
    (rooted : isAbsolute webCwd) {instanceId : Nat} {entries : List Entry}
    (allowed : Allowed disk texts cwd webCwd state
      (.importBackups instanceId entries : Op Bytes Salt)) :
    Shelved disk cwd (importBackups disk webCwd state instanceId entries).world := by
  unfold importBackups
  split
  · exact kept
  case h_2 inst found =>
    obtain ⟨distinct, vacant⟩ := allowed inst found
    refine kept.adopts instanceId distinct fun entry member => ?_
    obtain ⟨listed, test⟩ := List.mem_filter.mp member
    obtain ⟨source, -, rfl⟩ := List.mem_map.mp listed
    simp only [Bool.and_eq_true] at test
    exact ⟨disk.resolve_absolute (isAbsolute_openedPath rooted _), disk.resolve_resolve _,
      test.1.2, vacant _ member⟩

theorem Shelved.delete {state : State Bytes Digest} (kept : Shelved disk cwd state.world)
    {id : Nat} {unlinkFails : Bool}
    (allowed : Allowed disk texts cwd webCwd state (.delete id unlinkFails : Op Bytes Salt)) :
    Shelved disk cwd (deleteBackup disk webCwd state id unlinkFails).world := by
  unfold deleteBackup
  split
  · exact kept
  case h_2 row found =>
    split
    · exact kept
    have listed := Table.mem_of_get found
    have apart : ∀ other ∈ state.world.rows.rows, shelved other → other.id ≠ id →
        disk.file cwd other.path ≠ disk.file webCwd row.path := by
      intro other member own differ
      by_cases here : shelved row = true
      · have absolute := kept.absolute row listed (success_of_shelved here)
        rw [file_absolute absolute webCwd, ← file_absolute absolute cwd]
        intro same
        obtain rfl := kept.apart other member row listed own here same
        exact differ (Table.id_of_get found)
      · exact allowed row found here other member own
    refine kept.thin (fun other member own => ?_) fun other member => ?_
    · obtain ⟨before, differ⟩ := List.mem_filter.mp member
      exact ⟨before, Function.update_of_ne
        (apart other before own (of_decide_eq_true differ)) _ _⟩
    · exact ⟨other, (List.mem_filter.mp member).1, rfl, rfl⟩

theorem Shelved.mark (kept : Shelved disk cwd world) (id : Nat) (status : ReplicaStatus)
    (key : Option String) : Shelved disk cwd (world.update id (marked status key)) := by
  let change : Backup Digest → Backup Digest := fun row =>
    if row.id = id then marked status key row else row
  have same : ∀ row, shelved (change row) = shelved row ∧ (change row).path = row.path ∧
      (change row).success = row.success := by
    intro row
    dsimp only [change]
    split <;> exact ⟨rfl, rfl, rfl⟩
  refine ⟨⟨fun first member second member' own own' file => ?_, fun row member own => ?_⟩,
    fun row member success => ?_⟩
  · obtain ⟨row, listed, rfl⟩ := List.mem_map.mp member
    obtain ⟨other, listed', rfl⟩ := List.mem_map.mp member'
    have own : shelved (change row) := own
    have own' : shelved (change other) := own'
    have file : disk.file cwd (change row).path = disk.file cwd (change other).path := file
    rw [(same row).1] at own
    rw [(same other).1] at own'
    rw [(same row).2.1, (same other).2.1] at file
    rw [kept.apart row listed other listed' own own' file]
  · obtain ⟨row, listed, rfl⟩ := List.mem_map.mp member
    have own : shelved (change row) := own
    rw [(same row).1] at own
    have path : (change row).path = row.path := (same row).2.1
    exact path ▸ kept.present row listed own
  · obtain ⟨row, listed, rfl⟩ := List.mem_map.mp member
    have success : (change row).success := success
    rw [(same row).2.2] at success
    have path : (change row).path = row.path := (same row).2.1
    exact path ▸ kept.absolute row listed success

/-- A disk without links. -/
def plainDisk : FileSystem where
  resolve := id
  resolve_resolve _ := rfl
  resolve_absolute := id

/-- Texts of the first seconds of 1970, and the default file name. -/
def firstSeconds : Texts where
  strftime format now :=
    if format = "%Y-%m-%d" then "1970-01-01"
    else if now = 0 then "1970-01-01_00-00-00" else "1970-01-01_00-00-01"
  format _ backupPrefix instanceName timestamp :=
    some (backupPrefix ++ "_" ++ instanceName ++ "_" ++ timestamp ++ ".xml")

def edge : Instance where
  id := 1
  name := "edge"
  subfolder := none
  backupPrefix := "daily"
  compress := false

def noBackups : State Blob Blob where
  settings :=
    { filenameFormat := "\x7bprefix\x7d_\x7binstance_name\x7d_\x7btimestamp\x7d.xml"
      timestampFormat := "%Y-%m-%d_%H-%M-%S"
      directory := "/backups" }
  instances := .empty
  world := emptyWorld

/-- A backup in the clear, and the retention that keeps the first two. -/
def daily (startedAt : Nat) : BackupRun Blob Unit :=
  { nightly with
    backupEncrypt := false
    startedAt
    prune := ⟨1, [1, 2], none, fun _ => false, fun _ => false⟩ }

def onceEdge : State Blob Blob :=
  perform showing plainDisk firstSeconds "/app" "/app" noBackups (.createInstance edge)

def backedUp (state : State Blob Blob) (now : Nat) : State Blob Blob :=
  perform showing plainDisk firstSeconds "/app" "/app" state (.backup (daily now) now false)

def coarse : State Blob Blob :=
  perform showing plainDisk firstSeconds "/app" "/app" onceEdge
    (.putBackup ⟨none, some "%Y-%m-%d", none⟩)

end PfsenseBackups.Shelf

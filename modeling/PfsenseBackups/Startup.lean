import PfsenseBackups.ReplicationForms
import PfsenseBackups.RunOverrides
import Mathlib.Logic.Function.Basic

/-! `init_db`: any number of processes boot on one database and may be killed at any point, while
those that have booted save settings. -/

namespace PfsenseBackups.Startup
open InstanceForms ReplicationForms

/-! ### The rows of settings -/

inductive Setting where
  | backup | logging | replication
  deriving DecidableEq

structure BackupSettings where
  filenameFormat : String
  timestampFormat : String
  directory : String
  defaultTimezone : String
  backupAllMaxWorkers : Int

structure LoggingSettings where
  level : String
  format : String

structure BackupSettingsUpdate where
  filenameFormat : Option String
  timestampFormat : Option String
  directory : Option String
  defaultTimezone : Option String
  backupAllMaxWorkers : Option Int

structure LoggingSettingsUpdate where
  level : Option String
  format : Option String

def Setting.Row (Ct : Type) : Setting → Type
  | .backup => BackupSettings
  | .logging => LoggingSettings
  | .replication => ReplicationSettings Ct

def Setting.Update : Setting → Type
  | .backup => BackupSettingsUpdate
  | .logging => LoggingSettingsUpdate
  | .replication => ReplicationSettingsUpdate

/-- The row that the columns' defaults make when it is inserted. -/
def Setting.defaults {Ct : Type} : (setting : Setting) → setting.Row Ct
  | .backup => {
      filenameFormat := "\x7bprefix\x7d_\x7binstance_name\x7d_\x7btimestamp\x7d.xml"
      timestampFormat := "%Y-%m-%d_%H-%M-%S"
      directory := "/backups"
      defaultTimezone := "UTC"
      backupAllMaxWorkers := 4 : BackupSettings }
  | .logging => {
      level := "INFO"
      format := "%(asctime)s - %(levelname)s - %(message)s" : LoggingSettings }
  | .replication => (ReplicationForms.defaults : ReplicationSettings Ct)

/-- What the worker takes of the row. -/
def BackupSettings.folder (settings : BackupSettings) : RunOverrides.BackupSettings where
  directory := settings.directory
  filenameFormat := settings.filenameFormat
  timestampFormat := settings.timestampFormat

/-! ### The handlers -/

section Handlers

variable {Salt Ct : Type} (crypto : Crypto Salt Ct) (knowsZone : String → Bool)

def BackupSettings.set (row : BackupSettings) (payload : BackupSettingsUpdate) :
    BackupSettings where
  filenameFormat := payload.filenameFormat.getD row.filenameFormat
  timestampFormat := payload.timestampFormat.getD row.timestampFormat
  directory := payload.directory.getD row.directory
  defaultTimezone := payload.defaultTimezone.getD row.defaultTimezone
  backupAllMaxWorkers := payload.backupAllMaxWorkers.getD row.backupAllMaxWorkers

def LoggingSettings.set (row : LoggingSettings) (payload : LoggingSettingsUpdate) :
    LoggingSettings where
  level := payload.level.getD row.level
  format := payload.format.getD row.format

/-- `put_backup`, `put_logging` and `put_replication`, up to the commit: the row that is in the
session, unless the request is refused. A row that is not found is made with the defaults. -/
def put (env : Surroundings Salt) : (setting : Setting) → Option (setting.Row Ct) →
    setting.Update → Option (setting.Row Ct)
  | .backup, found, payload =>
    if payload.defaultTimezone.all knowsZone then
      some (BackupSettings.set (found.getD (Setting.defaults .backup)) payload)
    else none
  | .logging, found, payload =>
    some (LoggingSettings.set (found.getD (Setting.defaults .logging)) payload)
  | .replication, found, payload => (putReplication crypto env found payload).2.toOption

/-- A column of an `UPDATE`: one that the session has as it was loaded is not written. -/
def column {Value : Type} [DecidableEq Value] (found new current : Value) : Value :=
  if new = found then current else new

/-- What the commit of a session makes of the row that is there. -/
def merge [DecidableEq Ct] : (setting : Setting) → (found new current : setting.Row Ct) →
    setting.Row Ct
  | .backup, found, new, current => {
      filenameFormat := column (BackupSettings.filenameFormat found) new.filenameFormat
        current.filenameFormat
      timestampFormat := column found.timestampFormat new.timestampFormat current.timestampFormat
      directory := column found.directory new.directory current.directory
      defaultTimezone := column found.defaultTimezone new.defaultTimezone current.defaultTimezone
      backupAllMaxWorkers := column found.backupAllMaxWorkers new.backupAllMaxWorkers
        current.backupAllMaxWorkers : BackupSettings }
  | .logging, found, new, current => {
      level := column (LoggingSettings.level found) new.level current.level
      format := column found.format new.format current.format : LoggingSettings }
  | .replication, found, new, current => {
      plain := fun name => column (ReplicationSettings.plain found name) (new.plain name)
        (current.plain name)
      secret := fun name => column (found.secret name) (new.secret name) (current.secret name) :
        ReplicationSettings Ct }

end Handlers

/-! ### The processes -/

/-- Where a process is in `init_db`. -/
inductive Phase where
  /-- Not started, or at its end. -/
  | outside
  /-- It has opened the file and waits for the lock. -/
  | waiting
  /-- It has the lock, and runs the migrations next. -/
  | locked
  /-- `seed_singletons`: the rows that it has yet to look for, and those that it misses. -/
  | seeding (left missing : List Setting)
  /-- What it missed is committed. -/
  | seeded
  | booted

/-- The process has the lock. -/
def Phase.inside : Phase → Bool
  | .locked | .seeding _ _ | .seeded => true
  | _ => false

/-- The process has seen the migrations through. -/
def Phase.migrated : Phase → Bool
  | .seeding _ _ | .seeded | .booted => true
  | _ => false

/-- The process has seeded. -/
def Phase.settled : Phase → Bool
  | .seeded | .booted => true
  | _ => false

/-- A request with its session: the row that it has loaded, and the row as it leaves it. -/
structure Save (Ct : Type) where
  process : Nat
  setting : Setting
  found : Option (setting.Row Ct)
  row : setting.Row Ct

structure State (Ct : Type) where
  phase : Nat → Phase
  /-- The process that has the lock of the file. -/
  lock : Option Nat
  /-- The tables are there. -/
  head : Bool
  rows : (setting : Setting) → Option (setting.Row Ct)
  requests : Nat → Option (Save Ct)
  /-- How often a statement found no table, a row that it inserts or none that it updates. -/
  faults : Nat
  /-- What was saved, in the order of the commits: the rows as loaded and as left. -/
  saves : (setting : Setting) → List (setting.Row Ct × setting.Row Ct)

/-- A new deployment. -/
def fresh {Ct : Type} : State Ct where
  phase := fun _ => .outside
  lock := none
  head := false
  rows := fun _ => none
  requests := fun _ => none
  faults := 0
  saves := fun _ => []

inductive Op (Salt : Type) where
  | start (process : Nat)
  | acquire (process : Nat)
  /-- `run_migrations` is through, or it raises. -/
  | migrate (process : Nat) (through : Bool)
  /-- `_singleton_missing`, of the next row. -/
  | look (process : Nat)
  /-- The end of `seed_singletons`, where the database may be busy. -/
  | commit (process : Nat) (busy : Bool)
  | release (process : Nat)
  /-- The process ends, by itself or not. -/
  | kill (process : Nat)
  | get (request process : Nat) (setting : Setting) (env : Surroundings Salt)
      (payload : setting.Update)
  | save (request : Nat)
  /-- A request ends without its commit. -/
  | drop (request : Nat)

section System

variable {Salt Ct : Type}

/-- The order of the looks. -/
def singletons : List Setting :=
  [.backup, .logging, .replication]

theorem mem_singletons (setting : Setting) : setting ∈ singletons := by
  cases setting <;> decide

def State.move (state : State Ct) (process : Nat) (next : Phase) (lock : Option Nat) : State Ct :=
  { state with
    phase := Function.update state.phase process next
    lock := lock }

/-- The sessions of a process go with it. -/
def State.cancel (state : State Ct) (process : Nat) : State Ct :=
  { state with
    requests := fun request => (state.requests request).filter fun save => save.process ≠ process }

/-- A lock goes with the descriptor of its process. -/
def State.leave (state : State Ct) (process : Nat) : State Ct :=
  (state.cancel process).move process .outside
    (if state.lock = some process then none else state.lock)

def State.fault (state : State Ct) : State Ct :=
  { state with faults := state.faults + 1 }

def State.close (state : State Ct) (request : Nat) : State Ct :=
  { state with requests := Function.update state.requests request none }

/-- The inserts of a seed. -/
def seed (rows : (setting : Setting) → Option (setting.Row Ct)) (missing : List Setting)
    (setting : Setting) : Option (setting.Row Ct) :=
  if setting ∈ missing then some setting.defaults else rows setting

theorem seed_rows {rows : (setting : Setting) → Option (setting.Row Ct)} {setting : Setting}
    (there : rows setting ≠ none) (missing : List Setting) : seed rows missing setting ≠ none := by
  unfold seed
  split
  · exact Option.some_ne_none _
  · exact there

variable [DecidableEq Ct] (crypto : Crypto Salt Ct) (knowsZone : String → Bool)

/-- The commit of a request: an `UPDATE`, or an `INSERT` where no row was found. -/
def commitSave (state : State Ct) (save : Save Ct) : State Ct :=
  match save.found, state.rows save.setting with
  | some found, some current =>
    { state with
      rows := Function.update state.rows save.setting
        (some (merge save.setting found save.row current))
      saves := Function.update state.saves save.setting
        (state.saves save.setting ++ [(found, save.row)]) }
  | none, none => { state with rows := Function.update state.rows save.setting (some save.row) }
  | _, _ => state.fault

/-- What is not possible in a state leaves it as it is. -/
def step (state : State Ct) : Op Salt → State Ct
  | .start process =>
    match state.phase process with
    | .outside => state.move process .waiting state.lock
    | _ => state
  | .acquire process =>
    match state.phase process, state.lock with
    | .waiting, none => state.move process .locked (some process)
    | _, _ => state
  | .migrate process through =>
    match state.phase process with
    | .locked =>
      if through then
        { state.move process (.seeding singletons []) state.lock with head := true }
      else state.leave process
    | _ => state
  | .look process =>
    match state.phase process with
    | .seeding (setting :: left) missing =>
      if !state.head then (state.leave process).fault
      else if (state.rows setting).isNone then
        state.move process (.seeding left (missing ++ [setting])) state.lock
      else state.move process (.seeding left missing) state.lock
    | _ => state
  | .commit process busy =>
    match state.phase process with
    | .seeding [] missing =>
      if busy then state.leave process
      else if missing.any fun setting => (state.rows setting).isSome then
        (state.leave process).fault
      else { state.move process .seeded state.lock with rows := seed state.rows missing }
    | _ => state
  | .release process =>
    match state.phase process with
    | .seeded => state.move process .booted none
    | _ => state
  | .kill process => state.leave process
  | .get request process setting env payload =>
    match state.phase process, state.requests request with
    | .booted, none =>
      if !state.head then state.fault
      else
        match put crypto knowsZone env setting (state.rows setting) payload with
        | none => state
        | some row =>
          { state with
            requests := Function.update state.requests request
              (some ⟨process, setting, state.rows setting, row⟩) }
    | _, _ => state
  | .save request =>
    match state.requests request with
    | none => state
    | some save => (commitSave state save).close request
  | .drop request => state.close request

def run (state : State Ct) (ops : List (Op Salt)) : State Ct :=
  ops.foldl (step crypto knowsZone) state

/-! ### What holds in every run -/

/-- The row that the saves make, one after another, of the defaults. -/
def saved (setting : Setting) (saves : List (setting.Row Ct × setting.Row Ct)) : setting.Row Ct :=
  saves.foldl (fun current save => merge setting save.1 save.2 current) setting.defaults

/-- A process that boots alone. -/
def boot (process : Nat) : List (Op Salt) :=
  [.acquire process, .migrate process true, .look process, .look process, .look process,
    .commit process false, .release process]

structure Inv (state : State Ct) : Prop where
  /-- The lock is with the process that is in the locked part, and with no other. -/
  locked : ∀ process, state.lock = some process ↔ (state.phase process).inside = true
  head : ∀ process, (state.phase process).migrated = true → state.head = true
  /-- What a seed misses is missing until it commits. -/
  missing : ∀ process left missing, state.phase process = .seeding left missing →
    ∀ setting, (setting ∈ missing → state.rows setting = none) ∧
      (state.rows setting = none → setting ∈ left ∨ setting ∈ missing)
  settled : ∀ process, (state.phase process).settled = true →
    ∀ setting, state.rows setting ≠ none
  found : ∀ request save, state.requests request = some save →
    state.phase save.process = .booted ∧ save.found ≠ none
  kept : ∀ setting, state.rows setting = none ∧ state.saves setting = [] ∨
    state.rows setting = some (saved setting (state.saves setting))
  sound : state.faults = 0

section Steps

variable {state : State Ct} {process : Nat}

theorem Inv.fresh : Inv (fresh : State Ct) where
  locked := fun _ => by simp [Startup.fresh, Phase.inside]
  head := fun _ migrated => by simp [Startup.fresh, Phase.migrated] at migrated
  missing := fun _ _ _ seeding => by simp [Startup.fresh] at seeding
  settled := fun _ settled => by simp [Startup.fresh, Phase.settled] at settled
  found := fun _ _ request => by simp [Startup.fresh] at request
  kept := fun _ => .inl ⟨rfl, rfl⟩
  sound := rfl

/-- At most one process is in the locked part. -/
theorem Inv.alone (inv : Inv state) {other : Nat} (inside : (state.phase process).inside = true)
    (inside' : (state.phase other).inside = true) : process = other :=
  Option.some.inj (((inv.locked process).mpr inside).symm.trans ((inv.locked other).mpr inside'))

theorem Inv.requests (inv : Inv state) {requests : Nat → Option (Save Ct)}
    (fewer : ∀ request save, requests request = some save → state.requests request = some save) :
    Inv { state with requests := requests } where
  locked := inv.locked
  head := inv.head
  missing := inv.missing
  settled := inv.settled
  found := fun request save pending => inv.found request save (fewer request save pending)
  kept := inv.kept
  sound := inv.sound

/-- A process that has no requests moves. -/
theorem Inv.move (inv : Inv state) {next : Phase} {lock : Option Nat}
    (idle : ∀ request save, state.requests request = some save → save.process ≠ process)
    (locked : lock = some process ↔ next.inside = true)
    (others : ∀ other, other ≠ process → (lock = some other ↔ state.lock = some other))
    (head : next.migrated = true → state.head = true)
    (missing : ∀ left missing, next = .seeding left missing →
      ∀ setting, (setting ∈ missing → state.rows setting = none) ∧
        (state.rows setting = none → setting ∈ left ∨ setting ∈ missing))
    (settled : next.settled = true → ∀ setting, state.rows setting ≠ none) :
    Inv (state.move process next lock) where
  locked := fun other => by
    by_cases same : other = process
    · subst same
      simpa [State.move] using locked
    · simpa [State.move, same] using (others other same).trans (inv.locked other)
  head := fun other migrated => by
    by_cases same : other = process
    · subst same
      exact head (by simpa [State.move] using migrated)
    · exact inv.head other (by simpa [State.move, same] using migrated)
  missing := fun other left absent seeding => by
    by_cases same : other = process
    · subst same
      exact missing left absent (by simpa [State.move] using seeding)
    · exact inv.missing other left absent (by simpa [State.move, same] using seeding)
  settled := fun other done => by
    by_cases same : other = process
    · subst same
      exact settled (by simpa [State.move] using done)
    · exact inv.settled other (by simpa [State.move, same] using done)
  found := fun request save pending => by
    obtain ⟨booted, found⟩ := inv.found request save pending
    exact ⟨by simpa [State.move, idle request save pending] using booted, found⟩
  kept := inv.kept
  sound := inv.sound

/-- A process that has not booted has no requests. -/
theorem Inv.idle (inv : Inv state) (early : state.phase process ≠ .booted) (request : Nat)
    (save : Save Ct) (pending : state.requests request = some save) : save.process ≠ process :=
  fun same => early (same ▸ (inv.found request save pending).1)

theorem Inv.cancel (inv : Inv state) (process : Nat) : Inv (state.cancel process) :=
  inv.requests fun _ _ pending => (Option.filter_eq_some_iff.mp pending).1

theorem Inv.leave (inv : Inv state) : Inv (state.leave process) := by
  refine (inv.cancel process).move ?_ ?_ ?_ nofun nofun nofun
  · intro request save pending
    simpa using (Option.filter_eq_some_iff.mp pending).2
  · simp only [Phase.inside, Bool.false_eq_true, iff_false]
    split
    · exact nofun
    · assumption
  · intro other apart
    split
    · next held => simp [State.cancel, held, apart.symm]
    · rfl

theorem Inv.close (inv : Inv state) (request : Nat) : Inv (state.close request) := by
  apply inv.requests
  intro other save pending
  by_cases same : other = request
  · subst same
    simp at pending
  · rwa [Function.update_of_ne same] at pending

theorem Inv.acquire (inv : Inv state) (waiting : state.phase process = .waiting)
    (free : state.lock = none) : Inv (state.move process .locked (some process)) := by
  have none_inside : ∀ other, other ≠ process →
      (some process = some other ↔ state.lock = some other) := fun other apart => by
    simp [free, apart.symm]
  exact inv.move (inv.idle (by simp [waiting])) (by simp [Phase.inside]) none_inside nofun nofun
    nofun

theorem Inv.start (inv : Inv state) (outside : state.phase process = .outside) :
    Inv (state.move process .waiting state.lock) := by
  refine inv.move (inv.idle (by simp [outside])) ?_ (fun _ _ => Iff.rfl) nofun nofun nofun
  rw [inv.locked, outside]
  rfl

theorem Inv.seeding (inv : Inv state) (inside : (state.phase process).inside = true)
    (head : state.head = true) {left missing : List Setting}
    (absent : ∀ setting, (setting ∈ missing → state.rows setting = none) ∧
      (state.rows setting = none → setting ∈ left ∨ setting ∈ missing)) :
    Inv (state.move process (.seeding left missing) state.lock) := by
  have early : state.phase process ≠ .booted := by
    intro booted
    rw [booted] at inside
    cases inside
  refine inv.move (inv.idle early) ?_ (fun _ _ => Iff.rfl) (fun _ => head) ?_ nofun
  · exact iff_of_true ((inv.locked process).mpr inside) rfl
  · intro left' missing' same
    cases same
    exact absent

theorem Inv.migrate (inv : Inv state) (locked : state.phase process = .locked) :
    Inv { state.move process (.seeding singletons []) state.lock with head := true } := by
  have migrated : Inv { state with head := true } := {
    locked := inv.locked
    head := fun _ _ => rfl
    missing := inv.missing
    settled := inv.settled
    found := inv.found
    kept := inv.kept
    sound := inv.sound }
  exact migrated.seeding (by simp [locked, Phase.inside]) rfl
    fun setting => ⟨nofun, fun _ => .inl (mem_singletons setting)⟩

/-- A look keeps what the seed knows. -/
theorem Inv.looked (inv : Inv state) {setting : Setting} {left missing : List Setting}
    (seeding : state.phase process = .seeding (setting :: left) missing) (other : Setting) :
    (state.rows setting = none →
      (other ∈ missing ++ [setting] → state.rows other = none) ∧
        (state.rows other = none → other ∈ left ∨ other ∈ missing ++ [setting])) ∧
    (state.rows setting ≠ none →
      (other ∈ missing → state.rows other = none) ∧
        (state.rows other = none → other ∈ left ∨ other ∈ missing)) := by
  obtain ⟨absent, covered⟩ := inv.missing process _ missing seeding other
  refine ⟨fun missed => ⟨fun member => ?_, fun gone => ?_⟩, fun there => ⟨absent, fun gone => ?_⟩⟩
  · rcases List.mem_append.mp member with earlier | last
    · exact absent earlier
    · rwa [List.mem_singleton.mp last]
  · rcases covered gone with ahead | earlier
    · rcases List.mem_cons.mp ahead with rfl | later
      · exact .inr (by simp)
      · exact .inl later
    · exact .inr (List.mem_append_left _ earlier)
  · rcases covered gone with ahead | earlier
    · rcases List.mem_cons.mp ahead with rfl | later
      · exact (there gone).elim
      · exact .inl later
    · exact .inr earlier

/-- The inserts of a seed meet no row. -/
theorem Inv.unclashed (inv : Inv state) {missing : List Setting}
    (seeding : state.phase process = .seeding [] missing) :
    (missing.any fun setting => (state.rows setting).isSome) = false := by
  rw [List.any_eq_false]
  intro setting member
  rw [(inv.missing process [] missing seeding setting).1 member]
  exact Bool.false_ne_true

/-- A seed leaves no row out. -/
theorem Inv.filled (inv : Inv state) {missing : List Setting}
    (seeding : state.phase process = .seeding [] missing) (setting : Setting) :
    seed state.rows missing setting ≠ none := by
  unfold seed
  split
  · exact Option.some_ne_none _
  · next kept =>
    intro gone
    exact ((inv.missing process [] missing seeding setting).2 gone).elim List.not_mem_nil kept

/-- What a seed inserts was never saved. -/
theorem Inv.seeded (inv : Inv state) {missing : List Setting}
    (seeding : state.phase process = .seeding [] missing) (setting : Setting) :
    seed state.rows missing setting = none ∧ state.saves setting = [] ∨
      seed state.rows missing setting = some (saved setting (state.saves setting)) := by
  by_cases missed : setting ∈ missing
  · have gone := (inv.missing process [] missing seeding setting).1 missed
    rcases inv.kept setting with ⟨-, unsaved⟩ | there
    · right
      rw [unsaved, seed, if_pos missed]
      rfl
    · rw [gone] at there
      cases there
  · rw [seed, if_neg missed]
    exact inv.kept setting

theorem Inv.commit (inv : Inv state) {missing : List Setting}
    (seeding : state.phase process = .seeding [] missing) :
    Inv { state.move process .seeded state.lock with rows := seed state.rows missing } := by
  have inside : (state.phase process).inside = true := by rw [seeding]; rfl
  have phase_self : (state.move process .seeded state.lock).phase process = .seeded :=
    Function.update_self _ _ _
  have phase_other : ∀ other, other ≠ process →
      (state.move process .seeded state.lock).phase other = state.phase other :=
    fun other apart => Function.update_of_ne apart _ _
  refine ⟨fun other => ?_, fun other migrated => ?_, fun other left missing' seeding' => ?_,
    fun _ _ => inv.filled seeding, fun request save pending => ?_, inv.seeded seeding, inv.sound⟩
  · by_cases same : other = process
    · subst same
      exact iff_of_true ((inv.locked other).mpr inside) (congrArg Phase.inside phase_self)
    · exact (inv.locked other).trans (by rw [phase_other other same])
  · exact inv.head process (by rw [seeding]; rfl)
  · have same : other = process := by
      by_contra apart
      have seeds : state.phase other = .seeding left missing' :=
        (phase_other other apart).symm.trans seeding'
      exact apart (inv.alone (by rw [seeds]; rfl) inside)
    rw [same] at seeding'
    cases phase_self.symm.trans seeding'
  · obtain ⟨booted, found⟩ := inv.found request save pending
    have apart : save.process ≠ process := fun same => by
      rw [same, seeding] at booted
      cases booted
    exact ⟨(phase_other _ apart).trans booted, found⟩

theorem Inv.release (inv : Inv state) (seeded : state.phase process = .seeded) :
    Inv (state.move process .booted none) := by
  have held : state.lock = some process := (inv.locked process).mpr (by rw [seeded]; rfl)
  refine inv.move (inv.idle (by simp [seeded])) (by simp [Phase.inside]) ?_
    (fun _ => inv.head process (by rw [seeded]; rfl)) nofun
    (fun _ => inv.settled process (by rw [seeded]; rfl))
  intro other apart
  simp [held, apart.symm]

theorem Inv.get (inv : Inv state) (request : Nat) {save : Save Ct}
    (booted : state.phase save.process = .booted) (found : save.found ≠ none) :
    Inv { state with requests := Function.update state.requests request (some save) } where
  locked := inv.locked
  head := inv.head
  missing := inv.missing
  settled := inv.settled
  found := fun other pending held => by
    change Function.update state.requests request (some save) other = some pending at held
    by_cases same : other = request
    · subst same
      rw [Function.update_self] at held
      cases held
      exact ⟨booted, found⟩
    · rw [Function.update_of_ne same] at held
      exact inv.found other pending held
  kept := inv.kept
  sound := inv.sound

/-- A request updates the row that it has found. -/
theorem Inv.commitSave (inv : Inv state) {request : Nat} {save : Save Ct}
    (pending : state.requests request = some save) : Inv (commitSave state save) := by
  obtain ⟨booted, found⟩ := inv.found request save pending
  obtain ⟨loaded, found⟩ := Option.ne_none_iff_exists'.mp found
  obtain ⟨current, there⟩ := Option.ne_none_iff_exists'.mp
    (inv.settled save.process (by rw [booted]; rfl) save.setting)
  have updated : Startup.commitSave state save = { state with
      rows := Function.update state.rows save.setting
        (some (merge save.setting loaded save.row current))
      saves := Function.update state.saves save.setting
        (state.saves save.setting ++ [(loaded, save.row)]) } := by
    simp only [Startup.commitSave, found, there]
  have none_iff : ∀ setting, Function.update state.rows save.setting
      (some (merge save.setting loaded save.row current)) setting = none ↔
        state.rows setting = none := by
    intro setting
    by_cases same : setting = save.setting
    · subst same
      simp [there]
    · rw [Function.update_of_ne same]
  rw [updated]
  refine ⟨inv.locked, inv.head, fun other left missing seeding setting => ?_,
    fun other done setting => ?_, inv.found, fun setting => ?_, inv.sound⟩
  · simpa only [none_iff] using inv.missing other left missing seeding setting
  · simpa only [ne_eq, none_iff] using inv.settled other done setting
  · by_cases same : setting = save.setting
    · subst same
      right
      have kept : current = saved save.setting (state.saves save.setting) := by
        rcases inv.kept save.setting with ⟨gone, -⟩ | kept
        · rw [there] at gone
          cases gone
        · exact Option.some.inj (there.symm.trans kept)
      simp [saved, kept]
    · simpa only [Function.update_of_ne same] using inv.kept setting

end Steps

theorem inv_step {state : State Ct} (inv : Inv state) (op : Op Salt) :
    Inv (step crypto knowsZone state op) := by
  cases op with
  | start process =>
    rw [step]
    split
    · next outside => exact inv.start outside
    · exact inv
  | acquire process =>
    rw [step]
    split
    · next waiting free => exact inv.acquire waiting free
    · exact inv
  | migrate process through =>
    rw [step]
    split
    · next locked =>
      split
      · exact inv.migrate locked
      · exact inv.leave
    · exact inv
  | look process =>
    rw [step]
    split
    · next setting left missing seeding =>
      have head : state.head = true := inv.head process (by rw [seeding]; rfl)
      have inside : (state.phase process).inside = true := by rw [seeding]; rfl
      rw [if_neg (by simp [head])]
      split
      · next missed =>
        exact inv.seeding inside head fun other =>
          (inv.looked seeding other).1 (Option.isNone_iff_eq_none.mp missed)
      · next there =>
        exact inv.seeding inside head fun other =>
          (inv.looked seeding other).2 fun gone => there (Option.isNone_iff_eq_none.mpr gone)
    · exact inv
  | commit process busy =>
    rw [step]
    split
    · next missing seeding =>
      split
      · exact inv.leave
      · rw [if_neg (by simp [inv.unclashed seeding])]
        exact inv.commit seeding
    · exact inv
  | release process =>
    rw [step]
    split
    · next seeded => exact inv.release seeded
    · exact inv
  | kill process => exact inv.leave
  | get request process setting env payload =>
    rw [step]
    split
    · next booted _ =>
      rw [if_neg (by simp [inv.head process (by rw [booted]; rfl)])]
      split
      · exact inv
      · exact inv.get request booted (inv.settled process (by rw [booted]; rfl) setting)
    · exact inv
  | save request =>
    rw [step]
    split
    · exact inv
    · next save pending => exact (inv.commitSave pending).close request
  | drop request => exact inv.close request

theorem inv_run {state : State Ct} (inv : Inv state) (ops : List (Op Salt)) :
    Inv (run crypto knowsZone state ops) := by
  induction ops generalizing state with
  | nil => exact inv
  | cons op ops ih => exact ih (inv_step crypto knowsZone inv op)

/-! ### A boot that is alone -/

section Boot

variable {state : State Ct} {process : Nat}

theorem migrate_phase (locked : state.phase process = .locked) :
    (step crypto knowsZone state (.migrate process true)).phase process =
      .seeding singletons [] := by
  simp [step, locked, State.move]

theorem look_phase (inv : Inv state) {setting : Setting} {left missing : List Setting}
    (seeding : state.phase process = .seeding (setting :: left) missing) :
    ∃ missing', (step crypto knowsZone state (.look process)).phase process =
      .seeding left missing' := by
  have head : state.head = true := inv.head process (by rw [seeding]; rfl)
  cases missed : (state.rows setting).isNone with
  | true => exact ⟨_, by simp [step, seeding, head, missed, State.move]; rfl⟩
  | false => exact ⟨_, by simp [step, seeding, head, missed, State.move]; rfl⟩

theorem boot_phase (inv : Inv state) (waiting : state.phase process = .waiting)
    (free : state.lock = none) :
    (run crypto knowsZone state (boot process)).phase process = .booted := by
  have next : ∀ {state : State Ct}, Inv state → ∀ op, Inv (step crypto knowsZone state op) :=
    fun inv op => inv_step crypto knowsZone inv op
  have locked : (step crypto knowsZone state (.acquire process)).phase process = .locked := by
    simp [step, waiting, free, State.move]
  have seeding := migrate_phase crypto knowsZone locked
  have inv₁ := next (next inv (.acquire process)) (.migrate process true)
  obtain ⟨missing₁, seeding₁⟩ := look_phase crypto knowsZone inv₁ seeding
  have inv₂ := next inv₁ (.look process)
  obtain ⟨missing₂, seeding₂⟩ := look_phase crypto knowsZone inv₂ seeding₁
  have inv₃ := next inv₂ (.look process)
  obtain ⟨missing₃, seeding₃⟩ := look_phase crypto knowsZone inv₃ seeding₂
  have inv₄ := next inv₃ (.look process)
  have unclashed := inv₄.unclashed seeding₃
  rw [run, boot, List.foldl_cons, List.foldl_cons, List.foldl_cons, List.foldl_cons,
    List.foldl_cons, List.foldl_cons, List.foldl_cons, List.foldl_nil]
  generalize step crypto knowsZone (step crypto knowsZone (step crypto knowsZone
    (step crypto knowsZone (step crypto knowsZone state (.acquire process))
      (.migrate process true)) (.look process)) (.look process)) (.look process) = ready at *
  simp [step, seeding₃, unclashed, State.move]

end Boot

/-! ### Every run -/

theorem commitSave_rows {state : State Ct} {setting : Setting} (there : state.rows setting ≠ none)
    (save : Save Ct) : (commitSave state save).rows setting ≠ none := by
  have kept : ∀ row : save.setting.Row Ct,
      Function.update state.rows save.setting (some row) setting ≠ none := by
    intro row
    by_cases same : setting = save.setting
    · subst same
      simp
    · rwa [Function.update_of_ne same]
  unfold commitSave
  split
  · exact kept _
  · exact kept _
  · exact there

theorem step_rows {state : State Ct} {setting : Setting} (there : state.rows setting ≠ none)
    (op : Op Salt) : (step crypto knowsZone state op).rows setting ≠ none := by
  cases op with
  | commit process busy =>
    rw [step]
    split
    · split
      · exact there
      · split
        · exact there
        · exact seed_rows there _
    · exact there
  | save request =>
    rw [step]
    split
    · exact there
    · exact commitSave_rows there _
  | start | acquire | migrate | look | release | get =>
    rw [step]
    repeat' split
    all_goals exact there
  | kill | drop => exact there

theorem run_rows {state : State Ct} {setting : Setting} (there : state.rows setting ≠ none)
    (ops : List (Op Salt)) : (run crypto knowsZone state ops).rows setting ≠ none := by
  induction ops generalizing state with
  | nil => exact there
  | cons op ops ih => exact ih (step_rows crypto knowsZone there op)

/-- What holds in every state that a deployment comes to. -/
structure Started (state : State Ct) : Prop where
  /-- The lock is with the one process between its lock and its release: the end of a process leaves
  no lock behind. -/
  locked : ∀ process, state.lock = some process ↔ (state.phase process).inside = true
  /-- No insert has met a row, no update has missed one and no statement a table. -/
  sound : state.faults = 0
  /-- No request of a handler comes to insert a row. -/
  found : ∀ request save, state.requests request = some save → save.found ≠ none
  /-- All rows are there for a process that has booted. -/
  seeded : ∀ process, state.phase process = .booted → ∀ setting, state.rows setting ≠ none
  /-- A row is what the saves have made of the defaults: no boot and no end of a process changes
  what was saved. -/
  kept : ∀ setting row, state.rows setting = some row → row = saved setting (state.saves setting)
  /-- What is there stays. -/
  stays : ∀ setting, state.rows setting ≠ none → ∀ more : List (Op Salt),
    (run crypto knowsZone state more).rows setting ≠ none
  /-- A process that waits comes up when it gets the free lock and nothing else fails. -/
  boots : ∀ process, state.phase process = .waiting → state.lock = none →
    (run crypto knowsZone state (boot process)).phase process = .booted

theorem run_started (ops : List (Op Salt)) :
    Started crypto knowsZone (run crypto knowsZone (fresh : State Ct) ops) := by
  have inv := inv_run crypto knowsZone Inv.fresh ops
  refine ⟨inv.locked, inv.sound, fun request save pending => ?_, fun process booted => ?_,
    fun setting row there => ?_, fun setting there more => ?_, fun process waiting free => ?_⟩
  · exact (inv.found request save pending).2
  · exact inv.settled process (by rw [booted]; rfl)
  · rcases inv.kept setting with ⟨gone, -⟩ | kept
    · cases gone.symm.trans there
    · exact Option.some.inj (there.symm.trans kept)
  · exact run_rows crypto knowsZone there more
  · exact boot_phase crypto knowsZone inv waiting free

end System

/-! ### The worker -/

section Worker

variable {Salt : Type} (crypto : Crypto Salt String)

theorem decrypted_error {ct text : String}
    (raised : RunOverrides.decrypted crypto ct = .error text) : text = "" := by
  unfold RunOverrides.decrypted at raised
  cases opened : crypto.decrypt ct with
  | none =>
    rw [opened] at raised
    exact (Except.error.inj raised).symm
  | some plain =>
    rw [opened] at raised
    cases raised

theorem decryptedIf_error {ct : Option String} {text : String}
    (raised : RunOverrides.decryptedIf crypto ct = .error text) : text = "" := by
  cases ct with
  | none => cases raised
  | some ct =>
    cases opened : RunOverrides.decrypted crypto ct with
    | error reason =>
      rw [RunOverrides.decryptedIf, opened] at raised
      exact Except.error.inj raised ▸ decrypted_error crypto opened
    | ok plain =>
      rw [RunOverrides.decryptedIf, opened] at raised
      cases raised

theorem error_of_bind {α β : Type} {first : Except String α} {next : α → Except String β}
    {text : String} (raised : (first >>= next) = .error text) :
    first = .error text ∨ ∃ value, next value = .error text := by
  cases first with
  | error reason =>
    cases raised
    exact .inl rfl
  | ok value => exact .inr ⟨value, raised⟩

/-- With the settings there, a snapshot fails only over a ciphertext. -/
theorem snapshot_error {settings : RunOverrides.BackupSettings}
    {row : Option (Instance String)} {overrides : Option IpcCommands.BackupOverrides}
    {text : String}
    (raised : RunOverrides.snapshot crypto (some settings) row overrides = .error text) :
    text = "" := by
  cases row with
  | none => cases raised
  | some row =>
    rcases error_of_bind raised with stored | ⟨_, raised⟩
    · exact decryptedIf_error crypto stored
    rcases error_of_bind raised with sent | ⟨_, raised⟩
    · exact decryptedIf_error crypto sent
    rcases error_of_bind raised with username | ⟨_, raised⟩
    · exact decrypted_error crypto username
    rcases error_of_bind raised with password | ⟨_, raised⟩
    · exact decrypted_error crypto password
    cases raised
/-- A worker that has booted never misses the settings. -/
theorem run_snapshot (knowsZone : String → Bool) (ops : List (Op Salt)) {process : Nat}
    (booted : (run crypto knowsZone fresh ops).phase process = .booted)
    {row : Option (Instance String)} {overrides : Option IpcCommands.BackupOverrides}
    {text : String} (raised : RunOverrides.snapshot crypto
      (((run crypto knowsZone fresh ops).rows .backup).map BackupSettings.folder) row overrides =
        .error text) : text = "" := by
  have inv := inv_run crypto knowsZone Inv.fresh ops
  obtain ⟨settings, there⟩ := Option.ne_none_iff_exists'.mp
    (inv.settled process (by rw [booted]; rfl) .backup)
  rw [there] at raised
  exact snapshot_error crypto raised

end Worker

end PfsenseBackups.Startup

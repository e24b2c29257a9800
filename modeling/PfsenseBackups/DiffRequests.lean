import PfsenseBackups.DiffCache

/-! The requests that recompute stored diffs, next to ingestions, prunes and deletions, at the grain
of their transactions. -/

namespace PfsenseBackups.DiffRequests
open Bases Config Diff DiffConfigs Replication Runs StoredBackups Tables DiffCache

/-! ### Requests and ingestions under way -/

inductive Endpoint where
  | diffSummary | diffVsFirst
  deriving DecidableEq

/-- The kinds of diffs that an endpoint answers with, in the order in which it computes them. -/
def Endpoint.kinds : Endpoint → List DiffKind
  | .diffSummary => [.previous, .first]
  | .diffVsFirst => [.first]

inductive Owner where
  | web (endpoint : Endpoint)
  | worker
  deriving DecidableEq

/-- A computed diff whose key was looked up: whether a row was stored under it. -/
structure Looked (Digest : Type) where
  kind : DiffKind
  base : Backup Digest
  diff : ConfigDiff
  existing : Bool

structure Task (Bytes Digest : Type) where
  owner : Owner
  row : Backup Digest
  /-- The file of the backup, where the worker has read it. -/
  content : Option Bytes
  todo : List (DiffKind × Backup Digest)
  /-- The diff of the first pair to do. -/
  computed : Option ConfigDiff
  looked : List (Looked Digest)
  /-- Whether some diff could be computed when the request came in; no step reads it. -/
  computable : Bool

/-- How a request fails: by a constraint of the database, or with the answer that its diff could not
be computed. -/
inductive Failure where
  | integrityError
  | notComputed (computable : Bool)
  deriving DecidableEq

structure Server (Bytes Digest : Type) where
  store : State Bytes Digest
  tasks : Nat → Option (Task Bytes Digest)
  failures : List Failure

variable {Bytes Digest Salt : Type} (codec : Codec Bytes Digest Salt)
  (parse : Bytes → Option ParsedConfig) (cwd : String)

/-! ### What they do -/

/-- The kinds without a fresh row, each with its base. -/
def staleJobs (state : State Bytes Digest) (row : Backup Digest) (kinds : List DiffKind) :
    List (DiffKind × Backup Digest) :=
  kinds.filterMap fun kind => (findBase state.world.rows row kind).bind fun base =>
    if isFresh (state.diffs row.id kind) (some base) then none else some (kind, base)

/-- A request up to `db.close()`. -/
def requestTask (state : State Bytes Digest) (row : Backup Digest) (endpoint : Endpoint) :
    Task Bytes Digest where
  owner := .web endpoint
  row
  content := none
  todo := staleJobs state row endpoint.kinds
  computed := none
  looked := []
  computable := (staleJobs state row endpoint.kinds).any fun job =>
    (diffOf codec parse state.world resolveBackupPath row job.2).isSome

/-- `_compute_and_persist_diffs` up to its loop. -/
def ingestTask (state : State Bytes Digest) (row : Backup Digest)
    (previous first : Option (Backup Digest)) : Task Bytes Digest where
  owner := .worker
  row
  content := readBackupBytes codec state.world (openedPath cwd row.path) row
  todo := (previous.map fun base => (.previous, base)).toList ++
    (first.map fun base => (.first, base)).toList
  computed := none
  looked := []
  computable := false

/-- The diff with a base, from the files as they are when they are read. -/
def Task.diff (world : World Bytes Digest) (task : Task Bytes Digest) (base : Backup Digest) :
    Option ConfigDiff :=
  match task.owner with
  | .web _ => diffOf codec parse world resolveBackupPath task.row base
  | .worker => do
    let newBytes ← task.content
    let baseBytes ← readBackupBytes codec world (openedPath cwd base.path) base
    EventLog.computeDiff parse newBytes baseBytes

theorem Task.diff_of_web {world : World Bytes Digest} {task : Task Bytes Digest}
    {base : Backup Digest} {endpoint : Endpoint} (web : task.owner = .web endpoint) :
    task.diff codec parse cwd world base =
      diffOf codec parse world resolveBackupPath task.row base := by
  rw [diff, web]

/-- The keys that the database enforces: the backup and its bases are there, and no row is where
none was found. -/
def writable (state : State Bytes Digest) (task : Task Bytes Digest) : Bool :=
  (state.world.rows.get task.row.id).isSome && task.looked.all fun entry =>
    (state.world.rows.get entry.base.id).isSome &&
      (entry.existing || (state.diffs task.row.id entry.kind).isNone)

/-- The rows of a task in place of those under their keys. -/
def storeAll (state : State Bytes Digest) (id : Nat) (looked : List (Looked Digest)) :
    State Bytes Digest :=
  looked.foldl (fun state entry => state.store id entry.kind entry.base.id entry.diff) state

namespace Server

variable (server : Server Bytes Digest)

def put (slot : Nat) (task : Option (Task Bytes Digest)) : Server Bytes Digest :=
  { server with tasks := Function.update server.tasks slot task }

theorem put_tasks (slot other : Nat) (task : Option (Task Bytes Digest)) :
    (server.put slot task).tasks other = if other = slot then task else server.tasks other :=
  Function.update_apply _ _ _ _

/-- A pair that cannot be diffed is passed over, unless it is all that was asked for. -/
def skip (slot : Nat) (task : Task Bytes Digest) (rest : List (DiffKind × Backup Digest)) :
    Server Bytes Digest :=
  if task.owner = .web .diffVsFirst then
    { server.put slot none with failures := .notComputed task.computable :: server.failures }
  else server.put slot (some { task with todo := rest })

/-- What the lookup of a key finds is kept until the write. -/
def look (slot : Nat) (task : Task Bytes Digest) (job : DiffKind × Backup Digest)
    (rest : List (DiffKind × Backup Digest)) (diff : ConfigDiff) : Server Bytes Digest :=
  server.put slot (some
    { task with
      todo := rest
      computed := none
      looked := task.looked ++
        [⟨job.1, job.2, diff, (server.store.diffs task.row.id job.1).isSome⟩] })

/-- `commit`; a failure of the worker's is logged only. -/
def commit (slot : Nat) (task : Task Bytes Digest) : Server Bytes Digest :=
  if writable server.store task then
    { server.put slot (some { task with looked := [] }) with
      store := storeAll server.store task.row.id task.looked }
  else if task.owner = .worker then server.put slot none
  else { server.put slot none with failures := .integrityError :: server.failures }

end Server

/-! ### Runs -/

inductive Op (Bytes Digest : Type) where
  | request (endpoint : Endpoint) (id slot : Nat)
  | ingest (id slot : Nat)
  | read (slot : Nat)
  | look (slot : Nat)
  | commit (slot : Nat)
  | finish (slot : Nat)
  | save (path : String) (content : Bytes)
  | insert (row : Backup Digest)
  | unlink (path : String)
  | drop (doomed : List Nat)

/-- The web writes each diff before it computes the next one, the worker all of them at the end. -/
def Task.mayRead (task : Task Bytes Digest) : Prop :=
  task.computed = none ∧ (task.owner ≠ .worker → task.looked = [])

def Task.mayCommit (task : Task Bytes Digest) : Prop :=
  task.computed = none ∧ task.looked ≠ [] ∧ (task.owner = .worker → task.todo = [])

inductive Step : Server Bytes Digest → Op Bytes Digest → Server Bytes Digest → Prop
  | missing {server endpoint id slot} (gone : server.store.world.rows.get id = none) :
    Step server (.request endpoint id slot) server
  | request {server endpoint id slot row} (vacant : server.tasks slot = none)
      (held : server.store.world.rows.get id = some row) :
    Step server (.request endpoint id slot)
      (server.put slot (some (requestTask codec parse server.store row endpoint)))
  | ingest {server id slot row previous first} (vacant : server.tasks slot = none)
      (held : server.store.world.rows.get id = some row) (success : row.success)
      (bases : ingestionBases server.store.world.rows id row.instanceId = some (previous, first)) :
    Step server (.ingest id slot)
      (server.put slot (some (ingestTask codec cwd server.store row previous first)))
  | read {server slot task job rest diff} (held : server.tasks slot = some task)
      (may : task.mayRead) (next : task.todo = job :: rest)
      (found : task.diff codec parse cwd server.store.world job.2 = some diff) :
    Step server (.read slot) (server.put slot (some { task with computed := some diff }))
  | skip {server slot task job rest} (held : server.tasks slot = some task)
      (may : task.mayRead) (next : task.todo = job :: rest)
      (failed : task.diff codec parse cwd server.store.world job.2 = none) :
    Step server (.read slot) (server.skip slot task rest)
  | look {server slot task job rest diff} (held : server.tasks slot = some task)
      (next : task.todo = job :: rest) (computed : task.computed = some diff) :
    Step server (.look slot) (server.look slot task job rest diff)
  | commit {server slot task} (held : server.tasks slot = some task) (may : task.mayCommit) :
    Step server (.commit slot) (server.commit slot task)
  | finish {server slot task} (held : server.tasks slot = some task) (done : task.todo = [])
      (idle : task.computed = none) (written : task.looked = []) :
    Step server (.finish slot) (server.put slot none)
  | save {server path content} : Step server (.save path content)
      { server with store :=
        { server.store with world := server.store.world.writeFile path content } }
  | insert {server row} (fresh : row.id = server.store.world.rows.nextId) :
    Step server (.insert row)
      { server with store :=
        { server.store with
          world := { server.store.world with rows := server.store.world.rows.insert row }
          saved := Function.update server.store.saved row.id
            (server.store.world.files (resolveBackupPath row.path)) } }
  | unlink {server path} : Step server (.unlink path)
      { server with store := { server.store with world := server.store.world.unlink path } }
  | drop {server doomed rows} (left : cores rows =
        (cores server.store.world.rows).filter fun row => row.id ∉ doomed) :
    Step server (.drop doomed)
      { server with store := server.store.cascade { server.store.world with rows } }

/-! ### What is expected -/

/-- No request failed, but for those whose diff could not be computed when they came in. -/
def NoneFailed (server : Server Bytes Digest) : Prop :=
  ∀ failure ∈ server.failures, failure = .notComputed false

/-- A stored diff with a base has the counts of the diff of what the two backups saved. -/
def CountsRight (state : State Bytes Digest) : Prop :=
  ∀ id kind stored baseId, state.diffs id kind = some stored → stored.baseBackupId = some baseId →
    ∃ row base new old, state.world.rows.get id = some row ∧
      state.world.rows.get baseId = some base ∧
      original codec parse state.saved row = some new ∧
      original codec parse state.saved base = some old ∧
      stored.counts = summariseDiff (diffConfigs old new)

/-! ### Conditions on the operations -/

/-- The bases of the diffs that a task has computed and not yet written. -/
def Task.bases (task : Task Bytes Digest) : List (Backup Digest) :=
  (if task.computed.isSome then task.todo.head?.toList.map Prod.snd else []) ++
    task.looked.map Looked.base

/-- The bases that a task cannot do without: those whose diff it is about to write, and for a
request of a single diff the one that it has still to read. -/
def Task.needs (task : Task Bytes Digest) : List (Backup Digest) :=
  if task.owner = .web .diffVsFirst then task.todo.map Prod.snd ++ task.looked.map Looked.base
  else task.bases

/-- All backups that it cannot do without; the worker has read the new one from the start. -/
def Task.pinned (task : Task Bytes Digest) : List (Backup Digest) :=
  if task.owner = .worker || !task.needs.isEmpty then task.row :: task.needs else []

/-- The backup is in the table as it was looked up. -/
def Listed (rows : Table (Backup Digest) Backup.id) (row : Backup Digest) : Prop :=
  core row ∈ cores rows

/-- No other backup has got its id. -/
def Kept (rows : Table (Backup Digest) Backup.id) (row : Backup Digest) : Prop :=
  ∀ other ∈ cores rows, other.id = row.id → other = core row

/-- What each operation has to meet in the state that it starts from. -/
def Allowed (server : Server Bytes Digest) : Op Bytes Digest → Prop
  | .save path _ => ∀ row ∈ server.store.world.rows.rows, path ≠ resolveBackupPath row.path
  | .insert row =>
    (row.success → openedPath cwd row.path = resolveBackupPath row.path) ∧
    ∀ slot task, server.tasks slot = some task → ∀ needed ∈ task.pinned, needed.id ≠ row.id
  | .unlink path => ∀ slot task, server.tasks slot = some task → task.owner = .web .diffVsFirst →
    task.computed = none → ∀ job ∈ task.todo,
      path ≠ resolveBackupPath task.row.path ∧ path ≠ resolveBackupPath job.2.path
  | .drop doomed => ∀ slot task, server.tasks slot = some task → task.owner ≠ .worker →
    ∀ needed ∈ task.pinned, needed.id ∉ doomed
  | .read slot => ∀ task job rest, server.tasks slot = some task → task.todo = job :: rest →
    (task.diff codec parse cwd server.store.world job.2).isSome →
      if task.owner = .worker then Kept server.store.world.rows job.2
      else Listed server.store.world.rows task.row ∧ Listed server.store.world.rows job.2
  | .commit slot => ∀ task, server.tasks slot = some task → writable server.store task →
    ∀ other, other ≠ slot → ∀ task', server.tasks other = some task' → task'.owner ≠ .worker →
      task'.row.id = task.row.id → ∀ mine ∈ task.looked, ∀ theirs ∈ task'.looked,
        theirs.kind = mine.kind → theirs.existing
  | .request _ _ _ | .ingest _ _ | .look _ | .finish _ => True

/-! ### What holds of a task -/

/-- The diff is that of what the two backups saved, as long as both are there. -/
def Pair (state : State Bytes Digest) (row base : Backup Digest) (diff : ConfigDiff) : Prop :=
  Listed state.world.rows row → Listed state.world.rows base →
    ∃ new old, original codec parse state.saved row = some new ∧
      original codec parse state.saved base = some old ∧ diff = diffConfigs old new

structure Sound (state : State Bytes Digest) (task : Task Bytes Digest) : Prop where
  listed : task.owner ≠ .worker → ∀ needed ∈ task.pinned, Listed state.world.rows needed
  kept : ∀ needed ∈ task.pinned, Kept state.world.rows needed
  content : task.owner = .worker → ∀ bytes, task.content = some bytes →
    Listed state.world.rows task.row →
      (state.saved task.row.id).bind (plainBytes codec task.row) = some bytes
  opened : task.owner = .worker → ∀ job ∈ task.todo,
    openedPath cwd job.2.path = resolveBackupPath job.2.path
  computed : ∀ diff, task.computed = some diff → ∀ job ∈ task.todo.head?,
    Pair codec parse state task.row job.2 diff
  looked : ∀ entry ∈ task.looked, Pair codec parse state task.row entry.base entry.diff
  vacant : task.owner ≠ .worker → ∀ entry ∈ task.looked, entry.existing = false →
    state.diffs task.row.id entry.kind = none
  one : task.owner = .web .diffVsFirst → task.todo.length ≤ 1
  single : task.owner = .web .diffVsFirst → task.computed = none → ∀ job ∈ task.todo,
    (diffOf codec parse state.world resolveBackupPath task.row job.2).isSome = task.computable

structure Inv (server : Server Bytes Digest) : Prop where
  unchanged : ∀ row ∈ cores server.store.world.rows, ∀ raw,
    server.store.world.files (resolveBackupPath row.path) = some raw →
      server.store.saved row.id = some raw
  opened : ∀ row ∈ cores server.store.world.rows, row.success →
    openedPath cwd row.path = resolveBackupPath row.path
  present : ∀ id kind stored, server.store.diffs id kind = some stored →
    ∃ row ∈ cores server.store.world.rows, row.id = id
  stored : ∀ row ∈ cores server.store.world.rows, ∀ kind stored,
    server.store.diffs row.id kind = some stored → ∀ baseId, stored.baseBackupId = some baseId →
      ∃ base ∈ cores server.store.world.rows, base.id = baseId ∧ ∃ new old,
        original codec parse server.store.saved row = some new ∧
        original codec parse server.store.saved base = some old ∧
        stored.counts = summariseDiff (diffConfigs old new)
  tasks : ∀ slot task, server.tasks slot = some task → Sound codec parse cwd server.store task
  safe : NoneFailed server

section Rows

variable {rows : Table (Backup Digest) Backup.id} {row : Backup Digest}

theorem cores_unique {other : Backup Digest} (member : other ∈ cores rows)
    (member' : row ∈ cores rows) (same : other.id = row.id) : other = row := by
  have ⟨source, listed, eq⟩ := List.mem_map.mp member'
  have sameId : other.id = source.id := same.trans (congrArg Backup.id eq).symm
  exact (core_eq_of_id listed member sameId).trans eq

theorem Listed.kept (listed : Listed rows row) : Kept rows row := by
  intro other member same
  exact cores_unique member listed same

theorem Listed.isSome (listed : Listed rows row) : (rows.get row.id).isSome :=
  exists_core.mpr ⟨core row, listed, rfl⟩

/-- A kept backup is listed where its id is. -/
theorem Kept.listed (kept : Kept rows row) (there : (rows.get row.id).isSome) :
    Listed rows row := by
  have ⟨other, member, same⟩ := exists_core.mp there
  rw [Listed, ← kept other member same]
  exact member

theorem listed_of_mem (member : row ∈ rows.rows) : Listed rows row :=
  List.mem_map_of_mem member

end Rows

section Tasks

variable {task : Task Bytes Digest}

theorem Task.mem_pinned {needed : Backup Digest} : needed ∈ task.pinned ↔
    needed ∈ task.needs ∨ needed = task.row ∧ (task.owner = .worker ∨ task.needs ≠ []) := by
  rw [pinned]
  split
  case isTrue busy =>
    have some_ : task.owner = .worker ∨ task.needs ≠ [] := by simpa using busy
    rw [List.mem_cons]
    tauto
  case isFalse done =>
    have ⟨web, empty⟩ : task.owner ≠ .worker ∧ task.needs = [] := by simpa using done
    simp [web, empty]

theorem Task.needs_pinned {needed : Backup Digest} (member : needed ∈ task.needs) :
    needed ∈ task.pinned ∧ task.row ∈ task.pinned :=
  ⟨mem_pinned.mpr (.inl member),
    mem_pinned.mpr (.inr ⟨rfl, .inr (List.ne_nil_of_mem member)⟩)⟩

theorem Task.bases_pinned {needed : Backup Digest} (member : needed ∈ task.bases) :
    needed ∈ task.pinned ∧ task.row ∈ task.pinned := by
  apply needs_pinned
  rw [needs]
  split
  · rcases List.mem_append.mp member with computed | looked
    · split at computed
      · have ⟨job, head, same⟩ := List.mem_map.mp computed
        have first := List.mem_of_mem_head? (Option.mem_toList.mp head)
        exact List.mem_append_left _ (List.mem_map.mpr ⟨job, first, same⟩)
      · cases computed
    · exact List.mem_append_right _ looked
  · exact member

theorem Task.computed_base {diff : ConfigDiff} (computed : task.computed = some diff)
    {job : DiffKind × Backup Digest} (head : job ∈ task.todo.head?) : job.2 ∈ task.bases := by
  rw [bases, computed]
  exact List.mem_append_left _ (List.mem_map_of_mem (Option.mem_toList.mpr head))

theorem Task.looked_base {entry : Looked Digest} (member : entry ∈ task.looked) :
    entry.base ∈ task.bases :=
  List.mem_append_right _ (List.mem_map_of_mem member)

theorem Task.worker_pinned (worker : task.owner = .worker) : task.row ∈ task.pinned :=
  mem_pinned.mpr (.inr ⟨rfl, .inl worker⟩)

/-- For a request of a single diff both backups of the diff are pinned until they are read. -/
theorem Task.todo_pinned (only : task.owner = .web .diffVsFirst) {job : DiffKind × Backup Digest}
    (member : job ∈ task.todo) : job.2 ∈ task.pinned ∧ task.row ∈ task.pinned := by
  apply needs_pinned
  rw [needs, if_pos only]
  exact List.mem_append_left _ (List.mem_map_of_mem member)

/-- A diff that is read pins its backup and its base. -/
theorem Task.pinned_of_read {job : DiffKind × Backup Digest}
    {rest : List (DiffKind × Backup Digest)} (next : task.todo = job :: rest) {diff : ConfigDiff}
    {needed : Backup Digest} (pinned : needed ∈ { task with computed := some diff }.pinned) :
    needed ∈ task.pinned ∨ needed = task.row ∨ needed = job.2 := by
  rcases mem_pinned.mp pinned with inside | ⟨same, -⟩
  · rw [needs] at inside
    split at inside
    case isTrue only =>
      refine .inl (mem_pinned.mpr (.inl ?_))
      rw [needs, if_pos only]
      exact inside
    case isFalse =>
      rcases List.mem_append.mp inside with computed | looked
      · rw [next] at computed
        exact .inr (.inr (List.mem_singleton.mp computed))
      · have before : needed ∈ task.bases := List.mem_append_right _ looked
        exact .inl (bases_pinned before).1
  · exact .inr (.inl same)

/-- What is left to do pins no more. -/
theorem Task.pinned_of_less {todo : List (DiffKind × Backup Digest)} {looked : List (Looked Digest)}
    (todoLess : todo.Sublist task.todo) (lookedLess : looked.Sublist task.looked)
    (idle : task.computed = none) {needed : Backup Digest}
    (pinned : needed ∈ { task with todo, looked }.pinned) : needed ∈ task.pinned := by
  have fewer : { task with todo, looked }.needs.Sublist task.needs := by
    rw [needs, needs]
    split
    · exact (todoLess.map _).append (lookedLess.map _)
    · rw [bases, bases, idle]
      exact lookedLess.map _
  rcases mem_pinned.mp pinned with inside | ⟨same, busy⟩
  · exact mem_pinned.mpr (.inl (fewer.subset inside))
  · refine mem_pinned.mpr (.inr ⟨same, busy.imp_right fun some_ empty => some_ ?_⟩)
    rw [empty] at fewer
    exact List.sublist_nil.mp fewer

/-- A lookup pins what the diff did. -/
theorem Task.pinned_of_look {job : DiffKind × Backup Digest}
    {rest : List (DiffKind × Backup Digest)} (next : task.todo = job :: rest) {diff : ConfigDiff}
    (computed : task.computed = some diff) {existing : Bool} {needed : Backup Digest}
    (pinned : needed ∈ ({ task with
      todo := rest
      computed := none
      looked := task.looked ++ [⟨job.1, job.2, diff, existing⟩] } : Task Bytes Digest).pinned) :
    needed ∈ task.pinned := by
  have base := bases_pinned (computed_base computed (next ▸ rfl : job ∈ task.todo.head?))
  rcases mem_pinned.mp pinned with inside | ⟨same, -⟩
  · rw [needs] at inside
    split at inside
    case isTrue only =>
      simp only [List.map_append, List.map_cons, List.map_nil, List.mem_append,
        List.mem_singleton] at inside
      rcases inside with later | before | rfl
      · have ⟨job', member, eq⟩ := List.mem_map.mp later
        have listed : job' ∈ task.todo := next ▸ List.mem_cons_of_mem _ member
        have own : task.owner = .web .diffVsFirst := only
        exact eq ▸ (todo_pinned own listed).1
      · exact (bases_pinned (List.mem_append_right _ before)).1
      · exact base.1
    case isFalse =>
      simp only [bases, List.map_append, List.map_cons, List.map_nil, List.mem_append,
        List.mem_singleton] at inside
      rcases inside with none | before | rfl
      · cases none
      · exact (bases_pinned (List.mem_append_right _ before)).1
      · exact base.1
  · exact same ▸ base.2

end Tasks

/-! ### What others do to a task -/

section Frame

variable {codec} {parse} {cwd} {state after : State Bytes Digest} {task : Task Bytes Digest}

/-- A task stays sound while its backups stay what they are. -/
theorem Sound.frame (sound : Sound codec parse cwd state task)
    (listed : task.owner ≠ .worker → ∀ needed ∈ task.pinned,
      Listed state.world.rows needed → Listed after.world.rows needed)
    (back : ∀ needed ∈ task.pinned, Listed after.world.rows needed → Listed state.world.rows needed)
    (kept : ∀ needed ∈ task.pinned, Kept state.world.rows needed → Kept after.world.rows needed)
    (saved : ∀ needed ∈ task.pinned, after.saved needed.id = state.saved needed.id)
    (vacant : task.owner ≠ .worker → ∀ entry ∈ task.looked, entry.existing = false →
      state.diffs task.row.id entry.kind = none → after.diffs task.row.id entry.kind = none)
    (single : task.owner = .web .diffVsFirst → task.computed = none → ∀ job ∈ task.todo,
      diffOf codec parse after.world resolveBackupPath task.row job.2 =
        diffOf codec parse state.world resolveBackupPath task.row job.2) :
    Sound codec parse cwd after task := by
  have pair : ∀ base ∈ task.bases, ∀ diff, Pair codec parse state task.row base diff →
      Pair codec parse after task.row base diff := by
    intro base member diff before listedRow listedBase
    have ⟨basePinned, rowPinned⟩ := Task.bases_pinned member
    have ⟨new, old, parsed, parsed', eq⟩ :=
      before (back _ rowPinned listedRow) (back _ basePinned listedBase)
    refine ⟨new, old, ?_, ?_, eq⟩
    · rw [original, saved _ rowPinned]
      exact parsed
    · rw [original, saved _ basePinned]
      exact parsed'
  constructor
  · exact fun web needed member => listed web needed member (sound.listed web needed member)
  · exact fun needed member => kept needed member (sound.kept needed member)
  · intro worker bytes held listedRow
    have pinned := Task.worker_pinned worker
    rw [saved _ pinned]
    exact sound.content worker bytes held (back _ pinned listedRow)
  · exact sound.opened
  · intro diff computed job head
    exact pair _ (Task.computed_base computed head) _ (sound.computed diff computed job head)
  · exact fun entry member => pair _ (Task.looked_base member) _ (sound.looked entry member)
  · intro web entry member fresh
    exact vacant web entry member fresh (sound.vacant web entry member fresh)
  · exact sound.one
  · intro only idle job member
    rw [single only idle job member]
    exact sound.single only idle job member

theorem diffOf_congr {world world' : World Bytes Digest} {opens : String → String}
    {row base : Backup Digest} (same : world'.files (opens row.path) = world.files (opens row.path))
    (same' : world'.files (opens base.path) = world.files (opens base.path)) :
    diffOf codec parse world' opens row base = diffOf codec parse world opens row base := by
  simp only [diffOf, readBackupBytes, same, same']

theorem Sound.todo_listed (sound : Sound codec parse cwd state task)
    (only : task.owner = .web .diffVsFirst) {job : DiffKind × Backup Digest}
    (member : job ∈ task.todo) :
    Listed state.world.rows task.row ∧ Listed state.world.rows job.2 := by
  have web : task.owner ≠ .worker := by
    rw [only]
    exact Owner.noConfusion
  have ⟨basePinned, rowPinned⟩ := Task.todo_pinned only member
  exact ⟨sound.listed web _ rowPinned, sound.listed web _ basePinned⟩

end Frame

/-! ### Files and rows -/

section Files

variable {codec} {parse} {cwd} {server : Server Bytes Digest} (inv : Inv codec parse cwd server)

include inv

/-- Files may change as long as no listed backup gets another one, and none goes that a request of
a single diff has still to read. -/
theorem Inv.files {files : String → Option Bytes}
    (kept : ∀ row ∈ cores server.store.world.rows,
      files (resolveBackupPath row.path) = server.store.world.files (resolveBackupPath row.path) ∨
        files (resolveBackupPath row.path) = none)
    (read : ∀ slot task, server.tasks slot = some task → task.owner = .web .diffVsFirst →
      task.computed = none → ∀ job ∈ task.todo,
        files (resolveBackupPath task.row.path) =
          server.store.world.files (resolveBackupPath task.row.path) ∧
        files (resolveBackupPath job.2.path) =
          server.store.world.files (resolveBackupPath job.2.path)) :
    Inv codec parse cwd { server with store :=
      { server.store with world := { server.store.world with files } } } := by
  constructor
  · intro row member raw content
    apply inv.unchanged row member raw
    rcases kept row member with same | gone
    · exact same.symm.trans content
    · cases gone.symm.trans content
  · exact inv.opened
  · exact inv.present
  · exact inv.stored
  · intro slot task held
    refine (inv.tasks slot task held).frame (fun _ _ _ listed => listed) (fun _ _ listed => listed)
      (fun _ _ same => same) (fun _ _ => rfl) (fun _ _ _ _ none => none) ?_
    intro only idle job member
    have ⟨row, base⟩ := read slot task held only idle job member
    exact diffOf_congr row base
  · exact inv.safe

theorem Inv.save {path : String} {content : Bytes}
    (allowed : Allowed codec parse cwd server (.save path content)) :
    Inv codec parse cwd { server with store :=
      { server.store with world := server.store.world.writeFile path content } } := by
  have apart : ∀ row ∈ cores server.store.world.rows, resolveBackupPath row.path ≠ path := by
    intro row member
    have ⟨source, listed, same⟩ := List.mem_map.mp member
    have path' : row.path = source.path := (congrArg Backup.path same).symm
    rw [path']
    exact (allowed source listed).symm
  refine inv.files (fun row member => .inl (Function.update_of_ne (apart row member) _ _)) ?_
  intro slot task held only idle job member
  have ⟨row, base⟩ := (inv.tasks slot task held).todo_listed only member
  exact ⟨Function.update_of_ne (apart _ row) _ _, Function.update_of_ne (apart _ base) _ _⟩

theorem Inv.unlink {path : String} (allowed : Allowed codec parse cwd server (.unlink path)) :
    Inv codec parse cwd { server with store :=
      { server.store with world := server.store.world.unlink path } } := by
  refine inv.files (fun row member => ?_) ?_
  · by_cases same : resolveBackupPath row.path = path
    · exact .inr (same ▸ Function.update_self _ _ _)
    · exact .inl (Function.update_of_ne same _ _)
  · intro slot task held only idle job member
    have ⟨row, base⟩ := allowed slot task held only idle job member
    exact ⟨Function.update_of_ne row.symm _ _, Function.update_of_ne base.symm _ _⟩

theorem Inv.insert {row : Backup Digest} (fresh : row.id = server.store.world.rows.nextId)
    (allowed : Allowed codec parse cwd server (.insert row)) :
    Inv codec parse cwd { server with store :=
      { server.store with
        world := { server.store.world with rows := server.store.world.rows.insert row }
        saved := Function.update server.store.saved row.id
          (server.store.world.files (resolveBackupPath row.path)) } } := by
  have vacant : server.store.world.rows.get row.id = none := by
    rw [fresh]
    exact Table.get_nextId
  have rows : cores (server.store.world.rows.insert row) =
      cores server.store.world.rows ++ [core row] := cores_insert vacant
  have other : ∀ old ∈ cores server.store.world.rows, old.id ≠ row.id := by
    intro old member same
    have there := exists_core.mpr ⟨old, member, same⟩
    rw [vacant] at there
    cases there
  have split : ∀ old, old ∈ cores (server.store.world.rows.insert row) ↔
      old ∈ cores server.store.world.rows ∨ old = core row := by
    intro old
    rw [rows, List.mem_append, List.mem_singleton]
  have originals : ∀ old ∈ cores server.store.world.rows,
      original codec parse (Function.update server.store.saved row.id
        (server.store.world.files (resolveBackupPath row.path))) old =
          original codec parse server.store.saved old := by
    intro old member
    rw [original, original, Function.update_of_ne (other old member)]
  have undiffed : ∀ kind, server.store.diffs row.id kind = none := by
    intro kind
    apply Option.eq_none_iff_forall_ne_some.mpr
    intro stored held
    obtain ⟨old, member, same⟩ := inv.present row.id kind stored held
    exact other old member same
  constructor
  · intro old member raw content
    rcases (split old).mp member with before | rfl
    · exact (Function.update_of_ne (other old before) _ _).trans
        (inv.unchanged old before raw content)
    · exact (Function.update_self _ _ _).trans content
  · intro old member success
    rcases (split old).mp member with before | rfl
    · exact inv.opened old before success
    · exact allowed.1 success
  · intro id kind stored held
    obtain ⟨old, member, same⟩ := inv.present id kind stored held
    exact ⟨old, (split old).mpr (.inl member), same⟩
  · intro old member kind stored held baseId based
    rcases (split old).mp member with before | rfl
    · obtain ⟨base, listed, same, new, older, parsed, parsed', counts⟩ :=
        inv.stored old before kind stored held baseId based
      refine ⟨base, (split base).mpr (.inl listed), same, new, older, ?_, ?_, counts⟩
      · exact (originals old before).trans parsed
      · exact (originals base listed).trans parsed'
    · cases (undiffed kind).symm.trans held
  · intro slot task held
    have apart := allowed.2 slot task held
    refine (inv.tasks slot task held).frame ?_ ?_ ?_ ?_ (fun _ _ _ _ none => none)
      (fun _ _ _ _ => rfl)
    · exact fun _ needed _ listed => (split _).mpr (.inl listed)
    · intro needed pinned listed
      rcases (split _).mp listed with before | same
      · exact before
      · exact absurd (congrArg Backup.id same) (apart needed pinned)
    · intro needed pinned kept old member same
      rcases (split _).mp member with before | rfl
      · exact kept old before same
      · exact absurd same.symm (apart needed pinned)
    · exact fun needed pinned => Function.update_of_ne (apart needed pinned) _ _
  · exact inv.safe

theorem Inv.drop {doomed : List Nat} {rows : Table (Backup Digest) Backup.id}
    (left : cores rows = (cores server.store.world.rows).filter fun row => row.id ∉ doomed)
    (allowed : Allowed codec parse cwd server (.drop doomed)) :
    Inv codec parse cwd
      { server with store := server.store.cascade { server.store.world with rows } } := by
  have split : ∀ row, row ∈ cores rows ↔ row ∈ cores server.store.world.rows ∧ row.id ∉ doomed := by
    intro row
    rw [left, List.mem_filter, decide_eq_true_eq]
  have stays : ∀ id kind stored,
      (server.store.cascade { server.store.world with rows }).diffs id kind = some stored →
        (rows.get id).isSome ∧ ∃ before, server.store.diffs id kind = some before ∧
          before.counts = stored.counts ∧ ∀ baseId, stored.baseBackupId = some baseId →
            before.baseBackupId = some baseId ∧ (rows.get baseId).isSome := by
    intro id kind stored held
    rw [State.cascade] at held
    dsimp only at held
    split at held
    case isFalse => cases held
    case isTrue there =>
      obtain ⟨before, found, same⟩ := Option.map_eq_some_iff.mp held
      refine ⟨there, before, found, by rw [← same], fun baseId based => ?_⟩
      rw [← same] at based
      exact Option.filter_eq_some_iff.mp based
  constructor
  · exact fun row member raw content => inv.unchanged row ((split row).mp member).1 raw content
  · exact fun row member success => inv.opened row ((split row).mp member).1 success
  · intro id kind stored held
    exact exists_core.mp (stays id kind stored held).1
  · intro row member kind stored held baseId based
    obtain ⟨there, before, found, counts, bases⟩ := stays row.id kind stored held
    obtain ⟨basedBefore, baseThere⟩ := bases baseId based
    obtain ⟨base, listed, same, new, old, parsed, parsed', eq⟩ :=
      inv.stored row ((split row).mp member).1 kind before found baseId basedBefore
    obtain ⟨other, otherListed, otherSame⟩ := exists_core.mp baseThere
    have equal := cores_unique ((split other).mp otherListed).1 listed (otherSame.trans same.symm)
    rw [equal] at otherListed
    exact ⟨base, otherListed, same, new, old, parsed, parsed', counts ▸ eq⟩
  · intro slot task held
    have needed := allowed slot task held
    refine (inv.tasks slot task held).frame ?_ ?_ ?_ (fun _ _ => rfl) ?_ (fun _ _ _ _ => rfl)
    · exact fun web other pinned listed => (split _).mpr ⟨listed, needed web other pinned⟩
    · exact fun _ _ listed => ((split _).mp listed).1
    · exact fun _ _ kept old member => kept old ((split _).mp member).1
    · intro _ entry _ _ none
      rw [State.cascade]
      dsimp only
      split
      · rw [none, Option.map_none]
      · rfl
  · exact inv.safe

end Files

/-! ### What a task does -/

section Steps

variable {codec} {parse} {cwd} {server : Server Bytes Digest} {slot : Nat}

theorem Inv.put (inv : Inv codec parse cwd server) {task : Option (Task Bytes Digest)}
    (sound : ∀ task', task = some task' → Sound codec parse cwd server.store task') :
    Inv codec parse cwd (server.put slot task) := by
  refine { inv with tasks := fun other task' held => ?_ }
  rw [Server.put_tasks] at held
  split at held
  · exact sound task' held
  · exact inv.tasks other task' held

theorem mem_staleJobs {state : State Bytes Digest} {row : Backup Digest} {kinds : List DiffKind}
    {job : DiffKind × Backup Digest} (member : job ∈ staleJobs state row kinds) :
    findBase state.world.rows row job.1 = some job.2 := by
  have ⟨kind, _, found⟩ := List.mem_filterMap.mp member
  have ⟨base, here, kept⟩ := Option.bind_eq_some_iff.mp found
  split at kept
  · cases kept
  · rw [← Option.some.inj kept]
    exact here

theorem Inv.request (inv : Inv codec parse cwd server) {endpoint : Endpoint} {id : Nat}
    {row : Backup Digest} (held : server.store.world.rows.get id = some row) :
    Inv codec parse cwd
      (server.put slot (some (requestTask codec parse server.store row endpoint))) := by
  apply inv.put
  intro task same
  rw [← Option.some.inj same]
  have member := listed_of_mem (Table.mem_of_get held)
  have bases : ∀ job ∈ staleJobs server.store row endpoint.kinds,
      Listed server.store.world.rows job.2 := by
    intro job inside
    exact listed_of_mem (mem_of_findBase (mem_staleJobs inside)).1
  have listed : ∀ needed ∈ (requestTask codec parse server.store row endpoint).pinned,
      Listed server.store.world.rows needed := by
    intro needed pinned
    cases endpoint with
    | diffSummary => cases pinned
    | diffVsFirst =>
      rcases Task.mem_pinned.mp pinned with base | ⟨same, -⟩
      · have only : (requestTask codec parse server.store row .diffVsFirst).owner =
            .web .diffVsFirst := rfl
        rw [Task.needs, if_pos only] at base
        rcases List.mem_append.mp base with base | none
        · have ⟨job, inside, eq⟩ := List.mem_map.mp base
          exact eq ▸ bases job inside
        · cases none
      · exact same ▸ member
  have alone : endpoint = .diffVsFirst →
      (staleJobs server.store row endpoint.kinds).length ≤ 1 := by
    intro only
    subst only
    exact List.length_filterMap_le _ _
  refine ⟨fun _ => listed, fun needed pinned => (listed needed pinned).kept, fun worker => ?_,
    fun worker => ?_, fun _ computed => ?_, fun _ none => ?_, fun _ _ none => ?_, fun only => ?_,
    fun only _ job inside => ?_⟩
  · cases worker
  · cases worker
  · cases computed
  · cases none
  · cases none
  · exact alone (Owner.web.inj only)
  · have length := alone (Owner.web.inj only)
    change job ∈ staleJobs server.store row endpoint.kinds at inside
    change _ = (staleJobs server.store row endpoint.kinds).any _
    cases shape : staleJobs server.store row endpoint.kinds with
    | nil => rw [shape] at inside; cases inside
    | cons first rest =>
      rw [shape] at length inside
      have empty : rest = [] := List.length_eq_zero_iff.mp (by simpa using length)
      rw [empty] at inside ⊢
      rw [List.mem_singleton.mp inside]
      simp [requestTask]

theorem Inv.ingest (inv : Inv codec parse cwd server) {id : Nat} {row : Backup Digest}
    {previous first : Option (Backup Digest)} (held : server.store.world.rows.get id = some row)
    (success : row.success)
    (bases : ingestionBases server.store.world.rows id row.instanceId = some (previous, first)) :
    Inv codec parse cwd
      (server.put slot (some (ingestTask codec cwd server.store row previous first))) := by
  apply inv.put
  intro task same
  rw [← Option.some.inj same]
  have member := listed_of_mem (Table.mem_of_get held)
  have sameId : row.id = id := Table.id_of_get held
  have found : ingestionBases server.store.world.rows row.id row.instanceId =
      some (previous, first) := sameId.symm ▸ bases
  rw [ingestionBases_eq (sameId.symm ▸ held)] at found
  have ⟨isPrevious, isFirst⟩ := Prod.mk.inj (Option.some.inj found)
  refine ⟨fun web => absurd rfl web, fun needed pinned => ?_, fun _ bytes read _ => ?_,
    fun _ job inside => ?_, fun _ computed => ?_, fun _ none => ?_, fun _ _ none => ?_,
    fun only => ?_, fun only => ?_⟩
  · rw [List.mem_singleton.mp pinned]
    exact member.kept
  · have ⟨raw, content, plain⟩ := Option.bind_eq_some_iff.mp read
    have opened : openedPath cwd row.path = resolveBackupPath row.path :=
      inv.opened (core row) member success
    rw [opened] at content
    have saved : server.store.saved row.id = some raw := inv.unchanged (core row) member raw content
    change (server.store.saved row.id).bind (plainBytes codec row) = some bytes
    rw [saved, Option.bind_some]
    exact plain
  · have listed : job.2 ∈ server.store.world.rows.rows ∧ job.2.success := by
      rcases List.mem_append.mp inside with inside | inside
      · have ⟨base, some_, eq⟩ := Option.map_eq_some_iff.mp (Option.mem_toList.mp inside)
        rw [← eq]
        exact mem_of_findBase (isPrevious.trans some_)
      · have ⟨base, some_, eq⟩ := Option.map_eq_some_iff.mp (Option.mem_toList.mp inside)
        rw [← eq]
        exact mem_of_findBase (isFirst.trans some_)
    exact inv.opened (core job.2) (listed_of_mem listed.1) listed.2
  · cases computed
  · cases none
  · cases none
  · cases only
  · cases only

/-- What is read of a listed backup is what it saved. -/
theorem Inv.original_eq (inv : Inv codec parse cwd server) {row : Backup Digest}
    (listed : Listed server.store.world.rows row) {bytes : Bytes}
    (read : readBackupBytes codec server.store.world (resolveBackupPath row.path) row =
      some bytes) : original codec parse server.store.saved row = parse bytes := by
  have ⟨raw, content, plain⟩ := Option.bind_eq_some_iff.mp read
  have saved : server.store.saved row.id = some raw := inv.unchanged (core row) listed raw content
  rw [original, saved, Option.bind_some, plain, Option.bind_some]

/-- A diff that is read is that of what the two backups saved. -/
theorem Inv.pair (inv : Inv codec parse cwd server) {task : Task Bytes Digest}
    (sound : Sound codec parse cwd server.store task) {job : DiffKind × Backup Digest}
    (member : job ∈ task.todo) {diff : ConfigDiff}
    (found : task.diff codec parse cwd server.store.world job.2 = some diff) :
    Pair codec parse server.store task.row job.2 diff := by
  intro listed listed'
  rw [Task.diff] at found
  split at found
  · simp only [diffOf, EventLog.computeDiff, Option.bind_eq_bind, Option.bind_eq_some_iff] at found
    obtain ⟨newBytes, read, baseBytes, read', old, parsed', new, parsed, eq⟩ := found
    exact ⟨new, old, (inv.original_eq listed read).trans parsed,
      (inv.original_eq listed' read').trans parsed', (Option.some.inj eq).symm⟩
  case h_2 worker =>
    simp only [EventLog.computeDiff, Option.bind_eq_bind, Option.bind_eq_some_iff] at found
    obtain ⟨newBytes, held, baseBytes, read', old, parsed', new, parsed, eq⟩ := found
    rw [sound.opened worker job member] at read'
    have own := sound.content worker newBytes held listed
    refine ⟨new, old, ?_, (inv.original_eq listed' read').trans parsed', (Option.some.inj eq).symm⟩
    rw [original, own, Option.bind_some]
    exact parsed

theorem Inv.read (inv : Inv codec parse cwd server) {task : Task Bytes Digest}
    {job : DiffKind × Backup Digest} {rest : List (DiffKind × Backup Digest)} {diff : ConfigDiff}
    (held : server.tasks slot = some task) (next : task.todo = job :: rest)
    (found : task.diff codec parse cwd server.store.world job.2 = some diff)
    (allowed : Allowed codec parse cwd server (.read slot)) :
    Inv codec parse cwd (server.put slot (some { task with computed := some diff })) := by
  apply inv.put
  intro task' same
  rw [← Option.some.inj same]
  have sound := inv.tasks slot task held
  have steady := allowed task job rest held next (found ▸ rfl)
  constructor
  · intro web needed pinned
    rw [if_neg web] at steady
    rcases Task.pinned_of_read next pinned with before | rfl | rfl
    · exact sound.listed web needed before
    · exact steady.1
    · exact steady.2
  · intro needed pinned
    by_cases worker : task.owner = .worker
    · rw [if_pos worker] at steady
      rcases Task.pinned_of_read next pinned with before | rfl | rfl
      · exact sound.kept needed before
      · exact sound.kept _ (Task.worker_pinned worker)
      · exact steady
    · rw [if_neg worker] at steady
      rcases Task.pinned_of_read next pinned with before | rfl | rfl
      · exact sound.kept needed before
      · exact steady.1.kept
      · exact steady.2.kept
  · exact sound.content
  · exact sound.opened
  · intro other same job' head
    change job' ∈ task.todo.head? at head
    rw [next, List.head?_cons] at head
    rw [← Option.some.inj head, ← Option.some.inj same]
    exact inv.pair sound (next ▸ List.mem_cons_self) found
  · exact sound.looked
  · exact sound.vacant
  · exact sound.one
  · intro _ idle
    cases idle

/-- A task that is done with some of its pairs or diffs. -/
theorem Sound.less {task : Task Bytes Digest} (sound : Sound codec parse cwd server.store task)
    {todo : List (DiffKind × Backup Digest)} {looked : List (Looked Digest)}
    (todoLess : todo.Sublist task.todo) (lookedLess : looked.Sublist task.looked)
    (idle : task.computed = none) :
    Sound codec parse cwd server.store { task with todo, looked } := by
  have pinnedLess : ∀ needed ∈ { task with todo, looked }.pinned, needed ∈ task.pinned :=
    fun needed pinned => Task.pinned_of_less todoLess lookedLess idle pinned
  constructor
  · exact fun web needed pinned => sound.listed web needed (pinnedLess needed pinned)
  · exact fun needed pinned => sound.kept needed (pinnedLess needed pinned)
  · exact sound.content
  · exact fun worker job member => sound.opened worker job (todoLess.subset member)
  · intro diff computed
    cases idle.symm.trans computed
  · exact fun entry member => sound.looked entry (lookedLess.subset member)
  · exact fun web entry member => sound.vacant web entry (lookedLess.subset member)
  · exact fun only => todoLess.length_le.trans (sound.one only)
  · exact fun only idle job member => sound.single only idle job (todoLess.subset member)

theorem Inv.skip (inv : Inv codec parse cwd server) {task : Task Bytes Digest}
    {job : DiffKind × Backup Digest} {rest : List (DiffKind × Backup Digest)}
    (held : server.tasks slot = some task) (may : task.mayRead) (next : task.todo = job :: rest)
    (failed : task.diff codec parse cwd server.store.world job.2 = none) :
    Inv codec parse cwd (server.skip slot task rest) := by
  have sound := inv.tasks slot task held
  rw [Server.skip]
  split
  case isTrue only =>
    have gone : Inv codec parse cwd (server.put slot none) := inv.put fun _ none => by cases none
    refine { gone with safe := fun failure member => ?_ }
    rcases List.mem_cons.mp member with rfl | before
    · rw [Task.diff_of_web codec parse cwd only] at failed
      have same := sound.single only may.1 job (next ▸ List.mem_cons_self)
      rw [failed] at same
      rw [← same]
      rfl
    · exact inv.safe failure before
  case isFalse =>
    apply inv.put
    intro task' same
    rw [← Option.some.inj same]
    exact sound.less (next ▸ List.sublist_cons_self job rest) (List.Sublist.refl _) may.1

theorem Inv.look (inv : Inv codec parse cwd server) {task : Task Bytes Digest}
    {job : DiffKind × Backup Digest} {rest : List (DiffKind × Backup Digest)} {diff : ConfigDiff}
    (held : server.tasks slot = some task) (next : task.todo = job :: rest)
    (computed : task.computed = some diff) :
    Inv codec parse cwd (server.look slot task job rest diff) := by
  apply inv.put
  intro task' same
  rw [← Option.some.inj same]
  have sound := inv.tasks slot task held
  have inside : ∀ job' ∈ rest, job' ∈ task.todo :=
    fun job' member => next ▸ List.mem_cons_of_mem job member
  have own := sound.computed diff computed job (next ▸ rfl)
  constructor
  · intro web needed pinned
    exact sound.listed web needed (Task.pinned_of_look next computed pinned)
  · exact fun needed pinned => sound.kept needed (Task.pinned_of_look next computed pinned)
  · exact sound.content
  · exact fun worker job' member => sound.opened worker job' (inside job' member)
  · intro _ none
    cases none
  · intro entry member
    rcases List.mem_append.mp member with before | new
    · exact sound.looked entry before
    · rw [List.mem_singleton.mp new]
      exact own
  · intro web entry member fresh
    rcases List.mem_append.mp member with before | new
    · exact sound.vacant web entry before fresh
    · rw [List.mem_singleton.mp new] at fresh ⊢
      exact Option.isNone_iff_eq_none.mp (Option.isSome_eq_false_iff.mp fresh)
  · intro only
    have length := sound.one only
    rw [next, List.length_cons] at length
    exact Nat.le_of_succ_le length
  · intro only _ job' member
    have length := sound.one only
    rw [next, List.length_cons] at length
    have empty : rest = [] := List.length_eq_zero_iff.mp (by omega)
    rw [empty] at member
    cases member

/-! ### Writes -/

theorem storeAll_world (state : State Bytes Digest) (id : Nat) (looked : List (Looked Digest)) :
    (storeAll state id looked).world = state.world ∧
      (storeAll state id looked).saved = state.saved := by
  induction looked generalizing state with
  | nil => exact ⟨rfl, rfl⟩
  | cons entry rest ih => exact ih (state.store id entry.kind entry.base.id entry.diff)

/-- What is stored after the writes is one of them or was stored before. -/
theorem storeAll_diffs (state : State Bytes Digest) (id : Nat) (looked : List (Looked Digest))
    {id' : Nat} {kind : DiffKind} {stored : BackupDiff}
    (held : (storeAll state id looked).diffs id' kind = some stored) :
    (id' = id ∧ ∃ entry ∈ looked, entry.kind = kind ∧
      stored = ⟨some entry.base.id, summariseDiff entry.diff, entry.diff⟩) ∨
    state.diffs id' kind = some stored := by
  induction looked generalizing state with
  | nil => exact .inr held
  | cons entry rest ih =>
    rcases ih (state.store id entry.kind entry.base.id entry.diff) held with later | now
    · have ⟨same, entry', member, kinds, eq⟩ := later
      exact .inl ⟨same, entry', List.mem_cons_of_mem _ member, kinds, eq⟩
    · rw [State.store] at now
      dsimp only at now
      split at now
      case isTrue key =>
        exact .inl ⟨key.1, entry, List.mem_cons_self, key.2.symm, (Option.some.inj now).symm⟩
      case isFalse => exact .inr now

theorem Inv.commit (inv : Inv codec parse cwd server) {task : Task Bytes Digest}
    (held : server.tasks slot = some task) (may : task.mayCommit)
    (allowed : Allowed codec parse cwd server (.commit slot)) :
    Inv codec parse cwd (server.commit slot task) := by
  have sound := inv.tasks slot task held
  have ended : Inv codec parse cwd (server.put slot none) := inv.put fun _ none => by cases none
  rw [Server.commit]
  split
  case isTrue writes =>
    have less : Sound codec parse cwd server.store { task with looked := [] } :=
      sound.less (List.Sublist.refl _) (List.nil_sublist _) may.1
    have ⟨world, saved⟩ := storeAll_world server.store task.row.id task.looked
    have diffs := @storeAll_diffs _ _ server.store task.row.id task.looked
    have mayWrite := writes
    rw [writable, Bool.and_eq_true, List.all_eq_true] at writes
    have rowListed : Listed server.store.world.rows task.row := by
      have ⟨first, inside⟩ := List.exists_mem_of_ne_nil _ may.2.1
      have pinned := Task.bases_pinned (Task.looked_base inside)
      exact (sound.kept _ pinned.2).listed writes.1
    have baseListed : ∀ entry ∈ task.looked, Listed server.store.world.rows entry.base := by
      intro entry member
      have pinned := Task.bases_pinned (Task.looked_base member)
      have there := writes.2 entry member
      rw [Bool.and_eq_true] at there
      exact (sound.kept _ pinned.1).listed there.1
    generalize storeAll server.store task.row.id task.looked = after at world saved diffs
    obtain ⟨world', diffs', saved'⟩ := after
    subst world saved
    have kept : ∀ task', Sound codec parse cwd server.store task' →
        (task'.owner ≠ .worker → ∀ entry ∈ task'.looked, entry.existing = false →
          server.store.diffs task'.row.id entry.kind = none →
            diffs' task'.row.id entry.kind = none) →
        Sound codec parse cwd ⟨server.store.world, diffs', server.store.saved⟩ task' := by
      intro task' sound' vacant
      exact sound'.frame (fun _ _ _ listed => listed) (fun _ _ listed => listed)
        (fun _ _ same => same) (fun _ _ => rfl) vacant (fun _ _ _ _ => rfl)
    constructor
    · exact inv.unchanged
    · exact inv.opened
    · intro id kind stored found
      rcases diffs found with ⟨same, _⟩ | before
      · exact ⟨core task.row, rowListed, same.symm⟩
      · exact inv.present id kind stored before
    · intro row member kind stored found baseId based
      rcases diffs found with ⟨same, entry, inside, _, eq⟩ | before
      · have own := cores_unique member rowListed same
        have ⟨new, old, parsed, parsed', diff⟩ :=
          sound.looked entry inside rowListed (baseListed entry inside)
        rw [eq] at based ⊢
        refine ⟨core entry.base, baseListed entry inside, Option.some.inj based, new, old, ?_,
          parsed', by rw [diff]⟩
        rw [own]
        exact parsed
      · exact inv.stored row member kind stored before baseId based
    · intro other task' held'
      change (server.put slot (some { task with looked := [] })).tasks other = _ at held'
      rw [Server.put_tasks] at held'
      split at held'
      · rw [← Option.some.inj held']
        exact kept _ less fun _ _ none => by cases none
      case isFalse apart =>
        refine kept task' (inv.tasks other task' held') fun web theirs member fresh none => ?_
        apply Option.eq_none_iff_forall_ne_some.mpr
        intro stored found
        rcases diffs found with ⟨same, mine, inside, kinds, _⟩ | before
        · have loud := allowed task held mayWrite other apart task' held' web same mine inside
            theirs member kinds.symm
          cases fresh.symm.trans loud
        · cases none.symm.trans before
    · exact inv.safe
  case isFalse fails =>
    split
    · exact ended
    case isFalse web =>
      refine absurd ?_ fails
      have listed : ∀ entry ∈ task.looked, Listed server.store.world.rows task.row ∧
          Listed server.store.world.rows entry.base := by
        intro entry member
        have ⟨base, row⟩ := Task.bases_pinned (Task.looked_base member)
        exact ⟨sound.listed web _ row, sound.listed web _ base⟩
      have ⟨first, inside⟩ := List.exists_mem_of_ne_nil _ may.2.1
      rw [writable, Bool.and_eq_true, List.all_eq_true]
      refine ⟨(listed first inside).1.isSome, fun entry member => ?_⟩
      rw [Bool.and_eq_true, Bool.or_eq_true]
      refine ⟨(listed entry member).2.isSome, ?_⟩
      cases found : entry.existing with
      | true => exact .inl rfl
      | false => exact .inr (Option.isNone_iff_eq_none.mpr (sound.vacant web entry member found))

theorem Inv.step (inv : Inv codec parse cwd server) {op : Op Bytes Digest}
    {after : Server Bytes Digest} (allowed : Allowed codec parse cwd server op)
    (step : Step codec parse cwd server op after) : Inv codec parse cwd after := by
  cases step with
  | missing => exact inv
  | request _ held => exact inv.request held
  | ingest _ held success bases => exact inv.ingest held success bases
  | read held _ next found => exact inv.read held next found allowed
  | skip held may next failed => exact inv.skip held may next failed
  | look held next computed => exact inv.look held next computed
  | commit held may => exact inv.commit held may allowed
  | finish => exact inv.put fun _ none => by cases none
  | save => exact inv.save allowed
  | insert fresh => exact inv.insert fresh allowed
  | unlink => exact inv.unlink allowed
  | drop left => exact inv.drop left allowed

theorem Inv.countsRight (inv : Inv codec parse cwd server) :
    CountsRight codec parse server.store := by
  intro id kind stored baseId held based
  have ⟨row, member, same⟩ := inv.present id kind stored held
  have ⟨base, listed, sameBase, new, old, parsed, parsed', counts⟩ :=
    inv.stored row member kind stored (same ▸ held) baseId based
  have ⟨row', inside, eq⟩ := List.mem_map.mp member
  have ⟨base', inside', eq'⟩ := List.mem_map.mp listed
  have id' : row'.id = id := (congrArg Backup.id eq).trans same
  have baseId' : base'.id = baseId := (congrArg Backup.id eq').trans sameBase
  refine ⟨row', base', new, old, id' ▸ Table.get_of_mem inside, baseId' ▸ Table.get_of_mem inside',
    ?_, ?_, counts⟩
  · rw [← eq] at parsed
    exact parsed
  · rw [← eq'] at parsed'
    exact parsed'

end Steps

/-- From an empty database no request fails through another writer and every stored diff has the
right counts, in every run in which no request loses the backups that it still needs, none has its
key taken after it found nothing there, and no id or file passes on to another backup before the
diffs of the former one are written. -/
theorem requests_safe (codec : Codec Bytes Digest Salt) (parse : Bytes → Option ParsedConfig)
    (cwd : String) {start server : Server Bytes Digest} (empty : start.store.world.rows = .empty)
    (undiffed : ∀ id kind, start.store.diffs id kind = none)
    (idle : ∀ slot, start.tasks slot = none) (fresh : start.failures = [])
    (reached : Reach (Step codec parse cwd) (Allowed codec parse cwd) start server) :
    NoneFailed server ∧ CountsRight codec parse server.store := by
  have bare : cores start.store.world.rows = [] := by rw [empty, cores, Table.empty, List.map_nil]
  have first : Inv codec parse cwd start := by
    constructor
    · intro row member
      rw [bare] at member
      cases member
    · intro row member
      rw [bare] at member
      cases member
    · intro id kind stored held
      cases (undiffed id kind).symm.trans held
    · intro row member
      rw [bare] at member
      cases member
    · intro slot task held
      cases (idle slot).symm.trans held
    · intro failure member
      rw [fresh] at member
      cases member
  have inv : Inv codec parse cwd server :=
    reached.invariant first fun before op after inv allowed step => inv.step allowed step
  exact ⟨inv.safe, inv.countsRight⟩

/-! ### Two page loads, and a deletion -/

/-- A backup of instance 1 in the clear. -/
def plainRow (id startedAt : Nat) (path : String) : Backup Blob where
  id
  instanceId := 1
  startedAt
  filename := pathName path
  path
  sizeBytes := 1
  compressed := false
  success := true
  encrypted := false
  encryptPassword := none

def idle : Server Blob Blob where
  store := noBackups
  tasks _ := none
  failures := []

def Server.saved (server : Server Blob Blob) (path text : String) : Server Blob Blob :=
  { server with store :=
    { server.store with world := server.store.world.writeFile path (.xml text) } }

def Server.listed (server : Server Blob Blob) (row : Backup Blob) : Server Blob Blob :=
  { server with store :=
    { server.store with
      world := { server.store.world with rows := server.store.world.rows.insert row }
      saved := Function.update server.store.saved row.id
        (server.store.world.files (resolveBackupPath row.path)) } }

/-- Two backups from before diffs were stored. -/
def stocked : Server Blob Blob :=
  (((idle.saved "/backups/1.xml" "empty").listed (plainRow 1 10 "/backups/1.xml")).saved
    "/backups/2.xml" "alias").listed (plainRow 2 20 "/backups/2.xml")

/-- The diff of the two. -/
def aliasDiff : ConfigDiff :=
  diffConfigs {} (.ofAlias "lan_hosts" "")

def older : Backup Blob :=
  plainRow 1 10 "/backups/1.xml"

def newer : Backup Blob :=
  plainRow 2 20 "/backups/2.xml"

def page : Task Blob Blob :=
  requestTask showing parseBlob stocked.store newer .diffSummary

def pageRead : Task Blob Blob :=
  { page with computed := some aliasDiff }

/-- One page load for the newer backup, up to the lookup of its first key. -/
def onePage : Server Blob Blob :=
  ((stocked.put 0 (some page)).put 0 (some pageRead)).look 0 pageRead (.previous, older)
    [(.first, older)] aliasDiff

/-- Another one, up to the same point. -/
def twoPages : Server Blob Blob :=
  ((onePage.put 1 (some page)).put 1 (some pageRead)).look 1 pageRead (.previous, older)
    [(.first, older)] aliasDiff

def pageLooked : Task Blob Blob :=
  { page with
    todo := [(.first, older)]
    computed := none
    looked := [⟨.previous, older, aliasDiff, false⟩] }

/-- The first page load writes its row, and then the second. -/
def twoWrites : Server Blob Blob :=
  (twoPages.commit 0 pageLooked).commit 1 pageLooked

theorem page_diff : page.diff showing parseBlob "/app" stocked.store.world older = some aliasDiff :=
  rfl

/-- The runs of a worker and a web that start with an empty database. -/
def Runs (guard : Server Blob Blob → Op Blob Blob → Prop) (server : Server Blob Blob) : Prop :=
  Reach (Step showing parseBlob "/app") guard idle server

theorem Runs.step {guard : Server Blob Blob → Op Blob Blob → Prop} {server after : Server Blob Blob}
    (runs : Runs guard server) (op : Op Blob Blob) (allowed : guard server op)
    (step : Step showing parseBlob "/app" server op after) : Runs guard after :=
  Reach.snoc runs allowed step

theorem runs_stocked : Runs (Allowed showing parseBlob "/app") stocked := by
  have start : Runs (Allowed showing parseBlob "/app") idle := Relation.ReflTransGen.refl
  have saved := start.step (.save "/backups/1.xml" (.xml "empty"))
    (fun row member => by cases member) .save
  have listed := saved.step (.insert older)
    ⟨fun _ => by decide, fun _ _ held => by cases held⟩ (.insert rfl)
  have next := listed.step (.save "/backups/2.xml" (.xml "alias"))
    (fun row member => by rw [List.mem_singleton.mp member]; decide) .save
  exact next.step (.insert newer) ⟨fun _ => by decide, fun _ _ held => by cases held⟩ (.insert rfl)

theorem pageLooked_mayCommit : pageLooked.mayCommit := by
  refine ⟨rfl, List.cons_ne_nil _ _, fun worker => ?_⟩
  cases worker

theorem runs_onePage : Runs (Allowed showing parseBlob "/app") onePage := by
  have olders : Listed stocked.store.world.rows older := listed_of_mem List.mem_cons_self
  have newers : Listed stocked.store.world.rows newer :=
    listed_of_mem (List.mem_cons_of_mem older List.mem_cons_self)
  have came := runs_stocked.step (.request .diffSummary 2 0) (by trivial) (.request rfl rfl)
  have read := came.step (.read 0)
    (by
      intro task job rest held next _
      cases held
      cases next
      exact ⟨newers, olders⟩)
    (.read rfl ⟨rfl, fun _ => rfl⟩ rfl page_diff)
  exact read.step (.look 0) (by trivial) (.look rfl rfl rfl)

/-- One page load alone. -/
def answered : Server Blob Blob :=
  onePage.commit 0 pageLooked

theorem answered_safe : Runs (Allowed showing parseBlob "/app") answered ∧ NoneFailed answered ∧
    CountsRight showing parseBlob answered.store := by
  have runs : Runs (Allowed showing parseBlob "/app") answered := by
    apply runs_onePage.step (.commit 0) _ (.commit rfl pageLooked_mayCommit)
    intro task _ _ other apart task' held
    rw [onePage, Server.look, Server.put_tasks, if_neg apart, Server.put_tasks, if_neg apart,
      Server.put_tasks, if_neg apart] at held
    cases held
  exact ⟨runs, requests_safe showing parseBlob "/app" rfl (fun _ _ => rfl) (fun _ => rfl) rfl runs⟩

theorem runs_twoWrites : Runs unguarded twoWrites := by
  have before : Runs unguarded onePage := Reach.unguard runs_onePage
  have came := before.step (.request .diffSummary 2 1) trivial (.request rfl rfl)
  have read := came.step (.read 1) trivial (.read rfl ⟨rfl, fun _ => rfl⟩ rfl page_diff)
  have looked := read.step (.look 1) trivial (.look rfl rfl rfl)
  have written := looked.step (.commit 0) trivial (.commit rfl pageLooked_mayCommit)
  exact written.step (.commit 1) trivial (.commit rfl pageLooked_mayCommit)

theorem twoWrites_failures : twoWrites.failures = [.integrityError] :=
  rfl

/-- A backup that gets the id of the deleted newest one. -/
def heir : Backup Blob :=
  plainRow 2 30 "/backups/3.xml"

def Server.unlinked (server : Server Blob Blob) (path : String) : Server Blob Blob :=
  { server with store := { server.store with world := server.store.world.unlink path } }

def Server.dropped (server : Server Blob Blob) (id : Nat) : Server Blob Blob :=
  let world := { server.store.world with rows := server.store.world.rows.delete id }
  { server with store := server.store.cascade world }

/-- The newer backup is deleted while a page load holds its diff, and another one takes its id. -/
def inherited : Server Blob Blob :=
  (((onePage.unlinked "/backups/2.xml").dropped 2).saved "/backups/3.xml" "empty").listed heir

def pageWritten : Task Blob Blob :=
  { pageLooked with looked := [] }

/-- The page load writes its row. -/
def written : Server Blob Blob :=
  { inherited.put 0 (some pageWritten) with
    store := inherited.store.store 2 .previous 1 aliasDiff }

/-- It ends, as the file of the deleted backup is gone. -/
def settled : Server Blob Blob :=
  (written.put 0 (some { pageWritten with todo := [] })).put 0 none

theorem commit_inherited : inherited.commit 0 pageLooked = written :=
  if_pos (by decide)

theorem skip_written :
    written.skip 0 pageWritten [] = written.put 0 (some { pageWritten with todo := [] }) :=
  if_neg (by decide)

theorem runs_settled : Runs unguarded settled := by
  have before : Runs unguarded onePage := Reach.unguard runs_onePage
  have unlinked := before.step (.unlink "/backups/2.xml") trivial .unlink
  have dropped := unlinked.step (.drop [2]) trivial
    (@Step.drop _ _ _ showing parseBlob "/app" (onePage.unlinked "/backups/2.xml") [2]
      (onePage.store.world.rows.delete 2) rfl)
  have saved := dropped.step (.save "/backups/3.xml" (.xml "empty")) trivial .save
  have listed : Runs unguarded inherited := saved.step (.insert heir) trivial (.insert rfl)
  have committed : Runs unguarded written := by
    rw [← commit_inherited]
    exact listed.step (.commit 0) trivial (.commit rfl pageLooked_mayCommit)
  have skipped : Runs unguarded (written.put 0 (some { pageWritten with todo := [] })) := by
    rw [← skip_written]
    exact committed.step (.read 0) trivial (.skip rfl ⟨rfl, fun _ => rfl⟩ rfl rfl)
  exact skipped.step (.finish 0) trivial (.finish rfl rfl rfl rfl)

theorem settled_idle (slot : Nat) : settled.tasks slot = none := by
  by_cases same : slot = 0
  · subst same
    rfl
  · have untouched : ∀ {f : Nat → Option (Task Blob Blob)} {task : Option (Task Blob Blob)},
        Function.update f 0 task slot = f slot := fun {_ _} => Function.update_of_ne same _ _
    simp only [settled, written, inherited, onePage, Server.listed, Server.saved, Server.dropped,
      Server.unlinked, Server.look, Server.put, untouched]
    rfl

theorem settled_wrong : ¬ CountsRight showing parseBlob settled.store := by
  intro right
  have stored : settled.store.diffs 2 .previous =
      some ⟨some 1, summariseDiff aliasDiff, aliasDiff⟩ := rfl
  have ⟨row, base, new, old, held, held', parsed, parsed', counts⟩ :=
    right 2 .previous _ 1 stored rfl
  have heirs : settled.store.world.rows.get 2 = some heir := rfl
  have olders : settled.store.world.rows.get 1 = some older := rfl
  rw [heirs] at held
  rw [olders] at held'
  cases held
  cases held'
  have empty : original showing parseBlob settled.store.saved heir = some {} := rfl
  have empty' : original showing parseBlob settled.store.saved older = some {} := rfl
  rw [empty] at parsed
  rw [empty'] at parsed'
  cases parsed
  cases parsed'
  have differ : summariseDiff aliasDiff ≠ summariseDiff (diffConfigs {} {}) := by decide
  exact differ counts

/-- Of two page loads for one backup the second fails on the row of the first; and a row that was
computed for a deleted backup stays with the one that gets its id. -/
theorem requests_collide :
    (∃ server, Runs unguarded server ∧ ¬ NoneFailed server) ∧
    ∃ server, Runs unguarded server ∧ (∀ slot, server.tasks slot = none) ∧
      ¬ CountsRight showing parseBlob server.store := by
  refine ⟨⟨twoWrites, runs_twoWrites, fun safe => ?_⟩, settled, runs_settled, settled_idle,
    settled_wrong⟩
  have failed := safe .integrityError (twoWrites_failures ▸ List.mem_cons_self)
  cases failed

end PfsenseBackups.DiffRequests

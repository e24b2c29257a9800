import PfsenseBackups.StoredBackups

/-! The re-encryption of a list of backups: child processes stage the new files in any order, and
the parent commits each row and swaps its file in as the results come back. -/

namespace PfsenseBackups.Reencryption
open Replication StoredBackups Tables

variable {Bytes Digest Salt : Type} (codec : Codec Bytes Digest Salt)

/-! ### One task -/

/-- What goes wrong with a task. -/
structure Mishaps (Bytes : Type) where
  /-- The child cannot stage its file, or dies, and leaves this in the staging path. -/
  child : Option (Option Bytes)
  commit : Bool
  replace : Bool
  revert : Bool
  /-- The staged file cannot be removed. -/
  unlink : Bool

def finalPath (task : ReencryptTask) : String :=
  resolveBackupPath task.path

def newPath (task : ReencryptTask) : String :=
  finalPath task ++ ".new"

/-- `_reencrypt_one_subprocess`, with the new size that its result tells. -/
def reencryptOneSubprocess (world : World Bytes Digest) (task : ReencryptTask) (salt : Salt)
    (mishaps : Mishaps Bytes) : World Bytes Digest × Option Nat :=
  match reencryptOne codec world task salt with
  | .error _ => (world, none)
  | .ok content =>
    match mishaps.child with
    | none => (world.writeFile (newPath task) content, some (codec.size content))
    | some left => ({ world with files := Function.update world.files (newPath task) left }, none)

def unstage (world : World Bytes Digest) (task : ReencryptTask) (mishaps : Mishaps Bytes) :
    World Bytes Digest :=
  if mishaps.unlink then world else world.unlink (newPath task)

/-- The loop of `_reencrypt_rows` for one result, and whether it counts as a success. -/
def applyResult (world : World Bytes Digest) (task : ReencryptTask) (mishaps : Mishaps Bytes) :
    Option Nat → World Bytes Digest × Bool
  | none => (world, false)
  | some newSize =>
    if mishaps.commit then (unstage world task mishaps, false)
    else
      let oldSize := (world.rows.get task.backupId).map Backup.sizeBytes
      let committed := world.update task.backupId (Backup.reencrypted task.newPassword newSize)
      match committed.files (newPath task), mishaps.replace with
      | some content, false =>
        ((committed.writeFile (finalPath task) content).unlink (newPath task), true)
      | _, _ =>
        let unstaged := unstage committed task mishaps
        if mishaps.revert then (unstaged, false)
        else
          (unstaged.update task.backupId
            (Backup.reencrypted task.oldPassword (oldSize.getD 0)) (Backup.id_reencrypted _ _), false)

/-! ### The pool -/

inductive Stage where
  | waiting
  | staged (newSize : Option Nat)
  | processed
  deriving DecidableEq

/-- `_reencrypt_rows` on its way through its tasks. -/
structure Pool (Bytes Digest : Type) where
  world : World Bytes Digest
  tasks : List (ReencryptTask × Stage)
  success : Nat := 0
  failures : List ReencryptTask := []

namespace Pool

def start (world : World Bytes Digest) (tasks : List ReencryptTask) : Pool Bytes Digest where
  world
  tasks := tasks.map fun task => (task, .waiting)

/-- All results have come in, and the counts are returned. -/
def Returned (pool : Pool Bytes Digest) : Prop :=
  ∀ entry ∈ pool.tasks, entry.2 = .processed

end Pool

inductive PoolStep (salts : Nat → Salt) (mishaps : Nat → Mishaps Bytes) :
    Pool Bytes Digest → Pool Bytes Digest → Prop
  | child {pool : Pool Bytes Digest} {task : ReencryptTask}
      {before after : List (ReencryptTask × Stage)}
      (next : pool.tasks = before ++ (task, .waiting) :: after) :
      PoolStep salts mishaps pool
        { pool with
          world := (reencryptOneSubprocess codec pool.world task (salts task.backupId)
            (mishaps task.backupId)).1
          tasks := before ++ (task, .staged (reencryptOneSubprocess codec pool.world task
            (salts task.backupId) (mishaps task.backupId)).2) :: after }
  | result {pool : Pool Bytes Digest} {task : ReencryptTask} {newSize : Option Nat}
      {before after : List (ReencryptTask × Stage)}
      (next : pool.tasks = before ++ (task, .staged newSize) :: after) :
      PoolStep salts mishaps pool
        { world := (applyResult pool.world task (mishaps task.backupId) newSize).1
          tasks := before ++ (task, .processed) :: after
          success := pool.success +
            if (applyResult pool.world task (mishaps task.backupId) newSize).2 then 1 else 0
          failures := pool.failures ++
            if (applyResult pool.world task (mishaps task.backupId) newSize).2 then [] else [task] }

/-! ### Backups that can be read -/

/-- The stored password opens a row's file to a text, and the stored size is the file's. -/
def Restores (world : World Bytes Digest) (id : Nat) (text : Bytes) : Prop :=
  ∃ row file password, world.rows.get id = some row ∧
    world.files (resolveBackupPath row.path) = some file ∧ row.encryptPassword = some password ∧
    codec.unpack row.compressed file >>= codec.decrypt password = .ok text ∧
    row.sizeBytes = codec.size file

/-- Tasks for different rows whose files lie apart, each of which can be read. -/
structure Ready (world : World Bytes Digest) (tasks : List ReencryptTask) (texts : Nat → Bytes) :
    Prop where
  distinct : (tasks.map ReencryptTask.backupId).Nodup
  tasked : ∀ task ∈ tasks, Tasked world task
  restores : ∀ task ∈ tasks, Restores codec world task.backupId (texts task.backupId)
  apart : ∀ task ∈ tasks, ∀ other ∈ tasks, task.backupId ≠ other.backupId →
    Apart (finalPath task) (finalPath other)

/-- What a child stages. -/
def restaged (salts : Nat → Salt) (texts : Nat → Bytes) (task : ReencryptTask) : Bytes :=
  codec.pack (salts task.backupId) task.compressed
    (codec.encrypt task.newPassword (salts task.backupId) (texts task.backupId))

/-- A row is committed whose file is neither swapped in nor goes with it as it is. -/
def Lapses (world : World Bytes Digest) (salts : Nat → Salt) (mishaps : Nat → Mishaps Bytes)
    (texts : Nat → Bytes) (task : ReencryptTask) : Prop :=
  (mishaps task.backupId).child = none ∧ (mishaps task.backupId).commit = false ∧
    (mishaps task.backupId).replace = true ∧ (mishaps task.backupId).revert = true ∧
    ¬ ∃ file, world.files (finalPath task) = some file ∧
      codec.unpack task.compressed file >>= codec.decrypt task.newPassword =
        .ok (texts task.backupId) ∧ codec.size (restaged codec salts texts task) = codec.size file

variable {codec}

/-! ### What a task leaves of its row and its file -/

section Fates

variable (codec) (world₀ : World Bytes Digest) (salts : Nat → Salt)
  (mishaps : Nat → Mishaps Bytes) (texts : Nat → Bytes)

def commits (task : ReencryptTask) : Bool :=
  (mishaps task.backupId).child.isNone && !(mishaps task.backupId).commit

def swaps (task : ReencryptTask) : Bool :=
  commits mishaps task && !(mishaps task.backupId).replace

def keepsCommit (task : ReencryptTask) : Bool :=
  commits mishaps task && (!(mishaps task.backupId).replace || (mishaps task.backupId).revert)

/-- The row and the file of a task in each of its stages. -/
def AtStage (world : World Bytes Digest) (task : ReencryptTask) : Stage → Prop
  | .waiting =>
    world.rows.get task.backupId = world₀.rows.get task.backupId ∧
      world.files (finalPath task) = world₀.files (finalPath task)
  | .staged newSize =>
    world.rows.get task.backupId = world₀.rows.get task.backupId ∧
      world.files (finalPath task) = world₀.files (finalPath task) ∧
      ((mishaps task.backupId).child.isSome ∧ newSize = none ∨
        (mishaps task.backupId).child = none ∧
          newSize = some (codec.size (restaged codec salts texts task)) ∧
          world.files (newPath task) = some (restaged codec salts texts task))
  | .processed =>
    world.rows.get task.backupId =
        (if keepsCommit mishaps task then (world₀.rows.get task.backupId).map
          (Backup.reencrypted task.newPassword (codec.size (restaged codec salts texts task)))
        else world₀.rows.get task.backupId) ∧
      world.files (finalPath task) =
        if swaps mishaps task then some (restaged codec salts texts task)
        else world₀.files (finalPath task)

end Fates

/-- All that a task's steps change is its own. -/
structure Framed (task : ReencryptTask) (world after : World Bytes Digest) : Prop where
  rows : ∀ id, id ≠ task.backupId → after.rows.get id = world.rows.get id
  files : ∀ path, path ≠ finalPath task → path ≠ newPath task →
    after.files path = world.files path

variable {world₀ world after : World Bytes Digest} {salts : Nat → Salt}
  {mishaps : Nat → Mishaps Bytes} {texts : Nat → Bytes} {task other : ReencryptTask} {stage : Stage}

theorem AtStage.frame (here : AtStage codec world₀ salts mishaps texts world other stage)
    (framed : Framed task world after) (differ : other.backupId ≠ task.backupId)
    (apart : Apart (finalPath other) (finalPath task)) :
    AtStage codec world₀ salts mishaps texts after other stage := by
  obtain ⟨finals, finalNew, newFinal⟩ := apart
  have rows := framed.rows _ differ
  have file := framed.files _ finals finalNew
  have staged : after.files (newPath other) = world.files (newPath other) := by
    refine framed.files _ (Ne.symm newFinal) fun same => finals ?_
    exact (String.append_left_inj _).mp same
  cases stage with
  | waiting => exact ⟨rows.trans here.1, file.trans here.2⟩
  | staged newSize =>
    rw [AtStage, rows, file, staged]
    exact here
  | processed => exact ⟨rows.trans here.1, file.trans here.2⟩

theorem framed_writeFile (world : World Bytes Digest) (content : Option Bytes) :
    Framed task world { world with files := Function.update world.files (newPath task) content } :=
  ⟨fun _ _ => rfl, fun _ _ new => Function.update_of_ne new _ _⟩

theorem Framed.trans {middle : World Bytes Digest} (first : Framed task world middle)
    (second : Framed task middle after) : Framed task world after :=
  ⟨fun id differ => (second.rows id differ).trans (first.rows id differ),
    fun path final new => (second.files path final new).trans (first.files path final new)⟩

theorem framed_refl : Framed task world world :=
  ⟨fun _ _ => rfl, fun _ _ _ => rfl⟩

theorem framed_update (password : String) (size : Nat) :
    Framed task world (world.update task.backupId (Backup.reencrypted password size)) :=
  ⟨fun _ differ => World.get_reencrypted.trans (if_neg differ), fun _ _ _ => rfl⟩

theorem framed_unstage (mishaps : Mishaps Bytes) : Framed task world (unstage world task mishaps) := by
  rw [unstage]
  split
  · exact framed_refl
  · exact framed_writeFile world none

theorem framed_child (salt : Salt) (mishaps : Mishaps Bytes) :
    Framed task world (reencryptOneSubprocess codec world task salt mishaps).1 := by
  rw [reencryptOneSubprocess]
  split
  · exact framed_refl
  · split
    · exact framed_writeFile world _
    · exact framed_writeFile world _

theorem framed_result (mishaps : Mishaps Bytes) (newSize : Option Nat) :
    Framed task world (applyResult world task mishaps newSize).1 := by
  cases newSize with
  | none => exact framed_refl
  | some newSize =>
    rw [applyResult]
    split
    · exact framed_unstage mishaps
    · dsimp only
      split
      · refine (framed_update task.newPassword newSize).trans ⟨fun _ _ => rfl, ?_⟩
        intro path final new
        exact (Function.update_of_ne new _ _).trans (Function.update_of_ne final _ _)
      · have unstaged : Framed task world _ :=
          (framed_update task.newPassword newSize).trans (framed_unstage mishaps)
        split
        · exact unstaged
        · exact unstaged.trans (framed_update _ _)

/-! ### What a task's own steps make of it -/

/-- A file that restores is staged again under the new password. -/
theorem reencryptOne_restored (tasked : Tasked world₀ task)
    (restores : Restores codec world₀ task.backupId (texts task.backupId))
    (file : world.files (finalPath task) = world₀.files (finalPath task)) :
    reencryptOne codec world task (salts task.backupId) = .ok (restaged codec salts texts task) := by
  obtain ⟨row, found, path, compressed, -, stored⟩ := tasked
  obtain ⟨row', content, password, found', read, stored', opens, -⟩ := restores
  obtain rfl : row = row' := Option.some.inj (found.symm.trans found')
  obtain rfl : task.oldPassword = password := Option.some.inj (stored.symm.trans stored')
  rw [finalPath, ← path] at file
  rw [compressed] at opens
  obtain ⟨wrapped, unpacked, decrypted⟩ := bind_ok opens
  rw [reencryptOne, ← path, file, read]
  dsimp only
  rw [unpacked]
  change (codec.decrypt task.oldPassword wrapped >>= _) = _
  rw [decrypted]
  rfl

theorem final_ne_new : finalPath task ≠ newPath task :=
  ne_append_new _

theorem atStage_child (tasked : Tasked world₀ task)
    (restores : Restores codec world₀ task.backupId (texts task.backupId))
    (here : AtStage codec world₀ salts mishaps texts world task .waiting) :
    AtStage codec world₀ salts mishaps texts
      (reencryptOneSubprocess codec world task (salts task.backupId) (mishaps task.backupId)).1 task
      (.staged (reencryptOneSubprocess codec world task (salts task.backupId)
        (mishaps task.backupId)).2) := by
  obtain ⟨row, file⟩ := here
  rw [reencryptOneSubprocess, reencryptOne_restored tasked restores file]
  dsimp only
  cases child : (mishaps task.backupId).child with
  | none =>
    refine ⟨row, (Function.update_of_ne final_ne_new _ _).trans file, .inr ⟨child, rfl, ?_⟩⟩
    exact Function.update_self _ _ _
  | some left =>
    refine ⟨row, (Function.update_of_ne final_ne_new _ _).trans file, .inl ⟨?_, rfl⟩⟩
    rw [child]
    rfl

theorem rows_unstage (mishaps : Mishaps Bytes) : (unstage world task mishaps).rows = world.rows := by
  rw [unstage]
  split <;> rfl

theorem file_unstage (mishaps : Mishaps Bytes) :
    (unstage world task mishaps).files (finalPath task) = world.files (finalPath task) := by
  rw [unstage]
  split
  · rfl
  · exact Function.update_of_ne final_ne_new _ _

/-- The revert writes the old password and size back, so the row is what it was. -/
theorem reverted {row : Backup Digest} (stored : row.encryptPassword = some task.oldPassword)
    (password : String) (size : Nat) :
    (row.reencrypted password size).reencrypted task.oldPassword row.sizeBytes = row := by
  rw [Backup.reencrypted, Backup.reencrypted, ← stored]

section Results

variable {fate : Mishaps Bytes} {newSize : Nat}

/-- The row with the new password, while the file is still the old one. -/
def committed (world : World Bytes Digest) (task : ReencryptTask) (newSize : Nat) :
    World Bytes Digest :=
  world.update task.backupId (Backup.reencrypted task.newPassword newSize)

theorem applyResult_uncommitted (commit : fate.commit = true) :
    applyResult world task fate (some newSize) = (unstage world task fate, false) := by
  rw [applyResult, commit, if_pos rfl]

theorem applyResult_swapped (commit : fate.commit = false) (replace : fate.replace = false)
    {content : Bytes} (new : world.files (newPath task) = some content) :
    applyResult world task fate (some newSize) =
      (((committed world task newSize).writeFile (finalPath task) content).unlink (newPath task),
        true) := by
  have staged : (committed world task newSize).files (newPath task) = some content := new
  rw [applyResult, commit, if_neg Bool.false_ne_true]
  dsimp only
  rw [← committed, staged, replace]

theorem applyResult_kept (commit : fate.commit = false) (replace : fate.replace = true)
    (revert : fate.revert = true) :
    applyResult world task fate (some newSize) =
      (unstage (committed world task newSize) task fate, false) := by
  rw [applyResult, commit, if_neg Bool.false_ne_true]
  dsimp only
  rw [← committed, replace, revert]
  cases (committed world task newSize).files (newPath task) <;> rfl

theorem applyResult_reverted (commit : fate.commit = false) (replace : fate.replace = true)
    (revert : fate.revert = false) :
    applyResult world task fate (some newSize) =
      ((unstage (committed world task newSize) task fate).update task.backupId
        (Backup.reencrypted task.oldPassword
          (((world.rows.get task.backupId).map Backup.sizeBytes).getD 0)), false) := by
  rw [applyResult, commit, if_neg Bool.false_ne_true]
  dsimp only
  rw [← committed, replace, revert]
  cases (committed world task newSize).files (newPath task) <;> rfl

theorem row_committed : (committed world task newSize).rows.get task.backupId =
    (world.rows.get task.backupId).map (Backup.reencrypted task.newPassword newSize) :=
  World.get_reencrypted.trans (if_pos rfl)

end Results

theorem atStage_result (tasked : Tasked world₀ task) {newSize : Option Nat}
    (here : AtStage codec world₀ salts mishaps texts world task (.staged newSize)) :
    AtStage codec world₀ salts mishaps texts
      (applyResult world task (mishaps task.backupId) newSize).1 task .processed := by
  obtain ⟨row, file, ⟨failed, rfl⟩ | ⟨staged, rfl, new⟩⟩ := here
  · have uncommitted : commits mishaps task = false := by
      rw [commits, Option.isNone_eq_false_iff.mpr failed]
      rfl
    rw [AtStage, keepsCommit, swaps, uncommitted]
    exact ⟨row, file⟩
  rw [AtStage, keepsCommit, swaps, commits, staged]
  cases commit : (mishaps task.backupId).commit with
  | true =>
    rw [applyResult_uncommitted commit, rows_unstage, file_unstage]
    exact ⟨row, file⟩
  | false =>
    cases replace : (mishaps task.backupId).replace with
    | false =>
      rw [applyResult_swapped commit replace new]
      refine ⟨?_, (Function.update_of_ne final_ne_new _ _).trans (Function.update_self _ _ _)⟩
      exact row_committed.trans (by rw [row]; rfl)
    | true =>
      cases revert : (mishaps task.backupId).revert with
      | true =>
        rw [applyResult_kept commit replace revert, rows_unstage, file_unstage]
        exact ⟨row_committed.trans (by rw [row]; rfl), file⟩
      | false =>
        obtain ⟨old, found, -, -, -, stored⟩ := tasked
        rw [applyResult_reverted commit replace revert]
        refine ⟨World.get_reencrypted.trans ((if_pos rfl).trans ?_), (file_unstage _).trans file⟩
        rw [rows_unstage, row_committed, row, found]
        exact congrArg some (reverted stored _ _)

/-- A task whose result is handled at once comes to what `reencryptRow` makes of it. -/
theorem applyResult_eq_reencryptRow (salt : Salt) (faults : Nat → Faults) (world : World Bytes Digest)
    (task : ReencryptTask) :
    let fault := faults task.backupId
    let fate : Mishaps Bytes :=
      ⟨if fault.stage then some none else none, fault.commit, fault.replace, fault.revert, false⟩
    let staged := reencryptOneSubprocess codec world task salt fate
    (applyResult staged.1 task fate staged.2).1 =
      StoredBackups.reencryptRow codec salt faults world task := by
  dsimp only
  rw [reencryptOneSubprocess, StoredBackups.reencryptRow]
  cases made : reencryptOne codec world task salt with
  | error text => rfl
  | ok content =>
    dsimp only
    generalize faults task.backupId = fault
    obtain ⟨stage, commit, replace, revert⟩ := fault
    have cleared : ∀ rows uploadedUnder objects, (⟨rows, Function.update (Function.update world.files
        (newPath task) (some content)) (newPath task) none, objects, uploadedUnder⟩ :
          World Bytes Digest) =
        ⟨rows, Function.update world.files (newPath task) none, objects, uploadedUnder⟩ := by
      intro rows uploadedUnder objects
      rw [Function.update_idem]
    cases stage with
    | true => rfl
    | false =>
      cases commit with
      | true => exact cleared _ _ _
      | false =>
        cases replace with
        | true =>
          cases revert with
          | true => exact (congrArg Prod.fst (applyResult_kept rfl rfl rfl)).trans (cleared _ _ _)
          | false =>
            exact (congrArg Prod.fst (applyResult_reverted rfl rfl rfl)).trans (cleared _ _ _)
        | false =>
          have swapped : ∀ rows uploadedUnder objects, (⟨rows, Function.update (Function.update
              (Function.update world.files (newPath task) (some content)) (finalPath task)
                (some content)) (newPath task) none, objects, uploadedUnder⟩ : World Bytes Digest) =
              ⟨rows, Function.update (Function.update world.files (newPath task) none)
                (finalPath task) (some content), objects, uploadedUnder⟩ := by
            intro rows uploadedUnder objects
            rw [Function.update_comm final_ne_new, Function.update_idem]
          exact (congrArg Prod.fst (applyResult_swapped rfl rfl (Function.update_self _ _ _))).trans
            (swapped _ _ _)

/-! ### Runs of the pool -/

/-- Every task is in one of its stages, and the counts are of those that are through. -/
structure Handled (codec : Codec Bytes Digest Salt) (world₀ : World Bytes Digest)
    (tasks : List ReencryptTask) (salts : Nat → Salt) (mishaps : Nat → Mishaps Bytes)
    (texts : Nat → Bytes) (pool : Pool Bytes Digest) : Prop where
  same : pool.tasks.map Prod.fst = tasks
  counts : pool.success + pool.failures.length =
    pool.tasks.countP fun entry => entry.2 = .processed
  stages : ∀ entry ∈ pool.tasks,
    AtStage codec world₀ salts mishaps texts pool.world entry.1 entry.2

variable {tasks : List ReencryptTask} {pool pool' : Pool Bytes Digest}

theorem handled_start : Handled codec world₀ tasks salts mishaps texts (Pool.start world₀ tasks) := by
  refine ⟨?_, ?_, fun entry member => ?_⟩
  · rw [Pool.start, List.map_map]
    exact List.map_id _
  · refine Eq.symm (List.countP_eq_zero.mpr fun entry member => ?_)
    obtain ⟨task, -, rfl⟩ := List.mem_map.mp member
    exact Bool.false_ne_true
  · obtain ⟨task, -, rfl⟩ := List.mem_map.mp member
    exact ⟨rfl, rfl⟩

/-- One task moves on; the others' rows and files are left alone. -/
theorem Handled.others (handled : Handled codec world₀ tasks salts mishaps texts pool)
    (ready : Ready codec world₀ tasks texts) {before later : List (ReencryptTask × Stage)}
    (next : pool.tasks = before ++ (task, stage) :: later)
    (framed : Framed task pool.world after) : ∀ entry ∈ before ++ later,
      AtStage codec world₀ salts mishaps texts after entry.1 entry.2 := by
  have same := handled.same
  have distinct := ready.distinct
  rw [next, List.map_append, List.map_cons] at same
  have listed : ∀ entry ∈ before ++ later, entry.1 ∈ tasks := by
    intro entry member
    rw [← same]
    rcases List.mem_append.mp member with member | member
    · exact List.mem_append_left _ (List.mem_map_of_mem member)
    · exact List.mem_append_right _ (List.mem_cons_of_mem _ (List.mem_map_of_mem member))
  have own : task ∈ tasks := same ▸ List.mem_append_right _ List.mem_cons_self
  rw [← same, List.map_append, List.map_cons] at distinct
  have fresh := (List.nodup_middle.mp distinct)
  rw [List.nodup_cons] at fresh
  intro entry member
  have differ : entry.1.backupId ≠ task.backupId := by
    intro equal
    refine fresh.1 (equal ▸ ?_)
    rw [← List.map_append, ← List.map_append]
    exact List.mem_map_of_mem (List.mem_map_of_mem member)
  have here : entry ∈ pool.tasks := by
    rw [next]
    rcases List.mem_append.mp member with member | member
    · exact List.mem_append_left _ member
    · exact List.mem_append_right _ (List.mem_cons_of_mem _ member)
  exact (handled.stages entry here).frame framed differ
    (ready.apart _ (listed entry member) _ own differ)

theorem Handled.step (handled : Handled codec world₀ tasks salts mishaps texts pool)
    (ready : Ready codec world₀ tasks texts) (taken : PoolStep codec salts mishaps pool pool') :
    Handled codec world₀ tasks salts mishaps texts pool' := by
  have listed : ∀ {before later} {task stage},
      pool.tasks = before ++ (task, stage) :: later → task ∈ tasks := by
    intro before later task stage next
    rw [← handled.same, next]
    exact List.mem_map_of_mem (List.mem_append_right _ List.mem_cons_self)
  have placed : ∀ {world : World Bytes Digest} {before later} {task stage},
      (∀ entry ∈ before ++ later,
        AtStage codec world₀ salts mishaps texts world entry.1 entry.2) →
      AtStage codec world₀ salts mishaps texts world task stage →
      ∀ entry ∈ before ++ (task, stage) :: later,
        AtStage codec world₀ salts mishaps texts world entry.1 entry.2 := by
    intro world before later task stage others own entry member
    rcases List.mem_append.mp member with member | member
    · exact others entry (List.mem_append_left _ member)
    · rcases List.mem_cons.mp member with rfl | member
      · exact own
      · exact others entry (List.mem_append_right _ member)
  have here : ∀ {before later} {task stage}, pool.tasks = before ++ (task, stage) :: later →
      AtStage codec world₀ salts mishaps texts pool.world task stage := by
    intro before later task stage next
    exact handled.stages (task, stage) (next ▸ List.mem_append_right _ List.mem_cons_self)
  have same := handled.same
  have counts := handled.counts
  cases taken with
  | child next =>
    have own := atStage_child (ready.tasked _ (listed next)) (ready.restores _ (listed next))
      (here next)
    rw [next, List.map_append, List.map_cons] at same
    rw [next, List.countP_append, List.countP_cons] at counts
    refine ⟨?_, ?_, placed (handled.others ready next (framed_child _ _)) own⟩
    · rw [List.map_append, List.map_cons, same]
    · rw [List.countP_append, List.countP_cons]
      exact counts
  | @result task newSize before later next =>
    have own := atStage_result (ready.tasked _ (listed next)) (here next)
    rw [next, List.map_append, List.map_cons] at same
    rw [next, List.countP_append, List.countP_cons] at counts
    refine ⟨?_, ?_, placed (handled.others ready next (framed_result _ _)) own⟩
    · rw [List.map_append, List.map_cons, same]
    · rw [List.countP_append, List.countP_cons, List.length_append]
      cases (applyResult pool.world task (mishaps task.backupId) newSize).2 with
      | true =>
        simp at counts ⊢
        omega
      | false =>
        simp at counts ⊢
        omega

theorem handled_of_run (ready : Ready codec world₀ tasks texts)
    (run : Relation.ReflTransGen (PoolStep codec salts mishaps) (Pool.start world₀ tasks) pool) :
    Handled codec world₀ tasks salts mishaps texts pool := by
  induction run with
  | refl => exact handled_start
  | tail _ taken ih => exact ih.step ready taken

/-! ### What the pool leaves -/

theorem restaged_opens (restores : Restores codec world₀ task.backupId (texts task.backupId)) :
    codec.unpack task.compressed (restaged codec salts texts task) >>=
      codec.decrypt task.newPassword = .ok (texts task.backupId) := by
  obtain ⟨row, file, password, -, -, -, opens, -⟩ := restores
  obtain ⟨wrapped, -, decrypted⟩ := bind_ok opens
  rw [restaged, codec.unpack_pack]
  exact codec.decrypt_encrypt _ _ _ (codec.credible_of_decrypt decrypted)

/-- A task's row restores in the end unless the task lapses. -/
theorem restores_processed (tasked : Tasked world₀ task)
    (restores : Restores codec world₀ task.backupId (texts task.backupId))
    (here : AtStage codec world₀ salts mishaps texts world task .processed) :
    Restores codec world task.backupId (texts task.backupId) ↔
      ¬ Lapses codec world₀ salts mishaps texts task := by
  obtain ⟨row, file⟩ := here
  obtain ⟨old, found, path, compressed, -, stored⟩ := tasked
  have located : resolveBackupPath old.path = finalPath task := congrArg resolveBackupPath path
  by_cases committed : keepsCommit mishaps task = true
  · rw [if_pos committed, found, Option.map_some] at row
    by_cases swapped : swaps mishaps task = true
    · rw [if_pos swapped] at file
      refine iff_of_true ?_ fun lapses => ?_
      · refine ⟨_, _, _, row, (congrArg world.files located).trans file, rfl, ?_, rfl⟩
        exact compressed ▸ restaged_opens restores
      · rw [swaps, lapses.2.2.1, Bool.not_true, Bool.and_false] at swapped
        cases swapped
    · rw [if_neg swapped] at file
      have whole : (mishaps task.backupId).child = none ∧ (mishaps task.backupId).commit = false ∧
          (mishaps task.backupId).replace = true ∧ (mishaps task.backupId).revert = true := by
        rw [keepsCommit, Bool.and_eq_true] at committed
        rw [swaps, committed.1, Bool.true_and, Bool.not_eq_true', Bool.not_eq_false] at swapped
        obtain ⟨both, kept⟩ := committed
        rw [commits, Bool.and_eq_true, Option.isNone_iff_eq_none, Bool.not_eq_true'] at both
        rw [swapped] at kept
        exact ⟨both.1, both.2, swapped, kept⟩
      obtain ⟨child, commit, replace, revert⟩ := whole
      constructor
      · rintro ⟨row', file', password, found', read, stored', opens, size⟩ lapses
        obtain rfl := Option.some.inj (row.symm.trans found')
        obtain rfl := Option.some.inj stored'
        refine lapses.2.2.2.2 ⟨file', ?_, compressed ▸ opens, size⟩
        exact file.symm.trans ((congrArg world.files located).symm.trans read)
      · intro spared
        by_contra broken
        refine spared ⟨child, commit, replace, revert, fun ⟨file', read, opens, size⟩ => broken ?_⟩
        exact ⟨_, file', _, row, (congrArg world.files located).trans (file.trans read), rfl,
          compressed ▸ opens, size⟩
  · have unswapped : ¬ swaps mishaps task = true := by
      intro swapped
      rw [swaps, Bool.and_eq_true] at swapped
      rw [keepsCommit, swapped.1, swapped.2] at committed
      exact committed rfl
    rw [if_neg committed] at row
    rw [if_neg unswapped] at file
    refine iff_of_true ?_ fun lapses => committed ?_
    · obtain ⟨row', file', password, found', read, rest⟩ := restores
      obtain rfl := Option.some.inj (found.symm.trans found')
      rw [located] at read
      exact ⟨old, file', password, row.trans found, (congrArg world.files located).trans
        (file.trans read), rest⟩
    · obtain ⟨child, commit, replace, revert, -⟩ := lapses
      rw [keepsCommit, commits, child, commit, replace, revert]
      rfl

/-- When the pool has returned, its counts add up, and all backups restore to what they held if and
only if no task lapses. -/
theorem reencryptRows_restore_iff (ready : Ready codec world₀ tasks texts)
    (run : Relation.ReflTransGen (PoolStep codec salts mishaps) (Pool.start world₀ tasks) pool)
    (returned : pool.Returned) :
    pool.success + pool.failures.length = tasks.length ∧
      ((∀ task ∈ tasks, Restores codec pool.world task.backupId (texts task.backupId)) ↔
        ∀ task ∈ tasks, ¬ Lapses codec world₀ salts mishaps texts task) := by
  have handled := handled_of_run ready run
  constructor
  · rw [handled.counts, ← handled.same, List.length_map, List.countP_eq_length]
    exact fun entry member => decide_eq_true (returned entry member)
  · refine forall₂_congr fun task listed => ?_
    obtain ⟨⟨own, stage⟩, member, same⟩ := List.mem_map.mp (handled.same ▸ listed)
    obtain rfl : own = task := same
    obtain rfl : stage = .processed := returned _ member
    exact restores_processed (ready.tasked own listed) (ready.restores own listed)
      (handled.stages _ member)

/-! ### One backup -/

def oneTask : ReencryptTask :=
  ⟨1, "/backups/edge.xml", false, "spring", "summer"⟩

def springText : Blob :=
  .xml "<?xml version='1.0'?><pfsense/>"

theorem backedUp_ready : Ready showing backedUp [oneTask] fun _ => springText where
  distinct := List.nodup_singleton _
  tasked := by
    intro task member
    obtain rfl := List.mem_singleton.mp member
    exact ⟨_, rfl, rfl, rfl, rfl, rfl⟩
  restores := by
    intro task member
    obtain rfl := List.mem_singleton.mp member
    exact ⟨_, _, _, rfl, rfl, rfl, rfl, rfl⟩
  apart := by
    intro task member other member' differ
    rw [List.mem_singleton.mp member, List.mem_singleton.mp member'] at differ
    exact absurd rfl differ

/-- The pool's two steps for the task, whatever goes wrong. -/
theorem oneTask_run (mishaps : Nat → Mishaps Blob) : ∃ pool,
    Relation.ReflTransGen (PoolStep showing (fun _ => ()) mishaps) (Pool.start backedUp [oneTask])
      pool ∧ pool.Returned ∧
      pool.world = (applyResult
        (reencryptOneSubprocess showing backedUp oneTask () (mishaps 1)).1 oneTask (mishaps 1)
        (reencryptOneSubprocess showing backedUp oneTask () (mishaps 1)).2).1 := by
  let staged := reencryptOneSubprocess showing backedUp oneTask () (mishaps 1)
  let middle : Pool Blob Blob := ⟨staged.1, [(oneTask, .staged staged.2)], 0, []⟩
  have child : PoolStep showing (fun _ => ()) mishaps (Pool.start backedUp [oneTask]) middle :=
    .child (show _ = [] ++ (oneTask, Stage.waiting) :: [] from rfl)
  have result : PoolStep showing (fun _ => ()) mishaps middle _ :=
    .result (show _ = [] ++ (oneTask, Stage.staged staged.2) :: [] from rfl)
  refine ⟨_, (Relation.ReflTransGen.single child).tail result, fun entry member => ?_, rfl⟩
  rw [List.mem_singleton.mp member]

def noMishaps : Mishaps Blob :=
  ⟨none, false, false, false, false⟩

theorem oneTask_restores : ∃ pool,
    Relation.ReflTransGen (PoolStep showing (fun _ => ()) fun _ => noMishaps)
      (Pool.start backedUp [oneTask]) pool ∧ pool.Returned ∧
      pool.success + pool.failures.length = [oneTask].length ∧
        ((∀ task ∈ [oneTask], Restores showing pool.world task.backupId springText) ↔
          ∀ task ∈ [oneTask], ¬ Lapses showing backedUp (fun _ => ()) (fun _ => noMishaps)
            (fun _ => springText) task) := by
  obtain ⟨pool, run, returned, -⟩ := oneTask_run fun _ => noMishaps
  exact ⟨pool, run, returned, reencryptRows_restore_iff backedUp_ready run returned⟩

/-- The swap fails, and so does the revert of the row. -/
def bothFail : Mishaps Blob :=
  ⟨none, false, true, true, false⟩

/-- The row has the new password, its file the old one. -/
theorem bothFail_unreadable : ∃ pool,
    Relation.ReflTransGen (PoolStep showing (fun _ => ()) fun _ => bothFail)
      (Pool.start backedUp [oneTask]) pool ∧ pool.Returned ∧
      ∀ text, ¬ Restores showing pool.world 1 text := by
  obtain ⟨pool, run, returned, left⟩ := oneTask_run fun _ => bothFail
  refine ⟨pool, run, returned, fun text restores => ?_⟩
  rw [left] at restores
  obtain ⟨row, file, password, found, read, stored, opens, -⟩ := restores
  cases found
  cases stored
  cases read
  cases opens

end PfsenseBackups.Reencryption

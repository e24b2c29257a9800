import Mathlib.Data.Prod.Lex
import Mathlib.Data.Finset.Sort
import PfsenseBackups.Jobs
import PfsenseBackups.LockOrder
import PfsenseBackups.Runs

/-! The locks of the worker: a lock for each instance and permits for each host in every process,
and a lock file for each instance that the processes share. -/

namespace PfsenseBackups.InstanceLocks
open Jobs LockOrder Runs

/-! ### Locks -/

/-- What a process keeps in its `InstanceLocks` and its `HostSemaphores`. -/
inductive Lock (Host : Type) where
  | forInstance (process inst : Nat)
  | forUrl (process : Nat) (host : Host)
  deriving DecidableEq

/-- `_HOST_CONCURRENCY` permits for a host. -/
def Lock.capacity {Host : Type} : Lock Host → Nat
  | .forInstance _ _ => 1
  | .forUrl _ _ => 2

theorem Lock.capacity_pos {Host : Type} (lock : Lock Host) : 0 < lock.capacity := by
  cases lock <;> exact Nat.zero_lt_succ _

/-- A lock within a process, or the lock file of an instance. -/
inductive Resource (Host : Type) where
  | lock (lock : Lock Host)
  | file (inst : Nat)
  deriving DecidableEq

/-- An instance's files are written between `enter` and `leave`. A frame that holds an exit stack
which was never closed goes away with `drop`. -/
inductive Work where
  | enter (inst : Nat)
  | leave (inst : Nat)
  | drop (inst : Nat)
  deriving DecidableEq

variable {Host : Type}

abbrev Program (Host : Type) : Type :=
  List (Act (Resource Host) Work)

/-! ### Entry points -/

/-- The writes to an instance's files: `_save_backup` and `_cleanup_old_backups`, or the commit and
the swap of a re-encryption. -/
def critical (inst : Nat) : Program Host :=
  [.work (.enter inst), .work (.leave inst)]

/-- The calls before `_save_backup` return. -/
def saves (events : InstanceEvents) : Bool :=
  (workSteps.takeWhile (· ≠ .save)).all fun step => !events.raises step

/-- A call between the lock file's acquisition and the `try` raises, and the exit stack is left as
it is. -/
def leaks (events : InstanceEvents) : Bool :=
  events.starts && !events.announces

/-- The `try` of `backup_instance`: its permit for the host, then its writes. -/
def tryBody (process inst : Nat) (host : Host) (events : InstanceEvents) : Program Host :=
  (if events.raises .hostSemaphore then [] else within (.lock (.forUrl process host)) []) ++
    if saves events then critical inst else []

/-- `backup_instance`. -/
def backupInstance (process inst : Nat) (host : Host) (events : InstanceEvents) : Program Host :=
  if !events.starts then []
  else if !events.announces then [.acquire (.file inst)]
  else within (.file inst) (tryBody process inst host events)

/-- `backup_instance` under its instance's lock. -/
def lockedBackup (process inst : Nat) (host : Host) (events : InstanceEvents) : Program Host :=
  within (.lock (.forInstance process inst)) (backupInstance process inst host events) ++
    if leaks events then [.work (.drop inst)] else []

/-- What a thread of a worker runs. A re-encryption swaps the rows of the listed instances, each in
its turn. -/
inductive Entry (Host : Type) where
  | fire (usable : Bool) (inst : Nat) (host : Host) (events : InstanceEvents)
  | runBackup (inst : Nat) (host : Host) (events : InstanceEvents)
  | runOne (sweep inst : Nat) (host : Host) (events : InstanceEvents)
  | reencryptBackups (inst swaps : Nat)
  | reencryptAllBackups (iids : Finset Nat) (rows : List Nat)

namespace Entry

def program (process : Nat) : Entry Host → Program Host
  | .fire usable inst host events => if usable then lockedBackup process inst host events else []
  | .runBackup inst host events => lockedBackup process inst host events
  -- `_run_one` of a `backup_all`.
  | .runOne _ inst host events => lockedBackup process inst host events
  | .reencryptBackups inst swaps =>
    within (.lock (.forInstance process inst)) ((List.replicate swaps inst).flatMap critical)
  | .reencryptAllBackups iids rows =>
    withAll ((iids.sort (· ≤ ·)).map fun iid => .lock (.forInstance process iid))
      (rows.flatMap critical)

/-- The `backup_all` whose futures keep the frames of calls that raised. -/
def sweep : Entry Host → Option Nat
  | .runOne sweep _ _ _ => some sweep
  | _ => none

def reencrypts : Entry Host → Bool
  | .reencryptBackups _ _ | .reencryptAllBackups _ _ => true
  | .fire _ _ _ _ | .runBackup _ _ _ | .runOne _ _ _ _ => false

/-- Nothing raises between the lock file and the `try`. -/
def Closes : Entry Host → Prop
  | .fire usable _ _ events => usable = true → leaks events = false
  | .runBackup _ _ events | .runOne _ _ _ events => leaks events = false
  | .reencryptBackups _ _ | .reencryptAllBackups _ _ => True

/-- The rows that are found belong to instances whose locks are held. -/
def Covered : Entry Host → Prop
  | .reencryptAllBackups iids rows => ∀ inst ∈ rows, inst ∈ iids
  | .fire _ _ _ _ | .runBackup _ _ _ | .runOne _ _ _ _ | .reencryptBackups _ _ => True

end Entry

/-! ### Programs -/

/-- Instance locks come first, in the order of the ids, then lock files, then permits. -/
def Resource.rank : Resource Host → Nat ×ₗ Nat
  | .lock (.forInstance _ inst) => toLex (0, inst)
  | .file _ => toLex (1, 0)
  | .lock (.forUrl _ _) => toLex (2, 0)

section Programs

variable {process inst : Nat} {host : Host} {events : InstanceEvents}

theorem plain_critical : Plain (critical inst : Program Host) := by
  intro act member
  rcases List.mem_pair.mp member with rfl | rfl
  · exact ⟨_, rfl⟩
  · exact ⟨_, rfl⟩

theorem plain_criticals (rows : List Nat) : Plain (rows.flatMap critical : Program Host) := by
  intro act member
  obtain ⟨inst, -, here⟩ := List.mem_flatMap.mp member
  exact plain_critical act here

theorem plain_saved : Plain (if saves events then critical inst else [] : Program Host) := by
  split
  · exact plain_critical
  · exact fun _ member => absurd member List.not_mem_nil

theorem tryBody_takes {taken : Resource Host}
    (member : .acquire taken ∈ tryBody process inst host events) :
    taken = .lock (.forUrl process host) := by
  rcases List.mem_append.mp member with member | member
  · split at member
    · cases member
    · exact (mem_within_acquire.mp member).resolve_right List.not_mem_nil
  · exact absurd member plain_saved.untaken

theorem tryBody_balanced : Balanced (tryBody process inst host events) := by
  refine Balanced.append ?_ plain_saved.balanced
  split
  · exact balanced_nil
  · exact balanced_nil.within

theorem tryBody_ordered : Ordered Resource.rank (tryBody process inst host events) := by
  refine Ordered.append_plain ?_ plain_saved
  split
  · trivial
  · exact Ordered.within trivial balanced_nil List.not_mem_nil
      fun _ member => absurd member List.not_mem_nil

theorem tryBody_above {taken : Resource Host}
    (member : .acquire taken ∈ tryBody process inst host events) :
    Resource.rank (.file inst : Resource Host) < taken.rank := by
  obtain rfl := tryBody_takes member
  exact Prod.Lex.toLex_lt_toLex.mpr (.inl (by decide))

theorem tryBody_unfiled : .acquire (.file inst) ∉ tryBody process inst host events := by
  intro member
  cases tryBody_takes member

/-- A call that closes its exit stack has the lock file to itself, or does nothing at all. -/
theorem backupInstance_cases (closes : leaks events = false) :
    backupInstance process inst host events = [] ∨
      backupInstance process inst host events =
        within (.file inst) (tryBody process inst host events) := by
  rw [leaks] at closes
  rw [backupInstance]
  cases starts : events.starts with
  | false => exact .inl rfl
  | true =>
    rw [starts, Bool.true_and, Bool.not_eq_false'] at closes
    rw [closes]
    exact .inr rfl

theorem backupInstance_balanced (closes : leaks events = false) :
    Balanced (backupInstance process inst host events) := by
  rcases backupInstance_cases closes with same | same
  · rw [same]
    exact balanced_nil
  · rw [same]
    exact tryBody_balanced.within

theorem backupInstance_ordered (closes : leaks events = false) :
    Ordered Resource.rank (backupInstance process inst host events) := by
  rcases backupInstance_cases closes with same | same
  · rw [same]
    trivial
  · rw [same]
    exact tryBody_ordered.within tryBody_balanced tryBody_unfiled fun _ => tryBody_above

theorem backupInstance_takes (closes : leaks events = false) {taken : Resource Host}
    (member : .acquire taken ∈ backupInstance process inst host events) :
    taken = .file inst ∨ taken = .lock (.forUrl process host) := by
  rcases backupInstance_cases closes with same | same
  · rw [same] at member
    cases member
  · rw [same] at member
    exact (mem_within_acquire.mp member).imp id tryBody_takes

theorem backupInstance_unlocked (closes : leaks events = false) :
    .acquire (.lock (.forInstance process inst)) ∉ backupInstance process inst host events := by
  intro member
  rcases backupInstance_takes closes member with same | same <;> cases same

theorem lockedBackup_closed (closes : leaks events = false) :
    lockedBackup process inst host events =
      within (.lock (.forInstance process inst)) (backupInstance process inst host events) := by
  rw [lockedBackup, closes]
  exact List.append_nil _

theorem lockedBackup_ordered (closes : leaks events = false) :
    Ordered Resource.rank (lockedBackup process inst host events) := by
  rw [lockedBackup_closed closes]
  refine (backupInstance_ordered closes).within (backupInstance_balanced closes)
    (backupInstance_unlocked closes) fun taken member => ?_
  rcases backupInstance_takes closes member with rfl | rfl
  · exact Prod.Lex.toLex_lt_toLex.mpr (.inl Nat.zero_lt_one)
  · exact Prod.Lex.toLex_lt_toLex.mpr (.inl Nat.zero_lt_two)

/-- All that a closed call works on is its own instance's files. -/
theorem lockedBackup_works (closes : leaks events = false) {work : Work}
    (member : .work work ∈ lockedBackup process inst host events) :
    work = .enter inst ∨ work = .leave inst := by
  rw [lockedBackup_closed closes, mem_within_work] at member
  rcases @backupInstance_cases _ process inst host events closes with same | same
  · rw [same] at member
    cases member
  · rw [same, mem_within_work, tryBody, List.mem_append] at member
    rcases member with member | member
    · split at member
      · cases member
      · exact absurd (mem_within_work.mp member) List.not_mem_nil
    · split at member
      · rcases List.mem_pair.mp member with same | same
        · exact .inl (Act.work.inj same)
        · exact .inr (Act.work.inj same)
      · cases member

/-- The lock file is held under the instance's lock. -/
theorem lockedBackup_filed (closes : leaks events = false) {rest : Program Host} {filed : Nat}
    (suffix : rest <:+ lockedBackup process inst host events) (holds : Holds rest (.file filed)) :
    Holds rest (.lock (.forInstance process filed)) := by
  rw [lockedBackup_closed closes] at suffix
  have balanced := @backupInstance_balanced _ process inst host events closes
  have taken := mem_within_acquire.mp (balanced.within (.file filed) (suffix.subset holds.1))
  rcases taken with same | taken
  · cases same
  · rcases backupInstance_takes closes taken with same | same
    · cases same
      exact holds_of_within balanced (backupInstance_unlocked closes) suffix holds
    · cases same

/-- The writes of a backup are made under both of its locks. -/
theorem lockedBackup_writes (closes : leaks events = false) {rest : Program Host} {written : Nat}
    (suffix : .work (.leave written) :: rest <:+ lockedBackup process inst host events) :
    Holds rest (.lock (.forInstance process written)) ∧ Holds rest (.file written) := by
  obtain rfl : written = inst := by
    rcases lockedBackup_works closes (suffix.subset List.mem_cons_self) with same | same
    · cases same
    · exact Work.leave.inj same
  rw [lockedBackup_closed closes] at suffix
  obtain ⟨inner, within, rfl⟩ := inner_of_within suffix
  refine ⟨holds_at_work (backupInstance_unlocked closes) suffix, Holds.concat ?_⟩
  rcases @backupInstance_cases _ process written host events closes with same | same
  · rw [same] at within
    cases List.suffix_nil.mp within
  · rw [same] at within
    exact holds_at_work tryBody_unfiled within

end Programs

namespace Entry

theorem program_ordered {entry : Entry Host} (closes : entry.Closes) (process : Nat) :
    Ordered Resource.rank (entry.program process) := by
  cases entry with
  | fire usable inst host events =>
    cases usable with
    | true => exact lockedBackup_ordered (closes rfl)
    | false => trivial
  | runBackup inst host events => exact lockedBackup_ordered closes
  | runOne sweep inst host events => exact lockedBackup_ordered closes
  | reencryptBackups inst swaps =>
    have plain := @plain_criticals Host (List.replicate swaps inst)
    exact plain.ordered.within plain.balanced plain.untaken
      fun _ member => absurd member plain.untaken
  | reencryptAllBackups iids rows =>
    have plain := @plain_criticals Host rows
    refine (plain.ordered.withAll plain.balanced ?_ fun _ member => absurd member plain.untaken).1
    rw [List.pairwise_map]
    refine (Finset.sortedLT_sort iids).pairwise.imp fun {first second} lower => ⟨?_, ?_⟩
    · intro same
      cases same
      exact absurd lower (lt_irrefl _)
    · exact Prod.Lex.toLex_lt_toLex.mpr (.inr ⟨rfl, lower⟩)

/-- The backup that an entry runs under its instance's lock. -/
theorem program_backup {entry : Entry Host} (closes : entry.Closes) (backs : entry.reencrypts = false)
    (process : Nat) : entry.program process = [] ∨ ∃ inst host events, leaks events = false ∧
      entry.program process = lockedBackup process inst host events := by
  cases entry with
  | fire usable inst host events =>
    cases usable with
    | true => exact .inr ⟨inst, host, events, closes rfl, rfl⟩
    | false => exact .inl rfl
  | runBackup inst host events => exact .inr ⟨inst, host, events, closes, rfl⟩
  | runOne sweep inst host events => exact .inr ⟨inst, host, events, closes, rfl⟩
  | reencryptBackups | reencryptAllBackups => cases backs

theorem program_balanced {entry : Entry Host} (closes : entry.Closes) (process : Nat) :
    Balanced (entry.program process) := by
  cases backs : entry.reencrypts with
  | false =>
    rcases program_backup closes backs process with same | ⟨inst, host, events, closed, same⟩
    · rw [same]
      exact balanced_nil
    · rw [same, lockedBackup_closed closed]
      exact (backupInstance_balanced closed).within
  | true =>
    cases entry with
    | reencryptBackups inst swaps => exact (plain_criticals _).balanced.within
    | reencryptAllBackups iids rows =>
      exact fun _ given => mem_withAll_acquire.mpr
        ((mem_withAll_release.mp given).symm.imp_right ((plain_criticals _).balanced _))
    | fire | runBackup | runOne => cases backs

/-- A re-encryption takes no lock file. -/
theorem reencrypts_unfiled {entry : Entry Host} (reencrypts : entry.reencrypts = true)
    (process inst : Nat) : .release (.file inst) ∉ entry.program process := by
  cases entry with
  | reencryptBackups own swaps =>
    intro given
    rcases mem_within_release.mp given with given | same
    · exact (plain_criticals _).ungiven given
    · cases same
  | reencryptAllBackups iids rows =>
    intro given
    rcases mem_withAll_release.mp given with given | listed
    · exact (plain_criticals _).ungiven given
    · obtain ⟨iid, -, same⟩ := List.mem_map.mp listed
      cases same
  | fire | runBackup | runOne => cases reencrypts

theorem program_works {entry : Entry Host} (closes : entry.Closes) (process : Nat) {work : Work}
    (member : .work work ∈ entry.program process) :
    ∃ inst, work = .enter inst ∨ work = .leave inst := by
  have plain : ∀ rows : List Nat, .work work ∈ (rows.flatMap critical : Program Host) →
      ∃ inst, work = .enter inst ∨ work = .leave inst := by
    intro rows member
    obtain ⟨inst, -, here⟩ := List.mem_flatMap.mp member
    refine ⟨inst, ?_⟩
    rcases List.mem_pair.mp here with same | same
    · exact .inl (Act.work.inj same)
    · exact .inr (Act.work.inj same)
  cases backs : entry.reencrypts with
  | false =>
    rcases program_backup closes backs process with same | ⟨inst, host, events, closed, same⟩
    · rw [same] at member
      cases member
    · rw [same] at member
      exact ⟨inst, lockedBackup_works closed member⟩
  | true =>
    cases entry with
    | reencryptBackups inst swaps => exact plain _ (mem_within_work.mp member)
    | reencryptAllBackups iids rows => exact plain _ (mem_withAll_work.mp member)
    | fire | runBackup | runOne => cases backs

theorem program_filed {entry : Entry Host} (closes : entry.Closes) (process : Nat)
    {rest : Program Host} {inst : Nat} (suffix : rest <:+ entry.program process)
    (holds : Holds rest (.file inst)) : Holds rest (.lock (.forInstance process inst)) := by
  cases backs : entry.reencrypts with
  | false =>
    rcases program_backup closes backs process with same | ⟨own, host, events, closed, same⟩
    · rw [same] at suffix
      rw [List.suffix_nil.mp suffix] at holds
      exact absurd holds not_holds_nil
    · rw [same] at suffix
      exact lockedBackup_filed closed suffix holds
  | true => exact absurd (suffix.subset holds.1) (reencrypts_unfiled backs process inst)

/-- An instance's files are written under the instance's lock. -/
theorem program_locked {entry : Entry Host} (closes : entry.Closes) (covered : entry.Covered)
    (process : Nat) {rest : Program Host} {inst : Nat}
    (suffix : .work (.leave inst) :: rest <:+ entry.program process) :
    Holds rest (.lock (.forInstance process inst)) := by
  cases backs : entry.reencrypts with
  | false =>
    rcases program_backup closes backs process with same | ⟨own, host, events, closed, same⟩
    · rw [same] at suffix
      cases List.suffix_nil.mp suffix
    · rw [same] at suffix
      exact (lockedBackup_writes closed suffix).1
  | true =>
    have written : ∀ rows : List Nat, .work (.leave inst) ∈ (rows.flatMap critical : Program Host) →
        inst ∈ rows := by
      intro rows member
      obtain ⟨own, listed, here⟩ := List.mem_flatMap.mp member
      rcases List.mem_pair.mp here with same | same
      · cases same
      · cases same
        exact listed
    cases entry with
    | reencryptBackups own swaps =>
      have listed := written _ (mem_within_work.mp (suffix.subset List.mem_cons_self))
      obtain rfl := (List.mem_replicate.mp listed).2
      exact holds_at_work (plain_criticals _).untaken suffix
    | reencryptAllBackups iids rows =>
      have listed := covered inst (written _ (mem_withAll_work.mp (suffix.subset List.mem_cons_self)))
      refine holds_at_work_withAll (fun _ _ => (plain_criticals _).untaken) ?_ suffix
        (List.mem_map_of_mem ((Finset.mem_sort _).mpr listed))
      refine List.Nodup.map (fun first second same => ?_) (Finset.sort_nodup _ _)
      exact (Lock.forInstance.inj (Resource.lock.inj same)).2
    | fire | runBackup | runOne => cases backs

/-- A backup writes under the lock file too. -/
theorem program_writes_filed {entry : Entry Host} (closes : entry.Closes)
    (backs : entry.reencrypts = false) (process : Nat) {rest : Program Host} {inst : Nat}
    (suffix : .work (.leave inst) :: rest <:+ entry.program process) : Holds rest (.file inst) := by
  rcases program_backup closes backs process with same | ⟨own, host, events, closed, same⟩
  · rw [same] at suffix
    cases List.suffix_nil.mp suffix
  · rw [same] at suffix
    exact (lockedBackup_writes closed suffix).2

end Entry

/-! ### Runs -/

structure System (Thread Host : Type) where
  process : Thread → Nat
  entry : Thread → Entry Host

variable {Thread : Type}

structure State (Thread Host : Type) where
  /-- What each thread has still to do. -/
  rest : Thread → Program Host
  holders : Lock Host → List Thread
  /-- The process whose descriptor has locked an instance's file. -/
  files : Nat → Option Nat

def System.start (system : System Thread Host) : State Thread Host where
  rest thread := (system.entry thread).program (system.process thread)
  holders _ := []
  files _ := none

/-- The frames of a sweep's calls go away when all of its calls have ended. -/
def Over (system : System Thread Host) (state : State Thread Host) (thread : Thread) : Prop :=
  ∀ other, system.process other = system.process thread →
    (system.entry other).sweep = (system.entry thread).sweep →
    (system.entry thread).sweep ≠ none →
    ∀ act ∈ state.rest other, ∃ inst, act = .work (.drop inst)

/-- `flock` with `LOCK_UN` on the descriptor of a process. -/
def unlockFile (files : Nat → Option Nat) (process inst : Nat) : Nat → Option Nat :=
  Function.update files inst (if files inst = some process then none else files inst)

/-! ### What the locks say -/

/-- The locks are with the threads whose programs hold them. -/
structure Tracked (system : System Thread Host) (state : State Thread Host) : Prop where
  suffix : ∀ thread, state.rest thread <:+ (system.entry thread).program (system.process thread)
  held : ∀ thread lock, thread ∈ state.holders lock ↔ Holds (state.rest thread) (.lock lock)
  bounded : ∀ lock, (state.holders lock).Nodup ∧ (state.holders lock).length ≤ lock.capacity
  filed : ∀ inst process, state.files inst = some process ↔
    ∃ thread, system.process thread = process ∧ Holds (state.rest thread) (.file inst)

namespace Tracked

variable {system : System Thread Host} {state after : State Thread Host} {thread other : Thread}
  {rest : Program Host}

theorem start (closes : ∀ thread, (system.entry thread).Closes) : Tracked system system.start := by
  have nothing : ∀ thread resource, ¬ Holds (system.start.rest thread) resource := by
    exact fun thread resource => not_holds_of_balanced (Entry.program_balanced (closes thread) _)
  exact {
    suffix := fun thread => List.suffix_refl _
    held := fun thread lock => iff_of_false List.not_mem_nil (nothing thread _)
    bounded := fun lock => ⟨List.nodup_nil, Nat.zero_le _⟩
    filed := fun inst process => iff_of_false (Option.some_ne_none _).symm
      fun ⟨thread, _, holds⟩ => nothing thread _ holds }

/-- A lock with one holder has no other. -/
theorem single (tracked : Tracked system state) {process inst : Nat}
    (first : Holds (state.rest thread) (.lock (.forInstance process inst)))
    (second : Holds (state.rest other) (.lock (.forInstance process inst))) : thread = other := by
  rw [← tracked.held] at first second
  obtain ⟨-, bounded⟩ := tracked.bounded (.forInstance process inst)
  obtain ⟨only, same⟩ := List.length_eq_one_iff.mp
    (le_antisymm bounded (List.length_pos_of_mem first))
  rw [same] at first second
  rw [List.mem_singleton.mp first, List.mem_singleton.mp second]

theorem ordered (tracked : Tracked system state) (closes : (system.entry thread).Closes) :
    Ordered Resource.rank (state.rest thread) :=
  (Entry.program_ordered closes _).suffix (tracked.suffix thread)

end Tracked

variable [DecidableEq Thread] [DecidableEq Host]

open Function in
inductive Step (system : System Thread Host) : State Thread Host → Thread → State Thread Host → Prop
  | take {state : State Thread Host} {thread : Thread} {lock : Lock Host} {rest : Program Host}
      (next : state.rest thread = .acquire (.lock lock) :: rest)
      (free : (state.holders lock).length < lock.capacity) :
      Step system state thread
        { state with
          rest := update state.rest thread rest
          holders := update state.holders lock (thread :: state.holders lock) }
  | giveBack {state : State Thread Host} {thread : Thread} {lock : Lock Host} {rest : Program Host}
      (next : state.rest thread = .release (.lock lock) :: rest) :
      Step system state thread
        { state with
          rest := update state.rest thread rest
          holders := update state.holders lock ((state.holders lock).erase thread) }
  -- A descriptor that has the lock gets it again.
  | flock {state : State Thread Host} {thread : Thread} {inst : Nat} {rest : Program Host}
      (next : state.rest thread = .acquire (.file inst) :: rest)
      (free : ∀ process, state.files inst = some process → process = system.process thread) :
      Step system state thread
        { state with
          rest := update state.rest thread rest
          files := update state.files inst (some (system.process thread)) }
  | unflock {state : State Thread Host} {thread : Thread} {inst : Nat} {rest : Program Host}
      (next : state.rest thread = .release (.file inst) :: rest) :
      Step system state thread
        { state with
          rest := update state.rest thread rest
          files := unlockFile state.files (system.process thread) inst }
  | enter {state : State Thread Host} {thread : Thread} {inst : Nat} {rest : Program Host}
      (next : state.rest thread = .work (.enter inst) :: rest) :
      Step system state thread { state with rest := update state.rest thread rest }
  | leave {state : State Thread Host} {thread : Thread} {inst : Nat} {rest : Program Host}
      (next : state.rest thread = .work (.leave inst) :: rest) :
      Step system state thread { state with rest := update state.rest thread rest }
  -- The generator of a dropped exit stack is closed, and unlocks the file.
  | drop {state : State Thread Host} {thread : Thread} {inst : Nat} {rest : Program Host}
      (next : state.rest thread = .work (.drop inst) :: rest) (ended : Over system state thread) :
      Step system state thread
        { state with
          rest := update state.rest thread rest
          files := unlockFile state.files (system.process thread) inst }

/-! ### What a step does to them -/

namespace Tracked

variable {system : System Thread Host} {state after : State Thread Host} {thread other : Thread}
  {rest : Program Host}

section Frame

omit [DecidableEq Host]

theorem suffix_update (tracked : Tracked system state) {act : Act (Resource Host) Work}
    (next : state.rest thread = act :: rest) (other : Thread) :
    Function.update state.rest thread rest other <:+
      (system.entry other).program (system.process other) := by
  by_cases same : other = thread
  · subst same
    rw [Function.update_self]
    exact (List.suffix_cons act rest).trans (next ▸ tracked.suffix other)
  · rw [Function.update_of_ne same]
    exact tracked.suffix other

theorem held_update (tracked : Tracked system state)
    (same : ∀ lock, Holds rest (.lock lock) ↔ Holds (state.rest thread) (.lock lock))
    (other : Thread) (lock : Lock Host) :
    other ∈ state.holders lock ↔ Holds (Function.update state.rest thread rest other) (.lock lock) := by
  rw [tracked.held]
  by_cases own : other = thread
  · subst own
    rw [Function.update_self, same]
  · rw [Function.update_of_ne own]

theorem filed_update (tracked : Tracked system state)
    (same : ∀ inst, Holds rest (.file inst) ↔ Holds (state.rest thread) (.file inst))
    (inst process : Nat) : state.files inst = some process ↔ ∃ other, system.process other = process ∧
      Holds (Function.update state.rest thread rest other) (.file inst) := by
  rw [tracked.filed]
  refine exists_congr fun other => and_congr_right fun _ => ?_
  by_cases own : other = thread
  · subst own
    rw [Function.update_self, same]
  · rw [Function.update_of_ne own]

/-- A lock file is taken by a process that has it already, or that nobody else keeps from it. -/
theorem flock (tracked : Tracked system state) (closes : (system.entry thread).Closes) {inst : Nat}
    (next : state.rest thread = .acquire (.file inst) :: rest)
    (free : ∀ process, state.files inst = some process → process = system.process thread) :
    Tracked system { state with
      rest := Function.update state.rest thread rest
      files := Function.update state.files inst (some (system.process thread)) } := by
  have ascending := tracked.ordered closes
  rw [next] at ascending
  refine ⟨tracked.suffix_update next, tracked.held_update fun lock => ?_, tracked.bounded,
    fun mine process => ?_⟩
  · rw [next, holds_acquire]
    exact (and_iff_right fun same => by cases same).symm
  · dsimp only
    by_cases same : mine = inst
    · subst same
      rw [Function.update_self, Option.some.injEq]
      constructor
      · intro same
        refine ⟨thread, same, ?_⟩
        rw [Function.update_self]
        exact ascending.1
      · rintro ⟨other, same, holds⟩
        by_cases own : other = thread
        · rw [← own, same]
        · rw [Function.update_of_ne own] at holds
          exact (free process ((tracked.filed mine process).mpr ⟨other, same, holds⟩)).symm
    · rw [Function.update_of_ne same, tracked.filed]
      refine exists_congr fun other => and_congr_right fun _ => ?_
      by_cases own : other = thread
      · subst own
        rw [Function.update_self, next, holds_acquire]
        exact and_iff_right fun equal => same (Resource.file.inj equal)
      · rw [Function.update_of_ne own]

theorem unflock (tracked : Tracked system state) (closes : ∀ thread, (system.entry thread).Closes)
    {inst : Nat} (next : state.rest thread = .release (.file inst) :: rest) :
    Tracked system { state with
      rest := Function.update state.rest thread rest
      files := unlockFile state.files (system.process thread) inst } := by
  have ascending := tracked.ordered (closes thread)
  rw [next] at ascending
  obtain ⟨untaken, ungiven, -⟩ := ascending
  have holding : Holds (state.rest thread) (.file inst) := by
    rw [next, holds_release untaken]
    exact .inl rfl
  have locked := (tracked.filed inst _).mpr ⟨thread, rfl, holding⟩
  refine ⟨tracked.suffix_update next, tracked.held_update fun lock => ?_, tracked.bounded,
    fun mine process => ?_⟩
  · rw [next, holds_release untaken]
    exact (or_iff_right fun same => by cases same).symm
  · dsimp only
    by_cases same : mine = inst
    · subst same
      rw [unlockFile, Function.update_self, if_pos locked]
      refine iff_of_false (Option.some_ne_none _).symm ?_
      -- Another holder would share the process, and with it the instance's lock.
      rintro ⟨other, inProcess, holds⟩
      by_cases own : other = thread
      · subst own
        rw [Function.update_self] at holds
        exact ungiven holds.1
      · rw [Function.update_of_ne own] at holds
        have shared := (tracked.filed mine process).mpr ⟨other, inProcess, holds⟩
        rw [locked, Option.some.injEq] at shared
        have mine := Entry.program_filed (closes thread) _ (tracked.suffix thread) holding
        have theirs := Entry.program_filed (closes other) _ (tracked.suffix other) holds
        rw [inProcess, ← shared] at theirs
        exact own (tracked.single theirs mine)
    · rw [unlockFile, Function.update_of_ne same, tracked.filed]
      refine exists_congr fun other => and_congr_right fun _ => ?_
      by_cases own : other = thread
      · subst own
        rw [Function.update_self, next, holds_release untaken]
        exact or_iff_right fun equal => same (Resource.file.inj equal)
      · rw [Function.update_of_ne own]

theorem work (tracked : Tracked system state) {work : Work}
    (next : state.rest thread = .work work :: rest) :
    Tracked system { state with rest := Function.update state.rest thread rest } :=
  ⟨tracked.suffix_update next, tracked.held_update fun lock => by rw [next, holds_work],
    tracked.bounded, tracked.filed_update fun inst => by rw [next, holds_work]⟩

end Frame

/-- A lock is taken by one more thread. -/
theorem take (tracked : Tracked system state) (closes : (system.entry thread).Closes)
    {lock : Lock Host} (next : state.rest thread = .acquire (.lock lock) :: rest)
    (free : (state.holders lock).length < lock.capacity) :
    Tracked system { state with
      rest := Function.update state.rest thread rest
      holders := Function.update state.holders lock (thread :: state.holders lock) } := by
  have ascending := tracked.ordered closes
  rw [next] at ascending
  have fresh : thread ∉ state.holders lock := by
    rw [tracked.held, next, holds_acquire]
    exact fun holds => holds.1 rfl
  refine ⟨tracked.suffix_update next, fun other mine => ?_, fun mine => ?_,
    tracked.filed_update fun inst => ?_⟩
  · dsimp only
    by_cases own : other = thread
    · subst own
      rw [Function.update_self]
      by_cases same : mine = lock
      · subst same
        rw [Function.update_self]
        exact iff_of_true List.mem_cons_self ascending.1
      · rw [Function.update_of_ne same, tracked.held, next, holds_acquire]
        exact and_iff_right fun equal => same (Resource.lock.inj equal)
    · rw [Function.update_of_ne own, ← tracked.held]
      by_cases same : mine = lock
      · subst same
        rw [Function.update_self, List.mem_cons]
        exact or_iff_right own
      · rw [Function.update_of_ne same]
  · dsimp only
    by_cases same : mine = lock
    · subst same
      rw [Function.update_self, List.nodup_cons, List.length_cons]
      exact ⟨⟨fresh, (tracked.bounded mine).1⟩, free⟩
    · rw [Function.update_of_ne same]
      exact tracked.bounded mine
  · rw [next, holds_acquire]
    exact (and_iff_right fun same => by cases same).symm

theorem giveBack (tracked : Tracked system state) (closes : (system.entry thread).Closes)
    {lock : Lock Host} (next : state.rest thread = .release (.lock lock) :: rest) :
    Tracked system { state with
      rest := Function.update state.rest thread rest
      holders := Function.update state.holders lock ((state.holders lock).erase thread) } := by
  have ascending := tracked.ordered closes
  rw [next] at ascending
  obtain ⟨untaken, ungiven, -⟩ := ascending
  refine ⟨tracked.suffix_update next, fun other mine => ?_, fun mine => ?_,
    tracked.filed_update fun inst => ?_⟩
  · dsimp only
    by_cases own : other = thread
    · subst own
      rw [Function.update_self]
      by_cases same : mine = lock
      · subst same
        rw [Function.update_self, (tracked.bounded mine).1.mem_erase_iff]
        exact iff_of_false (fun member => member.1 rfl) fun holds => ungiven holds.1
      · rw [Function.update_of_ne same, tracked.held, next, holds_release untaken]
        exact or_iff_right fun equal => same (Resource.lock.inj equal)
    · rw [Function.update_of_ne own, ← tracked.held]
      by_cases same : mine = lock
      · subst same
        rw [Function.update_self]
        exact List.mem_erase_of_ne own
      · rw [Function.update_of_ne same]
  · dsimp only
    by_cases same : mine = lock
    · subst same
      rw [Function.update_self]
      exact ⟨(tracked.bounded mine).1.erase _, List.length_erase_le.trans (tracked.bounded mine).2⟩
    · rw [Function.update_of_ne same]
      exact tracked.bounded mine
  · rw [next, holds_release untaken]
    exact (or_iff_right fun same => by cases same).symm

theorem step (tracked : Tracked system state) (closes : ∀ thread, (system.entry thread).Closes)
    (taken : Step system state thread after) : Tracked system after := by
  cases taken with
  | take next free => exact tracked.take (closes thread) next free
  | giveBack next => exact tracked.giveBack (closes thread) next
  | flock next free => exact tracked.flock (closes thread) next free
  | unflock next => exact tracked.unflock closes next
  | enter next => exact tracked.work next
  | leave next => exact tracked.work next
  | drop next ended =>
    have member := (tracked.suffix thread).subset (next ▸ List.mem_cons_self)
    obtain ⟨inst, same | same⟩ := Entry.program_works (closes thread) _ member <;> cases same

end Tracked

/-! ### One writer -/

section Writers

variable {system : System Thread Host} {state after : State Thread Host} {thread : Thread}

/-- The thread is writing an instance's files. -/
def Writes (state : State Thread Host) (thread : Thread) (inst : Nat) : Prop :=
  ∃ rest, state.rest thread = .work (.leave inst) :: rest

/-- An instance's lock is not taken beside that of another process while one of the two holders
re-encrypts. -/
def Allowed (system : System Thread Host) (state : State Thread Host) (thread : Thread) : Prop :=
  ∀ inst rest, state.rest thread =
      .acquire (.lock (.forInstance (system.process thread) inst)) :: rest →
    ∀ other, system.process other ≠ system.process thread →
      other ∈ state.holders (.forInstance (system.process other) inst) →
      (system.entry thread).reencrypts = false ∧ (system.entry other).reencrypts = false

/-- Two processes hold an instance's lock only for their backups. -/
def Separate (system : System Thread Host) (state : State Thread Host) : Prop :=
  ∀ first second inst, system.process first ≠ system.process second →
    first ∈ state.holders (.forInstance (system.process first) inst) →
    second ∈ state.holders (.forInstance (system.process second) inst) →
    (system.entry first).reencrypts = false ∧ (system.entry second).reencrypts = false

theorem Separate.step (separate : Separate system state) (allowed : Allowed system state thread)
    (taken : Step system state thread after) : Separate system after := by
  cases taken with
  | @take lock rest next free =>
    have fresh : ∀ {other mine}, other ∈ Function.update state.holders lock
        (thread :: state.holders lock) mine →
        other = thread ∧ mine = lock ∨ other ∈ state.holders mine := by
      intro other mine member
      by_cases same : mine = lock
      · subst same
        rw [Function.update_self, List.mem_cons] at member
        exact member.imp_left fun own => ⟨own, rfl⟩
      · rw [Function.update_of_ne same] at member
        exact .inr member
    intro first second inst apart firstHolds secondHolds
    rcases fresh firstHolds with ⟨rfl, rfl⟩ | firstHeld
    · rcases fresh secondHolds with ⟨rfl, -⟩ | secondHeld
      · exact absurd rfl apart
      · exact allowed inst rest next second apart.symm secondHeld
    · rcases fresh secondHolds with ⟨rfl, rfl⟩ | secondHeld
      · exact (allowed inst rest next first apart firstHeld).symm
      · exact separate first second inst apart firstHeld secondHeld
  | @giveBack lock rest next =>
    have kept : ∀ {other mine}, other ∈ Function.update state.holders lock
        ((state.holders lock).erase thread) mine → other ∈ state.holders mine := by
      intro other mine member
      by_cases same : mine = lock
      · subst same
        rw [Function.update_self] at member
        exact List.mem_of_mem_erase member
      · rwa [Function.update_of_ne same] at member
    intro first second inst apart firstHolds secondHolds
    exact separate first second inst apart (kept firstHolds) (kept secondHolds)
  | flock | unflock | enter | leave | drop => exact separate

omit [DecidableEq Thread] [DecidableEq Host] in
/-- Two backups of different processes write under one lock file. -/
theorem Tracked.exclusive (tracked : Tracked system state) (separate : Separate system state)
    (closes : ∀ thread, (system.entry thread).Closes)
    (covered : ∀ thread, (system.entry thread).Covered) {first second : Thread} {inst : Nat}
    (firstWrites : Writes state first inst) (secondWrites : Writes state second inst) :
    first = second := by
  have locked : ∀ {thread}, Writes state thread inst →
      Holds (state.rest thread) (.lock (.forInstance (system.process thread) inst)) := by
    rintro thread ⟨rest, next⟩
    rw [next, holds_work]
    exact Entry.program_locked (closes thread) (covered thread) _ (next ▸ tracked.suffix thread)
  have filed : ∀ {thread}, Writes state thread inst → (system.entry thread).reencrypts = false →
      state.files inst = some (system.process thread) := by
    rintro thread ⟨rest, next⟩ backs
    refine (tracked.filed inst _).mpr ⟨thread, rfl, ?_⟩
    rw [next, holds_work]
    exact Entry.program_writes_filed (closes thread) backs _ (next ▸ tracked.suffix thread)
  by_cases same : system.process first = system.process second
  · have mine := locked firstWrites
    rw [same] at mine
    exact tracked.single mine (locked secondWrites)
  · obtain ⟨firstBacks, secondBacks⟩ := separate first second inst same
      ((tracked.held _ _).mpr (locked firstWrites)) ((tracked.held _ _).mpr (locked secondWrites))
    have shared := filed firstWrites firstBacks
    rw [filed secondWrites secondBacks, Option.some.injEq] at shared
    exact absurd shared.symm same

/-- An instance's files have one writer at a time, where nothing raises between a lock file and the
`try`, bulk re-encryptions find rows of locked instances alone, and a re-encryption never holds an
instance's lock beside another process. -/
theorem one_writer (closes : ∀ thread, (system.entry thread).Closes)
    (covered : ∀ thread, (system.entry thread).Covered)
    (reached : Reach (Step system) (Allowed system) system.start state) {first second : Thread}
    {inst : Nat} (firstWrites : Writes state first inst) (secondWrites : Writes state second inst) :
    first = second := by
  have kept : Tracked system state ∧ Separate system state := by
    refine @Reach.invariant _ _ _ _ _ (fun state => Tracked system state ∧ Separate system state)
      ⟨.start closes, fun _ _ _ _ held => absurd held List.not_mem_nil⟩ ?_ _ reached
    rintro before thread after ⟨tracked, separate⟩ allowed taken
    exact ⟨tracked.step closes taken, separate.step allowed taken⟩
  exact kept.1.exclusive kept.2 closes covered firstWrites secondWrites

end Writers

/-! ### No deadlock -/

section Progress

variable {system : System Thread Host} {state : State Thread Host} {thread : Thread}

/-- A thread whose next act finds its lock taken. -/
def Waits (system : System Thread Host) (state : State Thread Host) (thread : Thread) :
    Resource Host → Prop
  | .lock lock => lock.capacity ≤ (state.holders lock).length
  | .file inst => ∃ process, state.files inst = some process ∧ process ≠ system.process thread

omit [DecidableEq Thread] [DecidableEq Host] in
theorem Tracked.holder (tracked : Tracked system state) {resource : Resource Host}
    (waits : Waits system state thread resource) :
    ∃ holder, Holds (state.rest holder) resource := by
  cases resource with
  | lock lock =>
    have full : 0 < (state.holders lock).length := Nat.lt_of_lt_of_le lock.capacity_pos waits
    obtain ⟨holder, member⟩ := List.exists_mem_of_length_pos full
    exact ⟨holder, (tracked.held holder lock).mp member⟩
  | file inst =>
    obtain ⟨process, locked, -⟩ := waits
    obtain ⟨holder, -, holds⟩ := (tracked.filed inst process).mp locked
    exact ⟨holder, holds⟩

/-- A thread that does not wait goes on. -/
theorem Tracked.moves (tracked : Tracked system state) (closes : (system.entry thread).Closes)
    {act : Act (Resource Host) Work} {rest : Program Host} (next : state.rest thread = act :: rest)
    (free : ∀ taken rest, state.rest thread = .acquire taken :: rest →
      ¬ Waits system state thread taken) : ∃ after, Step system state thread after := by
  cases act with
  | acquire resource =>
    have unblocked := free resource rest next
    cases resource with
    | lock lock => exact ⟨_, .take next (Nat.lt_of_not_le unblocked)⟩
    | file inst =>
      refine ⟨_, .flock next fun process locked => ?_⟩
      by_contra different
      exact unblocked ⟨process, locked, different⟩
  | release resource =>
    cases resource with
    | lock lock => exact ⟨_, .giveBack next⟩
    | file inst => exact ⟨_, .unflock next⟩
  | work work =>
    have member := (tracked.suffix thread).subset (next ▸ List.mem_cons_self)
    obtain ⟨inst, rfl | rfl⟩ := Entry.program_works closes _ member
    · exact ⟨_, .enter next⟩
    · exact ⟨_, .leave next⟩

/-- While anything is locked, one of the threads that hold a lock can go on, where nothing raises
between a lock file and the `try`. -/
theorem locks_move [Finite Thread] (closes : ∀ thread, (system.entry thread).Closes)
    (reached : Reach (Step system) unguarded system.start state)
    (busy : (∃ lock, state.holders lock ≠ []) ∨ ∃ inst, state.files inst ≠ none) :
    ∃ holder after, (∃ held, Holds (state.rest holder) held) ∧ Step system state holder after := by
  have tracked : Tracked system state := reached.invariant (.start closes)
    fun _ _ _ tracked _ taken => tracked.step closes taken
  obtain ⟨thread, resource, holds⟩ : ∃ thread resource, Holds (state.rest thread) resource := by
    rcases busy with ⟨lock, some⟩ | ⟨inst, some⟩
    · obtain ⟨thread, member⟩ := List.exists_mem_of_ne_nil _ some
      exact ⟨thread, _, (tracked.held thread lock).mp member⟩
    · obtain ⟨process, locked⟩ := Option.ne_none_iff_exists'.mp some
      obtain ⟨thread, -, holds⟩ := (tracked.filed inst process).mp locked
      exact ⟨thread, _, holds⟩
  obtain ⟨holder, ⟨held, holding⟩, free⟩ := exists_unblocked
    (fun thread => tracked.ordered (closes thread)) tracked.holder holds
  cases next : state.rest holder with
  | nil =>
    rw [next] at holding
    exact absurd holding not_holds_nil
  | cons act rest =>
    obtain ⟨after, taken⟩ := tracked.moves (closes holder) next free
    exact ⟨holder, after, ⟨held, next ▸ holding⟩, taken⟩

end Progress

/-! ### Schedules -/

section Schedules

/-- The step of a thread, up to the frames that go away. -/
def advance (system : System Thread Host) (state : State Thread Host) (thread : Thread) :
    Option (State Thread Host) :=
  match state.rest thread with
  | .acquire (.lock lock) :: rest =>
    if (state.holders lock).length < lock.capacity then
      some { state with
        rest := Function.update state.rest thread rest
        holders := Function.update state.holders lock (thread :: state.holders lock) }
    else none
  | .release (.lock lock) :: rest =>
    some { state with
      rest := Function.update state.rest thread rest
      holders := Function.update state.holders lock ((state.holders lock).erase thread) }
  | .acquire (.file inst) :: rest =>
    if (state.files inst).all (· = system.process thread) then
      some { state with
        rest := Function.update state.rest thread rest
        files := Function.update state.files inst (some (system.process thread)) }
    else none
  | .release (.file inst) :: rest =>
    some { state with
      rest := Function.update state.rest thread rest
      files := unlockFile state.files (system.process thread) inst }
  | .work (.enter _) :: rest | .work (.leave _) :: rest =>
    some { state with rest := Function.update state.rest thread rest }
  | .work (.drop _) :: _ | [] => none

/-- The state after the threads of a schedule have taken their steps. -/
def play (system : System Thread Host) (state : State Thread Host) :
    List Thread → Option (State Thread Host)
  | [] => some state
  | thread :: schedule => (advance system state thread).bind (play system · schedule)

variable {system : System Thread Host} {state after : State Thread Host} {thread : Thread}

theorem step_of_advance (advanced : advance system state thread = some after) :
    Step system state thread after := by
  rw [advance] at advanced
  split at advanced
  case h_1 lock rest next =>
    split at advanced
    · cases advanced
      exact .take next ‹_›
    · cases advanced
  case h_2 lock rest next =>
    cases advanced
    exact .giveBack next
  case h_3 inst rest next =>
    split at advanced
    case isTrue free =>
      cases advanced
      refine .flock next fun process locked => ?_
      rw [locked] at free
      exact of_decide_eq_true free
    case isFalse => cases advanced
  case h_4 inst rest next =>
    cases advanced
    exact .unflock next
  case h_5 inst rest next =>
    cases advanced
    exact .enter next
  case h_6 inst rest next =>
    cases advanced
    exact .leave next
  case h_7 => cases advanced
  case h_8 => cases advanced

theorem reach_of_play {schedule : List Thread} (played : play system state schedule = some after) :
    Reach (Step system) unguarded state after := by
  induction schedule generalizing state with
  | nil =>
    cases played
    exact .refl
  | cons thread schedule ih =>
    obtain ⟨middle, advanced, rest⟩ := Option.bind_eq_some_iff.mp played
    exact (Reach.snoc .refl trivial (step_of_advance advanced)).trans (ih rest)

theorem play_get {schedule : List Thread} (plays : (play system system.start schedule).isSome) :
    Reach (Step system) unguarded system.start ((play system system.start schedule).get plays) :=
  reach_of_play (Option.some_get plays).symm

end Schedules

/-! ### Two workers -/

/-- A backup without incidents. -/
def smooth : InstanceEvents :=
  ⟨fun _ => false, true, false⟩

/-- A thread in each of two processes. -/
def twoWorkers (first second : Entry Unit) : System Bool Unit :=
  ⟨fun thread => if thread then 1 else 0, fun thread => if thread then second else first⟩

/-- One instance's backups, each in its own process. -/
def twoBackups : System Bool Unit :=
  twoWorkers (.fire true 1 () smooth) (.runBackup 1 () smooth)

theorem twoBackups_close : ∀ thread, (twoBackups.entry thread).Closes := by
  intro thread
  cases thread with
  | false => exact fun _ => rfl
  | true => rfl

/-- A backup writes its files while the other one waits for the lock file. -/
theorem twoBackups_writer : ∃ state,
    Reach (Step twoBackups) (Allowed twoBackups) twoBackups.start state ∧ Writes state false 1 ∧
      ∀ second, Writes state second 1 → false = second := by
  have covered : ∀ thread, (twoBackups.entry thread).Covered := by
    intro thread
    cases thread <;> trivial
  have backs : ∀ thread, (twoBackups.entry thread).reencrypts = false := by
    intro thread
    cases thread <;> rfl
  have reached := @play_get _ _ _ _ twoBackups [true, false, false, false, false, false] rfl
  have allowed : Reach (Step twoBackups) (Allowed twoBackups) twoBackups.start _ :=
    Reach.allow (fun _ thread _ _ _ other _ _ => ⟨backs thread, backs other⟩) reached
  exact ⟨_, allowed, ⟨_, rfl⟩, fun second writes =>
    one_writer twoBackups_close covered allowed ⟨_, rfl⟩ writes⟩

/-- One backup has the lock file, and goes on while the other one waits for it. -/
theorem twoBackups_move : ∃ state, Reach (Step twoBackups) unguarded twoBackups.start state ∧
    state.files 1 = some 0 ∧
      ∃ holder after, (∃ held, Holds (state.rest holder) held) ∧ Step twoBackups state holder after := by
  have reached := @play_get _ _ _ _ twoBackups [true, false, false] rfl
  have locked : ((play twoBackups twoBackups.start [true, false, false]).get rfl).files 1 = some 0 :=
    rfl
  exact ⟨_, reached, locked, locks_move twoBackups_close reached
    (.inr ⟨1, by rw [locked]; exact Option.some_ne_none _⟩)⟩

/-- A re-encryption and a backup of one instance, each in its own process. -/
def reencryptionBesideBackup : System Bool Unit :=
  twoWorkers (.reencryptBackups 1 1) (.runBackup 1 () smooth)

/-- Both write the instance's files at the same time. -/
theorem both_write : ∃ state,
    Reach (Step reencryptionBesideBackup) unguarded reencryptionBesideBackup.start state ∧
      Writes state false 1 ∧ Writes state true 1 :=
  ⟨_, @play_get _ _ _ _ _ [false, false, true, true, true, true, true] rfl, ⟨_, rfl⟩, ⟨_, rfl⟩⟩

/-! ### Two sweeps -/

/-- The announcement of a backup's start raises. -/
def unannounced : InstanceEvents :=
  ⟨fun step => step = .publishStarted, true, false⟩

/-- Two workers back up two instances each, in two sweeps; the first call of each sweep raises
before its `try`. -/
def twoSweeps : System (Bool × Bool) Unit where
  process thread := if thread.1 then 1 else 0
  entry
    | (false, false) => .runOne 7 1 () unannounced
    | (false, true) => .runOne 7 2 () smooth
    | (true, false) => .runOne 8 2 () unannounced
    | (true, true) => .runOne 8 1 () smooth

theorem stuck_at_file {system : System Thread Host} {state : State Thread Host} {thread : Thread}
    {inst process : Nat} {rest : Program Host}
    (next : state.rest thread = .acquire (.file inst) :: rest)
    (locked : state.files inst = some process) (other : process ≠ system.process thread)
    (after : State Thread Host) : ¬ Step system state thread after := by
  intro taken
  cases taken with
  | flock reads free =>
    rw [next] at reads
    cases reads
    exact other (free process locked)
  | take reads | giveBack reads | unflock reads | enter reads | leave reads | drop reads =>
    rw [next] at reads
    cases reads

theorem stuck_at_drop {system : System Thread Host} {state : State Thread Host} {thread : Thread}
    {inst : Nat} {rest : Program Host} (next : state.rest thread = .work (.drop inst) :: rest)
    (running : ¬ Over system state thread) (after : State Thread Host) :
    ¬ Step system state thread after := by
  intro taken
  cases taken with
  | drop reads ended => exact running ended
  | take reads | giveBack reads | flock reads | unflock reads | enter reads | leave reads =>
    rw [next] at reads
    cases reads

/-- Each sweep's second call waits for a lock file that a frame of the other sweep keeps, and the
frames wait for the calls. -/
theorem sweeps_stuck : ∃ state, Reach (Step twoSweeps) unguarded twoSweeps.start state ∧
    (false, true) ∈ state.holders (.forInstance 0 2) ∧ state.rest (false, true) ≠ [] ∧
      ∀ thread after, ¬ Step twoSweeps state thread after := by
  obtain ⟨state, played⟩ : ∃ state, play twoSweeps twoSweeps.start
      [(false, false), (false, false), (false, false), (true, false), (true, false), (true, false),
        (false, true), (true, true)] = some state := ⟨_, rfl⟩
  have waits : ∃ first second, state.rest (false, true) = .acquire (.file 2) :: first ∧
      state.rest (true, true) = .acquire (.file 1) :: second := by
    cases played
    exact ⟨_, _, rfl, rfl⟩
  obtain ⟨first, second, firstNext, secondNext⟩ := waits
  have frames : state.rest (false, false) = [.work (.drop 1)] ∧
      state.rest (true, false) = [.work (.drop 2)] := by
    cases played
    exact ⟨rfl, rfl⟩
  have locks : state.files 1 = some 0 ∧ state.files 2 = some 1 ∧
      (false, true) ∈ state.holders (.forInstance 0 2) := by
    cases played
    exact ⟨rfl, rfl, List.mem_cons_self⟩
  refine ⟨state, reach_of_play played, locks.2.2, firstNext ▸ List.cons_ne_nil _ _, ?_⟩
  -- A frame of a sweep outlives its calls.
  have running : ∀ {frame call : Bool × Bool} {inst rest},
      state.rest call = .acquire (.file inst) :: rest →
      twoSweeps.process call = twoSweeps.process frame →
      (twoSweeps.entry call).sweep = (twoSweeps.entry frame).sweep →
      (twoSweeps.entry frame).sweep ≠ none → ¬ Over twoSweeps state frame := by
    intro frame call inst rest next process sweep some ended
    obtain ⟨_, same⟩ := ended call process sweep some _ (next ▸ List.mem_cons_self)
    cases same
  rintro ⟨one | one, two | two⟩
  · exact stuck_at_drop frames.1 (running firstNext rfl rfl (Option.some_ne_none _))
  · exact stuck_at_file firstNext locks.2.1 Nat.one_ne_zero
  · exact stuck_at_drop frames.2 (running secondNext rfl rfl (Option.some_ne_none _))
  · exact stuck_at_file secondNext locks.1 Nat.zero_ne_one

end PfsenseBackups.InstanceLocks

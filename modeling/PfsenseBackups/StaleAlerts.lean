import PfsenseBackups.Runs
import PfsenseBackups.Tables
import Mathlib.Data.List.Induction
import Mathlib.Logic.Function.Basic

/-! The staleness check over sweeps and successful backups in any order. A sweep reads its rows,
alerts about one instance after another and commits its stamps at the end; a backup commits its row,
looks at the stamp, clears it and sends the recovery notice. Times are in microseconds. -/

namespace PfsenseBackups.StaleAlerts
open Runs Tables

/-! ### One instance of a sweep -/

def hour : Nat :=
  3600000000

/-- `RENOTIFY_HOURS` -/
def renotify : Nat :=
  24 * hour

/-- `_FLOOR_HOURS` -/
def floorHours : Nat :=
  1 * hour

/-- `_AUTO_MULTIPLIER` -/
def autoMultiplier : Nat :=
  2

structure Instance where
  id : Nat
  enabled : Bool
  cronExpression : Option String
  staleAfterHours : Option Nat
  createdAt : Option Nat
  staleNotifiedAt : Option Nat

structure Backup where
  instanceId : Nat
  startedAt : Nat
  success : Bool

/-- The start of the newest successful backup. -/
def lastOk (backups : List Backup) (instanceId : Nat) : Option Nat :=
  ((backups.filter fun bkp => bkp.instanceId = instanceId && bkp.success).map
    Backup.startedAt).max?

/-- The stamp does not hold an alert back. -/
def due : Option Nat → Nat → Bool
  | none, _ => true
  | some notified, now => !(now - notified < renotify)

theorem due_some {notified now : Nat} (late : due (some notified) now = true) :
    notified + renotify ≤ now := by
  have apart : ¬ now - notified < renotify := by simpa [due] using late
  have positive : 0 < renotify := by decide
  omega

section Check

-- The next two fires of a cron expression after a time, unless it is invalid.
variable (fires : String → Nat → Option (Nat × Nat))

/-- `derive_threshold_hours` -/
def deriveThreshold (cronExpression : String) (explicitHours : Option Nat) (now : Nat) :
    Option Nat :=
  match explicitHours with
  | some hours => some (hours * hour)
  | none => (fires cronExpression now).map fun next =>
    max ((next.2 - next.1) * autoMultiplier) floorHours

def isStale (reference : Option Nat) (threshold now : Nat) : Bool :=
  match reference with
  | none => true
  | some last => threshold < now - last

/-- Whether a sweep alerts about an instance, as it has read it. -/
def alerts (backups : List Backup) (now : Nat) (inst : Instance) : Bool :=
  if !inst.enabled || inst.cronExpression.getD "" = "" then false
  else
    match deriveThreshold fires (inst.cronExpression.getD "") inst.staleAfterHours now with
    | none => false
    | some threshold =>
      isStale ((lastOk backups inst.id).or inst.createdAt) threshold now &&
        due inst.staleNotifiedAt now

end Check

/-! ### The system -/

/-- What is sent and done, in order. -/
inductive Event where
  | begin (sweep : Nat)
  | alert (sweep instanceId now : Nat)
  /-- A successful backup has looked at the stamp, and goes on to send a recovery notice or not. -/
  | success (instanceId : Nat) (notified : Bool)
  | recovery (instanceId : Nat)
  deriving DecidableEq

def Event.follow (instanceId : Nat) (times : List Nat) : Event → List Nat
  | .alert _ other now => if other = instanceId then now :: times else times
  | .success other _ => if other = instanceId then [] else times
  | _ => times

/-- The times of an instance's alerts since its last successful backup, the newest first. -/
def openAlerts (instanceId : Nat) (log : List Event) : List Nat :=
  log.foldl (Event.follow instanceId) []

structure Sweep where
  id : Nat
  now : Nat
  todo : List Instance
  /-- The instances whose stamps wait for the commit. -/
  alerted : List Nat

/-- How far a successful backup is. -/
inductive Phase where
  | recorded
  | found
  | notifying
  deriving DecidableEq

structure State where
  instances : Table Instance Instance.id
  backups : List Backup
  sweeps : List Sweep
  /-- The successful backup that holds an instance's lock. -/
  running : Nat → Option Phase
  log : List Event

def Instance.stamped (now : Option Nat) (inst : Instance) : Instance :=
  { inst with staleNotifiedAt := now }

theorem Instance.id_stamped (now : Option Nat) (inst : Instance) :
    (inst.stamped now).id = inst.id :=
  rfl

/-- The commit of a sweep. -/
def stampAll (instances : Table Instance Instance.id) (now : Nat) (alerted : List Nat) :
    Table Instance Instance.id :=
  alerted.foldl (fun table id =>
    table.modify id (Instance.stamped (some now)) (Instance.id_stamped (some now))) instances

inductive Op where
  | begin (sweep now : Nat)
  | skip (sweep : Sweep)
  | alert (sweep : Sweep) (inst : Instance)
  | commit (sweep : Sweep)
  | record (instanceId startedAt : Nat)
  | read (instanceId : Nat)
  | clear (instanceId : Nat)
  | notify (instanceId : Nat)

def State.stamp (state : State) (instanceId : Nat) : Option Nat :=
  (state.instances.get instanceId).bind Instance.staleNotifiedAt

def State.turn (state : State) (instanceId : Nat) (phase : Option Phase) : State :=
  { state with running := Function.update state.running instanceId phase }

def State.logged (state : State) (event : Event) : State :=
  { state with log := state.log ++ [event] }

def State.move (state : State) (sweeps : List Sweep) : State :=
  { state with sweeps }

inductive Step (fires : String → Nat → Option (Nat × Nat)) : State → Op → State → Prop
  | begin {state sweep now} (fresh : Event.begin sweep ∉ state.log) :
    Step fires state (.begin sweep now)
      ((state.move (⟨sweep, now, state.instances.rows, []⟩ :: state.sweeps)).logged (.begin sweep))
  | skip {state sweep inst rest before after} (split : state.sweeps = before ++ sweep :: after)
      (next : sweep.todo = inst :: rest)
      (silent : alerts fires state.backups sweep.now inst = false) :
    Step fires state (.skip sweep) (state.move ({ sweep with todo := rest } :: (before ++ after)))
  | alert {state sweep inst rest before after} (split : state.sweeps = before ++ sweep :: after)
      (next : sweep.todo = inst :: rest)
      (alerted : alerts fires state.backups sweep.now inst = true) :
    Step fires state (.alert sweep inst)
      ((state.move ({ sweep with todo := rest, alerted := inst.id :: sweep.alerted } ::
        (before ++ after))).logged (.alert sweep.id inst.id sweep.now))
  | commit {state sweep before after} (split : state.sweeps = before ++ sweep :: after)
      (done : sweep.todo = []) :
    Step fires state (.commit sweep)
      { state.move (before ++ after) with
        instances := stampAll state.instances sweep.now sweep.alerted }
  | record {state instanceId startedAt} (idle : state.running instanceId = none) :
    Step fires state (.record instanceId startedAt)
      { state.turn instanceId (some .recorded) with
        backups := state.backups ++ [⟨instanceId, startedAt, true⟩] }
  -- `_clear_stale_flag` without a row or a stamp
  | pass {state instanceId} (turn : state.running instanceId = some .recorded)
      (unset : state.stamp instanceId = none) :
    Step fires state (.read instanceId)
      ((state.turn instanceId none).logged (.success instanceId false))
  | find {state instanceId stamp} (turn : state.running instanceId = some .recorded)
      (set : state.stamp instanceId = some stamp) :
    Step fires state (.read instanceId) (state.turn instanceId (some .found))
  | clear {state instanceId} (turn : state.running instanceId = some .found) :
    Step fires state (.clear instanceId)
      { (state.turn instanceId (some .notifying)).logged (.success instanceId true) with
        instances := state.instances.modify instanceId (Instance.stamped none)
          (Instance.id_stamped none) }
  | notify {state instanceId} (turn : state.running instanceId = some .notifying) :
    Step fires state (.notify instanceId)
      ((state.turn instanceId none).logged (.recovery instanceId))

/-! ### Alerts that are neither repeated nor lost -/

structure Reported (state : State) : Prop where
  /-- Alerts without a success between them are apart. -/
  spaced : ∀ before sweep id now after, state.log = before ++ .alert sweep id now :: after →
    ∀ earlier ∈ openAlerts id before, earlier + renotify ≤ now
  /-- A success is followed by a notice exactly when an alert is outstanding. -/
  recovered : ∀ before id notified after, state.log = before ++ .success id notified :: after →
    (notified = true ↔ openAlerts id before ≠ [])
  noticed : ∀ id, state.running id ≠ some .notifying →
    state.log.count (.recovery id) = state.log.count (.success id true)
  /-- A stamp that was cleared is only set again by a sweep that began later. -/
  cleared : ∀ before id after, state.log = before ++ .success id true :: after →
    state.stamp id ≠ none →
      ∃ sweep now, .begin sweep ∈ after ∧ .alert sweep id now ∈ after

/-- No stamp for the instance waits for a sweep's commit. -/
def State.Unstaged (state : State) (instanceId : Nat) : Prop :=
  ∀ sweep ∈ state.sweeps, instanceId ∉ sweep.alerted

/-- A sweep alerts when the instance's present stamp is due as well, none waits for a commit, and no
backup has cleared it since the sweep began; and a backup takes the stamp for unset, or clears it,
when none waits for a commit. -/
def Allowed (state : State) : Op → Prop
  | .alert sweep inst => due (state.stamp inst.id) sweep.now = true ∧ state.Unstaged inst.id ∧
    ∀ before after, state.log = before ++ .begin sweep.id :: after → .success inst.id true ∉ after
  | .read instanceId => state.stamp instanceId = none → state.Unstaged instanceId
  | .clear instanceId => state.Unstaged instanceId
  | _ => True

/-! ### The log -/

section Log

variable {id : Nat} {log before after : List Event} {event : Event}

theorem openAlerts_snoc : openAlerts id (log ++ [event]) = event.follow id (openAlerts id log) :=
  List.foldl_append

/-- What is open after a success was sent after it. -/
theorem exists_alert {notified : Bool}
    (left : openAlerts id (before ++ .success id notified :: after) ≠ []) :
    ∃ sweep now, .alert sweep id now ∈ after := by
  induction after using List.reverseRecOn with
  | nil =>
    rw [openAlerts_snoc, Event.follow, if_pos rfl] at left
    exact absurd rfl left
  | append_singleton after event ih =>
    rw [← List.cons_append, ← List.append_assoc, openAlerts_snoc] at left
    cases event with
    | alert sweep other now =>
      by_cases same : other = id
      · subst same
        exact ⟨sweep, now, List.mem_append_right _ (List.mem_singleton_self _)⟩
      · rw [Event.follow, if_neg same] at left
        obtain ⟨sweep, now, sent⟩ := ih left
        exact ⟨sweep, now, List.mem_append_left _ sent⟩
    | success other notified =>
      by_cases same : other = id
      · rw [Event.follow, if_pos same] at left
        exact absurd rfl left
      · rw [Event.follow, if_neg same] at left
        obtain ⟨sweep, now, sent⟩ := ih left
        exact ⟨sweep, now, List.mem_append_left _ sent⟩
    | begin | recovery =>
      obtain ⟨sweep, now, sent⟩ := ih left
      exact ⟨sweep, now, List.mem_append_left _ sent⟩

/-- An event before which there is no other one comes after it. -/
theorem mem_back {other : Event} (split : log = before ++ other :: after) (member : event ∈ log)
    (differ : event ≠ other) (none : ∀ front back, log = front ++ event :: back → other ∉ back) :
    event ∈ after := by
  rw [split] at member
  rcases List.mem_append.mp member with early | late
  · obtain ⟨front, back, same⟩ := List.append_of_mem early
    refine absurd (List.mem_append_right back List.mem_cons_self)
      (none front (back ++ other :: after) ?_)
    rw [split, same, List.append_assoc, List.cons_append]
  · exact (List.mem_cons.mp late).resolve_left differ

/-- What an event must find. -/
def Fair (before : List Event) : Event → Prop
  | .alert sweep id now => (∀ earlier ∈ openAlerts id before, earlier + renotify ≤ now) ∧
    ∀ front back, before = front ++ .success id true :: back → .begin sweep ∈ back
  | .success id notified => notified = true ↔ openAlerts id before ≠ []
  | _ => True

theorem fair_snoc
    (fair : ∀ before other after, log = before ++ other :: after → Fair before other)
    (last : Fair log event) :
    ∀ before other after, log ++ [event] = before ++ other :: after → Fair before other := by
  intro before other after split
  rcases List.eq_nil_or_concat after with rfl | ⟨front, final, rfl⟩
  · obtain ⟨rfl, same⟩ := List.append_inj' split rfl
    obtain rfl := List.head_eq_of_cons_eq same
    exact last
  · rw [List.concat_eq_append, ← List.cons_append, ← List.append_assoc] at split
    exact fair before other front (List.append_inj' split rfl).1

end Log

/-! ### The invariant -/

/-- The notices a backup still has to send. -/
def owed : Option Phase → Nat
  | some .notifying => 1
  | _ => 0

theorem owed_of_ne {phase : Option Phase} (quiet : phase ≠ some .notifying) : owed phase = 0 := by
  unfold owed
  split
  · exact absurd rfl quiet
  · rfl

structure Inv (state : State) : Prop where
  /-- A stamp that no commit is due for is the time of the newest open alert. -/
  settled : ∀ id, state.Unstaged id → state.stamp id = (openAlerts id state.log).head?
  staged : ∀ sweep ∈ state.sweeps, ∀ id ∈ sweep.alerted,
    (openAlerts id state.log).head? = some sweep.now
  present : ∀ sweep ∈ state.sweeps, ∀ id ∈ sweep.alerted ++ sweep.todo.map Instance.id,
    state.instances.get id ≠ none
  begun : ∀ sweep ∈ state.sweeps, .begin sweep.id ∈ state.log
  latest : ∀ id, ∀ newest ∈ (openAlerts id state.log).head?,
    ∀ earlier ∈ openAlerts id state.log, earlier ≤ newest
  found : ∀ id, state.running id = some .found → state.stamp id ≠ none
  noticed : ∀ id, state.log.count (.success id true) =
    state.log.count (.recovery id) + owed (state.running id)
  fair : ∀ before event after, state.log = before ++ event :: after → Fair before event

variable {fires : String → Nat → Option (Nat × Nat)} {state next : State}

theorem Inv.open_of_stamp (inv : Inv state) {id : Nat} (set : state.stamp id ≠ none) :
    openAlerts id state.log ≠ [] := by
  intro none
  by_cases unstaged : state.Unstaged id
  · rw [inv.settled id unstaged, none] at set
    exact set rfl
  · simp only [State.Unstaged, not_forall, not_not] at unstaged
    obtain ⟨sweep, member, alerted⟩ := unstaged
    have newest := inv.staged sweep member id alerted
    rw [none] at newest
    cases newest

theorem Inv.reported (inv : Inv state) : Reported state where
  spaced before sweep id now after split := (inv.fair _ _ _ split).1
  recovered before id notified after split := inv.fair _ _ _ split
  noticed id quiet := by
    have balance := inv.noticed id
    rw [owed_of_ne quiet] at balance
    exact balance.symm
  cleared before id after split set := by
    have left := inv.open_of_stamp set
    rw [split] at left
    obtain ⟨sweep, now, sent⟩ := exists_alert left
    obtain ⟨front, back, same⟩ := List.append_of_mem sent
    have whole : state.log =
        (before ++ .success id true :: front) ++ .alert sweep id now :: back := by
      rw [split, same, List.append_assoc, List.cons_append]
    have began := (inv.fair _ _ _ whole).2 before front rfl
    exact ⟨sweep, now, same ▸ List.mem_append_left _ began, sent⟩

/-- A step that sends nothing and leaves the stamps. -/
theorem Inv.silent (inv : Inv state) {sweeps : List Sweep} {running : Nat → Option Phase}
    {backups : List Backup}
    (unstaged : ∀ id, ({ state with sweeps } : State).Unstaged id → state.Unstaged id)
    (sound : ∀ sweep ∈ sweeps, ∃ earlier ∈ state.sweeps, sweep.id = earlier.id ∧
      sweep.now = earlier.now ∧ sweep.alerted = earlier.alerted ∧ sweep.todo ⊆ earlier.todo)
    (found : ∀ id, running id = some .found → state.stamp id ≠ none)
    (same : ∀ id, owed (running id) = owed (state.running id)) :
    Inv { state with sweeps, running, backups } where
  settled id free := inv.settled id (unstaged id free)
  staged sweep member id alerted := by
    obtain ⟨earlier, held, -, now, ids, -⟩ := sound sweep member
    rw [now]
    exact inv.staged earlier held id (ids ▸ alerted)
  present sweep member id listed := by
    obtain ⟨earlier, held, -, -, ids, fewer⟩ := sound sweep member
    refine inv.present earlier held id ?_
    rw [← ids]
    exact (List.mem_append.mp listed).elim (List.mem_append_left _)
      fun later => List.mem_append_right _ (List.map_subset _ fewer later)
  begun sweep member := by
    obtain ⟨earlier, held, same, -⟩ := sound sweep member
    rw [same]
    exact inv.begun earlier held
  latest := inv.latest
  found := found
  noticed id := by
    rw [same]
    exact inv.noticed id
  fair := inv.fair

theorem Inv.begin (inv : Inv state) {sweep now : Nat} : Inv
    ((state.move (⟨sweep, now, state.instances.rows, []⟩ :: state.sweeps)).logged
      (.begin sweep)) := by
  have same : ∀ id, openAlerts id (state.log ++ [.begin sweep]) = openAlerts id state.log :=
    fun id => openAlerts_snoc
  constructor <;> dsimp only [State.logged, State.move]
  · intro id free
    rw [same]
    exact inv.settled id fun other held => free other (List.mem_cons_of_mem _ held)
  · intro other member id alerted
    rw [same]
    rcases List.mem_cons.mp member with rfl | held
    · exact absurd alerted List.not_mem_nil
    · exact inv.staged other held id alerted
  · intro other member id listed
    rcases List.mem_cons.mp member with rfl | held
    · obtain ⟨inst, read, rfl⟩ := List.mem_map.mp listed
      rw [Table.get_of_mem read]
      exact Option.some_ne_none inst
    · exact inv.present other held id listed
  · intro other member
    rcases List.mem_cons.mp member with rfl | held
    · exact List.mem_append_right _ (List.mem_singleton_self _)
    · exact List.mem_append_left _ (inv.begun other held)
  · intro id
    rw [same]
    exact inv.latest id
  · exact inv.found
  · intro id
    rw [List.count_append, List.count_append]
    exact inv.noticed id
  · exact fair_snoc inv.fair trivial

theorem Inv.alert (inv : Inv state) {sweep : Sweep} {inst : Instance} {rest : List Instance}
    {before after : List Sweep} (split : state.sweeps = before ++ sweep :: after)
    (next : sweep.todo = inst :: rest) (allowed : Allowed state (.alert sweep inst)) : Inv
      ((state.move ({ sweep with todo := rest, alerted := inst.id :: sweep.alerted } ::
        (before ++ after))).logged (.alert sweep.id inst.id sweep.now)) := by
  obtain ⟨late, unstaged, since⟩ := allowed
  have member := mem_of_pending split
  have settled := inv.settled inst.id unstaged
  have spaced : ∀ earlier ∈ openAlerts inst.id state.log, earlier + renotify ≤ sweep.now := by
    intro earlier sent
    obtain ⟨newest, head⟩ := Option.isSome_iff_exists.mp
      (List.isSome_head?.mpr (List.ne_nil_of_mem sent))
    rw [settled, head] at late
    have bound := inv.latest inst.id newest head earlier sent
    exact Nat.le_trans (Nat.add_le_add_right bound renotify) (due_some late)
  have own : openAlerts inst.id (state.log ++ [.alert sweep.id inst.id sweep.now]) =
      sweep.now :: openAlerts inst.id state.log := by
    rw [openAlerts_snoc, Event.follow, if_pos rfl]
  have other : ∀ id, inst.id ≠ id →
      openAlerts id (state.log ++ [.alert sweep.id inst.id sweep.now]) =
        openAlerts id state.log := by
    intro id differ
    rw [openAlerts_snoc, Event.follow, if_neg differ]
  constructor <;> dsimp only [State.logged, State.move]
  · intro id free
    have differ : inst.id ≠ id := by
      rintro rfl
      exact free _ List.mem_cons_self List.mem_cons_self
    rw [other id differ]
    refine inv.settled id fun held inside alerted => ?_
    rw [split] at inside
    rcases List.mem_append.mp inside with front | back
    · exact free held (List.mem_cons_of_mem _ (List.mem_append_left _ front)) alerted
    · rcases List.mem_cons.mp back with rfl | back
      · exact free _ List.mem_cons_self (List.mem_cons_of_mem _ alerted)
      · exact free held (List.mem_cons_of_mem _ (List.mem_append_right _ back)) alerted
  · intro held inside id alerted
    by_cases same : inst.id = id
    · subst same
      rw [own]
      rcases List.mem_cons.mp inside with rfl | earlier
      · rfl
      · exact absurd alerted (unstaged held (mem_of_split split earlier))
    · rw [other id same]
      rcases List.mem_cons.mp inside with rfl | earlier
      · exact inv.staged sweep member id ((List.mem_cons.mp alerted).resolve_left (Ne.symm same))
      · exact inv.staged held (mem_of_split split earlier) id alerted
  · intro held inside id listed
    rcases List.mem_cons.mp inside with rfl | earlier
    · refine inv.present sweep member id ?_
      rw [next, List.map_cons]
      exact List.perm_middle.mem_iff.mpr listed
    · exact inv.present held (mem_of_split split earlier) id listed
  · intro held inside
    refine List.mem_append_left _ ?_
    rcases List.mem_cons.mp inside with rfl | earlier
    · exact inv.begun sweep member
    · exact inv.begun held (mem_of_split split earlier)
  · intro id newest head earlier sent
    by_cases same : inst.id = id
    · subst same
      rw [own] at head sent
      obtain rfl := Option.some.inj head
      rcases List.mem_cons.mp sent with rfl | old
      · exact Nat.le_refl _
      · exact Nat.le_trans (Nat.le_add_right earlier renotify) (spaced earlier old)
    · rw [other id same] at head sent
      exact inv.latest id newest head earlier sent
  · exact inv.found
  · intro id
    rw [List.count_append, List.count_append]
    exact inv.noticed id
  · refine fair_snoc inv.fair ⟨spaced, fun front back same => ?_⟩
    exact mem_back same (inv.begun sweep member) Event.noConfusion since

/-! ### Stamps -/

theorem get_stampAll {instances : Table Instance Instance.id} {now : Nat} {alerted : List Nat}
    {id : Nat} : (stampAll instances now alerted).get id =
      if id ∈ alerted then (instances.get id).map (Instance.stamped (some now))
      else instances.get id := by
  induction alerted generalizing instances with
  | nil => rfl
  | cons first alerted ih =>
    rw [stampAll, List.foldl_cons, ← stampAll, ih, Table.get_modify]
    by_cases same : id = first
    · rw [if_pos same, if_pos (List.mem_cons.mpr (.inl same)), Option.map_map]
      exact ite_self _
    · rw [if_neg same]
      exact if_congr (by simp [same]) rfl rfl

theorem Inv.commit (inv : Inv state) {sweep : Sweep} {before after : List Sweep}
    (split : state.sweeps = before ++ sweep :: after) : Inv
      { state.move (before ++ after) with
        instances := stampAll state.instances sweep.now sweep.alerted } := by
  have member := mem_of_pending split
  have stamped : ∀ id ∈ sweep.alerted,
      ((stampAll state.instances sweep.now sweep.alerted).get id).bind Instance.staleNotifiedAt =
        some sweep.now := by
    intro id alerted
    have there := inv.present sweep member id (List.mem_append_left _ alerted)
    obtain ⟨inst, found⟩ := Option.ne_none_iff_exists'.mp there
    rw [get_stampAll, if_pos alerted, found]
    rfl
  have other : ∀ id ∉ sweep.alerted,
      ((stampAll state.instances sweep.now sweep.alerted).get id).bind Instance.staleNotifiedAt =
        state.stamp id := by
    intro id silent
    rw [get_stampAll, if_neg silent]
    rfl
  constructor <;> dsimp only [State.move]
  · intro id free
    by_cases alerted : id ∈ sweep.alerted
    · exact (stamped id alerted).trans (inv.staged sweep member id alerted).symm
    · refine (other id alerted).trans (inv.settled id fun held inside => ?_)
      rw [split] at inside
      rcases List.mem_append.mp inside with front | back
      · exact free held (List.mem_append_left _ front)
      · rcases List.mem_cons.mp back with rfl | back
        · exact alerted
        · exact free held (List.mem_append_right _ back)
  · exact fun held inside => inv.staged held (mem_of_split split inside)
  · intro held inside id listed
    rw [get_stampAll]
    have there := inv.present held (mem_of_split split inside) id listed
    split_ifs
    · exact fun none => there (Option.map_eq_none_iff.mp none)
    · exact there
  · exact fun held inside => inv.begun held (mem_of_split split inside)
  · exact inv.latest
  · intro id turn
    by_cases alerted : id ∈ sweep.alerted
    · exact fun none => Option.some_ne_none _ ((stamped id alerted).symm.trans none)
    · exact fun none => inv.found id turn ((other id alerted).symm.trans none)
  · exact inv.noticed
  · exact inv.fair

/-- A successful backup has looked at the stamp, and leaves none. -/
theorem Inv.success (inv : Inv state) {instanceId : Nat} {notified : Bool} {phase : Option Phase}
    {instances : Table Instance Instance.id} (unstaged : state.Unstaged instanceId)
    (told : notified = true ↔ state.stamp instanceId ≠ none)
    (idle : state.running instanceId ≠ some .notifying)
    (turn : phase = if notified then some .notifying else none)
    (unset : (instances.get instanceId).bind Instance.staleNotifiedAt = none)
    (others : ∀ id, id ≠ instanceId → instances.get id = state.instances.get id)
    (kept : ∀ id, state.instances.get id ≠ none → instances.get id ≠ none) : Inv
      { (state.turn instanceId phase).logged (.success instanceId notified) with instances } := by
  have own : openAlerts instanceId (state.log ++ [.success instanceId notified]) = [] := by
    rw [openAlerts_snoc, Event.follow, if_pos rfl]
  have other : ∀ id, instanceId ≠ id →
      openAlerts id (state.log ++ [.success instanceId notified]) = openAlerts id state.log := by
    intro id differ
    rw [openAlerts_snoc, Event.follow, if_neg differ]
  constructor <;> dsimp only [State.logged, State.turn]
  · intro id free
    by_cases same : instanceId = id
    · subst same
      rw [own]
      exact unset
    · rw [other id same, State.stamp, others id (Ne.symm same)]
      exact inv.settled id free
  · intro sweep member id alerted
    have differ : instanceId ≠ id := by
      rintro rfl
      exact unstaged sweep member alerted
    rw [other id differ]
    exact inv.staged sweep member id alerted
  · exact fun sweep member id listed => kept id (inv.present sweep member id listed)
  · exact fun sweep member => List.mem_append_left _ (inv.begun sweep member)
  · intro id newest head earlier sent
    by_cases same : instanceId = id
    · subst same
      rw [own] at sent
      exact absurd sent List.not_mem_nil
    · rw [other id same] at head sent
      exact inv.latest id newest head earlier sent
  · intro id running
    by_cases same : id = instanceId
    · subst same
      rw [Function.update_self, turn] at running
      split at running <;> cases running
    · rw [Function.update_of_ne same] at running
      rw [State.stamp, others id same]
      exact inv.found id running
  · intro id
    have balance := inv.noticed id
    rw [List.count_append, List.count_append, List.count_singleton, List.count_singleton]
    by_cases same : id = instanceId
    · subst same
      rw [owed_of_ne idle] at balance
      rw [Function.update_self, turn, balance]
      cases notified <;> simp [owed]
    · have quiet : (Event.success instanceId notified == .success id true) = false := by
        simp [Ne.symm same]
      rw [Function.update_of_ne same, quiet, balance]
      simp
  · refine fair_snoc inv.fair ?_
    rw [Fair, told, inv.settled instanceId unstaged, ne_eq, List.head?_eq_none_iff]

theorem Inv.notify (inv : Inv state) {instanceId : Nat}
    (turn : state.running instanceId = some .notifying) :
    Inv ((state.turn instanceId none).logged (.recovery instanceId)) := by
  have same : ∀ id, openAlerts id (state.log ++ [.recovery instanceId]) = openAlerts id state.log :=
    fun id => openAlerts_snoc
  constructor <;> dsimp only [State.logged, State.turn]
  · intro id free
    rw [same]
    exact inv.settled id free
  · intro sweep member id alerted
    rw [same]
    exact inv.staged sweep member id alerted
  · exact inv.present
  · exact fun sweep member => List.mem_append_left _ (inv.begun sweep member)
  · intro id
    rw [same]
    exact inv.latest id
  · intro id running
    by_cases own : id = instanceId
    · subst own
      rw [Function.update_self] at running
      cases running
    · rw [Function.update_of_ne own] at running
      exact inv.found id running
  · intro id
    have balance := inv.noticed id
    rw [List.count_append, List.count_append, List.count_singleton, List.count_singleton]
    by_cases own : id = instanceId
    · subst own
      rw [turn] at balance
      rw [Function.update_self, balance]
      simp [owed]
    · have quiet : (Event.recovery instanceId == .recovery id) = false := by
        simp [Ne.symm own]
      rw [Function.update_of_ne own, quiet, balance]
      simp
  · exact fair_snoc inv.fair trivial

/-- A backup's turn that sends nothing. -/
theorem Inv.turn (inv : Inv state) {instanceId : Nat} {phase : Phase} {backups : List Backup}
    (idle : owed (state.running instanceId) = 0) (silent : owed (some phase) = 0)
    (found : some phase = some .found → state.stamp instanceId ≠ none) :
    Inv { state.turn instanceId (some phase) with backups } := by
  refine inv.silent (fun id free => free)
    (fun sweep member => ⟨sweep, member, rfl, rfl, rfl, List.Subset.refl _⟩) ?_ ?_
  · intro id running
    dsimp only [State.turn] at running
    by_cases own : id = instanceId
    · subst own
      rw [Function.update_self] at running
      exact found running
    · rw [Function.update_of_ne own] at running
      exact inv.found id running
  · intro id
    dsimp only [State.turn]
    by_cases own : id = instanceId
    · subst own
      rw [Function.update_self, silent, idle]
    · rw [Function.update_of_ne own]

theorem Inv.step (inv : Inv state) {op : Op} (allowed : Allowed state op)
    (taken : Step fires state op next) : Inv next := by
  cases taken with
  | begin => exact inv.begin
  | @skip sweep inst rest before after split todo silent =>
    refine inv.silent ?_ ?_ inv.found fun id => rfl
    · intro id free held inside alerted
      rw [split] at inside
      rcases List.mem_append.mp inside with front | back
      · exact free held (List.mem_cons_of_mem _ (List.mem_append_left _ front)) alerted
      · rcases List.mem_cons.mp back with rfl | back
        · exact free _ List.mem_cons_self alerted
        · exact free held (List.mem_cons_of_mem _ (List.mem_append_right _ back)) alerted
    · intro held inside
      rcases List.mem_cons.mp inside with rfl | earlier
      · refine ⟨sweep, mem_of_pending split, rfl, rfl, rfl, ?_⟩
        rw [todo]
        exact List.subset_cons_self inst rest
      · exact ⟨held, mem_of_split split earlier, rfl, rfl, rfl, List.Subset.refl _⟩
  | alert split todo alerted => exact inv.alert split todo allowed
  | commit split done => exact inv.commit split
  | record idle =>
    refine inv.turn ?_ rfl fun same => absurd same (by decide)
    rw [idle]
    rfl
  | @pass instanceId turn unset =>
    refine inv.success (allowed unset) (by simp [unset]) ?_ rfl unset (fun id differ => rfl)
      fun id there => there
    rw [turn]
    decide
  | @find instanceId stamp turn set =>
    refine inv.turn ?_ rfl fun _ unset => ?_
    · rw [turn]
      rfl
    · rw [set] at unset
      cases unset
  | @clear instanceId turn =>
    refine inv.success allowed (by simp [inv.found instanceId turn]) ?_ rfl ?_ ?_ ?_
    · rw [turn]
      decide
    · rw [Table.get_modify, if_pos rfl]
      cases state.instances.get instanceId <;> rfl
    · intro id differ
      rw [Table.get_modify, if_neg differ]
    · intro id there
      rw [Table.get_modify]
      split_ifs
      · exact fun none => there (Option.map_eq_none_iff.mp none)
      · exact there
  | notify turn => exact inv.notify turn

/-- A service over instances none of which has been alerted about. -/
structure Started (state : State) : Prop where
  unset : ∀ id, state.stamp id = none
  sweeps : state.sweeps = []
  idle : ∀ id, state.running id = none
  log : state.log = []

theorem Inv.of_started (started : Started state) : Inv state where
  settled id _ := by
    rw [started.unset, started.log]
    rfl
  staged sweep member := by
    rw [started.sweeps] at member
    exact absurd member List.not_mem_nil
  present sweep member := by
    rw [started.sweeps] at member
    exact absurd member List.not_mem_nil
  begun sweep member := by
    rw [started.sweeps] at member
    exact absurd member List.not_mem_nil
  latest id newest head := by
    rw [started.log] at head
    cases head
  found id turn := by
    rw [started.idle] at turn
    cases turn
  noticed id := by
    rw [started.idle, started.log]
    rfl
  fair before event after split := by
    rw [started.log] at split
    exact absurd split.symm (List.append_ne_nil_of_right_ne_nil _ (List.cons_ne_nil _ _))

/-- An instance that is created at the start, with a threshold of one hour. -/
def office : Instance :=
  ⟨1, true, some "0 3 * * *", some 1, some 0, none⟩

def quiet : State :=
  ⟨⟨[office], List.nodup_singleton _⟩, [], [], fun _ => none, []⟩

/-- Two hours later a sweep alerts. -/
def alerted : State :=
  ((quiet.move [⟨1, 2 * hour, [], [1]⟩]).logged (.begin 1)).logged (.alert 1 1 (2 * hour))

end PfsenseBackups.StaleAlerts

import PfsenseBackups.Runs
import Mathlib.Logic.Function.Basic
import Mathlib.Data.List.Perm.Basic

/-! `log_ring.py` and the log WebSocket of `logs.py`: threads post lines to a ring and hand them to
the event loop, which fans them out to the subscribers' queues, while clients connect. The loop of
`attach_loop` is the one that the clients run on, so it is open for as long as there are any. -/

namespace PfsenseBackups.LiveLog
open Runs

variable {Line : Type}

/-- A posted line with its place in the order of posting. -/
structure Entry (Line : Type) where
  place : Nat
  line : Line
  deriving DecidableEq

inductive Phase where
  | outside
  | connected
  | live
  | gone
  deriving DecidableEq

/-- One run of `logs_ws`. -/
structure Client (Line : Type) where
  phase : Phase := .outside
  /-- What the ring held when the client connected, and how many lines had been posted. -/
  atConnect : List (Entry Line) := []
  since : Nat := 0
  subscribed : Bool := false
  queue : List (Entry Line) := []
  /-- What was sent, the snapshot first. -/
  delivered : List (Entry Line) := []

structure State (Line : Type) where
  /-- Every line so far. -/
  posted : List (Entry Line) := []
  buf : List (Entry Line) := []
  /-- Appended to the ring by threads that have not called `call_soon_threadsafe` yet. -/
  posting : List (Entry Line) := []
  /-- The event loop's callbacks, first in, first out. -/
  ready : List (Entry Line) := []
  clients : Nat → Client Line := fun _ => {}

def ringCapacity : Nat := 1000

def queueCapacity : Nat := 512

/-- `deque.append`: the oldest entry makes room. -/
def appendBounded (buf : List (Entry Line)) (entry : Entry Line) : List (Entry Line) :=
  if buf.length < ringCapacity then buf ++ [entry] else buf.drop 1 ++ [entry]

/-- What `_fanout` does with one subscriber: a full queue loses its place among them. -/
def Client.put (entry : Entry Line) (client : Client Line) : Client Line :=
  if client.subscribed then
    if client.queue.length < queueCapacity then { client with queue := client.queue ++ [entry] }
    else { client with subscribed := false }
  else client

/-- `ring.snapshot()` and the frame it goes out in. -/
def Client.connect (state : State Line) (client : Client Line) : Client Line :=
  { client with
    phase := .connected
    atConnect := state.buf
    since := state.posted.length
    delivered := state.buf }

inductive Action (Line : Type) where
  /-- `self._buf.append(entry)`, in any thread. -/
  | append (line : Line)
  /-- `loop.call_soon_threadsafe(self._fanout, entry)`, by one of the threads that appended. -/
  | schedule (index : Nat)
  | fanout
  | connect (id : Nat)
  /-- The snapshot has gone out; `ring.subscribe()`. -/
  | subscribe (id : Nat)
  /-- `queue.get()` and the frame for its entry. -/
  | forward (id : Nat)
  | leave (id : Nat)

def State.set (state : State Line) (id : Nat) (client : Client Line) : State Line :=
  { state with clients := Function.update state.clients id client }

def State.entry (state : State Line) (line : Line) : Entry Line :=
  ⟨state.posted.length, line⟩

/-- `self._buf.append(entry)`. -/
def State.append (state : State Line) (line : Line) : State Line :=
  { state with
    posted := state.posted ++ [state.entry line]
    buf := appendBounded state.buf (state.entry line)
    posting := state.posting ++ [state.entry line] }

/-- A callback of the event loop. -/
def State.schedule (state : State Line) (index : Nat) (entry : Entry Line) : State Line :=
  { state with
    posting := state.posting.eraseIdx index
    ready := state.ready ++ [entry] }

/-- `_fanout`. -/
def State.fanout (state : State Line) (entry : Entry Line) (rest : List (Entry Line)) :
    State Line :=
  { state with
    ready := rest
    clients := fun id => (state.clients id).put entry }

def step (state : State Line) : Action Line → Option (State Line)
  | .append line => some (state.append line)
  | .schedule index =>
    match state.posting[index]? with
    | none => none
    | some entry => some (state.schedule index entry)
  | .fanout =>
    match state.ready with
    | [] => none
    | entry :: rest => some (state.fanout entry rest)
  | .connect id =>
    let client := state.clients id
    if client.phase = .outside then some (state.set id (client.connect state)) else none
  | .subscribe id =>
    let client := state.clients id
    if client.phase = .connected then
      some (state.set id { client with phase := .live, subscribed := true, queue := [] })
    else none
  | .forward id =>
    let client := state.clients id
    match client.phase, client.queue with
    | .live, entry :: rest =>
      some (state.set id { client with queue := rest, delivered := client.delivered ++ [entry] })
    | _, _ => none
  | .leave id =>
    let client := state.clients id
    if client.phase = .connected ∨ client.phase = .live then
      some (state.set id { client with phase := .gone, subscribed := false })
    else none

/-- The lines that have not been fanned out yet. -/
def State.inFlight (state : State Line) : List (Entry Line) :=
  state.ready ++ state.posting

def Steps (before : State Line) (action : Action Line) (after : State Line) : Prop :=
  step before action = some after

/-! ### What is promised -/

/-- The client's queue takes what is fanned out. -/
def Room (id : Nat) (state : State Line) : Action Line → Prop
  | .fanout => (state.clients id).subscribed = true →
      (state.clients id).queue.length < queueCapacity
  | _ => True

/-- Each line of the ring at the connection and each one since is delivered, in the client's queue
or still in flight, once and in the order of posting. -/
def OnTrack (id : Nat) (state : State Line) : Prop :=
  ∃ waiting, state.inFlight.Perm waiting ∧
    (state.clients id).delivered ++ (state.clients id).queue ++ waiting =
      (state.clients id).atConnect ++ state.posted.drop (state.clients id).since

/-- All of these lines are delivered. -/
def Gapless (id : Nat) (state : State Line) : Prop :=
  (state.clients id).delivered =
    (state.clients id).atConnect ++ state.posted.drop (state.clients id).since

/-- Nothing is on its way to the client. -/
def Quiet (id : Nat) (state : State Line) : Prop :=
  state.inFlight = [] ∧ (state.clients id).queue = []

/-- A client subscribes when exactly the lines since its snapshot are in flight, and what is fanned
out to it is the oldest line in flight. -/
def InTurn (id : Nat) (state : State Line) : Action Line → Prop
  | .fanout => (state.clients id).phase = .live → ∀ entry rest, state.ready = entry :: rest →
      ∀ other ∈ state.inFlight, entry.place ≤ other.place
  | .subscribe other => other = id → ∀ entry ∈ state.posted,
      entry ∈ state.inFlight ↔ (state.clients id).since ≤ entry.place
  | _ => True

/-! ### Invariant -/

/-- What holds of the lines whatever the order of the steps is. -/
structure Lines (state : State Line) : Prop where
  ordered : ∀ index (inside : index < state.posted.length), state.posted[index].place = index
  posted : ∀ entry ∈ state.inFlight, entry ∈ state.posted
  nodup : state.inFlight.Nodup

/-- What holds of a client with room, after a count of lines. -/
structure Client.Sound (count : Nat) (client : Client Line) : Prop where
  since_le : client.since ≤ count
  started : ∃ sent, client.delivered ++ client.queue = client.atConnect ++ sent
  subscribed : client.subscribed = true ↔ client.phase = .live
  outside : client.phase = .outside → client.queue = []
  connected : client.phase = .connected → client.delivered = client.atConnect ∧ client.queue = []

section
variable {id index count : Nat} {state after : State Line} {action : Action Line}
  {client : Client Line} {entry : Entry Line} {rest : List (Entry Line)}

/-- The lines that have been posted since. -/
theorem Lines.mem_drop_iff (lines : Lines state) (since : Nat) :
    entry ∈ state.posted.drop since ↔ entry ∈ state.posted ∧ since ≤ entry.place := by
  rw [List.mem_iff_getElem]
  refine ⟨?_, fun ⟨member, late⟩ => ?_⟩
  · rintro ⟨index, inside, rfl⟩
    rw [List.getElem_drop, lines.ordered]
    exact ⟨List.getElem_mem _, Nat.le_add_right _ _⟩
  · have ⟨index, inside, same⟩ := List.mem_iff_getElem.mp member
    have place := lines.ordered index inside
    rw [same] at place
    refine ⟨index - since, by rw [List.length_drop]; omega, ?_⟩
    have back : since + (index - since) = index := by omega
    simp only [List.getElem_drop, back, same]

theorem Lines.increasing (lines : Lines state) :
    state.posted.Pairwise fun first second => first.place < second.place := by
  rw [List.pairwise_iff_getElem]
  intro first second inside inside' less
  rw [lines.ordered, lines.ordered]
  exact less

theorem Lines.place_lt (lines : Lines state) (member : entry ∈ state.posted) :
    entry.place < state.posted.length := by
  have ⟨index, inside, same⟩ := List.mem_iff_getElem.mp member
  rw [← same, lines.ordered]
  exact inside

theorem inFlight_append (line : Line) : (state.append line).inFlight =
    state.inFlight ++ [state.entry line] := by
  simp [State.inFlight, State.append]

theorem inFlight_schedule (found : state.posting[index]? = some entry) :
    (state.schedule index entry).inFlight.Perm state.inFlight := by
  have ⟨inside, same⟩ := List.getElem?_eq_some_iff.mp found
  have taken : (entry :: state.posting.eraseIdx index).Perm state.posting :=
    same ▸ List.getElem_cons_eraseIdx_perm inside
  simpa [State.inFlight, State.schedule] using taken.append_left state.ready

theorem inFlight_fanout (next : state.ready = entry :: rest) :
    state.inFlight = entry :: (state.fanout entry rest).inFlight := by
  rw [State.inFlight, next, List.cons_append]
  rfl

theorem Lines.append (lines : Lines state) (line : Line) : Lines (state.append line) where
  ordered index inside := by
    unfold State.append
    rcases Nat.lt_or_ge index state.posted.length with before | last
    · exact (congrArg Entry.place (List.getElem_append_left before)).trans
        (lines.ordered index before)
    · simp only [State.append, List.length_append, List.length_singleton] at inside
      have same : index = state.posted.length := by omega
      simp [same, State.entry]
  posted other member := by
    rw [inFlight_append] at member
    rcases List.mem_append.mp member with old | new
    · exact List.mem_append_left _ (lines.posted other old)
    · exact List.mem_append_right _ new
  nodup := by
    rw [inFlight_append]
    refine List.nodup_append.mpr ⟨lines.nodup, List.pairwise_singleton _ _, ?_⟩
    intro other old new last same
    have small := lines.place_lt (lines.posted other old)
    rw [same, List.mem_singleton.mp last] at small
    exact Nat.lt_irrefl _ small

theorem Lines.schedule (lines : Lines state) (found : state.posting[index]? = some entry) :
    Lines (state.schedule index entry) where
  ordered := lines.ordered
  posted other member := lines.posted other ((inFlight_schedule found).mem_iff.mp member)
  nodup := (inFlight_schedule found).nodup_iff.mpr lines.nodup

theorem Lines.fanout (lines : Lines state) (next : state.ready = entry :: rest) :
    Lines (state.fanout entry rest) where
  ordered := lines.ordered
  posted other member :=
    lines.posted other (inFlight_fanout next ▸ List.mem_cons_of_mem entry member)
  nodup := (List.nodup_cons.mp (inFlight_fanout next ▸ lines.nodup)).2

theorem Lines.set (lines : Lines state) (client : Client Line) : Lines (state.set id client) where
  ordered := lines.ordered
  posted := lines.posted
  nodup := lines.nodup

/-! What each step does to a client. -/

theorem Client.put_live (live : client.subscribed = true)
    (room : client.queue.length < queueCapacity) :
    client.put entry = { client with queue := client.queue ++ [entry] } := by
  rw [Client.put, if_pos live, if_pos room]

theorem Client.put_other (other : client.subscribed = false) : client.put entry = client := by
  rw [Client.put, if_neg (by simp [other])]

theorem Client.Sound.put (sound : client.Sound count)
    (room : client.subscribed = true → client.queue.length < queueCapacity) :
    (client.put entry).Sound count := by
  cases subscribed : client.subscribed with
  | false =>
    rw [Client.put_other subscribed]
    exact sound
  | true =>
    have live := sound.subscribed.mp subscribed
    have ⟨sent, started⟩ := sound.started
    rw [Client.put_live subscribed (room subscribed)]
    exact
      { since_le := sound.since_le
        started := ⟨sent ++ [entry], by rw [← List.append_assoc, started, List.append_assoc]⟩
        subscribed := sound.subscribed
        outside := fun outside => absurd live (by simp [show client.phase = .outside from outside])
        connected := fun connected =>
          absurd live (by simp [show client.phase = .connected from connected]) }

theorem Client.Sound.grow (sound : client.Sound count) : client.Sound (count + 1) where
  since_le := Nat.le_succ_of_le sound.since_le
  started := sound.started
  subscribed := sound.subscribed
  outside := sound.outside
  connected := sound.connected

theorem Client.Sound.connect (sound : client.Sound state.posted.length)
    (outside : client.phase = .outside) : (client.connect state).Sound state.posted.length where
  since_le := Nat.le_refl _
  started := ⟨[], by simp [Client.connect, sound.outside outside]⟩
  subscribed := by
    have fresh := sound.subscribed
    simpa [Client.connect, outside] using fresh
  outside := by simp [Client.connect]
  connected _ := ⟨rfl, sound.outside outside⟩

theorem Client.Sound.subscribe (sound : client.Sound count)
    (connected : client.phase = .connected) :
    Client.Sound count { client with phase := .live, subscribed := true, queue := [] } where
  since_le := sound.since_le
  started := ⟨[], by simp [(sound.connected connected).1]⟩
  subscribed := by simp
  outside := by simp
  connected := by simp

theorem Client.Sound.forward (sound : client.Sound count) (live : client.phase = .live)
    (queue : client.queue = entry :: rest) :
    Client.Sound count
      { client with queue := rest, delivered := client.delivered ++ [entry] } where
  since_le := sound.since_le
  started := by
    have ⟨sent, started⟩ := sound.started
    exact ⟨sent, by simpa [queue] using started⟩
  subscribed := sound.subscribed
  outside := by simp [live]
  connected := by simp [live]

theorem Client.Sound.leave (sound : client.Sound count) :
    Client.Sound count { client with phase := .gone, subscribed := false } where
  since_le := sound.since_le
  started := sound.started
  subscribed := by simp
  outside := by simp
  connected := by simp

/-- What the invariant says of the state and the client. -/
structure Sound (id : Nat) (state : State Line) : Prop where
  lines : Lines state
  client : (state.clients id).Sound state.posted.length

theorem sound_start : Sound id ({} : State Line) where
  lines :=
    { ordered := fun _ inside => absurd inside (Nat.not_lt_zero _)
      posted := fun _ member => absurd member List.not_mem_nil
      nodup := List.nodup_nil }
  client :=
    { since_le := Nat.le_refl _
      started := ⟨[], rfl⟩
      subscribed := by simp
      outside := fun _ => rfl
      connected := fun _ => ⟨rfl, rfl⟩ }

theorem State.set_self (client : Client Line) : (state.set id client).clients id = client :=
  Function.update_self ..

theorem State.set_other {other : Nat} (different : other ≠ id) (client : Client Line) :
    (state.set other client).clients id = state.clients id :=
  Function.update_of_ne (Ne.symm different) ..

/-- A step of one client's run keeps what is sound about any client if it does about that one. -/
theorem Sound.set (sound : Sound id state) {other : Nat}
    (kept : other = id → client.Sound state.posted.length) :
    Sound id (state.set other client) where
  lines := sound.lines.set client
  client := by
    by_cases same : other = id
    · rw [same, State.set_self]
      exact kept same
    · rw [State.set_other same]
      exact sound.client

theorem Sound.step (sound : Sound id state) (room : Room id state action)
    (taken : Steps state action after) : Sound id after := by
  unfold Steps at taken
  cases action with
  | append line =>
    rw [← Option.some.inj taken]
    refine ⟨sound.lines.append line, ?_⟩
    rw [State.append, List.length_append]
    exact sound.client.grow
  | schedule index =>
    cases found : state.posting[index]? with
    | none => simp [LiveLog.step, found] at taken
    | some entry =>
      simp only [LiveLog.step, found, Option.some.injEq] at taken
      rw [← taken]
      exact ⟨sound.lines.schedule found, sound.client⟩
  | fanout =>
    cases next : state.ready with
    | nil => simp [LiveLog.step, next] at taken
    | cons entry rest =>
      simp only [LiveLog.step, next, Option.some.injEq] at taken
      rw [← taken]
      exact ⟨sound.lines.fanout next, sound.client.put room⟩
  | connect other =>
    simp only [LiveLog.step, Option.ite_none_right_eq_some, Option.some.injEq] at taken
    rw [← taken.2]
    exact sound.set fun same => Client.Sound.connect (same ▸ sound.client) taken.1
  | subscribe other =>
    simp only [LiveLog.step, Option.ite_none_right_eq_some, Option.some.injEq] at taken
    rw [← taken.2]
    exact sound.set fun same => Client.Sound.subscribe (same ▸ sound.client) taken.1
  | forward other =>
    simp only [LiveLog.step] at taken
    split at taken
    · next entry rest live queue =>
      rw [← Option.some.inj taken]
      exact sound.set fun same => Client.Sound.forward (same ▸ sound.client) live queue
    · exact absurd taken (by simp)
  | leave other =>
    simp only [LiveLog.step, Option.ite_none_right_eq_some, Option.some.injEq] at taken
    rw [← taken.2]
    exact sound.set fun same => Client.Sound.leave (same ▸ sound.client)

/-! ### One step -/

/-- On track, where what was received live is known. -/
theorem onTrack_iff {sent : List (Entry Line)}
    (started : (state.clients id).delivered ++ (state.clients id).queue =
      (state.clients id).atConnect ++ sent) :
    OnTrack id state ↔ ∃ waiting, state.inFlight.Perm waiting ∧
      sent ++ waiting = state.posted.drop (state.clients id).since := by
  simp [OnTrack, started]

theorem onTrack_congr (lines : after.posted = state.posted)
    (flight : after.inFlight.Perm state.inFlight)
    (received : (after.clients id).delivered ++ (after.clients id).queue =
      (state.clients id).delivered ++ (state.clients id).queue)
    (atConnect : (after.clients id).atConnect = (state.clients id).atConnect)
    (since : (after.clients id).since = (state.clients id).since) :
    OnTrack id after ↔ OnTrack id state := by
  unfold OnTrack
  rw [lines, received, atConnect, since]
  exact exists_congr fun waiting => and_congr_left' ⟨flight.symm.trans, flight.trans⟩

theorem onTrack_append (sound : Sound id state) (line : Line) :
    OnTrack id (state.append line) ↔ OnTrack id state := by
  have ⟨sent, started⟩ := sound.client.started
  have since : (state.posted ++ [state.entry line]).drop (state.clients id).since =
      state.posted.drop (state.clients id).since ++ [state.entry line] :=
    List.drop_append_of_le_length sound.client.since_le
  rw [@onTrack_iff _ id (state.append line) sent started, onTrack_iff started, inFlight_append]
  refine ⟨?_, fun ⟨waiting, flight, split⟩ => ?_⟩
  · rintro ⟨waiting, flight, split⟩
    -- The new line is the last one that waits.
    have some : waiting ≠ [] := fun none => by simp [none] at flight
    have ⟨front, last, ends⟩ : ∃ front last, waiting = front ++ [last] :=
      ⟨_, _, (List.dropLast_concat_getLast some).symm⟩
    have split' := split.trans since
    rw [ends, ← List.append_assoc] at split'
    have ⟨before, same⟩ := List.append_inj' split' rfl
    refine ⟨front, ?_, before⟩
    rw [ends, same] at flight
    exact (List.perm_append_right_iff _).mp flight
  · refine ⟨waiting ++ [state.entry line], flight.append_right _, ?_⟩
    rw [← List.append_assoc, split]
    exact since.symm

theorem onTrack_fanout (sound : Sound id state) (room : Room id state .fanout)
    (live : (state.clients id).phase = .live) (next : state.ready = entry :: rest) :
    OnTrack id (state.fanout entry rest) ↔ OnTrack id state ∧ InTurn id state .fanout := by
  have ⟨sent, started⟩ := sound.client.started
  have subscribed := sound.client.subscribed.mpr live
  have put : (state.fanout entry rest).clients id =
      { state.clients id with queue := (state.clients id).queue ++ [entry] } :=
    Client.put_live subscribed (room subscribed)
  have started' : ((state.fanout entry rest).clients id).delivered ++
      ((state.fanout entry rest).clients id).queue =
        ((state.fanout entry rest).clients id).atConnect ++ (sent ++ [entry]) := by
    rw [put]
    show (state.clients id).delivered ++ ((state.clients id).queue ++ [entry]) = _
    rw [← List.append_assoc, started, List.append_assoc]
  have since : ((state.fanout entry rest).clients id).since = (state.clients id).since := by
    rw [put]
  have posted : (state.fanout entry rest).posted = state.posted := rfl
  have increasing : (state.posted.drop (state.clients id).since).Pairwise
      fun first second => first.place < second.place :=
    sound.lines.increasing.drop
  rw [onTrack_iff started', onTrack_iff started, since, posted, inFlight_fanout next]
  refine ⟨?_, ?_⟩
  · rintro ⟨waiting, flight, split⟩
    rw [List.append_assoc, List.singleton_append] at split
    refine ⟨⟨entry :: waiting, flight.cons entry, split⟩, ?_⟩
    intro _ first back same other member
    rw [next, List.cons.injEq] at same
    rw [← same.1]
    rw [inFlight_fanout next] at member
    rcases List.mem_cons.mp member with same | later
    · exact same ▸ Nat.le_refl _
    · rw [← split] at increasing
      have ordered := (List.pairwise_append.mp increasing).2.1
      exact Nat.le_of_lt ((List.pairwise_cons.mp ordered).1 other (flight.mem_iff.mp later))
  · rintro ⟨⟨waiting, flight, split⟩, turn⟩
    have oldest := turn live entry rest next
    cases waiting with
    | nil => exact absurd flight (by simp)
    | cons first waiting =>
      have same : first = entry := by
        by_contra different
        have later : entry ∈ waiting := by
          have member := flight.mem_iff.mp List.mem_cons_self
          exact (List.mem_cons.mp member).resolve_left (Ne.symm different)
        have before := oldest first (by
          rw [inFlight_fanout next]
          exact flight.mem_iff.mpr List.mem_cons_self)
        rw [← split] at increasing
        have ordered := (List.pairwise_append.mp increasing).2.1
        have less := (List.pairwise_cons.mp ordered).1 entry later
        omega
      rw [same] at flight split
      exact ⟨waiting, flight.cons_inv, by simpa using split⟩

/-- A client that subscribes is on track if exactly the lines since its snapshot are in flight. -/
theorem onTrack_subscribe (sound : Sound id state)
    (connected : (state.clients id).phase = .connected) :
    OnTrack id (state.set id
      { state.clients id with phase := .live, subscribed := true, queue := [] }) ↔
        InTurn id state (.subscribe id) := by
  have ⟨delivered, _⟩ := sound.client.connected connected
  unfold OnTrack
  rw [State.set_self]
  simp only [delivered, List.append_nil, List.append_cancel_left_eq, exists_eq_right]
  have nodup : (state.posted.drop (state.clients id).since).Nodup :=
    sound.lines.increasing.drop.imp fun less same => by simp [same] at less
  have perm := List.perm_ext_iff_of_nodup sound.lines.nodup nodup
  refine Iff.trans perm ⟨fun same _ entry member => ?_, fun turn entry => ?_⟩
  · rw [same entry, sound.lines.mem_drop_iff]
    exact and_iff_right member
  · rw [sound.lines.mem_drop_iff]
    refine ⟨fun flying => ?_, fun late => ?_⟩
    · have member := sound.lines.posted entry flying
      exact ⟨member, (turn rfl entry member).mp flying⟩
    · exact (turn rfl entry late.1).mpr late.2

/-- A client that has not subscribed yet. -/
def Early (id : Nat) (state : State Line) : Prop :=
  (state.clients id).phase = .outside ∨ (state.clients id).phase = .connected

/-- What a step means for a client: before it subscribes nothing is out of turn, and from then on it
stays on track exactly by steps in turn. -/
def Turn (id : Nat) (state : State Line) (action : Action Line) (after : State Line) : Prop :=
  (Early id after → Early id state ∧ InTurn id state action) ∧
    ((after.clients id).phase = .live →
      ((state.clients id).phase = .live ∧
        (OnTrack id after ↔ OnTrack id state ∧ InTurn id state action)) ∨
      (Early id state ∧ (OnTrack id after ↔ InTurn id state action)))

/-- A step that leaves the client as it is. -/
theorem turn_frame (same : after.clients id = state.clients id) (turn : InTurn id state action)
    (kept : OnTrack id after ↔ OnTrack id state) : Turn id state action after := by
  unfold Turn Early
  rw [same]
  exact ⟨fun early => ⟨early, turn⟩, fun live => .inl ⟨live, kept.trans (and_iff_left turn).symm⟩⟩

theorem turn_set {other : Nat} (different : other ≠ id) (turn : InTurn id state action) :
    Turn id state action (state.set other client) := by
  have same : (state.set other client).clients id = state.clients id :=
    State.set_other different client
  apply turn_frame same turn
  exact onTrack_congr rfl (.refl _) (by rw [same]) (by rw [same]) (by rw [same])

theorem turn_fanout (sound : Sound id state) (room : Room id state .fanout)
    (next : state.ready = entry :: rest) : Turn id state .fanout (state.fanout entry rest) := by
  have phase : ((state.fanout entry rest).clients id).phase = (state.clients id).phase := by
    show ((state.clients id).put entry).phase = _
    unfold Client.put
    split <;> (try split) <;> rfl
  unfold Turn Early
  rw [phase]
  refine ⟨fun early => ⟨early, fun live => ?_⟩, fun live => .inl ⟨live, ?_⟩⟩
  · simp [live] at early
  · exact onTrack_fanout sound room live next

theorem turn_step (sound : Sound id state) (room : Room id state action)
    (taken : Steps state action after) : Turn id state action after := by
  unfold Steps at taken
  cases action with
  | append line =>
    rw [← Option.some.inj taken]
    exact turn_frame rfl trivial (onTrack_append sound line)
  | schedule index =>
    cases found : state.posting[index]? with
    | none => simp [LiveLog.step, found] at taken
    | some entry =>
      simp only [LiveLog.step, found, Option.some.injEq] at taken
      rw [← taken]
      exact turn_frame rfl trivial (onTrack_congr rfl (inFlight_schedule found) rfl rfl rfl)
  | fanout =>
    cases next : state.ready with
    | nil => simp [LiveLog.step, next] at taken
    | cons entry rest =>
      simp only [LiveLog.step, next, Option.some.injEq] at taken
      rw [← taken]
      exact turn_fanout sound room next
  | connect other =>
    simp only [LiveLog.step, Option.ite_none_right_eq_some, Option.some.injEq] at taken
    rw [← taken.2]
    by_cases same : other = id
    · subst same
      unfold Turn Early
      rw [State.set_self]
      exact ⟨fun _ => ⟨.inl taken.1, trivial⟩, fun live => by simp [Client.connect] at live⟩
    · exact turn_set same trivial
  | subscribe other =>
    simp only [LiveLog.step, Option.ite_none_right_eq_some, Option.some.injEq] at taken
    rw [← taken.2]
    by_cases same : other = id
    · subst same
      unfold Turn
      refine ⟨fun early => ?_, fun _ => .inr ⟨.inr taken.1, onTrack_subscribe sound taken.1⟩⟩
      unfold Early at early
      rw [State.set_self] at early
      simp at early
    · exact turn_set same fun equal => absurd equal same
  | forward other =>
    simp only [LiveLog.step] at taken
    split at taken
    · next entry rest live queue =>
      rw [← Option.some.inj taken]
      by_cases same : other = id
      · subst same
        unfold Turn Early
        rw [State.set_self]
        refine ⟨fun early => absurd early (by simp [live]), fun _ => .inl ⟨live, ?_⟩⟩
        refine Iff.trans ?_ (and_iff_left trivial).symm
        exact onTrack_congr rfl (List.Perm.refl state.inFlight)
          (by rw [State.set_self]; simp [queue]) (by rw [State.set_self]) (by rw [State.set_self])
      · exact turn_set same trivial
    · exact absurd taken (by simp)
  | leave other =>
    simp only [LiveLog.step, Option.ite_none_right_eq_some, Option.some.injEq] at taken
    rw [← taken.2]
    by_cases same : other = id
    · subst same
      unfold Turn Early
      rw [State.set_self]
      exact ⟨fun early => by simp at early, fun live => by simp at live⟩
    · exact turn_set same trivial

/-! ### Whole runs -/

variable {path : List (State Line × Action Line)}

theorem sound_of_path (run : Path Steps {} path state)
    (room : ∀ move ∈ path, Room id move.1 move.2) : Sound id state :=
  run.invariant (Room id) sound_start (fun _ _ _ sound room taken => sound.step room taken) room

/-- A client is on track exactly if every step so far was in turn. -/
theorem track_of_path (run : Path Steps {} path state)
    (room : ∀ move ∈ path, Room id move.1 move.2) :
    (Early id state → ∀ move ∈ path, InTurn id move.1 move.2) ∧
      ((state.clients id).phase = .live →
        (OnTrack id state ↔ ∀ move ∈ path, InTurn id move.1 move.2)) := by
  induction run with
  | nil => exact ⟨fun _ _ member => absurd member List.not_mem_nil, fun live => nomatch live⟩
  | @snoc path state after action before taken ih =>
    have ⟨rooms, room⟩ := (Path.forall_snoc (Room id)).mp room
    have ⟨early, live⟩ := ih rooms
    have turn := turn_step (sound_of_path before rooms) room taken
    rw [Path.forall_snoc (InTurn id)]
    refine ⟨fun isEarly => ?_, fun isLive => ?_⟩
    · have ⟨wasEarly, inTurn⟩ := turn.1 isEarly
      exact ⟨early wasEarly, inTurn⟩
    · rcases turn.2 isLive with ⟨wasLive, kept⟩ | ⟨wasEarly, kept⟩
      · rw [kept, live wasLive]
      · rw [kept]
        exact (and_iff_right (early wasEarly)).symm

/-- Once nothing is on its way, being on track is having got every line. -/
theorem onTrack_of_quiet (quiet : Quiet id state) : OnTrack id state ↔ Gapless id state := by
  unfold OnTrack Gapless
  rw [quiet.1, quiet.2]
  refine ⟨?_, fun gapless => ⟨[], .refl _, by simpa using gapless⟩⟩
  rintro ⟨waiting, flight, split⟩
  rw [List.nil_perm.mp flight] at split
  simpa using split

/-- In every run in which the client's queue has room: each line of the ring at the connection and
each one since is delivered, queued or in flight, once and in order, exactly if every step was in
turn; so that once nothing is on its way, these lines are what was delivered. -/
theorem gapless_iff (run : Path Steps {} path state)
    (room : ∀ move ∈ path, Room id move.1 move.2) (live : (state.clients id).phase = .live) :
    (OnTrack id state ↔ ∀ move ∈ path, InTurn id move.1 move.2) ∧
      (Quiet id state → (Gapless id state ↔ ∀ move ∈ path, InTurn id move.1 move.2)) := by
  have onTrack := (track_of_path run room).2 live
  exact ⟨onTrack, fun quiet => (onTrack_of_quiet quiet).symm.trans onTrack⟩

end

/-! ### A line in the gap -/

/-- The state after some actions that are possible. -/
def stateAfter (actions : List (Action String)) : State String :=
  actions.foldl (fun state action => (step state action).getD state) {}

/-- The actions of a run with the states they start from. -/
def moves (actions : List (Action String)) : List (State String × Action String) :=
  (List.range actions.length).filterMap fun count =>
    actions[count]?.map fun action => (stateAfter (actions.take count), action)

instance (id : Nat) (state : State String) (action : Action String) :
    Decidable (Room id state action) :=
  match action with
  | .fanout => inferInstanceAs (Decidable ((state.clients id).subscribed = true →
      (state.clients id).queue.length < queueCapacity))
  | .append _ | .schedule _ | .connect _ | .subscribe _ | .forward _ | .leave _ => isTrue trivial

/-- A client subscribes before a line is posted, and gets it. -/
def lineAfter : List (Action String) :=
  [.append "old", .schedule 0, .fanout, .connect 0, .subscribe 0, .append "new", .schedule 0,
    .fanout, .forward 0]

theorem path_lineAfter : Path Steps {} (moves lineAfter) (stateAfter lineAfter) :=
  .snoc (.snoc (.snoc (.snoc (.snoc (.snoc (.snoc (.snoc (.snoc .nil rfl) rfl) rfl) rfl) rfl) rfl)
    rfl) rfl) rfl

theorem lineAfter_gapless : Gapless 0 (stateAfter lineAfter) ∧
    ∀ move ∈ moves lineAfter, InTurn 0 move.1 move.2 :=
  have iff := gapless_iff path_lineAfter (by decide) rfl
  ⟨rfl, (iff.2 ⟨rfl, rfl⟩).mp rfl⟩

/-- The line is fanned out while the snapshot is being sent. -/
def lineBetween : List (Action String) :=
  [.connect 0, .append "line", .schedule 0, .fanout, .subscribe 0]

theorem path_lineBetween : Path Steps {} (moves lineBetween) (stateAfter lineBetween) :=
  .snoc (.snoc (.snoc (.snoc (.snoc .nil rfl) rfl) rfl) rfl) rfl

/-- That line is never delivered. -/
theorem lineBetween_lost :
    Path Steps {} (moves lineBetween) (stateAfter lineBetween) ∧
      (∀ move ∈ moves lineBetween, Room 0 move.1 move.2) ∧
      ((stateAfter lineBetween).clients 0).phase = .live ∧ Quiet 0 (stateAfter lineBetween) ∧
      ¬Gapless 0 (stateAfter lineBetween) := by
  refine ⟨path_lineBetween, by decide, rfl, ⟨rfl, rfl⟩, fun gapless => ?_⟩
  have none : ([] : List (Entry String)) = [⟨0, "line"⟩] := gapless
  exact absurd none (by simp)

end PfsenseBackups.LiveLog

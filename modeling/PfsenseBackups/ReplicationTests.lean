import PfsenseBackups.IpcCommands
import Mathlib.Logic.Function.Basic
import Mathlib.Data.List.Perm.Basic

/-! The test of the replication settings: requests of the web push their command to the worker and
wait on the event bus for the result with their id, while other commands and events go the same
ways and any of them may be lost. -/

namespace PfsenseBackups.ReplicationTests
open IpcCommands StoredValues Value
open JsonReader (dictOf setItem)
open EventLog (json)

/-! ### The worker's answer -/

structure TestResult where
  ok : Bool
  detail : String

/-- `_handle_test_replication`: what `load_config` comes to, and the `ping` of its target. -/
def handleTestReplication (config : Except String (Option (Except String Unit))) : TestResult :=
  match config with
  | .error text => ⟨false, text⟩
  | .ok none => ⟨false, "replication is not enabled"⟩
  | .ok (some (.error text)) => ⟨false, text⟩
  | .ok (some (.ok ())) => ⟨true, "connection OK"⟩

/-- The two parts of a frame that the worker publishes. -/
structure EventFrame where
  topic : String
  payload : List Char

def resultTopic : String :=
  "replication_test.result"

def resultDump (ts requestId : String) (result : TestResult) : Dict :=
  [("ts", .str ts), ("topic", .str resultTopic), ("request_id", .str requestId),
    ("ok", .bool result.ok), ("detail", .str result.detail)]

/-- `publish`, of a `ReplicationTestResult`. -/
def resultFrame (ts requestId : String) (result : TestResult) : EventFrame where
  topic := resultTopic
  payload := dumpFormat.write (toJson (.dict (resultDump ts requestId result)))

/-! ### The web -/

/-- What `_bridge_loop` puts on the bus for a frame. -/
def envelope (frame : EventFrame) : Option Dict :=
  match loadsValue frame.payload with
  | some (.dict data) =>
    if frame.topic = "log" then none else some (dictOf (("topic", .str frame.topic) :: data))
  | _ => none

/-- The test in the loop of `test_replication`. -/
def Answers (requestId : String) (event : Dict) : Prop :=
  Dict.get event "topic" = .str resultTopic ∧ Dict.get event "request_id" = .str requestId

instance (requestId : String) (event : Dict) : Decidable (Answers requestId event) :=
  inferInstanceAs (Decidable (_ ∧ _))

/-- The room in a subscriber's queue. -/
def queueSize : Nat :=
  256

/-- A request of `test_replication` with its queue, which the bus drops when it is full. -/
structure Waiter where
  sent : Bool
  subscribed : Bool
  queue : List Dict

inductive Request where
  | idle
  | waiting (waiter : Waiter)
  | answered (ok detail : Val)
  /-- Its deadline has passed, or its command could not be sent. -/
  | failed

/-- `EventBus.publish`, for one subscriber. -/
def Waiter.put (waiter : Waiter) (event : Dict) : Waiter :=
  if waiter.subscribed then
    if waiter.queue.length < queueSize then { waiter with queue := waiter.queue ++ [event] }
    else { waiter with subscribed := false }
  else waiter

def Request.put (event : Dict) : Request → Request
  | .waiting waiter => .waiting (waiter.put event)
  | request => request

/-! ### The system -/

structure State where
  /-- By their ids, each of which `uuid4` gives once. -/
  requests : String → Request
  /-- The frames that were pushed and not received. -/
  commands : List (List Char)
  /-- The tests that the worker's threads are at. -/
  working : List String
  /-- The frames that were published and not bridged. -/
  events : List EventFrame
  /-- Every result so far. -/
  made : List (String × TestResult)
  /-- The tests whose command or result was lost on its way. -/
  lost : List String

def initial : State :=
  ⟨fun _ => .idle, [], [], [], [], []⟩

inductive Op where
  | subscribe (requestId : String)
  | send (requestId : String)
  /-- The socket raises. -/
  | unsent (requestId : String)
  /-- Any other command. -/
  | push (command : IpcCommand)
  | receive
  | loseCommand (index : Nat)
  /-- A thread of the worker is through with a test. -/
  | finish (index : Nat) (config : Except String (Option (Except String Unit))) (ts : String)
  /-- A thread is stopped with the worker. -/
  | stop (index : Nat)
  /-- Any other event. -/
  | publish (frame : EventFrame)
  | loseEvent (index : Nat)
  | bridge
  /-- `queue.get()` and the test of what it gives. -/
  | read (requestId : String)
  | expire (requestId : String)

def State.set (state : State) (requestId : String) (request : Request) : State :=
  { state with requests := Function.update state.requests requestId request }

@[simp] theorem State.set_self (state : State) (requestId : String) (request : Request) :
    (state.set requestId request).requests requestId = request :=
  Function.update_self _ _ _

theorem State.set_of_ne (state : State) {requestId other : String} (request : Request)
    (apart : other ≠ requestId) :
    (state.set requestId request).requests other = state.requests other :=
  Function.update_of_ne apart _ _

/-- The test that a command asks for. -/
def testedBy : IpcCommand → Option String
  | .testReplication requestId => some requestId
  | _ => none

/-- The test that a frame asks for. -/
def testOf (lax : Lax) (frame : List Char) : Option String :=
  match receive lax frame with
  | .handled command => testedBy command
  | _ => none

/-- The request that an event answers. -/
def answeredBy (frame : EventFrame) : Option String :=
  (envelope frame).bind fun event =>
    if Dict.get event "topic" = .str resultTopic then readStr (Dict.get event "request_id")
    else none

/-- What is not possible in a state leaves it as it is. -/
def step (lax : Lax) (state : State) : Op → State
  | .subscribe requestId =>
    match state.requests requestId with
    | .idle => state.set requestId (.waiting ⟨false, true, []⟩)
    | _ => state
  | .send requestId =>
    match state.requests requestId with
    | .waiting ⟨false, subscribed, queue⟩ =>
      { state.set requestId (.waiting ⟨true, subscribed, queue⟩) with
        commands := state.commands ++ [(IpcCommand.testReplication requestId).frame] }
    | _ => state
  | .unsent requestId =>
    match state.requests requestId with
    | .waiting ⟨false, _, _⟩ => state.set requestId .failed
    | _ => state
  | .push command =>
    if (testedBy command).isSome then state
    else { state with commands := state.commands ++ [command.frame] }
  | .receive =>
    match state.commands with
    | [] => state
    | frame :: rest =>
      { state with commands := rest, working := (testOf lax frame).toList ++ state.working }
  | .loseCommand index =>
    match state.commands[index]? with
    | none => state
    | some frame =>
      { state with
        commands := state.commands.eraseIdx index
        lost := (testOf lax frame).toList ++ state.lost }
  | .finish index config ts =>
    match state.working[index]? with
    | none => state
    | some requestId =>
      { state with
        working := state.working.eraseIdx index
        events := state.events ++ [resultFrame ts requestId (handleTestReplication config)]
        made := (requestId, handleTestReplication config) :: state.made }
  | .stop index =>
    match state.working[index]? with
    | none => state
    | some requestId =>
      { state with
        working := state.working.eraseIdx index
        lost := requestId :: state.lost }
  | .publish frame =>
    if (answeredBy frame).isSome then state
    else { state with events := state.events ++ [frame] }
  | .loseEvent index =>
    match state.events[index]? with
    | none => state
    | some frame =>
      { state with
        events := state.events.eraseIdx index
        lost := (answeredBy frame).toList ++ state.lost }
  | .bridge =>
    match state.events with
    | [] => state
    | frame :: rest =>
      { state with
        events := rest
        requests := fun requestId => match envelope frame with
          | none => state.requests requestId
          | some event => (state.requests requestId).put event }
  | .read requestId =>
    match state.requests requestId with
    | .waiting ⟨true, subscribed, event :: queue⟩ =>
      if Answers requestId event then
        state.set requestId (.answered (Dict.get event "ok") (Dict.get event "detail"))
      else state.set requestId (.waiting ⟨true, subscribed, queue⟩)
    | _ => state
  | .expire requestId =>
    match state.requests requestId with
    | .waiting ⟨true, _, _⟩ => state.set requestId .failed
    | _ => state

def run (lax : Lax) (ops : List Op) : State :=
  ops.foldl (step lax) initial

/-! ### Frames -/

section Frames

variable {lax : Lax}

theorem testOf_frame (command : IpcCommand) : testOf lax command.frame = testedBy command := by
  rw [testOf, receive, loadsValue_frame, Option.elim_some, dispatch_dump]

/-- A result on the bus. -/
def resultEvent (ts requestId : String) (result : TestResult) : Dict :=
  [("topic", .str resultTopic), ("ts", .str ts), ("request_id", .str requestId),
    ("ok", .bool result.ok), ("detail", .str result.detail)]

theorem envelope_resultFrame (ts requestId : String) (result : TestResult) :
    envelope (resultFrame ts requestId result) = some (resultEvent ts requestId result) := by
  have proper : Proper (.dict (resultDump ts requestId result)) := by
    refine proper_fields (by simp [resultDump, Dict.keys]) ?_
    simp [resultDump, proper_str, proper_bool]
  have read : loadsValue (resultFrame ts requestId result).payload =
      some (.dict (resultDump ts requestId result)) := by
    rw [resultFrame, loadsValue, dumpFormat.loads_write proper, Option.bind_some, ofJson_coded]
    rfl
  rw [envelope, read]
  simp [resultFrame, resultDump, resultEvent, resultTopic, dictOf, setItem]

theorem readStr_eq_some {value : Val} {text : String} :
    readStr value = some text ↔ value = .str text := by
  cases value <;> simp [readStr]

theorem answeredBy_eq_some {frame : EventFrame} {requestId : String} :
    answeredBy frame = some requestId ↔
      ∃ event, envelope frame = some event ∧ Answers requestId event := by
  simp only [answeredBy, Option.bind_eq_some_iff, Answers, Option.ite_none_right_eq_some,
    readStr_eq_some]

theorem answeredBy_resultFrame (ts requestId : String) (result : TestResult) :
    answeredBy (resultFrame ts requestId result) = some requestId :=
  answeredBy_eq_some.mpr ⟨_, envelope_resultFrame ts requestId result, rfl, rfl⟩

end Frames

/-! ### What holds in every run -/

section Invariant

variable {lax : Lax} {state after : State} {requestId : String}

/-- What an event says of a request is what was made for it. -/
def Genuine (made : List (String × TestResult)) (event : Dict) : Prop :=
  ∀ requestId, Answers requestId event → ∃ result, (requestId, result) ∈ made ∧
    Dict.get event "ok" = .bool result.ok ∧ Dict.get event "detail" = .str result.detail

/-- The tests that are asked for, being made or made. -/
def tokens (lax : Lax) (state : State) : List String :=
  state.commands.filterMap (testOf lax) ++ (state.working ++ state.made.map Prod.fst)

/-- A test is on its way to its request, or it was lost. -/
def Elsewhere (lax : Lax) (state : State) (requestId : String) : Prop :=
  requestId ∈ state.commands.filterMap (testOf lax) ∨ requestId ∈ state.working ∨
    requestId ∈ state.events.filterMap answeredBy ∨ requestId ∈ state.lost

def Request.Sent : Request → Prop
  | .idle => False
  | .waiting waiter => waiter.sent = true
  | _ => True

/-- A request that waits has the answer in its queue or elsewhere, unless its queue was full; one
that is answered has the result that was made. -/
def Request.Fine (made : List (String × TestResult)) (requestId : String) (elsewhere : Prop) :
    Request → Prop
  | .waiting waiter => (∀ event ∈ waiter.queue, Genuine made event) ∧
      (waiter.sent = true → elsewhere ∨ waiter.subscribed = false ∨
        ∃ event ∈ waiter.queue, Answers requestId event)
  | .answered ok detail => ∃ result, (requestId, result) ∈ made ∧ ok = .bool result.ok ∧
      detail = .str result.detail
  | _ => True

structure Inv (lax : Lax) (state : State) : Prop where
  distinct : (tokens lax state).Nodup
  sent : ∀ requestId ∈ tokens lax state, (state.requests requestId).Sent
  events : ∀ frame ∈ state.events, ∀ event, envelope frame = some event → Genuine state.made event
  fine : ∀ requestId, (state.requests requestId).Fine state.made requestId
    (Elsewhere lax state requestId)

theorem Genuine.mono {made made' : List (String × TestResult)} {event : Dict}
    (genuine : Genuine made event) (more : made ⊆ made') : Genuine made' event := by
  intro requestId answers
  obtain ⟨result, member, same⟩ := genuine requestId answers
  exact ⟨result, more member, same⟩

theorem Request.Fine.mono {made made' : List (String × TestResult)} {elsewhere elsewhere' : Prop}
    {request : Request} (fine : request.Fine made requestId elsewhere) (more : made ⊆ made')
    (still : elsewhere → elsewhere') : request.Fine made' requestId elsewhere' := by
  cases request with
  | waiting waiter =>
    exact ⟨fun event member => (fine.1 event member).mono more,
      fun sent => (fine.2 sent).imp_left still⟩
  | answered ok detail =>
    obtain ⟨result, member, same⟩ := fine
    exact ⟨result, more member, same⟩
  | idle => trivial
  | failed => trivial

theorem inv_initial : Inv lax initial where
  distinct := List.nodup_nil
  sent _ member := (List.not_mem_nil member).elim
  events _ member := (List.not_mem_nil member).elim
  fine _ := trivial

/-- A step that leaves the requests alone and loses sight of no test. -/
theorem Inv.channels (inv : Inv lax state) (same : after.requests = state.requests)
    (more : state.made ⊆ after.made)
    (still : ∀ requestId, Elsewhere lax state requestId → Elsewhere lax after requestId)
    (fewer : (tokens lax after).Subperm (tokens lax state))
    (events : ∀ frame ∈ after.events, ∀ event, envelope frame = some event →
      Genuine after.made event) : Inv lax after where
  distinct := by
    obtain ⟨kept, perm, part⟩ := fewer
    exact perm.nodup_iff.mp (inv.distinct.sublist part)
  sent requestId member := by
    rw [same]
    exact inv.sent requestId (fewer.subset member)
  events := events
  fine requestId := by
    rw [same]
    exact (inv.fine requestId).mono more (still requestId)

/-- A step of one request. -/
theorem Inv.set (inv : Inv lax state) {request : Request}
    (sent : (state.requests requestId).Sent → request.Sent)
    (fine : request.Fine state.made requestId (Elsewhere lax state requestId)) :
    Inv lax (state.set requestId request) where
  distinct := inv.distinct
  sent other member := by
    by_cases same : other = requestId
    · subst same
      rw [State.set_self]
      exact sent (inv.sent other member)
    · rw [State.set_of_ne _ _ same]
      exact inv.sent other member
  events := inv.events
  fine other := by
    by_cases same : other = requestId
    · subst same
      rw [State.set_self]
      exact fine
    · rw [State.set_of_ne _ _ same]
      exact inv.fine other

/-! ### One step -/

theorem perm_eraseIdx {α : Type} {items : List α} {index : Nat} {item : α}
    (found : items[index]? = some item) : items.Perm (item :: items.eraseIdx index) := by
  obtain ⟨inside, same⟩ := List.getElem?_eq_some_iff.mp found
  exact same ▸ (List.getElem_cons_eraseIdx_perm inside).symm

theorem filterMap_cons_toList {α β : Type} (f : α → Option β) (first : α) (rest : List α) :
    (first :: rest).filterMap f = (f first).toList ++ rest.filterMap f := by
  cases found : f first <;> simp [found]

/-- What is taken out of a list of frames is in what remains or is the one that was taken. -/
theorem filterMap_eraseIdx {α β : Type} (f : α → Option β) {items : List α} {index : Nat} {item : α}
    (found : items[index]? = some item) :
    (items.filterMap f).Perm ((f item).toList ++ (items.eraseIdx index).filterMap f) := by
  rw [← filterMap_cons_toList]
  exact (perm_eraseIdx found).filterMap f

theorem Inv.push (inv : Inv lax state) (command : IpcCommand) :
    Inv lax (step lax state (.push command)) := by
  rw [step]
  split
  · exact inv
  next other =>
    have none : (state.commands ++ [command.frame]).filterMap (testOf lax) =
        state.commands.filterMap (testOf lax) := by
      rw [List.filterMap_append, filterMap_cons_toList, testOf_frame,
        Option.not_isSome_iff_eq_none.mp other]
      simp
    refine inv.channels rfl (List.Subset.refl _) (fun requestId elsewhere => ?_) ?_ inv.events
    · rwa [Elsewhere, none]
    · rw [tokens, none]
      exact .refl _

theorem Inv.receive (inv : Inv lax state) : Inv lax (step lax state .receive) := by
  rw [step]
  split
  · exact inv
  next frame rest waiting =>
    have first := filterMap_cons_toList (testOf lax) frame rest
    refine inv.channels rfl (List.Subset.refl _) (fun requestId elsewhere => ?_) ?_ inv.events
    · simp only [Elsewhere, waiting, first, List.mem_append] at elsewhere ⊢
      tauto
    · simp only [tokens, waiting, first, List.append_assoc]
      exact (List.perm_append_comm_assoc _ _ _).subperm

theorem Inv.loseCommand (inv : Inv lax state) (index : Nat) :
    Inv lax (step lax state (.loseCommand index)) := by
  rw [step]
  split
  · exact inv
  next frame found =>
    have taken := filterMap_eraseIdx (testOf lax) found
    refine inv.channels rfl (List.Subset.refl _) (fun requestId elsewhere => ?_) ?_ inv.events
    · simp only [Elsewhere, taken.mem_iff, List.mem_append] at elsewhere ⊢
      tauto
    · refine (List.subperm_append_right _).mpr ?_
      exact (List.sublist_append_right _ _).subperm.trans taken.symm.subperm

theorem Inv.stop (inv : Inv lax state) (index : Nat) : Inv lax (step lax state (.stop index)) := by
  rw [step]
  split
  · exact inv
  next stopped found =>
    have taken := perm_eraseIdx found
    refine inv.channels rfl (List.Subset.refl _) (fun requestId elsewhere => ?_) ?_ inv.events
    · simp only [Elsewhere, taken.mem_iff, List.mem_cons] at elsewhere ⊢
      tauto
    · refine (List.subperm_append_left _).mpr ((List.subperm_append_right _).mpr ?_)
      exact (List.sublist_cons_self _ _).subperm.trans taken.symm.subperm

theorem genuine_result (made : List (String × TestResult)) (ts requestId : String)
    (result : TestResult) :
    Genuine ((requestId, result) :: made) (resultEvent ts requestId result) := by
  intro other answers
  obtain rfl := Val.str.inj answers.2
  exact ⟨result, List.mem_cons_self, rfl, rfl⟩

theorem Inv.finish (inv : Inv lax state) (index : Nat)
    (config : Except String (Option (Except String Unit))) (ts : String) :
    Inv lax (step lax state (.finish index config ts)) := by
  rw [step]
  split
  · exact inv
  next finished found =>
    have taken := perm_eraseIdx found
    have published : (state.events ++
          [resultFrame ts finished (handleTestReplication config)]).filterMap answeredBy =
        state.events.filterMap answeredBy ++ [finished] := by
      rw [List.filterMap_append, filterMap_cons_toList, answeredBy_resultFrame]
      rfl
    refine inv.channels rfl (List.subset_cons_self _ _) (fun requestId elsewhere => ?_) ?_ ?_
    · simp only [Elsewhere, taken.mem_iff, published, List.mem_cons, List.mem_append] at elsewhere ⊢
      tauto
    · refine (List.subperm_append_left _).mpr ?_
      exact (List.perm_middle.trans (taken.symm.append_right _)).subperm
    · intro frame member event read
      rcases List.mem_append.mp member with old | new
      · exact (inv.events frame old event read).mono (List.subset_cons_self _ _)
      · obtain rfl := List.mem_singleton.mp new
        rw [envelope_resultFrame] at read
        obtain rfl := Option.some.inj read
        exact genuine_result _ _ _ _

theorem Inv.publish (inv : Inv lax state) (frame : EventFrame) :
    Inv lax (step lax state (.publish frame)) := by
  rw [step]
  split
  · exact inv
  next other =>
    have foreign := Option.not_isSome_iff_eq_none.mp other
    refine inv.channels rfl (List.Subset.refl _) (fun requestId elsewhere => ?_) (.refl _) ?_
    · simp only [Elsewhere, List.filterMap_append, List.mem_append] at elsewhere ⊢
      tauto
    · intro added member event read
      rcases List.mem_append.mp member with old | new
      · exact inv.events added old event read
      · obtain rfl := List.mem_singleton.mp new
        intro requestId answers
        have answered := answeredBy_eq_some.mpr ⟨event, read, answers⟩
        rw [foreign] at answered
        cases answered

theorem Inv.loseEvent (inv : Inv lax state) (index : Nat) :
    Inv lax (step lax state (.loseEvent index)) := by
  rw [step]
  split
  · exact inv
  next frame found =>
    have taken := filterMap_eraseIdx answeredBy found
    refine inv.channels rfl (List.Subset.refl _) (fun requestId elsewhere => ?_) (.refl _) ?_
    · simp only [Elsewhere, taken.mem_iff, List.mem_append] at elsewhere ⊢
      tauto
    · exact fun frame member => inv.events frame (List.mem_of_mem_eraseIdx member)

theorem Inv.subscribe (inv : Inv lax state) (requestId : String) :
    Inv lax (step lax state (.subscribe requestId)) := by
  rw [step]
  split
  next idle =>
    refine inv.set (fun sent => ?_) ⟨nofun, nofun⟩
    rw [idle] at sent
    exact sent.elim
  · exact inv

theorem Inv.unsent (inv : Inv lax state) (requestId : String) :
    Inv lax (step lax state (.unsent requestId)) := by
  rw [step]
  split
  · exact inv.set (fun _ => trivial) trivial
  · exact inv

theorem Inv.expire (inv : Inv lax state) (requestId : String) :
    Inv lax (step lax state (.expire requestId)) := by
  rw [step]
  split
  · exact inv.set (fun _ => trivial) trivial
  · exact inv

theorem Inv.send (inv : Inv lax state) (requestId : String) :
    Inv lax (step lax state (.send requestId)) := by
  rw [step]
  split
  next subscribed queue unsent =>
    have asked : (state.commands ++
          [(IpcCommand.testReplication requestId).frame]).filterMap (testOf lax) =
        state.commands.filterMap (testOf lax) ++ [requestId] := by
      rw [List.filterMap_append, filterMap_cons_toList, testOf_frame]
      rfl
    have fresh : requestId ∉ tokens lax state := by
      intro member
      have sent := inv.sent requestId member
      rw [unsent] at sent
      cases sent
    refine ⟨?_, fun other member => ?_, inv.events, fun other => ?_⟩
    · rw [tokens, asked, List.append_assoc, List.singleton_append, List.nodup_middle]
      exact List.nodup_cons.mpr ⟨fresh, inv.distinct⟩
    · by_cases same : other = requestId
      · subst same
        rw [State.set_self]
        rfl
      · rw [State.set_of_ne _ _ same]
        refine inv.sent other ?_
        simp only [tokens, asked, List.mem_append, List.mem_singleton] at member ⊢
        tauto
    · have still (elsewhere : Elsewhere lax state other) : Elsewhere lax
          { state.set requestId (.waiting ⟨true, subscribed, queue⟩) with
            commands := state.commands ++ [(IpcCommand.testReplication requestId).frame] }
          other := by
        simp only [Elsewhere, asked, List.mem_append] at elsewhere ⊢
        tauto
      by_cases same : other = requestId
      · subst same
        have fine := inv.fine other
        rw [unsent] at fine
        rw [State.set_self]
        refine ⟨fine.1, fun _ => .inl (.inl ?_)⟩
        rw [asked]
        exact List.mem_append_right _ List.mem_cons_self
      · rw [State.set_of_ne _ _ same]
        exact (inv.fine other).mono (List.Subset.refl _) still
  · exact inv

theorem Inv.read (inv : Inv lax state) (requestId : String) :
    Inv lax (step lax state (.read requestId)) := by
  rw [step]
  split
  next subscribed event queue waiting =>
    have fine := inv.fine requestId
    rw [waiting] at fine
    obtain ⟨genuine, found⟩ := fine
    split
    next answers => exact inv.set (fun _ => trivial) (genuine event List.mem_cons_self _ answers)
    next other =>
      refine inv.set (fun _ => rfl) ⟨fun later member => ?_, fun _ => ?_⟩
      · exact genuine later (List.mem_cons_of_mem _ member)
      · refine (found rfl).imp_right (.imp_right ?_)
        rintro ⟨answer, member, answers⟩
        rcases List.mem_cons.mp member with rfl | later
        · exact (other answers).elim
        · exact ⟨answer, later, answers⟩
  · exact inv

theorem sent_put (request : Request) (event : Dict) : (request.put event).Sent ↔ request.Sent := by
  cases request with
  | waiting waiter =>
    change (waiter.put event).sent = true ↔ waiter.sent = true
    unfold Waiter.put
    split_ifs <;> rfl
  | _ => rfl

/-- An event reaches the queue of a request, or the queue is full. -/
theorem Request.Fine.put {made : List (String × TestResult)} {elsewhere elsewhere' : Prop}
    {request : Request} {event : Dict} (fine : request.Fine made requestId elsewhere)
    (genuine : Genuine made event)
    (still : elsewhere → elsewhere' ∨ Answers requestId event) :
    (request.put event).Fine made requestId elsewhere' := by
  cases request with
  | waiting waiter =>
    obtain ⟨queued, found⟩ := fine
    change (Request.waiting (waiter.put event)).Fine made requestId elsewhere'
    unfold Waiter.put
    split_ifs with subscribed room
    · refine ⟨fun other member => ?_, fun sent => ?_⟩
      · rcases List.mem_append.mp member with old | new
        · exact queued other old
        · exact List.mem_singleton.mp new ▸ genuine
      · rcases found sent with away | dropped | ⟨answer, member, answers⟩
        · refine (still away).imp_right fun answers => .inr ⟨event, ?_, answers⟩
          exact List.mem_append_right _ List.mem_cons_self
        · exact .inr (.inl dropped)
        · exact .inr (.inr ⟨answer, List.mem_append_left _ member, answers⟩)
    · exact ⟨queued, fun _ => .inr (.inl rfl)⟩
    · exact ⟨queued, fun _ => .inr (.inl (by simpa using subscribed))⟩
  | answered ok detail => exact fine
  | idle => trivial
  | failed => trivial

theorem Inv.bridge (inv : Inv lax state) : Inv lax (step lax state .bridge) := by
  rw [step]
  split
  · exact inv
  next frame rest waiting =>
    have first := filterMap_cons_toList answeredBy frame rest
    cases read : envelope frame with
    | none =>
      have foreign : answeredBy frame = none := by rw [answeredBy, read, Option.bind_none]
      refine inv.channels rfl (List.Subset.refl _) (fun requestId elsewhere => ?_) (.refl _) ?_
      · simpa [Elsewhere, waiting, first, foreign] using elsewhere
      · exact fun later member => inv.events later (waiting ▸ List.mem_cons_of_mem _ member)
    | some event =>
      refine ⟨inv.distinct, fun requestId member => ?_, fun later member => ?_, fun requestId => ?_⟩
      · exact (sent_put _ _).mpr (inv.sent requestId member)
      · exact inv.events later (waiting ▸ List.mem_cons_of_mem _ member)
      · refine (inv.fine requestId).put (inv.events frame (waiting ▸ List.mem_cons_self) event read)
          fun elsewhere => ?_
        simp only [Elsewhere, waiting, first, List.mem_append, Option.mem_toList] at elsewhere ⊢
        rcases elsewhere with asked | working | (now | later) | lost
        · exact .inl (.inl asked)
        · exact .inl (.inr (.inl working))
        · obtain ⟨other, same, answers⟩ := answeredBy_eq_some.mp now
          rw [read] at same
          exact .inr (Option.some.inj same ▸ answers)
        · exact .inl (.inr (.inr (.inl later)))
        · exact .inl (.inr (.inr (.inr lost)))

theorem inv_step (inv : Inv lax state) (op : Op) : Inv lax (step lax state op) := by
  cases op with
  | subscribe requestId => exact inv.subscribe requestId
  | send requestId => exact inv.send requestId
  | unsent requestId => exact inv.unsent requestId
  | push command => exact inv.push command
  | receive => exact inv.receive
  | loseCommand index => exact inv.loseCommand index
  | finish index config ts => exact inv.finish index config ts
  | stop index => exact inv.stop index
  | publish frame => exact inv.publish frame
  | loseEvent index => exact inv.loseEvent index
  | bridge => exact inv.bridge
  | read requestId => exact inv.read requestId
  | expire requestId => exact inv.expire requestId

theorem inv_foldl (inv : Inv lax state) (ops : List Op) : Inv lax (ops.foldl (step lax) state) := by
  induction ops generalizing state with
  | nil => exact inv
  | cons op ops ih => exact ih (inv_step inv op)

end Invariant

/-- A result is made once and for a request that asked for it; a request is answered with the one
that was made for it, and one that waits has its answer in its queue or on the way, unless it was
lost or the queue was full. -/
structure Honest (lax : Lax) (state : State) : Prop where
  once : (state.made.map Prod.fst).Nodup
  asked : ∀ requestId result, (requestId, result) ∈ state.made → (state.requests requestId).Sent
  answered : ∀ requestId ok detail, state.requests requestId = .answered ok detail →
    ∃ result, ok = .bool result.ok ∧ detail = .str result.detail ∧
      ∀ other, (requestId, other) ∈ state.made ↔ other = result
  waiting : ∀ requestId waiter, state.requests requestId = .waiting waiter → waiter.sent = true →
    Elsewhere lax state requestId ∨ waiter.subscribed = false ∨
      ∃ event ∈ waiter.queue, Answers requestId event

theorem Inv.honest {lax : Lax} {state : State} (inv : Inv lax state) : Honest lax state := by
  have once : (state.made.map Prod.fst).Nodup :=
    inv.distinct.sublist ((List.sublist_append_right _ _).trans (List.sublist_append_right _ _))
  refine ⟨once, fun requestId result member => ?_, fun requestId ok detail answered => ?_,
    fun requestId waiter waiting sent => ?_⟩
  · refine inv.sent requestId (List.mem_append_right _ (List.mem_append_right _ ?_))
    exact List.mem_map_of_mem member
  · have fine := inv.fine requestId
    rw [answered] at fine
    obtain ⟨result, member, same⟩ := fine
    refine ⟨result, same.1, same.2, fun other => ⟨fun also => ?_, fun same => same ▸ member⟩⟩
    exact (Prod.mk.inj (List.inj_on_of_nodup_map once also member rfl)).2
  · have fine := inv.fine requestId
    rw [waiting] at fine
    exact fine.2 sent

/-- Whatever is sent, received, finished, bridged, read or lost, in any order, the tests are
honest. -/
theorem run_honest (lax : Lax) (ops : List Op) : Honest lax (run lax ops) :=
  (inv_foldl inv_initial ops).honest

/-- Undisturbed, a request is answered with what the worker found. -/
theorem undisturbed_answered (lax : Lax) (requestId ts : String)
    (config : Except String (Option (Except String Unit))) :
    (run lax [.subscribe requestId, .send requestId, .receive, .finish 0 config ts, .bridge,
      .read requestId]).requests requestId =
        .answered (.bool (handleTestReplication config).ok)
          (.str (handleTestReplication config).detail) := by
  have answers : Answers requestId (resultEvent ts requestId (handleTestReplication config)) :=
    ⟨rfl, rfl⟩
  have room : ([] : List Dict).length < queueSize := by decide
  let asked := initial.set requestId (.waiting ⟨false, true, []⟩)
  let sent := { initial.set requestId (.waiting ⟨true, true, []⟩) with
    commands := [(IpcCommand.testReplication requestId).frame] }
  have send : step lax asked (.send requestId) = sent := by
    simp [asked, sent, step, State.set, initial]
  have received : step lax sent .receive =
      { initial.set requestId (.waiting ⟨true, true, []⟩) with working := [requestId] } := by
    simp [sent, step, testOf_frame, testedBy, initial, State.set]
  have subscribe : step lax initial (.subscribe requestId) = asked := rfl
  rw [run, List.foldl_cons, subscribe, List.foldl_cons, send, List.foldl_cons, received]
  simp only [step, State.set, initial, List.foldl_cons, List.foldl_nil, List.getElem?_cons_zero,
    List.eraseIdx_cons_zero, List.nil_append, Function.update_self, envelope_resultFrame,
    Request.put, Waiter.put, room, if_true, if_pos answers]
  rfl

end PfsenseBackups.ReplicationTests

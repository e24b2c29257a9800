import PfsenseBackups.LruCaches
import PfsenseBackups.PythonText
import PfsenseBackups.Runs
import PfsenseBackups.Tables
import Mathlib.Data.Set.Insert

/-! Bearer tokens: requests that authenticate through the cache of identities, while tokens are
created, disabled, enabled and deleted, and time passes. Times are in microseconds. -/

namespace PfsenseBackups.TokenAuth
open Labels PythonText LruCaches Runs Tables

variable {Digest : Type}

/-! ### `authenticate_bearer` -/

structure ApiToken (Digest : Type) where
  id : Nat
  name : String
  tokenHash : Digest
  scope : String
  enabled : Bool
  expiresAt : Option Nat

structure User where
  email : String
  name : String
  tokenId : Nat
  tokenScope : String

def tokenPrefix : String :=
  "pfsb_"

/-- `_CACHE_TTL_SECONDS`. -/
def cacheTtl : Nat :=
  60 * 1000000

/-- The secret in an `Authorization` header. -/
def bearerSecret (auth : Option String) : Option String := do
  let auth ← truthy auth
  guard (startsWith auth "Bearer ")
  let secret := strip (String.ofList (auth.toList.drop 7))
  guard (startsWith secret tokenPrefix)
  return secret

def ApiToken.user (row : ApiToken Digest) : User where
  email := "token:" ++ row.name
  name := row.name
  tokenId := row.id
  tokenScope := row.scope

def expired (expiresAt : Option Nat) (now : Nat) : Bool :=
  match expiresAt with
  | none => false
  | some expires => expires ≤ now

/-- The enabled row with a hash. -/
def select [DecidableEq Digest] (rows : Table (ApiToken Digest) ApiToken.id) (hash : Digest) :
    Option (ApiToken Digest) :=
  rows.rows.find? fun row => row.tokenHash = hash && row.enabled

/-- The identity that a row gives at a time. -/
def resolve (row : Option (ApiToken Digest)) (now : Nat) : Option User :=
  (row.filter fun row => !expired row.expiresAt now).map ApiToken.user

/-! ### The system -/

inductive Stage (Digest : Type) where
  | begun
  /-- The cache had no identity at a time. -/
  | missed (now : Nat)
  /-- The row is read, and is not looked at yet. -/
  | selected (now : Nat) (row : Option (ApiToken Digest))

/-- A request with a token's secret. -/
structure Request (Digest : Type) where
  hash : Digest
  stage : Stage Digest
  began : Nat
  /-- A disable or delete call for the token had returned when the request began, and the token has
  not been enabled since. -/
  revoked : Prop

inductive Change where
  | update (enabled : Option Bool)
  | delete

/-- The change leaves a token unusable. -/
def Change.revokes : Change → Prop
  | .update enabled => enabled = some false
  | .delete => True

/-- The change is committed, and the cache is cleared after it. -/
def Change.commits (change : Change) (row : ApiToken Digest) : Prop :=
  match change with
  | .update enabled => ∃ wanted, enabled = some wanted ∧ wanted ≠ row.enabled
  | .delete => True

/-- A call of `update_token` or `delete_token` that found its row. -/
structure Call (Digest : Type) where
  change : Change
  row : ApiToken Digest
  committed : Bool

structure Answer (Digest : Type) where
  request : Request Digest
  user : Option User
  /-- The expiry of the request's token. -/
  expiresAt : Option Nat

structure State (Digest : Type) where
  rows : Table (ApiToken Digest) ApiToken.id
  cache : TtlCache Digest User 256
  now : Nat
  requests : List (Request Digest)
  calls : List (Call Digest)
  answers : List (Answer Digest)
  /-- The expiry of each token ever created. -/
  issued : Digest → Option Nat
  /-- The tokens that a disable or delete call returned for, and that have not been enabled since. -/
  revoked : Set Digest

/-- A token is enabled in the table. -/
def Live (rows : Table (ApiToken Digest) ApiToken.id) (hash : Digest) : Prop :=
  ∃ row ∈ rows.rows, row.tokenHash = hash ∧ row.enabled = true

/-- A change of the table. -/
def State.withRows (state : State Digest) (rows : Table (ApiToken Digest) ApiToken.id) :
    State Digest :=
  { state with
    rows
    revoked := {hash | hash ∈ state.revoked ∧ ¬ Live rows hash}
    requests := state.requests.map fun request =>
      { request with revoked := request.revoked ∧ ¬ Live rows request.hash } }

/-- A call returns. -/
def State.returned (state : State Digest) (call : Call Digest) : State Digest :=
  { state with
    revoked := {hash | hash ∈ state.revoked ∨
      (call.change.revokes ∧ hash = call.row.tokenHash ∧ ¬ Live state.rows hash)} }

def State.answer (state : State Digest) (request : Request Digest) (user : Option User)
    (rest : List (Request Digest)) : State Digest :=
  { state with
    requests := rest
    answers := ⟨request, user, state.issued request.hash⟩ :: state.answers }

inductive Op (Digest : Type) where
  | tick (elapsed : Nat)
  | create (row : ApiToken Digest)
  | begin (auth : Option String)
  | hit (request : Request Digest)
  | miss (request : Request Digest)
  | select (request : Request Digest)
  | refuse (request : Request Digest)
  | accept (request : Request Digest)
  | abort (request : Request Digest)
  | load (change : Change) (id : Nat)
  /-- An update that changes nothing returns. -/
  | unchanged (call : Call Digest)
  | commit (call : Call Digest)
  /-- The cache is cleared, and the call returns. -/
  | clear (call : Call Digest)
  | fail (call : Call Digest)

inductive Step [DecidableEq Digest] (hashToken : String → Digest) :
    State Digest → Op Digest → State Digest → Prop
  | tick {state elapsed} :
    Step hashToken state (.tick elapsed) { state with now := state.now + elapsed }
  | create {state row} (fresh : state.rows.get row.id = none)
      (unique : ∀ other ∈ state.rows.rows, other.tokenHash ≠ row.tokenHash)
      (enabled : row.enabled = true)
      (ahead : ∀ expires, row.expiresAt = some expires → state.now < expires) :
      Step hashToken state (.create row)
        { state.withRows (state.rows.insert row) with
          issued := Function.update state.issued row.tokenHash row.expiresAt }
  | begin {state auth secret} (bearer : bearerSecret auth = some secret) :
      Step hashToken state (.begin auth)
        { state with
          requests := ⟨hashToken secret, .begun, state.now, hashToken secret ∈ state.revoked⟩ ::
            state.requests }
  | hit {state request user front back} (pending : state.requests = front ++ request :: back)
      (stage : request.stage = .begun)
      (cached : TtlCache.current? state.cache state.now request.hash = some user) :
      Step hashToken state (.hit request)
        { state.answer request (some user) (front ++ back) with
          cache := state.cache.touch request.hash }
  | miss {state request front back} (pending : state.requests = front ++ request :: back)
      (stage : request.stage = .begun)
      (uncached : TtlCache.current? state.cache state.now request.hash = none) :
      Step hashToken state (.miss request)
        { state with requests := { request with stage := .missed state.now } :: (front ++ back) }
  | select {state request now front back} (pending : state.requests = front ++ request :: back)
      (stage : request.stage = .missed now) :
      Step hashToken state (.select request)
        { state with
          requests := { request with stage := .selected now (select state.rows request.hash) } ::
            (front ++ back) }
  | refuse {state request now row front back} (pending : state.requests = front ++ request :: back)
      (stage : request.stage = .selected now row) (unresolved : resolve row now = none) :
      Step hashToken state (.refuse request) (state.answer request none (front ++ back))
  | accept {state request now row user front back}
      (pending : state.requests = front ++ request :: back)
      (stage : request.stage = .selected now row) (resolved : resolve row now = some user) :
      Step hashToken state (.accept request)
        { state.answer request (some user) (front ++ back) with
          cache := TtlCache.store state.cache state.now cacheTtl request.hash user }
  | abort {state request front back} (pending : state.requests = front ++ request :: back) :
      Step hashToken state (.abort request) { state with requests := front ++ back }
  | load {state change id row} (found : state.rows.get id = some row) :
      Step hashToken state (.load change id)
        { state with calls := ⟨change, row, false⟩ :: state.calls }
  | unchanged {state call front back} (pending : state.calls = front ++ call :: back)
      (loaded : call.committed = false) (idle : ¬ call.change.commits call.row) :
      Step hashToken state (.unchanged call) { state.returned call with calls := front ++ back }
  | update {state call enabled front back} (pending : state.calls = front ++ call :: back)
      (change : call.change = .update (some enabled)) (differs : enabled ≠ call.row.enabled)
      (loaded : call.committed = false) (there : state.rows.get call.row.id ≠ none) :
      Step hashToken state (.commit call)
        { state.withRows (state.rows.modify call.row.id fun row => { row with enabled }) with
          calls := { call with committed := true } :: (front ++ back) }
  | delete {state call front back} (pending : state.calls = front ++ call :: back)
      (change : call.change = .delete) (loaded : call.committed = false) :
      Step hashToken state (.commit call)
        { state.withRows (state.rows.delete call.row.id) with
          calls := { call with committed := true } :: (front ++ back) }
  | clear {state call front back} (pending : state.calls = front ++ call :: back)
      (committed : call.committed = true) :
      Step hashToken state (.clear call)
        { state.returned call with
          cache := .empty
          calls := front ++ back }
  | fail {state call front back} (pending : state.calls = front ++ call :: back) :
      Step hashToken state (.fail call) { state with calls := front ++ back }

/-! ### What a revoked or expired token does, and when -/

/-- A request that authenticates began before its token expired, and at a time when no disable or
delete call for it had returned. -/
def Refused (answer : Answer Digest) : Prop :=
  answer.user.isSome = true → ¬ answer.request.revoked ∧
    ∀ expires, answer.expiresAt = some expires → answer.request.began < expires

/-- A cached identity serves requests from before its token's expiry; a request from before a token's
revocation does not cache an identity after it; and a call that finds a token disabled does not
return while an identity of the token is cached. -/
def Allowed (state : State Digest) : Op Digest → Prop
  | .hit request => ∀ expires, state.issued request.hash = some expires → request.began < expires
  | .accept request => ¬ request.revoked → request.hash ∉ state.revoked
  | .unchanged call => call.change.revokes → ¬ Live state.rows call.row.tokenHash →
    ∀ item ∈ state.cache.items, item.1 = call.row.tokenHash → item.2.2 ≤ state.now
  | _ => True

theorem select_spec [DecidableEq Digest] {rows : Table (ApiToken Digest) ApiToken.id}
    {hash : Digest} {row : ApiToken Digest} (found : select rows hash = some row) :
    row ∈ rows.rows ∧ row.tokenHash = hash ∧ row.enabled = true := by
  have selected := List.find?_some found
  rw [Bool.and_eq_true, decide_eq_true_iff] at selected
  exact ⟨List.mem_of_find?_eq_some found, selected⟩

theorem resolve_spec {row : Option (ApiToken Digest)} {now : Nat} {user : User}
    (resolved : resolve row now = some user) :
    ∃ held, row = some held ∧ ∀ expires, held.expiresAt = some expires → now < expires := by
  obtain ⟨held, kept, rfl⟩ := Option.map_eq_some_iff.mp resolved
  obtain ⟨same, fresh⟩ := Option.filter_eq_some_iff.mp kept
  refine ⟨held, same, fun expires until_ => ?_⟩
  rw [until_, expired, Bool.not_eq_true', decide_eq_false_iff_not, Nat.not_le] at fresh
  exact fresh

/-! ### The invariant -/

/-- A request on its way. A row that gives it an identity was read while the token was neither revoked
nor expired. -/
structure Sound (revoked : Set Digest) (issued : Digest → Option Nat) (now : Nat)
    (request : Request Digest) : Prop where
  revoked : request.revoked → request.hash ∈ revoked
  began : request.began ≤ now
  missed : ∀ time, request.stage = .missed time → request.began ≤ time
  selected : ∀ time row user, request.stage = .selected time row → resolve row time = some user →
    ¬ request.revoked ∧
      ∀ expires, issued request.hash = some expires → request.began < expires

structure Inv (state : State Digest) : Prop where
  revoked : ∀ hash ∈ state.revoked, ¬ Live state.rows hash
  issued : ∀ row ∈ state.rows.rows, state.issued row.tokenHash = row.expiresAt
  requests : ∀ request ∈ state.requests, Sound state.revoked state.issued state.now request
  cached : ∀ hash user lapses, (hash, user, lapses) ∈ state.cache.items → state.now < lapses →
    hash ∉ state.revoked
  answers : ∀ answer ∈ state.answers, Refused answer

variable {state next : State Digest}

/-- A change of the table, and of the expiries with it. -/
theorem Inv.withRows (inv : Inv state) {rows : Table (ApiToken Digest) ApiToken.id}
    {issued : Digest → Option Nat}
    (kept : ∀ row ∈ rows.rows, issued row.tokenHash = row.expiresAt)
    (later : ∀ hash expires, issued hash = some expires →
      state.issued hash = some expires ∨ state.now < expires) :
    Inv { state.withRows rows with issued } where
  revoked hash member := member.2
  issued := kept
  requests := by
    intro request member
    obtain ⟨earlier, held, rfl⟩ := List.mem_map.mp member
    have sound := inv.requests earlier held
    refine ⟨fun still => ⟨sound.revoked still.1, still.2⟩, sound.began, sound.missed, ?_⟩
    intro now row user stage resolved
    obtain ⟨usable, ahead⟩ := sound.selected now row user stage resolved
    refine ⟨fun still => usable still.1, fun expires until_ => ?_⟩
    rcases later _ expires until_ with before | future
    · exact ahead expires before
    · exact Nat.lt_of_le_of_lt sound.began future
  cached hash user lapses member current now := inv.cached hash user lapses member current now.1
  answers := inv.answers

/-- The expiry of a token never changes. -/
theorem Inv.changeRows (inv : Inv state) {rows : Table (ApiToken Digest) ApiToken.id}
    (kept : ∀ row ∈ rows.rows, ∃ old ∈ state.rows.rows,
      row.tokenHash = old.tokenHash ∧ row.expiresAt = old.expiresAt) :
    Inv (state.withRows rows) := by
  refine inv.withRows (fun row member => ?_) fun hash expires until_ => .inl until_
  obtain ⟨old, held, hash, expires⟩ := kept row member
  rw [hash, expires]
  exact inv.issued old held

theorem Inv.create [DecidableEq Digest] (inv : Inv state) {row : ApiToken Digest}
    (fresh : state.rows.get row.id = none)
    (unique : ∀ other ∈ state.rows.rows, other.tokenHash ≠ row.tokenHash)
    (ahead : ∀ expires, row.expiresAt = some expires → state.now < expires) :
    Inv { state.withRows (state.rows.insert row) with
      issued := Function.update state.issued row.tokenHash row.expiresAt } := by
  refine inv.withRows (fun other member => ?_) fun hash expires until_ => ?_
  · rw [Table.insert, dif_neg (Table.get_eq_none.mp fresh), List.mem_append] at member
    rcases member with old | new
    · rw [Function.update_of_ne (unique other old)]
      exact inv.issued other old
    · obtain rfl := List.mem_singleton.mp new
      exact Function.update_self _ _ _
  · by_cases same : hash = row.tokenHash
    · subst same
      rw [Function.update_self] at until_
      exact .inr (ahead expires until_)
    · rw [Function.update_of_ne same] at until_
      exact .inl until_

theorem Inv.update (inv : Inv state) (id : Nat) (enabled : Bool) :
    Inv (state.withRows (state.rows.modify id fun row => { row with enabled })) := by
  apply inv.changeRows
  intro row member
  obtain ⟨old, held, rfl⟩ := List.mem_map.mp member
  refine ⟨old, held, ?_⟩
  split <;> exact ⟨rfl, rfl⟩

theorem Inv.delete (inv : Inv state) (id : Nat) :
    Inv (state.withRows (state.rows.delete id)) := by
  apply inv.changeRows
  intro row member
  exact ⟨row, (List.mem_filter.mp member).1, rfl, rfl⟩

/-- A call returns, and no current identity of a token that it revokes is cached. -/
theorem Inv.returned (inv : Inv state) (call : Call Digest)
    {cache : TtlCache Digest User 256}
    (within : ∀ item ∈ cache.items, item ∈ state.cache.items)
    (uncached : call.change.revokes → ¬ Live state.rows call.row.tokenHash →
      ∀ item ∈ cache.items, item.1 = call.row.tokenHash → item.2.2 ≤ state.now)
    (calls : List (Call Digest)) : Inv { state.returned call with cache, calls } where
  revoked hash member := member.elim (inv.revoked hash) fun new => new.2.2
  issued := inv.issued
  requests request member :=
    have sound := inv.requests request member
    { sound with revoked := fun revoked => .inl (sound.revoked revoked) }
  cached := by
    rintro hash user lapses member current (earlier | ⟨revokes, rfl, dead⟩)
    · exact inv.cached hash user lapses (within _ member) current earlier
    · exact Nat.not_le.mpr current (uncached revokes dead _ member rfl)
  answers := inv.answers

/-- A request is answered, and what becomes cached with it is not revoked. -/
theorem Inv.answer (inv : Inv state) {request : Request Digest} {user : Option User}
    {front back : List (Request Digest)} (pending : state.requests = front ++ request :: back)
    (refused : Refused ⟨request, user, state.issued request.hash⟩)
    {cache : TtlCache Digest User 256}
    (cached : ∀ item ∈ cache.items, item ∈ state.cache.items ∨ item.1 ∉ state.revoked) :
    Inv { state.answer request user (front ++ back) with cache } where
  revoked := inv.revoked
  issued := inv.issued
  requests other member := inv.requests other (mem_of_split pending member)
  cached hash user lapses member current :=
    (cached _ member).elim (fun old => inv.cached hash user lapses old current) id
  answers answer member := by
    rcases List.mem_cons.mp member with rfl | earlier
    · exact refused
    · exact inv.answers answer earlier

/-- A step that only moves requests and calls on. -/
theorem Inv.move (inv : Inv state) {requests : List (Request Digest)} (calls : List (Call Digest))
    (sound : ∀ request ∈ requests, Sound state.revoked state.issued state.now request) :
    Inv { state with requests, calls } where
  revoked := inv.revoked
  issued := inv.issued
  requests := sound
  cached := inv.cached
  answers := inv.answers

theorem Inv.tick (inv : Inv state) (elapsed : Nat) :
    Inv { state with now := state.now + elapsed } where
  revoked := inv.revoked
  issued := inv.issued
  requests request member :=
    have sound := inv.requests request member
    { sound with began := Nat.le_trans sound.began (Nat.le_add_right _ _) }
  cached hash user lapses member current :=
    inv.cached hash user lapses member (Nat.lt_of_le_of_lt (Nat.le_add_right _ _) current)
  answers := inv.answers

/-- The row that a request reads is enabled, so its token is not revoked. -/
theorem Inv.selects [DecidableEq Digest] (inv : Inv state) {request : Request Digest} {time : Nat}
    (sound : Sound state.revoked state.issued state.now request)
    (stage : request.stage = .missed time) : Sound state.revoked state.issued state.now
      { request with stage := .selected time (select state.rows request.hash) } := by
  refine ⟨sound.revoked, sound.began, fun _ other => (by cases other), ?_⟩
  intro time' row user same resolved
  cases same
  obtain ⟨held, found, fresh⟩ := resolve_spec resolved
  obtain ⟨there, same, enabled⟩ := select_spec found
  constructor
  · exact fun revoked => inv.revoked _ (sound.revoked revoked) ⟨held, there, same, enabled⟩
  · intro expires until_
    have issued := inv.issued held there
    rw [same, until_] at issued
    exact Nat.lt_of_le_of_lt (sound.missed time stage) (fresh expires issued.symm)

theorem Inv.hit [DecidableEq Digest] (inv : Inv state) {request : Request Digest} {user : User}
    {front back : List (Request Digest)} (pending : state.requests = front ++ request :: back)
    (cached : TtlCache.current? state.cache state.now request.hash = some user)
    (allowed : Allowed state (.hit request)) :
    Inv { state.answer request (some user) (front ++ back) with
      cache := state.cache.touch request.hash } := by
  apply inv.answer pending
  · intro
    obtain ⟨lapses, held, current⟩ := TtlCache.mem_of_current? cached
    have sound := inv.requests request (mem_of_pending pending)
    have usable := inv.cached request.hash user lapses held current
    exact ⟨fun revoked => usable (sound.revoked revoked), allowed⟩
  · exact fun item member => .inl (LruCache.mem_touch.mp member)

theorem Inv.accept [DecidableEq Digest] (inv : Inv state) {request : Request Digest} {time : Nat}
    {row : Option (ApiToken Digest)} {user : User} {front back : List (Request Digest)}
    (pending : state.requests = front ++ request :: back)
    (stage : request.stage = .selected time row) (resolved : resolve row time = some user)
    (allowed : Allowed state (.accept request)) :
    Inv { state.answer request (some user) (front ++ back) with
      cache := TtlCache.store state.cache state.now cacheTtl request.hash user } := by
  have sound := inv.requests request (mem_of_pending pending)
  have usable := sound.selected time row user stage resolved
  apply inv.answer pending
  · exact fun _ => usable
  · intro item member
    rcases TtlCache.of_mem_store member with rfl | old
    · exact .inr (allowed usable.1)
    · exact .inl old

theorem Inv.step [DecidableEq Digest] {hashToken : String → Digest} (inv : Inv state)
    {op : Op Digest} (allowed : Allowed state op) (taken : Step hashToken state op next) :
    Inv next := by
  cases taken with
  | tick => exact inv.tick _
  | create fresh unique enabled ahead => exact inv.create fresh unique ahead
  | begin =>
    apply inv.move
    intro request member
    rcases List.mem_cons.mp member with rfl | earlier
    · exact ⟨id, Nat.le_refl _, fun _ other => (by cases other), fun _ _ _ other => (by cases other)⟩
    · exact inv.requests request earlier
  | hit pending stage cached => exact inv.hit pending cached allowed
  | miss pending =>
    apply inv.move
    intro request member
    rcases List.mem_cons.mp member with rfl | earlier
    · have sound := inv.requests _ (mem_of_pending pending)
      refine ⟨sound.revoked, sound.began, fun time same => ?_, fun _ _ _ other => by cases other⟩
      cases same
      exact sound.began
    · exact inv.requests request (mem_of_split pending earlier)
  | select pending stage =>
    apply inv.move
    intro request member
    rcases List.mem_cons.mp member with rfl | earlier
    · exact inv.selects (inv.requests _ (mem_of_pending pending)) stage
    · exact inv.requests request (mem_of_split pending earlier)
  | refuse pending =>
    exact inv.answer pending (fun authenticates => by cases authenticates) fun _ member => .inl member
  | accept pending stage resolved => exact inv.accept pending stage resolved allowed
  | abort pending =>
    exact inv.move state.calls fun request member => inv.requests request (mem_of_split pending member)
  | load => exact inv.move _ inv.requests
  | unchanged pending loaded idle => exact inv.returned _ (fun _ member => member) allowed _
  | @update call enabled =>
    have changed := inv.update call.row.id enabled
    exact changed.move _ changed.requests
  | @delete call =>
    have changed := inv.delete call.row.id
    exact changed.move _ changed.requests
  | clear pending committed =>
    exact inv.returned _ (fun _ member => absurd member List.not_mem_nil)
      (fun _ _ _ member => absurd member List.not_mem_nil) _
  | fail pending => exact inv.move _ inv.requests

/-- A service that has just come up over its tokens. -/
structure Started (state : State Digest) : Prop where
  revoked : ∀ hash ∈ state.revoked, ¬ Live state.rows hash
  issued : ∀ row ∈ state.rows.rows, state.issued row.tokenHash = row.expiresAt
  requests : state.requests = []
  cache : state.cache = .empty
  answers : state.answers = []

theorem Inv.of_started (started : Started state) : Inv state where
  revoked := started.revoked
  issued := started.issued
  requests request member := by
    rw [started.requests] at member
    exact absurd member List.not_mem_nil
  cached hash user lapses member := by
    rw [started.cache] at member
    exact absurd member List.not_mem_nil
  answers answer member := by
    rw [started.answers] at member
    exact absurd member List.not_mem_nil

def reporting : ApiToken String where
  id := 1
  name := "reporting"
  tokenHash := "pfsb_r"
  scope := "read"
  enabled := true
  expiresAt := some 100

def up : State String where
  rows := ⟨[reporting], List.nodup_singleton _⟩
  cache := .empty
  now := 0
  requests := []
  calls := []
  answers := []
  issued _ := some 100
  revoked := ∅

theorem up_started : Started up where
  revoked hash member := absurd member (Set.notMem_empty hash)
  issued row member := by
    obtain rfl := List.mem_singleton.mp member
    rfl
  requests := rfl
  cache := rfl
  answers := rfl

/-- A request has read the token's row. -/
def looking : State String :=
  { up with requests := [⟨"pfsb_r", .selected 0 (some reporting), 0, "pfsb_r" ∈ up.revoked⟩] }

end PfsenseBackups.TokenAuth

import Mathlib.Algebra.GroupWithZero.Nat

/-! Programs that leave a trace of effects and may raise, protocols that say which effect may follow
which, and the rules by which a program is shown to follow a protocol. -/

namespace PfsenseBackups.EffectTraces

variable {ε σ α β : Type}

/-- What a program has done when it returned or raised. -/
structure Run (ε α : Type) where
  trace : List ε
  result : Except String α

namespace Run

instance : Monad (Run ε) where
  pure value := ⟨[], .ok value⟩
  bind first next :=
    match first.result with
    | .error text => ⟨first.trace, .error text⟩
    | .ok value => ⟨first.trace ++ (next value).trace, (next value).result⟩

/-- One effect. -/
def perform (effect : ε) : Run ε Unit :=
  ⟨[effect], .ok ()⟩

/-- A call without an effect that is watched, which may raise. -/
def call (failure : Option String) : Run ε Unit :=
  match failure with
  | none => ⟨[], .ok ()⟩
  | some text => ⟨[], .error text⟩

/-- `raise`. -/
def raise (text : String) : Run ε α :=
  ⟨[], .error text⟩

/-- `if` without `else`. -/
def onlyIf (condition : Bool) (body : Run ε Unit) : Run ε Unit :=
  if condition then body else pure ()

/-- `try` with an `except Exception` clause. -/
def orExcept (body : Run ε α) (handler : String → Run ε α) : Run ε α :=
  match body.result with
  | .ok _ => body
  | .error text => ⟨body.trace ++ (handler text).trace, (handler text).result⟩

/-- `try` with a `finally` clause. -/
def andFinally (body : Run ε α) (last : Run ε Unit) : Run ε α :=
  match last.result with
  | .ok _ => ⟨body.trace ++ last.trace, body.result⟩
  | .error text => ⟨body.trace ++ last.trace, .error text⟩

@[simp] theorem pure_eq (value : α) : (pure value : Run ε α) = ⟨[], .ok value⟩ := rfl

@[simp] theorem bind_ok (trace : List ε) (value : α) (next : α → Run ε β) :
    (⟨trace, .ok value⟩ >>= next : Run ε β) =
      ⟨trace ++ (next value).trace, (next value).result⟩ :=
  rfl

@[simp] theorem bind_error (trace : List ε) (text : String) (next : α → Run ε β) :
    (⟨trace, .error text⟩ >>= next : Run ε β) = ⟨trace, .error text⟩ :=
  rfl

@[simp] theorem orExcept_ok (trace : List ε) (value : α) (handler : String → Run ε α) :
    orExcept ⟨trace, .ok value⟩ handler = ⟨trace, .ok value⟩ :=
  rfl

@[simp] theorem orExcept_error (trace : List ε) (text : String) (handler : String → Run ε α) :
    orExcept ⟨trace, .error text⟩ handler =
      ⟨trace ++ (handler text).trace, (handler text).result⟩ :=
  rfl

/-! What is done by a program, and whether it returns, told from its parts. -/

theorem mem_bind {first : Run ε α} {next : α → Run ε β} {effect : ε} :
    effect ∈ (first >>= next).trace ↔ effect ∈ first.trace ∨
      ∃ value, first.result = .ok value ∧ effect ∈ (next value).trace := by
  obtain ⟨trace, result⟩ := first
  cases result <;> simp

theorem bind_eq_ok {first : Run ε α} {next : α → Run ε β} {last : β} :
    (first >>= next).result = .ok last ↔
      ∃ value, first.result = .ok value ∧ (next value).result = .ok last := by
  obtain ⟨trace, result⟩ := first
  cases result <;> simp

theorem then_eq_ok {first : Run ε Unit} {next : Unit → Run ε β} {last : β} :
    (first >>= next).result = .ok last ↔
      first.result = .ok () ∧ (next ()).result = .ok last := by
  rw [bind_eq_ok]
  constructor
  · rintro ⟨⟨⟩, parts⟩
    exact parts
  · exact fun parts => ⟨(), parts⟩

theorem mem_orExcept {body : Run ε α} {handler : String → Run ε α} {effect : ε} :
    effect ∈ (body.orExcept handler).trace ↔ effect ∈ body.trace ∨
      ∃ text, body.result = .error text ∧ effect ∈ (handler text).trace := by
  obtain ⟨trace, result⟩ := body
  cases result <;> simp

theorem mem_andFinally {body : Run ε α} {failure : Option String} {effect : ε} :
    effect ∈ (body.andFinally (call failure)).trace ↔ effect ∈ body.trace := by
  cases failure <;> simp [andFinally, call]

@[simp] theorem mem_perform {effect other : ε} :
    effect ∈ (perform other).trace ↔ effect = other :=
  List.mem_singleton

@[simp] theorem result_perform (effect : ε) : (perform effect).result = .ok () := rfl

@[simp] theorem trace_call (failure : Option String) : (call failure : Run ε Unit).trace = [] := by
  cases failure <;> rfl

@[simp] theorem call_eq_ok {failure : Option String} {value : Unit} :
    (call failure : Run ε Unit).result = .ok value ↔ failure = none := by
  cases failure <;> simp [call]

@[simp] theorem trace_raise (text : String) : (raise text : Run ε α).trace = [] := rfl

@[simp] theorem result_raise (text : String) : (raise text : Run ε α).result = .error text := rfl

theorem raise_or_eq_ok {condition : Prop} [Decidable condition] {text : String} {run : Run ε α}
    {value : α} : (if condition then raise text else run).result = .ok value ↔
      ¬ condition ∧ run.result = .ok value := by
  split
  · simp [*]
  · simp [*]

/-- What is caught by a handler that returns is not raised. -/
theorem orExcept_returns (body : Run ε α) {handler : String → Run ε α}
    (returns : ∀ text, ∃ value, (handler text).result = .ok value) :
    ∃ value, (body.orExcept handler).result = .ok value := by
  obtain ⟨trace, result⟩ := body
  cases result with
  | ok value => exact ⟨value, rfl⟩
  | error text => exact returns text

theorem onlyIf_eq_ok {condition : Bool} {body : Run ε Unit} {value : Unit} :
    (onlyIf condition body).result = .ok value ↔
      (condition = true → body.result = .ok value) := by
  cases condition <;> simp [onlyIf]

/-- All that a program does is of a kind. -/
def All (kind : ε → Prop) (run : Run ε α) : Prop :=
  ∀ effect ∈ run.trace, kind effect

variable {kind : ε → Prop}

theorem All.pure (value : α) : All kind (Pure.pure value) := nofun

theorem All.call (failure : Option String) : All kind (Run.call failure) := by
  intro effect member
  rw [trace_call] at member
  cases member

theorem All.raise (text : String) : All kind (Run.raise text : Run ε α) := nofun

theorem All.perform {effect : ε} (holds : kind effect) : All kind (Run.perform effect) := by
  intro other member
  rwa [mem_perform.mp member]

theorem All.bind {first : Run ε α} {next : α → Run ε β} (head : All kind first)
    (tail : ∀ value, All kind (next value)) : All kind (first >>= next) := by
  intro effect member
  rcases mem_bind.mp member with early | ⟨value, -, late⟩
  · exact head effect early
  · exact tail value effect late

theorem All.ite {condition : Prop} [Decidable condition] {first second : Run ε α}
    (yes : All kind first) (no : All kind second) :
    All kind (if condition then first else second) := by
  split
  · exact yes
  · exact no

theorem All.onlyIf {condition : Bool} {body : Run ε Unit} (inner : All kind body) :
    All kind (Run.onlyIf condition body) :=
  All.ite inner (All.pure ())

theorem All.orExcept {body : Run ε α} {handler : String → Run ε α} (inner : All kind body)
    (handled : ∀ text, All kind (handler text)) : All kind (body.orExcept handler) := by
  intro effect member
  rcases mem_orExcept.mp member with early | ⟨text, -, late⟩
  · exact inner effect early
  · exact handled text effect late

end Run

/-! ### Protocols -/

/-- Which effect may follow in which stage, and the stage that it leads to. -/
abbrev Protocol (ε σ : Type) := σ → ε → σ → Prop

namespace Protocol

variable (next : Protocol ε σ)

/-- The trace may lead from the one stage to the other. -/
def Follows : σ → List ε → σ → Prop
  | first, [], last => first = last
  | first, effect :: trace, last =>
    ∃ between, next first effect between ∧ Follows between trace last

variable {next}

theorem Follows.append {first between last : σ} {front back : List ε}
    (head : next.Follows first front between) (tail : next.Follows between back last) :
    next.Follows first (front ++ back) last := by
  induction front generalizing first with
  | nil =>
    have same : first = between := head
    exact same ▸ tail
  | cons effect front ih =>
    obtain ⟨second, step, rest⟩ := head
    exact ⟨second, step, ih rest⟩

/-- What every step adds to a measure of the stages, a whole trace adds. -/
theorem Follows.sum (measure : σ → Nat) (gain : ε → Nat)
    (each : ∀ first effect last, next first effect last →
      measure last = measure first + gain effect) {first last : σ} {trace : List ε}
    (follows : next.Follows first trace last) :
    measure last = measure first + (trace.map gain).sum := by
  induction trace generalizing first with
  | nil =>
    have same : first = last := follows
    rw [same]
    rfl
  | cons effect trace ih =>
    obtain ⟨between, step, rest⟩ := follows
    rw [ih rest, each _ _ _ step, List.map_cons, List.sum_cons, Nat.add_assoc]

variable (next)

/-- How a program ends, in which stage. -/
def Ends (after : α → σ → Prop) (raised : String → σ → Prop) (result : Except String α)
    (stage : σ) : Prop :=
  match result with
  | .ok value => after value stage
  | .error text => raised text stage

/-- From each stage of the precondition the program follows the protocol, to a stage that is one of
those for its end. -/
def Triple (before : σ → Prop) (run : Run ε α) (after : α → σ → Prop)
    (raised : String → σ → Prop) : Prop :=
  ∀ first, before first → ∃ last, next.Follows first run.trace last ∧
    Ends after raised run.result last

variable {next} {before : σ → Prop} {after : α → σ → Prop} {raised : String → σ → Prop}

theorem Triple.pure {value : α} (implies : ∀ stage, before stage → after value stage) :
    next.Triple before (Pure.pure value) after raised :=
  fun stage holds => ⟨stage, rfl, implies stage holds⟩

theorem Triple.raise {text : String} (implies : ∀ stage, before stage → raised text stage) :
    next.Triple before (Run.raise text) after raised :=
  fun stage holds => ⟨stage, rfl, implies stage holds⟩

theorem Triple.bind (middle : α → σ → Prop) {first : Run ε α} {second : α → Run ε β}
    {last : β → σ → Prop} (head : next.Triple before first middle raised)
    (tail : ∀ value, next.Triple (middle value) (second value) last raised) :
    next.Triple before (first >>= second) last raised := by
  intro stage holds
  obtain ⟨trace, result⟩ := first
  obtain ⟨between, followed, ends⟩ := head stage holds
  cases result with
  | error text => exact ⟨between, followed, ends⟩
  | ok value =>
    obtain ⟨final, later, ends⟩ := tail value between ends
    exact ⟨final, followed.append later, ends⟩

theorem Triple.weaken {run : Run ε α} {before' : σ → Prop} {after' : α → σ → Prop}
    {raised' : String → σ → Prop} (triple : next.Triple before' run after' raised')
    (implies : ∀ stage, before stage → before' stage)
    (returns : ∀ value stage, after' value stage → after value stage)
    (fails : ∀ text stage, raised' text stage → raised text stage) :
    next.Triple before run after raised := by
  intro stage holds
  obtain ⟨last, followed, ends⟩ := triple stage (implies stage holds)
  refine ⟨last, followed, ?_⟩
  cases result : run.result with
  | ok value => exact returns value last (by rwa [result] at ends)
  | error text => exact fails text last (by rwa [result] at ends)

theorem Triple.perform {effect : ε} {after : Unit → σ → Prop}
    (accepts : ∀ stage, before stage → ∃ last, next stage effect last ∧ after () last) :
    next.Triple before (Run.perform effect) after raised := by
  intro stage holds
  obtain ⟨last, step, ends⟩ := accepts stage holds
  exact ⟨last, ⟨last, step, rfl⟩, ends⟩

theorem Triple.call {failure : Option String} {after : Unit → σ → Prop}
    (returns : ∀ stage, before stage → after () stage)
    (fails : ∀ text stage, failure = some text → before stage → raised text stage) :
    next.Triple before (Run.call failure) after raised := by
  intro stage holds
  cases failure with
  | none => exact ⟨stage, rfl, returns stage holds⟩
  | some text => exact ⟨stage, rfl, fails text stage rfl holds⟩

theorem Triple.ite {condition : Prop} [Decidable condition] {first second : Run ε α}
    (yes : condition → next.Triple before first after raised)
    (no : ¬ condition → next.Triple before second after raised) :
    next.Triple before (if condition then first else second) after raised := by
  split
  · exact yes ‹_›
  · exact no ‹_›

theorem Triple.onlyIf {condition : Bool} {body : Run ε Unit} {after : Unit → σ → Prop}
    (yes : condition = true → next.Triple before body after raised)
    (no : condition = false → ∀ stage, before stage → after () stage) :
    next.Triple before (Run.onlyIf condition body) after raised := by
  cases condition with
  | true => exact yes rfl
  | false => exact Triple.pure (no rfl)

theorem Triple.orExcept (caught : String → σ → Prop) {body : Run ε α}
    {handler : String → Run ε α} (guarded : next.Triple before body after caught)
    (handled : ∀ text, next.Triple (caught text) (handler text) after raised) :
    next.Triple before (body.orExcept handler) after raised := by
  intro stage holds
  obtain ⟨trace, result⟩ := body
  obtain ⟨between, followed, ends⟩ := guarded stage holds
  cases result with
  | ok value => exact ⟨between, followed, ends⟩
  | error text =>
    obtain ⟨final, later, ends⟩ := handled text between ends
    exact ⟨final, followed.append later, ends⟩

/-- A `finally` clause whose call leaves no effect: it raises what the body was not going to. -/
theorem Triple.andFinally {body : Run ε α} {failure : Option String}
    (inner : next.Triple before body after raised)
    (fails : ∀ text stage, failure = some text → raised text stage) :
    next.Triple before (body.andFinally (Run.call failure)) after raised := by
  intro stage holds
  obtain ⟨last, followed, ends⟩ := inner stage holds
  cases failure with
  | none =>
    refine ⟨last, ?_, ends⟩
    change next.Follows stage (body.trace ++ []) last
    rwa [List.append_nil]
  | some text =>
    refine ⟨last, ?_, fails text last rfl⟩
    change next.Follows stage (body.trace ++ []) last
    rwa [List.append_nil]

end Protocol

end PfsenseBackups.EffectTraces

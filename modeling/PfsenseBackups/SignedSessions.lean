import Mathlib.Data.List.Induction

/-! Sessions that a server keeps with its clients, in cookies that it signs. A client may present any
cookie that was ever signed, as often as it likes; one that was not signed by the server counts for
none. What a session has come through is a chain of visits. -/

namespace PfsenseBackups.SignedSessions

structure Cookie (σ : Type) where
  session : σ
  signedAt : Nat

structure Visit (ι : Type) where
  input : ι
  /-- The cookie that is presented, as the number of its signature. -/
  cookie : Option Nat
  now : Nat

structure Server (ι σ : Type) where
  /-- The session of a visitor without a cookie. -/
  blank : σ
  maxAge : Nat
  /-- The session that is signed along with the answer, if one is. -/
  handle : ι → σ → Option σ

variable {ι σ : Type}

/-- The signature is accepted. -/
def Cookie.Fresh (cookie : Cookie σ) (maxAge now : Nat) : Prop :=
  cookie.signedAt ≤ now ∧ now ≤ cookie.signedAt + maxAge

instance (cookie : Cookie σ) (maxAge now : Nat) : Decidable (cookie.Fresh maxAge now) :=
  inferInstanceAs (Decidable (_ ∧ _))

namespace Server

variable (server : Server ι σ)

/-- The session that a visitor comes with. -/
def presented (signed : List (Cookie σ)) (visit : Visit ι) : σ :=
  match visit.cookie.bind fun number => signed[number]? with
  | none => server.blank
  | some cookie => if cookie.Fresh server.maxAge visit.now then cookie.session else server.blank

def serve (signed : List (Cookie σ)) (visit : Visit ι) : List (Cookie σ) :=
  match server.handle visit.input (server.presented signed visit) with
  | none => signed
  | some session => signed ++ [⟨session, visit.now⟩]

/-- All that was signed in the course of some visits. -/
def signed (visits : List (Visit ι)) : List (Cookie σ) :=
  visits.foldl server.serve []

variable {server}

theorem signed_append (visits : List (Visit ι)) (visit : Visit ι) :
    server.signed (visits ++ [visit]) = server.serve (server.signed visits) visit := by
  rw [signed, List.foldl_append]
  rfl

/-- What was signed stays signed. -/
theorem signed_grows (visits more : List (Visit ι)) :
    server.signed visits <+: server.signed (visits ++ more) := by
  induction more using List.reverseRecOn with
  | nil => simp
  | append_singleton more visit ih =>
    rw [← List.append_assoc, signed_append, serve]
    cases server.handle visit.input (server.presented (server.signed (visits ++ more)) visit) with
    | none => exact ih
    | some session => exact ih.trans (List.prefix_append _ _)

/-- A cookie is good until it is too old, whatever has been visited since. -/
theorem presented_later {visits : List (Visit ι)} {number : Nat} {cookie : Cookie σ}
    (held : (server.signed visits)[number]? = some cookie) (more : List (Visit ι)) {visit : Visit ι}
    (shown : visit.cookie = some number) (fresh : cookie.Fresh server.maxAge visit.now) :
    server.presented (server.signed (visits ++ more)) visit = cookie.session := by
  obtain ⟨later, same⟩ := @signed_grows _ _ server visits more
  have still : (server.signed (visits ++ more))[number]? = some cookie := by
    obtain ⟨within, -⟩ := List.getElem?_eq_some_iff.mp held
    rw [← same, List.getElem?_append_left within, held]
  rw [presented, shown, Option.bind_some, still]
  exact if_pos fresh

end Server

end PfsenseBackups.SignedSessions

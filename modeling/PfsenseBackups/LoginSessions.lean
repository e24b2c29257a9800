import PfsenseBackups.AuthGate
import PfsenseBackups.JsonReader
import PfsenseBackups.SignedSessions

/-! Logins with OpenID Connect, and the sessions that they open. A login keeps its secrets in the
session of its visitor, which is a cookie that Starlette signs: whoever holds one may show it again
until it is two weeks old. -/

namespace PfsenseBackups.LoginSessions
open JsonReader SignedSessions

/-! ### Claims -/

/-- What Python's library has for texts. -/
structure Library where
  /-- `str.lower`. -/
  lower : String → String
  /-- The text of a float stands for zero. -/
  isZero : List Char → Bool

abbrev Value := Json String

abbrev Dict := List (String × Value)

/-- `d.get(key)`, where `None` and nothing are one. -/
def get (fields : Dict) (key : String) : Value :=
  ((fields.find? fun field => field.1 = key).map Prod.snd).getD .null

/-- `bool(value)`. -/
def truthy (lib : Library) : Value → Bool
  | .null => false
  | .bool flag => flag
  | .int number => number ≠ 0
  | .float text => !lib.isZero text
  | .str text => text ≠ ""
  | .list items => !items.isEmpty
  | .dict fields => !fields.isEmpty

structure SessionUser where
  email : String
  name : Value
  picture : Value

/-- The email of the claims, where some providers send a list. -/
def rawEmail (claims : Dict) : Option String :=
  match get claims "email" with
  | .str email => some email
  | .list (.str email :: _) => some email
  | _ => none

/-- `user_from_claims` -/
def userFromClaims (lib : Library) (claims : Dict) : Option SessionUser := do
  let raw ← rawEmail claims
  let email := lib.lower (Labels.strip raw)
  if email = "" then none
  else
    let named := get claims "name"
    let preferred := get claims "preferred_username"
    return {
      email
      name := if truthy lib named then named
        else if truthy lib preferred then preferred else .str email
      picture := get claims "picture" }

/-! ### The routes -/

/-- `session["oidc_pending"]`. -/
structure Pending where
  state : String
  nonce : String
  codeVerifier : String
  redirectUri : String

structure Session where
  pending : Option Pending
  user : Option SessionUser

def Session.empty : Session := ⟨none, none⟩

/-- What the provider has for a callback. -/
structure Provider where
  /-- The tokens for a code, a verifier and a redirect; the exchange may raise. -/
  exchange : String → String → String → Option Value
  /-- The claims of an ID token with a good signature that is meant for this client. -/
  decode : Value → Option Dict

structure Settings where
  redirectUrl : String
  /-- `oidc_allowed_emails`. -/
  allowedEmails : List String

inductive Answer where
  | redirect (url : String)
  | json
  | tooMany
  | raised
  deriving DecidableEq

variable (lib : Library) (settings : Settings)

/-- `login`, with what it draws. -/
def login (state nonce codeVerifier : String) (authUrl : Option String) (session : Session) :
    Session × Answer :=
  ({ session with pending := some ⟨state, nonce, codeVerifier, settings.redirectUrl⟩ },
    match authUrl with
    | none => .redirect "/login?error=authorize_redirect_failed"
    | some url => .redirect url)

/-- `validate_id_token`: the claims, if they carry the nonce. -/
def validateIdToken (provider : Provider) (idToken : Value) (nonce : String) : Option Dict :=
  (provider.decode idToken).filter fun claims =>
    match get claims "nonce" with
    | .str text => text = nonce
    | _ => false

def callback (provider : Provider) (code state : Option String) (session : Session) :
    Session × Answer :=
  let popped := { session with pending := none }
  match session.pending with
  | none => (popped, .redirect "/login?error=no_pending_state")
  | some pending =>
    match PythonText.truthy code, PythonText.truthy state with
    | some code, some state =>
      if state ≠ pending.state then (popped, .redirect "/login?error=state_mismatch")
      else
        match provider.exchange code pending.codeVerifier pending.redirectUri with
        | none => (popped, .redirect "/login?error=oidc_exchange_failed")
        | some (.dict tokens) =>
          let idToken := get tokens "id_token"
          if !truthy lib idToken then (popped, .redirect "/login?error=no_id_token")
          else
            match validateIdToken provider idToken pending.nonce with
            | none => (popped, .redirect "/login?error=id_token_invalid")
            | some claims =>
              match userFromClaims lib claims with
              | none => (popped, .redirect "/login?error=no_email")
              | some user =>
                if lib.lower user.email ∈ settings.allowedEmails.map lib.lower then
                  ({ popped with user := some user }, .redirect "/")
                else (popped, .redirect "/login?error=access_denied")
        -- `tokens.get` on something else is not caught.
        | some _ => (popped, .raised)
    | _, _ => (popped, .redirect "/login?error=state_mismatch")

def logout (_ : Session) : Session × Answer :=
  (.empty, .json)

/-- What is asked of the web. -/
inductive Input where
  | login (state nonce codeVerifier : String) (authUrl : Option String)
  | callback (provider : Provider) (code state : Option String)
  | logout
  /-- A request of any other route, or one that is over its rate. -/
  | other (raises : Bool)

def handle (input : Input) (session : Session) : Session × Answer :=
  match input with
  | .login state nonce codeVerifier authUrl => login settings state nonce codeVerifier authUrl session
  | .callback provider code state => callback lib settings provider code state session
  | .logout => logout session
  | .other raises => (session, if raises then .raised else .json)

/-- `SessionMiddleware` signs a session that is not empty, along with an answer. -/
def web : Server Input Session where
  blank := .empty
  maxAge := 14 * 24 * 3600
  handle input session :=
    let (after, answer) := handle lib settings input session
    if answer = .raised ∨ after.pending.isNone ∧ after.user.isNone then none else some after

/-! ### Where a session comes from -/

variable {lib settings}

section Gate

open AuthGate

variable {Digest : Type} [DecidableEq Digest]

/-- The session that a visit comes with, after others. -/
def sessionOf (lib : Library) (settings : Settings) (visits : List (Visit Input))
    (visit : Visit Input) : Session :=
  (web lib settings).presented ((web lib settings).signed visits) visit

/-- A logout takes nothing back: a cookie of before is good until it is too old, whatever has been
visited since. -/
theorem sessionOf_later {visits : List (Visit Input)} {number : Nat} {cookie : Cookie Session}
    (held : ((web lib settings).signed visits)[number]? = some cookie) (more : List (Visit Input))
    {visit : Visit Input} (shown : visit.cookie = some number)
    (fresh : cookie.Fresh (14 * 24 * 3600) visit.now) :
    sessionOf lib settings (visits ++ more) visit = cookie.session :=
  Server.presented_later held more shown fresh

end Gate

end PfsenseBackups.LoginSessions

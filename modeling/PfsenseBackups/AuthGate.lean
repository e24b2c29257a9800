import PfsenseBackups.TokenAuth
import PfsenseBackups.Urls

/-! `AuthRequiredMiddleware`: which requests get to the handlers of their routes. -/

namespace PfsenseBackups.AuthGate
open Labels PythonText LruCaches Tables TokenAuth Urls

variable {Digest : Type} [DecidableEq Digest]

/-! ### Requests -/

structure Request where
  method : String
  scheme : String
  host : String
  /-- The path that the router dispatches on. -/
  path : String
  authorization : Option String
  csrfHeader : Option String
  accept : Option String
  csrfCookie : Option String
  /-- The fields of `session["user"]`, if any. -/
  user : List (String × String)

/-- What bearer tokens are looked up in. -/
structure Service (Digest : Type) where
  hashToken : String → Digest
  rows : Table (ApiToken Digest) ApiToken.id
  cache : TtlCache Digest User 256
  now : Nat

/-- `request.url`. -/
def Request.url (request : Request) : String :=
  request.scheme ++ "://" ++ request.host ++ request.path

/-- A pattern that ends in `$`. -/
def endsAt (text exact : String) : Bool :=
  text = exact || text = exact ++ "\n"

/-- `_PUBLIC_PATTERNS`. -/
def publicPatterns : List (String → Bool) :=
  [(startsWith · "/api/auth/"), (endsAt · "/api/health"), (startsWith · "/assets/"),
    (startsWith · "/favicon"), (endsAt · "/")]

def isPublic (path : String) : Bool :=
  publicPatterns.any fun pattern => pattern path

/-- `_MUTATING`. -/
def mutating : List String :=
  ["POST", "PUT", "PATCH", "DELETE"]

/-- `_CSRF_EXEMPT_PATHS`. -/
def csrfExemptPaths : List String :=
  ["/api/auth/"]

def wantsJson (request : Request) (path : String) : Bool :=
  startsWith path "/api/" || includes (request.accept.getD "") "application/json"

/-- `authenticate_bearer`. -/
def authenticateBearer (service : Service Digest) (auth : Option String) : Option User := do
  let secret ← bearerSecret auth
  let hash := service.hashToken secret
  match TtlCache.current? service.cache service.now hash with
  | some user => return user
  | none => resolve (select service.rows hash) service.now

/-- `hmac.compare_digest` of two texts, which raises unless both are ASCII. -/
def compareDigest (one other : String) : Option Bool :=
  let ascii (text : String) : Bool := text.toList.all fun char => char.toNat < 128
  if ascii one && ascii other then some (one = other) else none

inductive Outcome where
  /-- `call_next`, with the user of a token. -/
  | next (apiUser : Option User)
  | json (status : Nat) (detail : String)
  | redirect (url : String)
  | raised

/-- `dispatch`, with the token that it draws for a request without a CSRF cookie. -/
def dispatch (bracketed : String → Bool) (service : Service Digest) (request : Request)
    (drawn : String) : Outcome :=
  let csrfValue := (truthy request.csrfCookie).getD drawn
  match (urlsplit bracketed request.url).map SplitUrl.path with
  | none => .raised
  | some path =>
    if isPublic path then .next none
    else
      match authenticateBearer service request.authorization with
      | some apiUser =>
        if apiUser.tokenScope ≠ "write" ∧ request.method ∉ ["GET", "HEAD"] then
          .json 403 "token scope is read-only"
        else .next (some apiUser)
      | none =>
        if request.user = [] then
          if wantsJson request path then .json 401 "not authenticated"
          else .redirect "/api/auth/login"
        else if request.method ∈ mutating ∧ ¬ csrfExemptPaths.any (startsWith path ·) then
          match truthy request.csrfHeader with
          | none => .json 403 "CSRF token missing or invalid"
          | some sent =>
            match compareDigest sent csrfValue with
            | none => .raised
            | some true => .next none
            | some false => .json 403 "CSRF token missing or invalid"
        else .next none

/-- The path of the URL is public, although the dispatched path need not be. -/
def Disguised (bracketed : String → Bool) (request : Request) : Prop :=
  ∃ url, urlsplit bracketed request.url = some url ∧ isPublic url.path = true

section Gate

variable {bracketed : String → Bool} {service : Service Digest} {request : Request} {drawn : String}

/-- With a plain host and path the path of the URL is the dispatched path. -/
theorem not_disguised_of_plain {scheme host path : List Char}
    (schemed : request.scheme = String.ofList scheme) (hosted : request.host = String.ofList host)
    (pathed : request.path = String.ofList ('/' :: path)) (filled : scheme ≠ [])
    (lower : ∀ char ∈ scheme, 'a' ≤ char ∧ char ≤ 'z')
    (hostPlain : ∀ char ∈ host, plain char = true ∧ char ≠ '/' ∧ char ≠ '[' ∧ char ≠ ']')
    (pathPlain : ∀ char ∈ path, plain char = true) (closed : isPublic request.path = false) :
    ¬ Disguised bracketed request := by
  intro ⟨url, split, public_⟩
  have text : request.url =
      String.ofList (scheme ++ ':' :: '/' :: '/' :: (host ++ '/' :: path)) := by
    rw [Request.url, schemed, hosted, pathed]
    apply String.ext
    simp
  rw [text, urlsplit_plain bracketed filled lower hostPlain pathPlain] at split
  rw [← Option.some.inj split, ← pathed] at public_
  exact Bool.false_ne_true (closed.symm.trans public_)

end Gate

/-! ### A host header that hides the path -/

/-- The list of instances is asked for with a query in the host header, and nothing else. -/
def hidden : Request where
  method := "GET"
  scheme := "http"
  host := "pfsense-backups/?"
  path := "/api/instances"
  authorization := none
  csrfHeader := none
  accept := none
  csrfCookie := none
  user := []

end PfsenseBackups.AuthGate

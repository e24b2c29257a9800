import PfsenseBackups.Urls
import Mathlib.Data.Option.Basic

/-! Who may open the two WebSocket endpoints: what the upgrade handlers look at, and the origins
that a browser may name. Headers are in the characters that header lines have. -/

namespace PfsenseBackups.WebSocketOrigins
open Urls

/-- A WebSocket upgrade, as it reaches a handler. -/
structure Upgrade where
  /-- It was addressed to `wss`, not to `ws`. -/
  secure : Bool
  /-- `Host` -/
  host : String
  /-- `Origin` -/
  origin : Option String
  /-- The session names a user. -/
  user : Bool
  /-- What `_ws_rate_ok` answers. -/
  rateOk : Bool

inductive Endpoint where
  | events
  | logs
  deriving DecidableEq

def Endpoint.path : Endpoint → String
  | .events => "/api/events"
  | .logs => "/api/logs/ws"

/-- `websocket.url` -/
def Upgrade.url (upgrade : Upgrade) (endpoint : Endpoint) : String :=
  (if upgrade.secure then "wss" else "ws") ++ "://" ++ upgrade.host ++ endpoint.path

/-- What a handler does, up to its accepting the upgrade. -/
inductive Verdict where
  | accepted
  | closed (code : Nat)
  | raised
  deriving DecidableEq

section Handlers

variable (bracketed : String → Bool)

/-- The ports that `_origin_ok` compares, or nothing where one that it reads is malformed. -/
def portsOk (parsed url : SplitUrl) : Option Bool :=
  match parsed.port with
  | none => none
  | some none => some true
  | some (some port) =>
    if port = 0 then some true
    else
      match url.port with
      | none => none
      | some none => some true
      | some (some own) => some (own = 0 || port = own)

/-- What both handlers go on with. -/
def authenticated (upgrade : Upgrade) : Verdict :=
  if !upgrade.user then .closed 1008
  else if !upgrade.rateOk then .closed 1013
  else .accepted

/-- `logs_ws` -/
def logsWs (upgrade : Upgrade) : Verdict :=
  authenticated upgrade

/-! ### What is expected -/

/-- The scheme of the pages that an upgrade is of one origin with. -/
def Upgrade.originScheme (upgrade : Upgrade) : String :=
  if upgrade.secure then "https" else "http"

/-- The default port of the scheme. -/
def Upgrade.usualPort (upgrade : Upgrade) : Nat :=
  if upgrade.secure then 443 else 80

/-- The port that a URL names, or else the default one; nothing where it is malformed. -/
def effectivePort (usual : Nat) (url : SplitUrl) : Option Nat :=
  url.port.map (·.getD usual)

/-- A port that one side leaves out is the default one, and ports that both name are the same. -/
def PortsAgree (usual : Nat) (parsed url : SplitUrl) : Prop :=
  match parsed.port, url.port with
  | some (some port), some (some own) => port = own
  | some (some port), some none => port = usual
  | some none, some (some own) => own = usual
  | some none, some none => True
  | _, _ => False

/-- What `_origin_ok` does not look at: of an origin with the upgrade's host and ports that pass its
comparison, the scheme is the upgrade's and the ports agree. -/
def Unambiguous (endpoint : Endpoint) (upgrade : Upgrade) : Prop :=
  ∀ origin parsed url, upgrade.origin = some origin → urlsplit bracketed origin = some parsed →
    urlsplit bracketed (upgrade.url endpoint) = some url → parsed.hostname = url.hostname →
    portsOk parsed url = some true →
      parsed.scheme = upgrade.originScheme ∧ PortsAgree upgrade.usualPort parsed url

variable {bracketed} {endpoint : Endpoint} {upgrade : Upgrade}

/-- The log stream is opened or not whatever the origin. -/
theorem logsWs_origin (upgrade : Upgrade) (origin : Option String) :
    logsWs { upgrade with origin } = logsWs upgrade :=
  rfl

end Handlers

end PfsenseBackups.WebSocketOrigins

import PfsenseBackups.KeyedPermits
import PfsenseBackups.Urls

/-! The permits of the worker for each pfSense host: `HostSemaphores` finds them by a key that it
makes of an instance's URL. -/

namespace PfsenseBackups.HostCaps
open KeyedPermits Runs Urls

/-- What `urllib.parse` and `str` do with characters that few URLs have. -/
structure UrlLib where
  /-- `_check_bracketed_netloc`, or not where it raises. -/
  bracketed : String → Bool
  /-- `_checknetloc`, or not where it raises. -/
  checked : String → Bool
  /-- `str.lower`. -/
  lower : String → String

variable (lib : UrlLib)

/-- `urlparse`, or nothing where it raises. -/
def UrlLib.urlparse (url : String) : Option SplitUrl :=
  (urlsplit lib.bracketed url).filter fun parsed => lib.checked parsed.netloc

/-- `parsed.hostname or ""`: what follows a percent sign keeps its case. -/
def UrlLib.hostname (parsed : SplitUrl) : String :=
  let host := (hostInfo parsed.netloc.toList).1
  if host = [] then ""
  else lib.lower (String.ofList (host.takeWhile (· ≠ '%'))) ++
    String.ofList (host.dropWhile (· ≠ '%'))

/-- `f"{host}:{port}" if port else host`. -/
def withPort (host : String) : Option Nat → String
  | some (port + 1) => host ++ ":" ++ toString (port + 1)
  | some 0 | none => host

/-- `_host_key`, or nothing where it raises. -/
def hostKey (url : String) : Option String :=
  match lib.urlparse url with
  | none => none
  | some parsed =>
    let host := lib.lower (lib.hostname parsed)
    if host = "" then some (lib.lower url)
    else parsed.port.map (withPort host)

/-! ### Where a URL goes -/

structure Endpoint where
  host : String
  port : Nat
  deriving DecidableEq

def defaultPort (scheme : String) : Option Nat :=
  if scheme = "https" then some 443
  else if scheme = "http" then some 80
  else none

/-- A port of zero counts as none. -/
def effectivePort (scheme : String) : Option Nat → Option Nat
  | some (port + 1) => (defaultPort scheme).map fun _ => port + 1
  | some 0 | none => defaultPort scheme

/-- The pfSense host and the port that requests under a URL go to, if they go anywhere. -/
def endpoint (url : String) : Option Endpoint :=
  match lib.urlparse url with
  | none => none
  | some parsed =>
    let host := lib.lower (lib.hostname parsed)
    if host = "" then none
    else parsed.port.bind fun port =>
      (effectivePort parsed.scheme port).map fun effective => ⟨host, effective⟩

/-- The URL spells out its port. -/
def writesPort (url : String) : Bool :=
  match (lib.urlparse url).bind SplitUrl.port with
  | some (some (_ + 1)) => true
  | _ => false

variable {lib} {url other : String} {target : Endpoint}

theorem defaultPort_ne_zero {scheme : String} {effective : Nat}
    (sent : defaultPort scheme = some effective) : effective ≠ 0 := by
  unfold defaultPort at sent
  split at sent
  · cases sent
    decide
  · split at sent
    · cases sent
      decide
    · cases sent

/-- What an endpoint says about the parts of the URL. -/
theorem endpoint_spec (sent : endpoint lib url = some target) :
    ∃ parsed port, lib.urlparse url = some parsed ∧ lib.lower (lib.hostname parsed) = target.host ∧
      target.host ≠ "" ∧ parsed.port = some port ∧
      effectivePort parsed.scheme port = some target.port := by
  unfold endpoint at sent
  cases read : lib.urlparse url with
  | none =>
    rw [read] at sent
    cases sent
  | some parsed =>
    rw [read] at sent
    simp only at sent
    by_cases empty : lib.lower (lib.hostname parsed) = ""
    · rw [if_pos empty] at sent
      cases sent
    · rw [if_neg empty] at sent
      obtain ⟨port, given, sent⟩ := Option.bind_eq_some_iff.mp sent
      obtain ⟨effective, sends, rfl⟩ := Option.map_eq_some_iff.mp sent
      exact ⟨parsed, port, rfl, rfl, empty, given, sends⟩

theorem effectivePort_succ {scheme : String} {port effective : Nat}
    (sent : effectivePort scheme (some (port + 1)) = some effective) : effective = port + 1 := by
  obtain ⟨_, -, same⟩ := Option.map_eq_some_iff.mp sent
  exact same.symm

theorem port_ne_zero (sent : endpoint lib url = some target) : target.port ≠ 0 := by
  obtain ⟨parsed, port, -, -, -, -, sent⟩ := endpoint_spec sent
  rcases port with _ | _ | port
  · exact defaultPort_ne_zero sent
  · exact defaultPort_ne_zero sent
  · rw [effectivePort_succ sent]
    exact Nat.succ_ne_zero port

/-- The key of a URL is its host, with the port exactly if the URL spells it out. -/
theorem hostKey_eq (sent : endpoint lib url = some target) :
    hostKey lib url =
      some (if writesPort lib url then withPort target.host (some target.port)
        else target.host) := by
  obtain ⟨parsed, port, read, host, filled, given, sent⟩ := endpoint_spec sent
  have key : hostKey lib url = some (withPort target.host port) := by
    rw [← host] at filled ⊢
    simp only [hostKey, read, if_neg filled, given, Option.map_some]
  rcases port with _ | _ | port
  · simp [key, writesPort, read, given, withPort]
  · simp [key, writesPort, read, given, withPort]
  · simp [key, writesPort, read, given, effectivePort_succ sent]

theorem withPort_ne (host : String) {port : Nat} (positive : port ≠ 0) :
    withPort host (some port) ≠ host := by
  cases port with
  | zero => exact absurd rfl positive
  | succ port =>
    intro same
    have lengths := congrArg String.length same
    simp only [withPort, String.length_append] at lengths
    have colon : ":".length = 1 := by decide
    omega

/-- At one endpoint the keys are the same exactly if both URLs spell out the port, or neither. -/
theorem hostKey_eq_iff (sent : endpoint lib url = some target)
    (sent' : endpoint lib other = some target) :
    hostKey lib url = hostKey lib other ↔ writesPort lib url = writesPort lib other := by
  rw [hostKey_eq sent, hostKey_eq sent']
  have differ := withPort_ne target.host (port_ne_zero sent)
  cases writesPort lib url <;> cases writesPort lib other <;> simp [differ, differ.symm]

theorem hostKey_isSome (sent : endpoint lib url = some target) :
    (hostKey lib url).isSome = true := by
  rw [hostKey_eq sent]
  rfl

/-! ### The cap -/

section
variable {Instance : Type*} [Fintype Instance] [DecidableEq Instance]

/-- The instances at one pfSense host and port. -/
def against (lib : UrlLib) (url : Instance → String) (target : Endpoint) : Finset Instance :=
  Finset.univ.filter fun inst => endpoint lib (url inst) = some target

/-- The states of one worker in all interleavings of the backups of its instances. An instance's own
lock lets one of its backups through at a time. -/
def Reached (lib : UrlLib) (url : Instance → String) (perHost : Nat) :
    State Instance String → Prop :=
  Reach (Step (fun inst => hostKey lib (url inst)) perHost) unguarded {}

/-- At no time are more backups in their network phase at one endpoint than are configured. -/
def Capped (lib : UrlLib) (url : Instance → String) (perHost : Nat) : Prop :=
  ∀ state, Reached lib url perHost state →
    ∀ target, (state.crowd (against lib url target)).card ≤ perHost

/-- The instances at an endpoint all spell out the port, or none does. -/
def OneSpelling (lib : UrlLib) (url : Instance → String) (target : Endpoint) : Prop :=
  ∀ first ∈ against lib url target, ∀ second ∈ against lib url target,
    writesPort lib (url first) = writesPort lib (url second)

theorem capped_iff_most (lib : UrlLib) (url : Instance → String) (perHost : Nat) :
    Capped lib url perHost ↔ ∀ target, most (fun inst => hostKey lib (url inst)) perHost
      (against lib url target) ≤ perHost := by
  have named : ∀ target, ∀ inst ∈ against lib url target,
      (hostKey lib (url inst)).isSome = true :=
    fun target inst member => hostKey_isSome (Finset.mem_filter.mp member).2
  constructor
  · intro capped target
    apply (crowd_le_iff (against lib url target) (named target)).mp
    exact fun state reached => capped state reached target
  · intro enough state reached target
    exact (crowd_le_iff (against lib url target) (named target)).mpr (enough target) state reached

/-- The cap holds exactly if at each endpoint the instances spell their port alike, or are no more
than the cap. -/
theorem capped_iff_spelling (lib : UrlLib) (url : Instance → String) (perHost : Nat) :
    Capped lib url perHost ↔ perHost = 0 ∨ ∀ target,
      OneSpelling lib url target ∨ (against lib url target).card ≤ perHost := by
  have alike : ∀ target, (∀ first ∈ against lib url target, ∀ second ∈ against lib url target,
      hostKey lib (url first) = hostKey lib (url second)) ↔ OneSpelling lib url target := by
    intro target
    apply forall₂_congr
    intro first member
    apply forall₂_congr
    intro second member'
    exact hostKey_eq_iff (Finset.mem_filter.mp member).2 (Finset.mem_filter.mp member').2
  simp only [capped_iff_most, most_le_iff, alike, forall_or_left]

end

/-! ### Three instances of one firewall -/

/-- What the functions do with texts in ASCII that have no brackets. -/
def asciiLib : UrlLib where
  bracketed _ := false
  checked _ := true
  lower text := String.ofList (text.toList.map lowerChar)

def fleet : Fin 3 → String
  | 0 => "https://fw"
  | 1 => "HTTPS://FW/index.php"
  | 2 => "https://fw:443"

theorem fleet_uncapped : ¬ Capped asciiLib fleet 2 := by
  intro capped
  have all : against asciiLib fleet ⟨"fw", 443⟩ = Finset.univ := by decide
  have enough := (capped_iff_most asciiLib fleet 2).mp capped ⟨"fw", 443⟩
  rw [all] at enough
  apply Nat.not_lt_of_le enough
  exact lt_most (by decide) (by decide) (Finset.mem_univ 0) (Finset.mem_univ 2) (by decide)

end PfsenseBackups.HostCaps

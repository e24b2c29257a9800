import PfsenseBackups.Value

/-! `pfsense_diff.py`, the label helpers: the text under which a changed row is shown. -/

namespace PfsenseBackups.Labels
open Value

/-- Python's truth value. -/
def Val.truthy : Val → Bool
  | .none => false
  | .bool flag => flag
  | .int number => number != 0
  | .str text => text != ""
  | .datetime _ => true
  | .list items => !items.isEmpty
  | .dict fields => !fields.isEmpty

/-- `str(m.get(name) or default)`. -/
def getOr (m : Dict) (name default : String) : String :=
  if Val.truthy (Dict.get m name) then (Dict.get m name).text else default

/-- The strings of `m.get(name) or []`. -/
def items (m : Dict) (name : String) : List String :=
  match Dict.get m name with
  | .list values => values.map Val.text
  | _ => []

/-- `sep.join(parts)`, or the default where that is empty. -/
def joinOr (sep : String) (parts : List String) (default : String) : String :=
  if sep.intercalate parts = "" then default else sep.intercalate parts

/-- The characters for which `str.isspace` holds. -/
def isSpace (char : Char) : Bool :=
  let code := char.toNat
  (9 ≤ code && code ≤ 13) || (28 ≤ code && code ≤ 32) || code == 133 || code == 160 ||
    code == 5760 || (8192 ≤ code && code ≤ 8202) || code == 8232 || code == 8233 ||
    code == 8239 || code == 8287 || code == 12288

/-- `text.strip()`. -/
def strip (text : String) : String :=
  let front := text.toList.dropWhile isSpace
  String.ofList (front.reverse.dropWhile isSpace).reverse

/-- A separator and a text, or nothing where the text is empty. -/
def suffix (sep text : String) : String :=
  if text = "" then "" else sep ++ text

def labelNamed (m : Dict) : String :=
  getOr m "name" (getOr m "key" "?")

def labelSysctl (m : Dict) : String :=
  getOr m "tunable" "?"

def labelCron (m : Dict) : String :=
  let time := " ".intercalate
    (["minute", "hour", "mday", "month", "wday"].map fun field => getOr m field "*")
  strip (time ++ "  " ++ getOr m "command" "")

def labelInterface (m : Dict) : String :=
  let key := getOr m "key" ""
  if Val.truthy (Dict.get m "descr") then key ++ " (" ++ getOr m "descr" "" ++ ")" else key

def labelFirewall (m : Dict) : String :=
  strip ("[" ++ getOr m "interface" "?" ++ "] " ++ getOr m "type" "?" ++ ": " ++
    getOr m "descr" "")

def labelNat (m : Dict) : String :=
  strip ("[" ++ getOr m "kind" "?" ++ " / " ++ getOr m "interface" "?" ++ "] " ++
    getOr m "descr" "")

def labelRoute (m : Dict) : String :=
  getOr m "network" "?" ++ " via " ++ getOr m "gateway" "?"

def labelDhcp (m : Dict) : String :=
  "DHCP: " ++ getOr m "interface" "?"

def labelBridge (m : Dict) : String :=
  let members := items m "members"
  getOr m "bridgeif" "?" ++ " (" ++
    (if members = [] then "no members" else ", ".intercalate members) ++ ")"

def labelTunnel (m : Dict) : String :=
  "[" ++ getOr m "kind" "?" ++ "] " ++ getOr m "name" "?" ++ " → " ++ getOr m "remote_addr" "?"

def labelPpp (m : Dict) : String :=
  "[" ++ getOr m "type" "?" ++ "] " ++ getOr m "if_" (getOr m "ptpid" "?")

def labelLagg (m : Dict) : String :=
  let members := items m "members"
  getOr m "laggif" "?" ++ " (" ++ getOr m "proto" "?" ++ ") — " ++
    (if members = [] then "no members" else ",".intercalate members)

def labelDyndns (m : Dict) : String :=
  "[" ++ getOr m "type" "?" ++ "] " ++ getOr m "host" (getOr m "domainname" "?")

def labelIgmp (m : Dict) : String :=
  getOr m "type" "?" ++ " on " ++ getOr m "ifname" "?"

def labelRadvd (m : Dict) : String :=
  "radvd on " ++ getOr m "interface" "?"

def labelVoucher (m : Dict) : String :=
  "roll #" ++ getOr m "number" "?" ++ " (" ++ getOr m "minutes" "?" ++ " min)"

def labelWol (m : Dict) : String :=
  let parts := [getOr m "interface" "", getOr m "descr" ""].filter (· ≠ "")
  getOr m "mac" "?" ++ suffix " — " (" — ".intercalate parts)

def labelDhcpRelay (m : Dict) : String :=
  "dhcrelay [" ++ getOr m "kind" "?" ++ "] if=" ++ joinOr "," (items m "interface") "?" ++
    " → " ++ joinOr "," (items m "server") "?"

def labelQueue (m : Dict) : String :=
  let iface := getOr m "interface" ""
  let name := getOr m "name" "?"
  if iface = "" then name else name ++ " (" ++ iface ++ ")"

def labelPortal (m : Dict) : String :=
  getOr m "zone" "?" ++ " on " ++ joinOr "," (items m "interfaces") "?"

def labelOvpn (m : Dict) : String :=
  let desc := getOr m "description" ""
  "[" ++ getOr m "mode" "?" ++ "] " ++
    (if desc = "" then "#" ++ getOr m "vpnid" "?" else desc)

def labelCsc (m : Dict) : String :=
  getOr m "common_name" "?" ++ suffix " — " (getOr m "description" "")

def labelIpsecP1 (m : Dict) : String :=
  "[" ++ getOr m "iketype" "?" ++ "] " ++ getOr m "remote_gateway" "?" ++
    suffix " — " (getOr m "descr" "")

def labelIpsecP2 (m : Dict) : String :=
  "phase2 ikeid=" ++ getOr m "ikeid" "?" ++ " [" ++ getOr m "mode" "?" ++ "]" ++
    suffix " — " (getOr m "descr" "")

def labelIpsecPsk (m : Dict) : String :=
  getOr m "ident_type" "?" ++ ":" ++ getOr m "ident" "?"

def labelPki (m : Dict) : String :=
  let descr := getOr m "descr" (getOr m "refid" "?")
  if Val.truthy (Dict.get m "type") then "[" ++ getOr m "type" "" ++ "] " ++ descr else descr

def labelVip (m : Dict) : String :=
  "[" ++ getOr m "mode" "?" ++ "] " ++ getOr m "interface" "?" ++ " " ++ getOr m "subnet" "?" ++
    suffix " vhid=" (getOr m "vhid" "")

def labelProxyarp (m : Dict) : String :=
  getOr m "interface" "?" ++ " " ++ getOr m "network" "?"

def labelApikey (m : Dict) : String :=
  let user := getOr m "username" "?"
  let descr := getOr m "descr" ""
  if descr = "" then user else user ++ ": " ++ descr

def labelPppoe (m : Dict) : String :=
  strip (getOr m "interface" "?" ++ " " ++ getOr m "descr" "")

/-- `lambda m: m["tag"]`. -/
def labelTag (m : Dict) : String :=
  (Dict.get m "tag").text

end PfsenseBackups.Labels

import PfsenseBackups.SystemSections

/-! The section parsers of the network: `interfaces.py`, `layer2.py`, `routing.py`, `ha.py`,
`firewall.py`, `nat.py`, `aliases.py` and `dyndns.py`. -/

namespace PfsenseBackups.NetworkSections
open Value Xml Entries Entry PythonText Labels Redaction Models SystemSections

/-! ### `interfaces.py` -/

def interface (child : Element) : Row Interface :=
  instance_ [
    .str "key" child.tag, .opt "descr" (text child "descr"), .opt "if_" (text child "if"),
    .bool "enabled" (boolFlag child "enable"), .opt "ipaddr" (text child "ipaddr"),
    .opt "subnet" (text child "subnet"), .opt "gateway" (text child "gateway"),
    .opt "ipaddrv6" (text child "ipaddrv6"), .opt "subnetv6" (text child "subnetv6"),
    .opt "gatewayv6" (text child "gatewayv6"), .opt "mtu" (text child "mtu"),
    .opt "mss" (text child "mss"), .opt "media" (text child "media"),
    .opt "mediaopt" (text child "mediaopt"), .bool "blockpriv" (boolFlag child "blockpriv"),
    .bool "blockbogons" (boolFlag child "blockbogons"),
    .opt "track6_interface" (text child "track6-interface"),
    .opt "track6_prefix_id" (text child "track6-prefix-id"),
    .opt "dhcp6_ia_pd_len" (text child "dhcp6-ia-pd-len"),
    .bool "dhcp6_prefix_only" (boolFlag child "dhcp6prefixonly"),
    .opt "adv_dhcp6_prefix_selected_interface"
      (text child "adv_dhcp6_prefix_selected_interface")] rfl

def parseInterfaces (root : Element) : List (Row Interface) :=
  ((root.find "interfaces").elim [] Element.nodes).map interface

/-! ### `layer2.py` -/

/-- The pairs of neighbours, from the first on; an odd last one is left out. -/
def pairsOf : List String → List (String × String)
  | first :: second :: rest => (first, second) :: pairsOf rest
  | _ => []

def parseMemberPairs (raw : Option String) : List (String × String) :=
  pairsOf (strippedParts ',' raw)

def bridge (b : Element) : Option (Row Bridge) :=
  (truthy (text b "bridgeif")).map fun name => instance_ [
    .str "bridgeif" name, .strs "members" (parts ',' (text b "members")),
    .opt "descr" (text b "descr"), .bool "enablestp" (boolFlag b "enablestp"),
    .opt "stp_proto" (text b "proto"), .opt "stp_priority" (text b "priority"),
    .opt "stp_forward_delay" (text b "fwdelay"), .opt "stp_hello_time" (text b "hellotime"),
    .opt "stp_maxage" (text b "maxage"), .opt "stp_holdcnt" (text b "holdcnt"),
    .dict "stp_member_priorities" (parseMemberPairs (text b "ifpriority")),
    .dict "stp_member_pathcosts" (parseMemberPairs (text b "ifpathcost"))] rfl

def parseBridges (root : Element) : List (Row Bridge) :=
  (childrenIn (root.find "bridges") "bridged").filterMap bridge

def tunnel (kind : String) (t : Element) : Option (Row Tunnel) :=
  (truthy (orText (text t (kind ++ "if")) (text t "name"))).map fun name => instance_ [
    .str "kind" kind, .str "name" name, .opt "if_" (text t "if"),
    .opt "remote_addr" (orText (text t "remote-addr") (text t "remote_addr")),
    .opt "tunnel_local_addr" (text t "tunnel-local-addr"),
    .opt "tunnel_remote_addr" (text t "tunnel-remote-addr"),
    .opt "tunnel_remote_net" (text t "tunnel-remote-net"), .opt "descr" (text t "descr")] rfl

def parseTunnels (root : Element) (container item kind : String) : List (Row Tunnel) :=
  (childrenIn (root.find container) item).filterMap (tunnel kind)

def parseGifs (root : Element) : List (Row Tunnel) :=
  parseTunnels root "gifs" "gif" "gif"

def parseGres (root : Element) : List (Row Tunnel) :=
  parseTunnels root "gres" "gre" "gre"

def ppp (p : Element) : Option (Row Ppp) :=
  (truthy (text p "ptpid")).map fun ptpid => instance_ [
    .str "ptpid" ptpid, .opt "type" (text p "type"),
    .opt "if_" (orText (text p "if") (text p "ports")), .opt "username" (text p "username"),
    .opt "provider" (text p "provider"), .opt "phone" (text p "phone"),
    .opt "descr" (text p "descr")] rfl

def parsePpps (root : Element) : List (Row Ppp) :=
  (childrenIn (root.find "ppps") "ppp").filterMap ppp

def qinq (q : Element) : Row QinQ :=
  let iface := text q "if"
  let tag := text q "tag"
  instance_ [
    .str "key" (orElse iface "?" ++ "." ++ orElse tag "?"), .opt "if_" iface, .opt "tag" tag,
    .strs "members" (words ((text q "members").getD "")), .opt "descr" (text q "descr")] rfl

def parseQinqs (root : Element) : List (Row QinQ) :=
  (childrenIn (root.find "qinqs") "qinqentry").map qinq

def lagg (la : Element) : Option (Row Lagg) :=
  (truthy (text la "laggif")).map fun name => instance_ [
    .str "laggif" name, .strs "members" (parts ',' (text la "members")),
    .opt "proto" (text la "proto"), .opt "lacptimeout" (text la "lacptimeout"),
    .bool "lacp_fast_timeout" (boolFlag la "lacp_fast_timeout"), .opt "descr" (text la "descr")] rfl

def parseLaggs (root : Element) : List (Row Lagg) :=
  (childrenIn (root.find "laggs") "lagg").filterMap lagg

def wolHost (w : Element) : Option (Row WolHost) :=
  (truthy (text w "mac")).map fun mac => instance_ [
    .str "mac" mac, .opt "interface" (text w "interface"), .opt "descr" (text w "descr")] rfl

def parseWol (root : Element) : List (Row WolHost) :=
  (childrenIn (root.find "wol") "wolentry").filterMap wolHost

/-! ### `routing.py` -/

def gateway (item : Element) : Option (Row Gateway) :=
  (truthy (text item "name")).map fun name => instance_ [
    .str "name" name, .opt "interface" (text item "interface"),
    .opt "gateway" (text item "gateway"), .opt "ipprotocol" (text item "ipprotocol"),
    .opt "monitor" (text item "monitor"), .opt "descr" (text item "descr"),
    .opt "weight" (text item "weight"), .bool "defaultgw" (boolFlag item "defaultgw"),
    .bool "disabled" (boolFlag item "disabled"), .opt "latencylow" (text item "latencylow"),
    .opt "latencyhigh" (text item "latencyhigh"), .opt "losslow" (text item "losslow"),
    .opt "losshigh" (text item "losshigh"), .opt "interval" (text item "interval"),
    .opt "time_period" (text item "time_period"),
    .opt "alert_interval" (text item "alert_interval"),
    .opt "loss_interval" (text item "loss_interval"),
    .opt "data_payload" (text item "data_payload"),
    .bool "force_down" (boolFlag item "force_down")] rfl

def gatewayGroup (item : Element) : Option (Row GatewayGroup) :=
  (truthy (text item "name")).map fun gname => instance_ [
    .str "name" gname, .opt "descr" (text item "descr"), .opt "trigger" (text item "trigger"),
    .strs "members" (texts item "item")] rfl

def parseGateways (root : Element) : List (Row Gateway) × List (Row GatewayGroup) :=
  let el := root.find "gateways"
  ((childrenIn el "gateway_item").filterMap gateway,
    (childrenIn el "gateway_group").filterMap gatewayGroup)

def staticRoute (item : Element) : Row StaticRoute :=
  let network := text item "network"
  let gateway := text item "gateway"
  let key := network.getD "" ++ "|" ++ gateway.getD ""
  instance_ [
    .str "key" key, .opt "network" network, .opt "gateway" gateway,
    .opt "descr" (text item "descr"), .bool "disabled" (boolFlag item "disabled")] rfl

def parseStaticRoutes (root : Element) : List (Row StaticRoute) :=
  (childrenIn (root.find "staticroutes") "route").map staticRoute

/-! ### `firewall.py` -/

def plainEndpoint (address : Option String) : Row Endpoint :=
  instance_ [.bool "any_" false, .opt "network" none, .opt "address" address, .opt "port" none,
    .bool "not_" false] rfl

def endpoint (el : Option Element) : Row Endpoint :=
  match el with
  | none => plainEndpoint none
  | some el => instance_ [
    .bool "any_" ((el.find "any").isSome), .opt "network" (text el "network"),
    .opt "address" (text el "address"), .opt "port" (text el "port"),
    .bool "not_" ((el.find "not").isSome)] rfl

def endpointBlob (el : Option Element) : String :=
  match el with
  | none => ""
  | some el => "|".intercalate [if (el.find "any").isSome then "any" else "",
      (text el "network").getD "", (text el "address").getD "", (text el "port").getD "",
      if (el.find "not").isSome then "not" else ""]

def ruleKey (rt : Runtime) (r : Element) : String :=
  match truthy (text r "tracker") with
  | some tracker => "tracker:" ++ tracker
  | none => "hash:" ++ hashed rt [text r "type", text r "interface", text r "ipprotocol",
      text r "protocol", some (endpointBlob (r.find "source")),
      some (endpointBlob (r.find "destination")), text r "gateway", text r "disabled",
      text r "floating", text r "direction", text r "statetype"]

def ruleChange (el : Element) : Option (Row RuleChange) :=
  let t := text el "time"
  let u := text el "username"
  let d := text el "description"
  if t.getD "" = "" ∧ u.getD "" = "" ∧ d.getD "" = "" then none
  else some (instance_ [
    .opt "time" t, .opt "username" u, .opt "description" d] rfl)

def firewallRule (rt : Runtime) (r : Element) : Row FirewallRule :=
  instance_ [
    .str "key" (ruleKey rt r), .opt "tracker" (text r "tracker"), .opt "type" (text r "type"),
    .opt "interface" (text r "interface"), .opt "ipprotocol" (text r "ipprotocol"),
    .opt "protocol" (text r "protocol"), .row "source" (endpoint (r.find "source")),
    .row "destination" (endpoint (r.find "destination")), .opt "descr" (text r "descr"),
    .bool "disabled" (boolFlag r "disabled"), .bool "log" (boolFlag r "log"),
    .opt "statetype" (text r "statetype"), .opt "gateway" (text r "gateway"),
    .opt "schedule" (text r "sched"), .bool "floating" (decide (text r "floating" = some "yes")),
    .opt "direction" (text r "direction"), .opt "tag" (text r "tag"),
    .opt "dnpipe" (text r "dnpipe"), .opt "pdnpipe" (text r "pdnpipe"),
    .opt "queuename" (orText (text r "defaultqueue") (text r "queuename")),
    .opt "ackqueue" (text r "ackqueue"),
    .opt "max_mss" (orText (text r "max-mss") (text r "max_mss")),
    .optRow "created" ((r.find "created").bind ruleChange),
    .optRow "updated" ((r.find "updated").bind ruleChange)] rfl

def parseFirewall (rt : Runtime) (root : Element) : List (Row FirewallRule) :=
  (childrenIn (root.find "filter") "rule").map (firewallRule rt)

/-! ### `nat.py` -/

def natKey (rt : Runtime) (r : Element) (kind : String) : String :=
  "hash:" ++ hashed rt [some kind, text r "interface", text r "protocol",
    some (endpointBlob (r.find "source")), some (endpointBlob (r.find "destination")),
    text r "target", text r "external", text r "local-port"]

def portForward (rt : Runtime) (r : Element) : Row NatRule :=
  instance_ [
    .str "key" (natKey rt r "port_forward"), .str "kind" "port_forward",
    .opt "interface" (text r "interface"), .opt "protocol" (text r "protocol"),
    .row "source" (endpoint (r.find "source")),
    .row "destination" (endpoint (r.find "destination")), .opt "target" (text r "target"),
    .opt "local_port" (text r "local-port"), .opt "descr" (text r "descr"),
    .bool "disabled" (boolFlag r "disabled")] rfl

def oneToOne (rt : Runtime) (r : Element) : Row NatRule :=
  instance_ [
    .str "key" (natKey rt r "one_to_one"), .str "kind" "one_to_one",
    .opt "interface" (text r "interface"), .opt "protocol" none,
    .row "source" (endpoint (r.find "source")),
    .row "destination" (endpoint (r.find "destination")), .opt "target" (text r "external"),
    .opt "local_port" none, .opt "descr" (text r "descr"),
    .bool "disabled" (boolFlag r "disabled")] rfl

def outbound (rt : Runtime) (r : Element) : Row NatRule :=
  instance_ [
    .str "key" (natKey rt r "outbound"), .str "kind" "outbound",
    .opt "interface" (text r "interface"), .opt "protocol" (text r "protocol"),
    .row "source" (endpoint (r.find "source")),
    .row "destination" (endpoint (r.find "destination")), .opt "target" (text r "target"),
    .opt "local_port" none, .opt "descr" (text r "descr"),
    .bool "disabled" (boolFlag r "disabled")] rfl

def npt (rt : Runtime) (r : Element) : Row NatRule :=
  let src_addr := orText (textIn (r.find "source") "address") (text r "src")
  let dst_addr := orText (textIn (r.find "destination") "address") (text r "dst")
  instance_ [
    .str "key" (natKey rt r "npt"), .str "kind" "npt", .opt "interface" (text r "interface"),
    .opt "protocol" none, .row "source" (plainEndpoint (truthy src_addr)),
    .row "destination" (plainEndpoint (truthy dst_addr)), .opt "target" none,
    .opt "local_port" none, .opt "descr" (text r "descr"),
    .bool "disabled" (boolFlag r "disabled")] rfl

def parseNat (rt : Runtime) (root : Element) : List (Row NatRule) :=
  let nat := root.find "nat"
  (childrenIn nat "rule").map (portForward rt) ++ (childrenIn nat "onetoone").map (oneToOne rt) ++
    (childrenIn (findIn nat "outbound") "rule").map (outbound rt) ++
    (childrenIn nat "npt").map (npt rt)

/-! ### `aliases.py` -/

def aliasRow (item : Element) : Option (Row Alias) :=
  (truthy (text item "name")).map fun name =>
    let address_raw := text item "address"
    let details_raw := text item "detail"
    instance_ [
      .str "name" name, .opt "type" (text item "type"), .opt "descr" (text item "descr"),
      .strs "entries" (words (address_raw.getD "")),
      .strs "details" ((truthy details_raw).elim [] splitBars),
      .opt "updatefreq" (text item "updatefreq")] rfl

def parseAliases (root : Element) : List (Row Alias) :=
  (childrenIn (root.find "aliases") "alias").filterMap aliasRow

/-! ### `ha.py` -/

def virtualIp (rt : Runtime) (v : Element) : Row VirtualIP :=
  let mode := text v "mode"
  let uniqid := text v "uniqid"
  let subnet := text v "subnet"
  let vhid := text v "vhid"
  let key := orElse uniqid (orElse mode "?" ++ "|" ++ orElse subnet "?" ++ "|" ++ vhid.getD "")
  instance_ [
    .str "key" key, .opt "mode" mode, .opt "interface" (text v "interface"), .opt "subnet" subnet,
    .opt "subnet_bits" (text v "subnet_bits"), .opt "vhid" vhid, .opt "advbase" (text v "advbase"),
    .opt "advskew" (text v "advskew"), .opt "descr" (text v "descr"),
    .opt "password" (redact rt "password" (text v "password"))] rfl

def parseVirtualips (rt : Runtime) (root : Element) : List (Row VirtualIP) :=
  (childrenIn (root.find "virtualip") "vip").map (virtualIp rt)

def haSync (rt : Runtime) (el : Element) : Row HaSync :=
  instance_ [
    .bool "pfsyncenabled" (decide (text el "pfsyncenabled" ∈ [some "on", some "yes", some "1"])),
    .opt "pfsyncinterface" (text el "pfsyncinterface"),
    .opt "pfsyncpeerip" (text el "pfsyncpeerip"),
    .opt "synchronizetoip" (text el "synchronizetoip"), .opt "username" (text el "username"),
    .opt "password" (redact rt "password" (text el "password")),
    .bool "synchronizerules" (boolFlag el "synchronizerules"),
    .bool "synchronizenat" (boolFlag el "synchronizenat"),
    .bool "synchronizealiases" (boolFlag el "synchronizealiases"),
    .bool "synchronizeschedules" (boolFlag el "synchronizeschedules"),
    .bool "synchronizedhcpd" (boolFlag el "synchronizedhcpd"),
    .bool "synchronizedhcrelay" (boolFlag el "synchronizedhcrelay"),
    .bool "synchronizedns"
      (boolFlag el "synchronizednsforwarder" || boolFlag el "synchronizednsresolver"),
    .bool "synchronizeopenvpn" (boolFlag el "synchronizeopenvpn"),
    .bool "synchronizeipsec" (boolFlag el "synchronizeipsec"),
    .bool "synchronizeusers" (boolFlag el "synchronizeusers"),
    .bool "synchronizeauthservers" (boolFlag el "synchronizeauthservers"),
    .bool "synchronizecerts" (boolFlag el "synchronizecerts")] rfl

def parseHasync (rt : Runtime) (root : Element) : Option (Row HaSync) :=
  (root.find "hasync").map (haSync rt)

/-! ### `dyndns.py` -/

def dyndnsEntry (rt : Runtime) (d : Element) : Row DyndnsEntry :=
  let provider := text d "type"
  let host := text d "host"
  let key := orElse provider "?" ++ "|" ++ orElse (orText host (text d "domainname")) "?"
  instance_ [
    .str "key" key, .opt "type" provider, .opt "interface" (text d "interface"), .opt "host" host,
    .opt "domainname" (text d "domainname"), .opt "mx" (text d "mx"), .opt "descr" (text d "descr"),
    .bool "enabled" (boolFlag d "enable"), .bool "wildcard" (boolFlag d "wildcard"),
    .bool "force_update" (boolFlag d "force_update" || boolFlag d "forceupdate"),
    .bool "verboselog" (boolFlag d "verboselog"), .opt "username" (text d "username"),
    .opt "password" (redact rt "password" (text d "password")),
    .opt "token" (redact rt "api_token" (text d "token"))] rfl

def parseDyndns (rt : Runtime) (root : Element) : List (Row DyndnsEntry) :=
  (childrenIn (root.find "dyndnses") "dyndns").map (dyndnsEntry rt)

/-! ### Secrets -/

section Secrets

variable (rt : Runtime) (veil : Veil) (root el : Element)

@[simp] theorem interface_veiled : interface (veiled rt veil el) = interface el := by
  simp (disch := first | exact rule_of_chars _ (by decide) | fail) [interface]

@[simp] theorem parseInterfaces_veiled :
    parseInterfaces (veiled rt veil root) = parseInterfaces root := by
  rw [parseInterfaces, parseInterfaces, find_veiled]
  cases root.find "interfaces" <;> simp

@[simp] theorem parseVlans_veiled : parseVlans (veiled rt veil root) = parseVlans root := by
  rw [parseVlans, parseVlans, find_veiled]
  cases root.find "vlans" with
  | none => rfl
  | some el => simp (disch := first | exact rule_of_chars _ (by decide) | fail)

@[simp] theorem bridge_veiled : bridge (veiled rt veil el) = bridge el := by
  simp (disch := first | exact rule_of_chars _ (by decide) | fail) [bridge]

@[simp] theorem parseBridges_veiled : parseBridges (veiled rt veil root) = parseBridges root := by
  simp [parseBridges, List.filterMap_map]

theorem parseTunnels_veiled {container item kind : String} (rule : Rule (kind ++ "if") false) :
    parseTunnels (veiled rt veil root) container item kind =
      parseTunnels root container item kind := by
  have row : ∀ el, tunnel kind (veiled rt veil el) = tunnel kind el := by
    intro el
    simp (disch := first | exact rule_of_chars _ (by decide) | fail)
      [tunnel, text_veiled rt veil rule]
  simp [parseTunnels, List.filterMap_map, row]

@[simp] theorem parseGifs_veiled : parseGifs (veiled rt veil root) = parseGifs root :=
  parseTunnels_veiled rt veil root (rule_of_chars "gifif".toList (by decide))

@[simp] theorem parseGres_veiled : parseGres (veiled rt veil root) = parseGres root :=
  parseTunnels_veiled rt veil root (rule_of_chars "greif".toList (by decide))

@[simp] theorem ppp_veiled : ppp (veiled rt veil el) = ppp el := by
  simp (disch := first | exact rule_of_chars _ (by decide) | fail) [ppp]

@[simp] theorem parsePpps_veiled : parsePpps (veiled rt veil root) = parsePpps root := by
  simp [parsePpps, List.filterMap_map]

@[simp] theorem qinq_veiled : qinq (veiled rt veil el) = qinq el := by
  simp (disch := first | exact rule_of_chars _ (by decide) | fail) [qinq]

@[simp] theorem parseQinqs_veiled : parseQinqs (veiled rt veil root) = parseQinqs root := by
  simp [parseQinqs, Function.comp_def]

@[simp] theorem lagg_veiled : lagg (veiled rt veil el) = lagg el := by
  simp (disch := first | exact rule_of_chars _ (by decide) | fail) [lagg]

@[simp] theorem parseLaggs_veiled : parseLaggs (veiled rt veil root) = parseLaggs root := by
  simp [parseLaggs, List.filterMap_map]

@[simp] theorem wolHost_veiled : wolHost (veiled rt veil el) = wolHost el := by
  simp (disch := first | exact rule_of_chars _ (by decide) | fail) [wolHost]

@[simp] theorem parseWol_veiled : parseWol (veiled rt veil root) = parseWol root := by
  simp [parseWol, List.filterMap_map]

@[simp] theorem gateway_veiled : gateway (veiled rt veil el) = gateway el := by
  simp (disch := first | exact rule_of_chars _ (by decide) | fail) [gateway]

@[simp] theorem gatewayGroup_veiled : gatewayGroup (veiled rt veil el) = gatewayGroup el := by
  simp (disch := first | exact rule_of_chars _ (by decide) | fail) [gatewayGroup]

@[simp] theorem parseGateways_veiled :
    parseGateways (veiled rt veil root) = parseGateways root := by
  simp [parseGateways, List.filterMap_map]

@[simp] theorem staticRoute_veiled : staticRoute (veiled rt veil el) = staticRoute el := by
  simp (disch := first | exact rule_of_chars _ (by decide) | fail) [staticRoute]

@[simp] theorem parseStaticRoutes_veiled :
    parseStaticRoutes (veiled rt veil root) = parseStaticRoutes root := by
  simp [parseStaticRoutes, Function.comp_def]

@[simp] theorem endpoint_veiled (el : Option Element) :
    endpoint (el.map (veiled rt veil)) = endpoint el := by
  cases el with
  | none => rfl
  | some el => simp (disch := first | exact rule_of_chars _ (by decide) | fail) [endpoint]

@[simp] theorem endpointBlob_veiled (el : Option Element) :
    endpointBlob (el.map (veiled rt veil)) = endpointBlob el := by
  cases el with
  | none => rfl
  | some el => simp (disch := first | exact rule_of_chars _ (by decide) | fail) [endpointBlob]

@[simp] theorem ruleKey_veiled : ruleKey rt (veiled rt veil el) = ruleKey rt el := by
  simp (disch := first | exact rule_of_chars _ (by decide) | fail) [ruleKey]

@[simp] theorem ruleChange_veiled : ruleChange (veiled rt veil el) = ruleChange el := by
  simp (disch := first | exact rule_of_chars _ (by decide) | fail) [ruleChange]

@[simp] theorem firewallRule_veiled : firewallRule rt (veiled rt veil el) = firewallRule rt el := by
  simp (disch := first | exact rule_of_chars _ (by decide) | fail) [firewallRule, Option.bind_map]

@[simp] theorem parseFirewall_veiled :
    parseFirewall rt (veiled rt veil root) = parseFirewall rt root := by
  simp [parseFirewall, Function.comp_def]

@[simp] theorem natKey_veiled (kind : String) :
    natKey rt (veiled rt veil el) kind = natKey rt el kind := by
  simp (disch := first | exact rule_of_chars _ (by decide) | fail) [natKey]

@[simp] theorem portForward_veiled : portForward rt (veiled rt veil el) = portForward rt el := by
  simp (disch := first | exact rule_of_chars _ (by decide) | fail) [portForward]

@[simp] theorem oneToOne_veiled : oneToOne rt (veiled rt veil el) = oneToOne rt el := by
  simp (disch := first | exact rule_of_chars _ (by decide) | fail) [oneToOne]

@[simp] theorem outbound_veiled : outbound rt (veiled rt veil el) = outbound rt el := by
  simp (disch := first | exact rule_of_chars _ (by decide) | fail) [outbound]

@[simp] theorem npt_veiled : npt rt (veiled rt veil el) = npt rt el := by
  simp (disch := first | exact rule_of_chars _ (by decide) | fail) [npt]

@[simp] theorem parseNat_veiled : parseNat rt (veiled rt veil root) = parseNat rt root := by
  simp [parseNat, Function.comp_def]

@[simp] theorem aliasRow_veiled : aliasRow (veiled rt veil el) = aliasRow el := by
  simp (disch := first | exact rule_of_chars _ (by decide) | fail) [aliasRow]

@[simp] theorem parseAliases_veiled : parseAliases (veiled rt veil root) = parseAliases root := by
  simp [parseAliases, List.filterMap_map]

@[simp] theorem virtualIp_veiled : virtualIp rt (veiled rt veil el) = virtualIp rt el := by
  simp (disch := first | exact rule_of_chars _ (by decide) | fail) [virtualIp]

@[simp] theorem parseVirtualips_veiled :
    parseVirtualips rt (veiled rt veil root) = parseVirtualips rt root := by
  simp [parseVirtualips, Function.comp_def]

@[simp] theorem haSync_veiled : haSync rt (veiled rt veil el) = haSync rt el := by
  simp (disch := first | exact rule_of_chars _ (by decide) | fail) [haSync]

@[simp] theorem parseHasync_veiled :
    parseHasync rt (veiled rt veil root) = parseHasync rt root := by
  simp [parseHasync, Function.comp_def]

@[simp] theorem dyndnsEntry_veiled : dyndnsEntry rt (veiled rt veil el) = dyndnsEntry rt el := by
  simp (disch := first | exact rule_of_chars _ (by decide) | fail) [dyndnsEntry]

@[simp] theorem parseDyndns_veiled :
    parseDyndns rt (veiled rt veil root) = parseDyndns rt root := by
  simp [parseDyndns, Function.comp_def]

end Secrets

end PfsenseBackups.NetworkSections

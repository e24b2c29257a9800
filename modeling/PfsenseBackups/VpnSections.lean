import PfsenseBackups.SystemSections

/-! The section parsers of the tunnels: `vpn.py` and `extra_vpn.py`. -/

namespace PfsenseBackups.VpnSections
open Value Xml Entries Entry PythonText Labels Redaction Models

/-! ### `vpn.py` -/

/-- The algorithms of one proposal, unless it names none. -/
def proposal (item : Element) : Option String :=
  let ea := item.find "encryption-algorithm"
  let cipher := match truthy (textIn ea "name"), truthy (textIn ea "keylen") with
    | some name, some keylen => [name ++ "-" ++ keylen]
    | some name, none => [name]
    | none, _ => []
  let hsh := (truthy (text item "hash-algorithm")).toList
  let dh := (truthy (orText (text item "dhgroup") (text item "pfsgroup"))).toList
  let parts := cipher ++ hsh ++ dh.map fun dh => "dh" ++ dh
  if parts = [] then none else some ("/".intercalate parts)

def encryptionSet (el : Element) : List String :=
  (childrenIn (el.find "encryption") "item").filterMap proposal

def openVpnServer (rt : Runtime) (s : Element) : Option (Row OpenVpnServer) :=
  (truthy (text s "vpnid")).map fun vpnid => instance_ [
    .str "vpnid" vpnid, .opt "description" (text s "description"), .opt "mode" (text s "mode"),
    .opt "protocol" (text s "protocol"), .opt "interface" (text s "interface"),
    .opt "local_port" (text s "local_port"), .opt "tunnel_network" (text s "tunnel_network"),
    .opt "tunnel_networkv6" (text s "tunnel_networkv6"),
    .opt "remote_network" (text s "remote_network"),
    .opt "remote_networkv6" (text s "remote_networkv6"),
    .opt "local_network" (text s "local_network"),
    .opt "local_networkv6" (text s "local_networkv6"), .opt "dev_mode" (text s "dev_mode"),
    .opt "topology" (text s "topology"),
    .opt "crypto" (orText (text s "data_ciphers_fallback") (text s "crypto")),
    .opt "digest" (text s "digest"), .opt "caref" (text s "caref"),
    .opt "certref" (text s "certref"), .strs "authmode" (filledParts ',' (text s "authmode")),
    .opt "push_options" (text s "push_options"), .opt "custom_options" (text s "custom_options"),
    .opt "comp_lzo" (orText (text s "compression") (text s "comp_lzo")),
    .opt "verify_x509_name" (text s "verify_x509_name"),
    .opt "x509_alt_name" (text s "x509_alt_name"), .opt "fragment" (text s "fragment"),
    .bool "mtu_test" (boolFlag s "mtu_test"), .opt "tunnel_mtu" (text s "tunnel_mtu"),
    .opt "data_ciphers" (text s "data_ciphers"),
    .opt "data_ciphers_fallback" (text s "data_ciphers_fallback"),
    .opt "shared_key" (redact rt "shared_key" (text s "shared_key")),
    .opt "tls" (redact rt "tls" (orText (text s "tls") (text s "tls_auth")))] rfl

def openVpnClient (rt : Runtime) (c : Element) : Option (Row OpenVpnClient) :=
  (truthy (text c "vpnid")).map fun vpnid => instance_ [
    .str "vpnid" vpnid, .opt "description" (text c "description"), .opt "mode" (text c "mode"),
    .opt "protocol" (text c "protocol"), .opt "interface" (text c "interface"),
    .opt "server_addr" (text c "server_addr"), .opt "server_port" (text c "server_port"),
    .opt "tunnel_network" (text c "tunnel_network"), .opt "dev_mode" (text c "dev_mode"),
    .opt "crypto" (orText (text c "data_ciphers_fallback") (text c "crypto")),
    .opt "digest" (text c "digest"), .opt "caref" (text c "caref"),
    .opt "certref" (text c "certref"), .opt "custom_options" (text c "custom_options"),
    .opt "comp_lzo" (orText (text c "compression") (text c "comp_lzo")),
    .opt "fragment" (text c "fragment"), .opt "tunnel_mtu" (text c "tunnel_mtu"),
    .opt "data_ciphers" (text c "data_ciphers"),
    .opt "data_ciphers_fallback" (text c "data_ciphers_fallback"),
    .opt "username" (orText (text c "auth_user") (text c "username")),
    .opt "password" (redact rt "password" (orText (text c "auth_pass") (text c "password"))),
    .opt "auth_user_pass" (redact rt "auth_user_pass" (text c "auth_user_pass")),
    .opt "shared_key" (redact rt "shared_key" (text c "shared_key")),
    .opt "tls" (redact rt "tls" (orText (text c "tls") (text c "tls_auth")))] rfl

def openVpnCsc (cso : Element) : Option (Row OpenVpnCsc) :=
  (truthy (text cso "common_name")).map fun cn => instance_ [
    .str "common_name" cn, .opt "description" (text cso "description"),
    .bool "disable" (boolFlag cso "disable"), .bool "block" (boolFlag cso "block"),
    .strs "server_list" (filledParts ',' (text cso "server_list")),
    .opt "tunnel_network" (text cso "tunnel_network"),
    .opt "local_network" (text cso "local_network"),
    .opt "remote_network" (text cso "remote_network"),
    .bool "push_reset" (boolFlag cso "push_reset"), .opt "dns_server1" (text cso "dns_server1"),
    .opt "ntp_server1" (text cso "ntp_server1")] rfl

def parseOpenvpn (rt : Runtime) (root : Element) :
    List (Row OpenVpnServer) × List (Row OpenVpnClient) × List (Row OpenVpnCsc) :=
  let el := root.find "openvpn"
  ((childrenIn el "openvpn-server").filterMap (openVpnServer rt),
    (childrenIn el "openvpn-client").filterMap (openVpnClient rt),
    (childrenIn el "openvpn-csc").filterMap openVpnCsc)

def ipsecPhase1 (rt : Runtime) (p : Element) : Option (Row IpsecPhase1) :=
  (truthy (text p "ikeid")).map fun ikeid => instance_ [
    .str "ikeid" ikeid, .opt "iketype" (text p "iketype"), .opt "interface" (text p "interface"),
    .opt "remote_gateway" (text p "remote-gateway"), .opt "protocol" (text p "protocol"),
    .opt "descr" (text p "descr"), .bool "disabled" (boolFlag p "disabled"),
    .opt "authentication_method" (text p "authentication_method"),
    .opt "myid_type" (text p "myid_type"), .opt "myid_data" (text p "myid_data"),
    .opt "peerid_type" (text p "peerid_type"), .opt "peerid_data" (text p "peerid_data"),
    .opt "mode" (text p "mode"), .opt "nat_traversal" (text p "nat_traversal"),
    .opt "mobike" (text p "mobike"), .opt "dpd_action" (text p "dpd_action"),
    .opt "dpd_delay" (text p "dpd_delay"), .opt "dpd_maxfail" (text p "dpd_maxfail"),
    .opt "lifetime" (text p "lifetime"), .opt "reauth_time" (text p "reauth_time"),
    .bool "gw_duplicates" (boolFlag p "gw_duplicates"),
    .opt "pre_shared_key" (redact rt "pre_shared_key" (text p "pre-shared-key")),
    .strs "encryption_set" (encryptionSet p)] rfl

def ipsecPhase2 (p : Element) : Option (Row IpsecPhase2) :=
  (truthy (text p "uniqid")).map fun uniqid =>
    let localid := p.find "localid"
    let remoteid := p.find "remoteid"
    instance_ [
      .str "uniqid" uniqid, .opt "ikeid" (text p "ikeid"), .opt "descr" (text p "descr"),
      .bool "disabled" (boolFlag p "disabled"), .opt "mode" (text p "mode"),
      .opt "protocol" (text p "protocol"), .opt "local_type" (textIn localid "type"),
      .opt "local_address" (textIn localid "address"),
      .opt "local_netbits" (textIn localid "netbits"), .opt "remote_type" (textIn remoteid "type"),
      .opt "remote_address" (textIn remoteid "address"),
      .opt "remote_netbits" (textIn remoteid "netbits"), .strs "encryption_set" (encryptionSet p),
      .opt "lifetime" (text p "lifetime"),
      .opt "keepalive" (orText (text p "pinghost") (text p "keepalive")),
      .opt "pfsgroup" (text p "pfsgroup"), .opt "mode_vti_addr" (text p "mode_vti_addr"),
      .opt "mode_vti_remote_addr" (text p "mode_vti_remote_addr")] rfl

def ipsecPskEntry (rt : Runtime) (entry : Element) : Option (Row IpsecPskEntry) :=
  (truthy (text entry "ident")).map fun ident =>
    let ident_type := text entry "ident_type"
    instance_ [
      .str "key" (orElse ident_type "?" ++ ":" ++ ident), .opt "ident_type" ident_type,
      .opt "ident" ident,
      .opt "pre_shared_key" (redact rt "pre_shared_key" (text entry "pre-shared-key"))] rfl

def ipsecMobileClient (mob_el : Element) : Row IpsecMobileClient :=
  instance_ [
    .bool "enable" (boolFlag mob_el "enable"), .opt "user_source" (text mob_el "user_source"),
    .opt "group_source" (text mob_el "group_source"),
    .opt "pool_address" (text mob_el "pool_address"),
    .opt "pool_netbits" (text mob_el "pool_netbits"),
    .opt "dns_address" (text mob_el "dns_address"),
    .opt "wins_address" (text mob_el "wins_address"),
    .opt "login_banner" (text mob_el "login_banner")] rfl

def parseIpsec (rt : Runtime) (root : Element) :
    List (Row IpsecPhase1) × List (Row IpsecPhase2) × List (Row IpsecPskEntry) ×
      Option (Row IpsecMobileClient) :=
  let el := root.find "ipsec"
  ((childrenIn el "phase1").filterMap (ipsecPhase1 rt),
    (childrenIn el "phase2").filterMap ipsecPhase2,
    (childrenIn el "mobilekey").filterMap (ipsecPskEntry rt),
    (findIn el "mobileclients").map ipsecMobileClient)

/-! ### `extra_vpn.py` -/

def l2tpUser (rt : Runtime) (u : Element) : Option (Row L2tpUser) :=
  (truthy (text u "name")).map fun name => instance_ [
    .str "name" name, .opt "ip" (text u "ip"),
    .opt "password" (redact rt "password" (text u "password"))] rfl

def l2tpConfig (rt : Runtime) (el : Element) : Row L2tpConfig :=
  let users := (children el "user").filterMap (l2tpUser rt)
  let radius := el.find "radius"
  instance_ [
    .opt "mode" (text el "mode"), .opt "interface" (text el "interface"),
    .opt "localip" (text el "localip"), .opt "remoteip" (text el "remoteip"),
    .bool "radius_enabled" (flagIn radius "enable"), .opt "radius_server" (textIn radius "server"),
    .opt "radius_secret" (redact rt "radius_secret" (textIn radius "secret")),
    .rows "users" users] rfl

def parseL2tp (rt : Runtime) (root : Element) : Option (Row L2tpConfig) :=
  (root.find "l2tp").map (l2tpConfig rt)

/-- The user of one `name:password:ip`, unless the name is empty. -/
def pppoeUser (rt : Runtime) (tok : String) : Option (Row PppoeUser) :=
  let parts := split ':' tok
  (truthy parts.head?).map fun name =>
    let pw := parts[1]?
    let ip := parts[2]?
    instance_ [
      .str "name" name, .opt "ip" (truthy ip), .opt "password" (redact rt "password" pw)] rfl

def parsePppoeUsers (rt : Runtime) (raw : Option String) : List (Row PppoeUser) :=
  (words (strip (raw.getD ""))).filterMap (pppoeUser rt)

def pppoeServerEntry (rt : Runtime) (p : Element) : Row PppoeServerEntry :=
  let iface := text p "interface"
  let descr := text p "descr"
  let pppoeid := text p "pppoeid"
  let key := orElse pppoeid (orElse iface "?" ++ "|" ++ orElse descr "?")
  let users := parsePppoeUsers rt (text p "username")
  let radius := p.find "radius"
  instance_ [
    .str "key" key, .opt "mode" (text p "mode"), .opt "interface" iface,
    .opt "localip" (text p "localip"), .opt "remoteip" (text p "remoteip"), .opt "descr" descr,
    .bool "radius_enabled" (flagIn radius "enable"), .opt "radius_server" (textIn radius "server"),
    .opt "radius_secret" (redact rt "radius_secret" (textIn radius "secret")),
    .rows "users" users] rfl

def parsePppoes (rt : Runtime) (root : Element) : List (Row PppoeServerEntry) :=
  (childrenIn (root.find "pppoes") "pppoe").map (pppoeServerEntry rt)

/-! ### Secrets -/

section Secrets

variable (rt : Runtime) (veil : Veil) (root el : Element)

@[simp] theorem proposal_veiled : proposal (veiled rt veil el) = proposal el := by
  simp (disch := first | exact rule_of_chars _ (by decide) | fail) [proposal]

@[simp] theorem encryptionSet_veiled : encryptionSet (veiled rt veil el) = encryptionSet el := by
  simp (disch := first | exact rule_of_chars _ (by decide) | fail)
    [encryptionSet, List.filterMap_map]

@[simp] theorem openVpnServer_veiled :
    openVpnServer rt (veiled rt veil el) = openVpnServer rt el := by
  simp (disch := first | exact rule_of_chars _ (by decide) | fail) [openVpnServer]

@[simp] theorem openVpnClient_veiled :
    openVpnClient rt (veiled rt veil el) = openVpnClient rt el := by
  simp (disch := first | exact rule_of_chars _ (by decide) | fail) [openVpnClient]

@[simp] theorem openVpnCsc_veiled : openVpnCsc (veiled rt veil el) = openVpnCsc el := by
  simp (disch := first | exact rule_of_chars _ (by decide) | fail) [openVpnCsc]

@[simp] theorem parseOpenvpn_veiled :
    parseOpenvpn rt (veiled rt veil root) = parseOpenvpn rt root := by
  simp [parseOpenvpn, List.filterMap_map]

@[simp] theorem ipsecPhase1_veiled : ipsecPhase1 rt (veiled rt veil el) = ipsecPhase1 rt el := by
  simp (disch := first | exact rule_of_chars _ (by decide) | fail) [ipsecPhase1]

@[simp] theorem ipsecPhase2_veiled : ipsecPhase2 (veiled rt veil el) = ipsecPhase2 el := by
  simp (disch := first | exact rule_of_chars _ (by decide) | fail) [ipsecPhase2]

@[simp] theorem ipsecPskEntry_veiled :
    ipsecPskEntry rt (veiled rt veil el) = ipsecPskEntry rt el := by
  simp (disch := first | exact rule_of_chars _ (by decide) | fail) [ipsecPskEntry]

@[simp] theorem ipsecMobileClient_veiled :
    ipsecMobileClient (veiled rt veil el) = ipsecMobileClient el := by
  simp (disch := first | exact rule_of_chars _ (by decide) | fail) [ipsecMobileClient]

@[simp] theorem parseIpsec_veiled : parseIpsec rt (veiled rt veil root) = parseIpsec rt root := by
  simp [parseIpsec, List.filterMap_map, Function.comp_def]

@[simp] theorem l2tpUser_veiled : l2tpUser rt (veiled rt veil el) = l2tpUser rt el := by
  simp (disch := first | exact rule_of_chars _ (by decide) | fail) [l2tpUser]

@[simp] theorem l2tpConfig_veiled : l2tpConfig rt (veiled rt veil el) = l2tpConfig rt el := by
  simp (disch := first | exact rule_of_chars _ (by decide) | fail) [l2tpConfig, List.filterMap_map]

@[simp] theorem parseL2tp_veiled : parseL2tp rt (veiled rt veil root) = parseL2tp rt root := by
  simp [parseL2tp, Function.comp_def]

@[simp] theorem pppoeServerEntry_veiled :
    pppoeServerEntry rt (veiled rt veil el) = pppoeServerEntry rt el := by
  simp (disch := first | exact rule_of_chars _ (by decide) | fail) [pppoeServerEntry]

@[simp] theorem parsePppoes_veiled :
    parsePppoes rt (veiled rt veil root) = parsePppoes rt root := by
  simp [parsePppoes, Function.comp_def]

end Secrets

end PfsenseBackups.VpnSections

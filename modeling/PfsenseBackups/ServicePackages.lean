import PfsenseBackups.SystemSections

/-! The parsers of the packages that serve: `haproxy.py`, `acme.py`, `freeradius.py`,
`telegraf.py`, `frr.py`, `zabbix.py`, `wireguard.py`, `miniupnpd.py`, `avahi.py`,
`openvpn_export.py` and `shellcmd.py`. -/

namespace PfsenseBackups.ServicePackages
open Value Xml Entries Entry PythonText Labels Redaction Models

/-! ### `haproxy.py` -/

/-- The flat address of a frontend, then the addresses of its block. -/
def frontendAddresses (item : Element) : List String :=
  let flat := (truthy (text item "extaddr")).map fun flat =>
    match truthy (text item "extaddr_port") with
    | some port => flat ++ ":" ++ port
    | none => flat
  flat.toList ++ (childrenIn (item.find "a_extaddr") "item").map fun e =>
    orElse (text e "extaddr") "?" ++ ":" ++ orElse (text e "extaddr_port") "?"

def haProxyServer (rt : Runtime) (row : Element) : Row HaProxyServer :=
  instance_ [
    .str "name" (orElse (text row "name") "?"), .opt "address" (text row "address"),
    .opt "port" (text row "port"), .bool "ssl" (boolFlag row "ssl"),
    .opt "status" (text row "status"), .opt "weight" (text row "weight"),
    .opt "password" (redact rt "password" (text row "password")),
    .opt "maxconn" (text row "maxconn"),
    .bool "sslservercertverify" (boolFlag row "sslservercertverify"),
    .opt "advanced" (text row "advanced")] rfl

def haProxyAcl (row : Element) : Option (Row HaProxyAcl) :=
  (truthy (text row "name")).map fun name => instance_ [
    .str "name" name, .opt "expression" (text row "expression"), .opt "value" (text row "value"),
    .bool "casesensitive" (boolFlag row "casesensitive"),
    .bool "inverse" (boolFlag row "inverse")] rfl

/-- The action, or the first tag that gives one in its place. -/
def verb (row : Element) : Option String :=
  let action := text row "action"
  if (truthy action).isSome then action
  else
    let candidates :=
      ["use_backendrule", "http-request", "http-response", "tcp-request", "tcp-response"]
    (candidates.find? fun cand => (truthy (text row cand)).isSome).or action

def haProxyAction (row : Element) : Row HaProxyAction :=
  let params := orText (text row "parameters") (text row "value")
  instance_ [
    .opt "action" (verb row), .opt "acl" (text row "acl"), .opt "parameters" params] rfl

def haProxyFrontend (item : Element) : Option (Row HaProxyFrontend) :=
  (truthy (text item "name")).map fun name =>
    let acls := (childrenIn (item.find "ha_acls") "item").filterMap haProxyAcl
    let actions := (childrenIn (item.find "a_actionitems") "item").map haProxyAction
    instance_ [
      .str "name" name, .opt "status" (text item "status"), .opt "type" (text item "type"),
      .opt "descr" (text item "descr"), .opt "extaddr" (text item "extaddr"),
      .strs "addresses" (frontendAddresses item),
      .opt "default_backend" (text item "backend_serverpool"),
      .bool "ssl" (boolFlag item "ssloffload"), .bool "forwardfor" (boolFlag item "forwardfor"),
      .opt "ssloffloadcert" (text item "ssloffloadcert"), .opt "dcertadv" (text item "dcertadv"),
      .opt "clientcert_ca" (text item "clientcert_ca"),
      .opt "clientcert_crl" (text item "clientcert_crl"),
      .bool "sslclientcert_required" (boolFlag item "ssloffloadclientcert"),
      .opt "sslciphers" (orText (text item "ssl_ciphers") (text item "sslciphers")),
      .opt "sslprotocols" (orText (text item "ssl_protocols") (text item "sslprotocols")),
      .opt "advanced" (text item "advanced"), .rows "acls" acls, .rows "actions" actions] rfl

def haProxyBackend (rt : Runtime) (item : Element) : Option (Row HaProxyBackend) :=
  (truthy (text item "name")).map fun name =>
    let servers := (childrenIn (item.find "ha_servers") "item").map (haProxyServer rt)
    instance_ [
      .str "name" name, .opt "descr" (text item "descr"), .opt "balance" (text item "balance"),
      .opt "check_type" (text item "check_type"), .rows "servers" servers,
      .opt "connection_timeout" (text item "connection_timeout"),
      .opt "server_timeout" (text item "server_timeout"), .opt "retries" (text item "retries"),
      .opt "httpcheck_method" (text item "httpcheck_method"),
      .opt "monitor_uri" (text item "monitor_uri"),
      .opt "monitor_httpversion" (text item "monitor_httpversion"),
      .opt "check_interval" (orText (text item "check_frequency") (text item "check_interval")),
      .bool "persist_cookie_enabled" (boolFlag item "persist_cookie_enabled"),
      .opt "persist_cookie_name" (text item "persist_cookie_name"),
      .opt "persist_cookie_mode" (text item "persist_cookie_mode"),
      .opt "advanced" (text item "advanced")] rfl

def parseHaproxy (rt : Runtime) (ip : Element) : Option (Row HaProxyConfig) :=
  let root := ip.find "haproxy"
  let frontends_el := ip.find "ha_backends"
  let backends_el := ip.find "ha_pools"
  if root.isNone && frontends_el.isNone && backends_el.isNone then none
  else
    let frontends := (childrenIn frontends_el "item").filterMap haProxyFrontend
    let backends := (childrenIn backends_el "item").filterMap (haProxyBackend rt)
    some (instance_ [
      .bool "enable" (flagIn root "enable"), .opt "advanced" (textIn root "advanced"),
      .opt "remotesyslog" (textIn root "remotesyslog"), .rows "frontends" frontends,
      .rows "backends" backends, .opt "maxconn" (textIn root "maxconn"),
      .opt "nbthread" (textIn root "nbthread"), .opt "nbproc" (textIn root "nbproc"),
      .opt "hard_stop_after" (textIn root "hard_stop_after"),
      .opt "ssldefaultdhparam" (textIn root "ssldefaultdhparam"),
      .opt "log_facility" (textIn root "log-facility"), .opt "log_level" (textIn root "log-level"),
      .opt "log_send_hostname" (textIn root "log-send-hostname"),
      .opt "localstats_port" (textIn root "localstats_port"),
      .opt "localstats_refresh" (textIn root "localstats_refresh"),
      .bool "localstats_sticktable_views" (flagIn root "localstats_sticktable_views"),
      .opt "carpdev" (textIn root "carpdev"), .opt "enable_iface" (textIn root "enable_iface")] rfl)

/-! ### `acme.py` -/

def san (item : Element) : Option String :=
  (truthy (text item "name")).map fun host =>
    match truthy (text item "method") with
    | some method => host ++ " (" ++ method ++ ")"
    | none => host

def acmeAccountKey (rt : Runtime) (k : Element) : Option (Row AcmeAccountKey) :=
  (truthy (text k "name")).map fun name => instance_ [
    .str "name" name, .opt "descr" (text k "descr"), .opt "acmeserver" (text k "acmeserver"),
    .opt "email" (text k "email"),
    .opt "accountkey" (redact rt "accountkey" (text k "accountkey"))] rfl

def acmeCertificate (c : Element) : Option (Row AcmeCertificate) :=
  (truthy (text c "name")).map fun name =>
    let san_list := (childrenIn (c.find "a_domainlist") "item").filterMap san
    instance_ [
      .str "name" name, .opt "acmeaccount" (text c "acmeaccount"),
      .opt "keylength" (text c "keylength"), .opt "preferredchain" (text c "preferredchain"),
      .bool "ocspstaple" (boolFlag c "ocspstaple"), .opt "dnssleep" (text c "dnssleep"),
      .strs "san_list" san_list, .opt "renewafter" (text c "renewafter")] rfl

def acmeConfig (rt : Runtime) (root : Element) : Row AcmeConfig :=
  let account_keys := (childrenIn (root.find "accountkeys") "item").filterMap (acmeAccountKey rt)
  let certificates := (childrenIn (root.find "certificates") "item").filterMap acmeCertificate
  instance_ [
    .bool "enable" (boolFlag root "enable"), .bool "writecert_log" (boolFlag root "writecert_log"),
    .rows "account_keys" account_keys, .rows "certificates" certificates] rfl

def parseAcme (rt : Runtime) (ip : Element) : Option (Row AcmeConfig) :=
  (ip.find "acme").map (acmeConfig rt)

/-! ### `freeradius.py` -/

/-- The lower-case section of a record. -/
def sectionOf (rt : Runtime) (rec : Element) : String :=
  rt.lower ((orText (text rec "varsection") (text rec "section")).getD "")

def freeRadiusInterface (rt : Runtime) (rec : Element) : Option (Row FreeRadiusInterface) :=
  if includes (sectionOf rt rec) "interface" = true then
    let ip_addr := orText (text rec "varinterfaceipaddress") (text rec "ipaddr")
    let port := orText (text rec "varinterfaceport") (text rec "port")
    some (instance_ [
      .str "key" (orElse ip_addr "?" ++ ":" ++ orElse port "?"), .opt "ipaddr" ip_addr,
      .opt "port" port, .opt "ip_type" (text rec "varinterfaceiptype"),
      .opt "interface_type" (text rec "varinterfacetype")] rfl)
  else none

def freeRadiusClient (rt : Runtime) (rec : Element) : Option (Row FreeRadiusClient) :=
  let section_ := sectionOf rt rec
  if includes section_ "interface" = false ∧
      (includes section_ "client" = true ∨ includes section_ "nas" = true) then
    let name := orElse (orText (text rec "varclientname") (orText (text rec "varclientip")
      (text rec "name"))) "?"
    let secret := orText (text rec "varclientsharedsecret") (text rec "shared_secret")
    some (instance_ [
      .str "name" name, .opt "ipaddr" (orText (text rec "varclientip") (text rec "ipaddr")),
      .opt "shortname" (text rec "varclientshortname"),
      .opt "shared_secret" (redact rt "shared_secret" secret),
      .opt "nas_type" (text rec "varclientnastype"),
      .opt "descr" (orText (text rec "varclientdescription") (text rec "descr"))] rfl)
  else none

def freeRadiusUser (rt : Runtime) (rec : Element) : Option (Row FreeRadiusUser) :=
  let section_ := sectionOf rt rec
  if includes section_ "interface" = false ∧ includes section_ "client" = false ∧
      includes section_ "nas" = false ∧ includes section_ "user" = true then
    let name := orElse (orText (text rec "varusersname") (text rec "name")) "?"
    let password := orText (text rec "varuserspassword") (text rec "user_password")
    some (instance_ [
      .str "name" name, .opt "password" (redact rt "user_password" password),
      .opt "auth_type" (text rec "varusersauthtype"),
      .opt "expiration" (text rec "varusersexpiration"),
      .opt "descr" (orText (text rec "varusersdescription") (text rec "descr"))] rfl)
  else none

def parseFreeradius (rt : Runtime) (ip : Element) : Option (Row FreeRadiusConfig) :=
  let settings_el := ip.find "freeradiussettings"
  let fr_el := ip.find "freeradius"
  if settings_el.isNone && fr_el.isNone then none
  else
    let enabled := flagIn settings_el "enable" || flagIn settings_el "varsettingsenable"
    let records := childrenIn fr_el "config"
    let interfaces := records.filterMap (freeRadiusInterface rt)
    let clients := records.filterMap (freeRadiusClient rt)
    let users := records.filterMap (freeRadiusUser rt)
    some (instance_ [
      .bool "enabled" enabled, .rows "interfaces" interfaces, .rows "clients" clients,
      .rows "users" users] rfl)

/-! ### `telegraf.py` -/

/-- `_URL_BASIC_AUTH_RE`: a user, and a password if there is one, before the host. -/
def basicAuth (url : List Char) : Option (Nat × List Char) :=
  let user := (url.drop 3).takeWhile fun char => !(['/', '@', ':'].contains char) && !isSpace char
  let rest := url.drop (3 + user.length)
  let password := match rest with
    | ':' :: rest =>
      1 + (rest.takeWhile fun char => !(['/', '@'].contains char) && !isSpace char).length
    | _ => 0
  if "://".toList.isPrefixOf url = true ∧ user ≠ [] ∧ (rest.drop password).head? = some '@' then
    some (3 + user.length + password + 1, "://".toList ++ redacted.toList ++ ['@'])
  else none

def scrubUrl (url : String) : String :=
  substitute basicAuth url

def telegrafConfig (rt : Runtime) (el : Element) : Row TelegrafConfig :=
  instance_ [
    .bool "enabled" (boolFlag el "enable"), .opt "interval" (text el "interval"),
    .opt "output_plugin" (orText (text el "output") (text el "output_plugin")),
    .opt "url" ((text el "url").map scrubUrl), .opt "database" (text el "database"),
    .opt "organization" (text el "organization"), .opt "bucket" (text el "bucket"),
    .opt "username" (redact rt "influxdb_username" (text el "username")),
    .opt "password" (redact rt "password" (text el "password")),
    .opt "token"
      (redact rt "influxdb_token" (orText (text el "token") (text el "influxdb_token")))] rfl

def parseTelegraf (rt : Runtime) (ip : Element) : Option (Row TelegrafConfig) :=
  (ip.find "telegraf").map (telegrafConfig rt)

/-! ### `frr.py` -/

/-- The items of a list, or the rows of its other layout. -/
def itemRows (el : Option Element) : List Element :=
  orRows (childrenIn el "item") (childrenIn el "config")

def frrBgpNeighbor (rt : Runtime) (n : Element) : Row FrrBgpNeighbor :=
  let name := orElse (orText (text n "name") (orText (text n "peergroupname")
    (text n "peer_address"))) "?"
  let password := orText (text n "password") (orText (text n "md5password") (text n "bgp_password"))
  instance_ [
    .str "name" name, .opt "remote_as" (orText (text n "remote_as") (text n "remoteas")),
    .opt "peer_address" (orText (text n "peer_address") (text n "peeraddr")),
    .opt "descr" (text n "descr"), .opt "password" (redact rt "bgp_password" password)] rfl

def parseBgp (rt : Runtime) (ip : Element) : Option (Row FrrBgpConfig) :=
  let bgp_el := ip.find "frrbgp"
  let neighbors_el := ip.find "frrbgpneighbors"
  if bgp_el.isNone && neighbors_el.isNone then none
  else
    let neighbors := (itemRows neighbors_el).map (frrBgpNeighbor rt)
    some (instance_ [
      .bool "enabled" (flagIn bgp_el "enable" || flagIn bgp_el "enablebgp"),
      .opt "local_as" (orText (textIn bgp_el "local_as") (textIn bgp_el "asnum")),
      .opt "router_id" (orText (textIn bgp_el "router_id") (textIn bgp_el "routerid")),
      .rows "neighbors" neighbors] rfl)

/-- An interface; IPv6 has one more tag for its password. -/
def frrOspfInterface (rt : Runtime) (password : Element → Option String) (i : Element) :
    Option (Row FrrOspfInterface) :=
  (truthy (orText (text i "interface") (text i "interfacename"))).map fun iface => instance_ [
    .str "interface" iface, .opt "area" (text i "area"), .opt "cost" (text i "cost"),
    .opt "priority" (text i "priority"),
    .opt "hello_interval" (orText (text i "hello_interval") (text i "hellointerval")),
    .opt "dead_interval" (orText (text i "dead_interval") (text i "deadinterval")),
    .opt "md5_password" (redact rt "ospf_password" (password i))] rfl

def ospfPassword (i : Element) : Option String :=
  orText (text i "md5_password") (text i "md5password")

def ospf6Password (i : Element) : Option String :=
  orText (text i "md5_password") (orText (text i "md5password") (text i "ospf6authkey"))

def parseOspf (rt : Runtime) (ip : Element) : Option (Row FrrOspfConfig) :=
  let ospf_el := ip.find "frrospf"
  let ifaces_el := ip.find "frrospfinterfaces"
  if ospf_el.isNone && ifaces_el.isNone then none
  else
    let interfaces := (itemRows ifaces_el).filterMap (frrOspfInterface rt ospfPassword)
    some (instance_ [
      .bool "enabled" (flagIn ospf_el "enable" || flagIn ospf_el "enableospf"),
      .opt "router_id" (orText (textIn ospf_el "router_id") (textIn ospf_el "routerid")),
      .rows "interfaces" interfaces] rfl)

def parseOspfd (ospfd_el : Element) : Row FrrOspfd6Config :=
  let redistribute_connected :=
    boolFlag ospfd_el "redistribute_connected" || boolFlag ospfd_el "redistribute_connectedsubnets"
  instance_ [
    .bool "enabled" (boolFlag ospfd_el "enable" || boolFlag ospfd_el "enableospf6"),
    .opt "router_id" (orText (text ospfd_el "router_id") (text ospfd_el "routerid")),
    .bool "redistribute_connected" redistribute_connected,
    .bool "redistribute_static"
      (boolFlag ospfd_el "redistribute_static" || boolFlag ospfd_el "redistribute_staticroutes"),
    .bool "redistribute_kernel" (boolFlag ospfd_el "redistribute_kernel"),
    .bool "redistribute_bgp" (boolFlag ospfd_el "redistribute_bgp")] rfl

def frrAclEntry (row : Element) : Option (Row FrrAclEntry) :=
  (truthy (orText (text row "name") (text row "aclname"))).map fun name => instance_ [
    .str "name" name, .opt "seq" (orText (text row "seq") (text row "sequence")),
    .opt "action" (text row "action"),
    .opt "source" (orText (text row "source") (text row "network")),
    .opt "descr" (orText (text row "descr") (text row "description"))] rfl

def frrPrefixListEntry (row : Element) : Option (Row FrrPrefixListEntry) :=
  (truthy (orText (text row "name") (text row "prefixname"))).map fun name => instance_ [
    .str "name" name, .opt "seq" (orText (text row "seq") (text row "sequence")),
    .opt "action" (text row "action"),
    .opt "prefix" (orText (text row "source") (orText (text row "prefix") (text row "network"))),
    .opt "ge" (text row "ge"), .opt "le" (text row "le"),
    .opt "descr" (orText (text row "descr") (text row "description"))] rfl

def parseFrr (rt : Runtime) (ip : Element) : Option (Row FrrConfig) :=
  let global_el := (ip.find "frr").or (ip.find "frrglobal")
  let bgp := parseBgp rt ip
  let ospf := parseOspf rt ip
  let ospfd_el := ip.find "frrospfd"
  let ospfd_struct := ospfd_el.map parseOspfd
  let ospfd_areas := ip.find "frrospfdareas"
  let ospfd_ifaces_el := ip.find "frrospfdinterfaces"
  let ospfd_ifaces := (itemRows ospfd_ifaces_el).filterMap (frrOspfInterface rt ospf6Password)
  let global_acls_el := ip.find "frrglobalacls"
  let global_prefixes_el := ip.find "frrglobalprefixes"
  let global_acls := (itemRows global_acls_el).filterMap frrAclEntry
  let global_prefixes := (itemRows global_prefixes_el).filterMap frrPrefixListEntry
  let bgp6 := ip.find "frrbgp6d"
  if global_el.isNone && bgp.isNone && ospf.isNone && ospfd_el.isNone && ospfd_areas.isNone &&
      ospfd_ifaces_el.isNone && global_acls_el.isNone && global_prefixes_el.isNone &&
      bgp6.isNone then none
  else
    let enabled := flagIn global_el "enable" || flagIn global_el "enablefrr"
    some (instance_ [
      .bool "enabled" enabled, .optRow "bgp" bgp, .optRow "ospf" ospf,
      .bool "ospfd_present" ((ospfd_el).isSome), .optRow "ospfd" ospfd_struct,
      .bool "ospfd_areas_present" ((ospfd_areas).isSome),
      .bool "ospfd_interfaces_present" ((ospfd_ifaces_el).isSome),
      .bool "global_acls_present" ((global_acls_el).isSome), .rows "global_acls" global_acls,
      .bool "global_prefixes_present" ((global_prefixes_el).isSome),
      .rows "global_prefixes" global_prefixes, .bool "bgp6_present" ((bgp6).isSome),
      .rows "ospfd_interfaces" ospfd_ifaces] rfl)

/-! ### `zabbix.py` -/

def parseAgent (rt : Runtime) (el : Element) : Row ZabbixAgentConfig :=
  instance_ [
    .bool "enabled" (boolFlag el "agentenabled" || boolFlag el "enable"),
    .opt "server" (text el "server"), .opt "serveractive" (text el "serveractive"),
    .opt "hostname" (text el "hostname"), .opt "listenport" (text el "listenport"),
    .opt "tls_psk_identity" (text el "tlspskidentity"),
    .opt "tls_psk" (redact rt "tlspsk" (orText (text el "tlspsk") (text el "tls_psk")))] rfl

def parseProxy (rt : Runtime) (el : Element) : Row ZabbixProxyConfig :=
  instance_ [
    .bool "enabled" (boolFlag el "proxyenabled" || boolFlag el "enable"),
    .opt "server" (text el "server"), .opt "hostname" (text el "hostname"),
    .opt "listenport" (text el "listenport"), .opt "tls_psk_identity" (text el "tlspskidentity"),
    .opt "tls_psk" (redact rt "tlspsk" (orText (text el "tlspsk") (text el "tls_psk")))] rfl

def parseZabbix (rt : Runtime) (ip : Element) : Option (Row ZabbixBundle) :=
  let agent := ((ip.find "zabbixagentlts").or (ip.find "zabbixagent")).map (parseAgent rt)
  let proxy := ((ip.find "zabbixproxylts").or (ip.find "zabbixproxy")).map (parseProxy rt)
  if agent.isNone && proxy.isNone then none
  else some (instance_ [
    .optRow "agent" agent, .optRow "proxy" proxy] rfl)

/-! ### `wireguard.py` -/

def splitCidrList (raw : Option String) : List String :=
  ((commaWords (raw.getD "")).map strip).filter (· ≠ "")

/-- The network of a row, unless it has no address. -/
def network (row : Element) : Option String :=
  (truthy (text row "address")).map fun addr =>
    match truthy (text row "mask") with
    | some mask => addr ++ "/" ++ mask
    | none => addr

def wireGuardTunnel (rt : Runtime) (t : Element) : Option (Row WireGuardTunnel) :=
  (truthy (orText (text t "name") (text t "tun"))).map fun name =>
    let addresses := splitCidrList (text t "address") ++
      (childrenIn (t.find "addresses") "row").filterMap network
    instance_ [
      .str "name" name, .opt "descr" (orText (text t "descr") (text t "description")),
      .bool "enabled" (boolFlag t "enabled" || boolFlag t "enable"),
      .opt "listen_port" (orText (text t "listenport") (text t "listen_port")),
      .opt "mtu" (text t "mtu"), .strs "addresses" addresses, .opt "dns" (text t "dns"),
      .opt "public_key" (orText (text t "publickey") (text t "public_key")),
      .opt "private_key"
        (redact rt "privatekey" (orText (text t "privatekey") (text t "private_key")))] rfl

/-- The networks in the rows of a block, or in its own text. -/
def allowedIps (block : Element) : List String :=
  let rows := (children block "row").filterMap network
  if rows.isEmpty then splitCidrList block.content else rows

def wireGuardPeer (rt : Runtime) (p : Element) : Row WireGuardPeer :=
  let allowed := ((p.find "allowedips").map allowedIps).getD (splitCidrList (text p "allowedips"))
  let psk := orText (text p "presharedkey") (orText (text p "preshared_key") (text p "psk"))
  instance_ [
    .opt "descr" (orText (text p "descr") (text p "description")),
    .bool "enabled" (boolFlag p "enabled" || boolFlag p "enable"), .opt "tun" (text p "tun"),
    .opt "endpoint" (text p "endpoint"), .opt "port" (text p "port"),
    .opt "persistent_keepalive"
      (orText (text p "persistentkeepalive") (text p "persistent_keepalive")),
    .strs "allowed_ips" allowed,
    .opt "public_key" (orText (text p "publickey") (text p "public_key")),
    .opt "preshared_key" (redact rt "presharedkey" psk)] rfl

def parseWireguard (rt : Runtime) (wg_el : Element) : Row WireGuardConfig :=
  let tunnels := (orRows (childrenIn (wg_el.find "tunnels") "item")
    (children wg_el "tunnel")).filterMap (wireGuardTunnel rt)
  let peers := (orRows (childrenIn (wg_el.find "peers") "item")
    (children wg_el "peer")).map (wireGuardPeer rt)
  instance_ [
    .rows "tunnels" tunnels, .rows "peers" peers] rfl

/-! ### `miniupnpd.py` -/

def permitSlots : List String := [
  "permit1", "permit2", "permit3", "permit4", "permit5", "permit6", "permit7", "permit8",
  "permit9", "permit10"]

def miniUpnpdConfig (el : Element) : Row MiniUpnpdConfig :=
  let permit_rules := permitSlots.filterMap (fun slot => truthy (text el slot)) ++
    ((texts el "permit").map strip).filter (· ≠ "")
  instance_ [
    .bool "enable" (boolFlag el "enable"), .bool "enable_upnp" (boolFlag el "enable_upnp"),
    .bool "enable_natpmp" (boolFlag el "enable_natpmp"),
    .opt "iface_array" (orText (text el "iface_array") (text el "interface")),
    .opt "ext_iface" (orText (text el "ext_iface") (text el "external_interface")),
    .opt "download" (text el "download"), .opt "upload" (text el "upload"),
    .strs "permit_rules" permit_rules] rfl

def parseMiniupnpd (ip : Element) : Option (Row MiniUpnpdConfig) :=
  (ip.find "miniupnpd").map miniUpnpdConfig

/-! ### `avahi.py` -/

def avahiConfig (el : Element) : Row AvahiConfig :=
  instance_ [
    .bool "enable" (boolFlag el "enable"),
    .bool "reflector" (boolFlag el "enable_reflector" || boolFlag el "reflector"),
    .bool "ipv4_enabled" (boolFlag el "enable_ipv4" || boolFlag el "ipv4_only"),
    .bool "ipv6_enabled" (boolFlag el "enable_ipv6" || boolFlag el "ipv6_only"),
    .bool "wide_area" (boolFlag el "enable_wide_area"),
    .bool "publish_workstation" (boolFlag el "publish_workstation"),
    .bool "publish_addresses" (boolFlag el "publish_addresses"),
    .opt "reflect_ipv" (text el "reflect_ipv"),
    .opt "interfaces" (orText (text el "interfaces") (text el "iface_array")),
    .opt "allow_deny_interfaces" (text el "denyinterfaces"),
    .opt "cache_entries_max" (text el "cache_entries_max"),
    .opt "browse_domains" (text el "browsedomains")] rfl

def parseAvahi (ip : Element) : Option (Row AvahiConfig) :=
  (ip.find "avahi").map avahiConfig

/-! ### `openvpn_export.py` -/

def openvpnClientExportServer (row : Element) (i : Nat) : Row OpenvpnClientExportServer :=
  let vpnid := text row "vpnid"
  let key := orElse vpnid ("#" ++ toString i)
  instance_ [
    .str "key" key, .opt "vpnid" vpnid, .opt "useaddr" (text row "useaddr"),
    .opt "verifyservercn" (text row "verifyservercn"),
    .bool "blockoutsidedns" (boolFlag row "blockoutsidedns"),
    .bool "usetoken" (boolFlag row "usetoken"), .bool "usepkcs11" (boolFlag row "usepkcs11"),
    .opt "bindmode" (text row "bindmode"),
    .bool "silent_install" (boolFlag row "silent_install")] rfl

def openvpnClientExportConfig (el : Element) : Row OpenvpnClientExportConfig :=
  let inner := (el.find "defaults").getD el
  let servers := (itemRows (el.find "serverconfig")).zipIdx.map fun row =>
    openvpnClientExportServer row.1 row.2
  instance_ [
    .bool "use_random_local_port" (boolFlag inner "use_random_local_port"),
    .bool "silent_install" (boolFlag inner "silent_install"),
    .opt "interface_selection" (text inner "interface_selection"),
    .opt "hostname" (text inner "hostname"), .opt "ovpnexportcert" (text inner "ovpnexportcert"),
    .opt "ovpnexportcountry" (text inner "ovpnexportcountry"),
    .opt "ovpnexportstate" (text inner "ovpnexportstate"),
    .opt "ovpnexportcity" (text inner "ovpnexportcity"), .rows "servers" servers] rfl

def parseOpenvpnExport (ip : Element) : Option (Row OpenvpnClientExportConfig) :=
  ((ip.find "vpn_openvpn_export").or (ip.find "openvpnexport")).map openvpnClientExportConfig

/-! ### `shellcmd.py` -/

def shellCmdEntry (row : Element) : Option (Row ShellCmdEntry) :=
  (truthy (orText (text row "cmd") (text row "shellcmd"))).map fun cmd =>
    let raw_type := orText (text row "cmdtype") (text row "type")
    let cmdtype := if raw_type = some "disabled" then none else raw_type
    let disabled := boolFlag row "disabled" || decide (raw_type = some "disabled")
    instance_ [
      .str "cmd" cmd, .opt "cmdtype" cmdtype,
      .opt "descr" (orText (text row "descr") (text row "description")),
      .bool "disabled" disabled] rfl

def shellCmdSettings (el : Element) : Row ShellCmdSettings :=
  let entries := (orRows (children el "config") (children el "item")).filterMap shellCmdEntry
  instance_ [
    .rows "entries" entries] rfl

def parseShellcmd (ip : Element) : Option (Row ShellCmdSettings) :=
  (ip.find "shellcmdsettings").map shellCmdSettings

/-! ### Secrets -/

section Secrets

variable (rt : Runtime) (veil : Veil) (el : Element)

@[simp] theorem frontendAddresses_veiled :
    frontendAddresses (veiled rt veil el) = frontendAddresses el := by
  simp (disch := first | exact rule_of_chars _ (by decide) | fail)
    [frontendAddresses, Function.comp_def]

@[simp] theorem haProxyServer_veiled :
    haProxyServer rt (veiled rt veil el) = haProxyServer rt el := by
  simp (disch := first | exact rule_of_chars _ (by decide) | fail) [haProxyServer]

@[simp] theorem haProxyAcl_veiled : haProxyAcl (veiled rt veil el) = haProxyAcl el := by
  simp (disch := first | exact rule_of_chars _ (by decide) | fail) [haProxyAcl]

@[simp] theorem verb_veiled : verb (veiled rt veil el) = verb el := by
  simp (disch := first | exact rule_of_chars _ (by decide) | fail) [verb, List.find?_cons]

@[simp] theorem haProxyAction_veiled : haProxyAction (veiled rt veil el) = haProxyAction el := by
  simp (disch := first | exact rule_of_chars _ (by decide) | fail) [haProxyAction]

@[simp] theorem haProxyFrontend_veiled :
    haProxyFrontend (veiled rt veil el) = haProxyFrontend el := by
  simp (disch := first | exact rule_of_chars _ (by decide) | fail)
    [haProxyFrontend, List.filterMap_map, Function.comp_def]

@[simp] theorem haProxyBackend_veiled :
    haProxyBackend rt (veiled rt veil el) = haProxyBackend rt el := by
  simp (disch := first | exact rule_of_chars _ (by decide) | fail)
    [haProxyBackend, Function.comp_def]

@[simp] theorem parseHaproxy_veiled : parseHaproxy rt (veiled rt veil el) = parseHaproxy rt el := by
  simp (disch := first | exact rule_of_chars _ (by decide) | fail)
    [parseHaproxy, List.filterMap_map]

@[simp] theorem san_veiled : san (veiled rt veil el) = san el := by
  simp (disch := first | exact rule_of_chars _ (by decide) | fail) [san]

@[simp] theorem acmeAccountKey_veiled :
    acmeAccountKey rt (veiled rt veil el) = acmeAccountKey rt el := by
  simp (disch := first | exact rule_of_chars _ (by decide) | fail) [acmeAccountKey]

@[simp] theorem acmeCertificate_veiled :
    acmeCertificate (veiled rt veil el) = acmeCertificate el := by
  simp (disch := first | exact rule_of_chars _ (by decide) | fail)
    [acmeCertificate, List.filterMap_map]

@[simp] theorem acmeConfig_veiled : acmeConfig rt (veiled rt veil el) = acmeConfig rt el := by
  simp (disch := first | exact rule_of_chars _ (by decide) | fail) [acmeConfig, List.filterMap_map]

@[simp] theorem parseAcme_veiled : parseAcme rt (veiled rt veil el) = parseAcme rt el := by
  simp [parseAcme, Function.comp_def]

@[simp] theorem sectionOf_veiled : sectionOf rt (veiled rt veil el) = sectionOf rt el := by
  simp (disch := first | exact rule_of_chars _ (by decide) | fail) [sectionOf]

@[simp] theorem freeRadiusInterface_veiled :
    freeRadiusInterface rt (veiled rt veil el) = freeRadiusInterface rt el := by
  simp (disch := first | exact rule_of_chars _ (by decide) | fail) [freeRadiusInterface]

@[simp] theorem freeRadiusClient_veiled :
    freeRadiusClient rt (veiled rt veil el) = freeRadiusClient rt el := by
  simp (disch := first | exact rule_of_chars _ (by decide) | fail) [freeRadiusClient]

@[simp] theorem freeRadiusUser_veiled :
    freeRadiusUser rt (veiled rt veil el) = freeRadiusUser rt el := by
  simp (disch := first | exact rule_of_chars _ (by decide) | fail) [freeRadiusUser]

@[simp] theorem parseFreeradius_veiled :
    parseFreeradius rt (veiled rt veil el) = parseFreeradius rt el := by
  simp [parseFreeradius, List.filterMap_map]

@[simp] theorem telegrafConfig_veiled :
    telegrafConfig rt (veiled rt veil el) = telegrafConfig rt el := by
  simp (disch := first | exact rule_of_chars _ (by decide) | fail) [telegrafConfig]

@[simp] theorem parseTelegraf_veiled :
    parseTelegraf rt (veiled rt veil el) = parseTelegraf rt el := by
  simp [parseTelegraf, Function.comp_def]

@[simp] theorem itemRows_veiled (el : Option Element) :
    itemRows (el.map (veiled rt veil)) = (itemRows el).map (veiled rt veil) := by
  simp [itemRows]

@[simp] theorem frrBgpNeighbor_veiled :
    frrBgpNeighbor rt (veiled rt veil el) = frrBgpNeighbor rt el := by
  simp (disch := first | exact rule_of_chars _ (by decide) | fail) [frrBgpNeighbor]

@[simp] theorem parseBgp_veiled : parseBgp rt (veiled rt veil el) = parseBgp rt el := by
  simp (disch := first | exact rule_of_chars _ (by decide) | fail) [parseBgp, Function.comp_def]

@[simp] theorem ospfPassword_veiled :
    placeholder (ospfPassword (veiled rt veil el)) = placeholder (ospfPassword el) := by
  simp (disch := first | exact rule_of_chars _ (by decide) | fail) [ospfPassword]

@[simp] theorem ospf6Password_veiled :
    placeholder (ospf6Password (veiled rt veil el)) = placeholder (ospf6Password el) := by
  simp (disch := first | exact rule_of_chars _ (by decide) | fail) [ospf6Password]

theorem frrOspfInterface_veiled {password : Element → Option String}
    (hidden : ∀ el, placeholder (password (veiled rt veil el)) = placeholder (password el)) :
    frrOspfInterface rt password (veiled rt veil el) = frrOspfInterface rt password el := by
  simp (disch := first | exact rule_of_chars _ (by decide) | fail) [frrOspfInterface, hidden]

@[simp] theorem parseOspf_veiled : parseOspf rt (veiled rt veil el) = parseOspf rt el := by
  simp (disch := first | exact rule_of_chars _ (by decide) | fail)
    [parseOspf, List.filterMap_map,
    frrOspfInterface_veiled rt veil _ (ospfPassword_veiled rt veil)]

@[simp] theorem parseOspfd_veiled : parseOspfd (veiled rt veil el) = parseOspfd el := by
  simp (disch := first | exact rule_of_chars _ (by decide) | fail) [parseOspfd]

@[simp] theorem frrAclEntry_veiled : frrAclEntry (veiled rt veil el) = frrAclEntry el := by
  simp (disch := first | exact rule_of_chars _ (by decide) | fail) [frrAclEntry]

@[simp] theorem frrPrefixListEntry_veiled :
    frrPrefixListEntry (veiled rt veil el) = frrPrefixListEntry el := by
  simp (disch := first | exact rule_of_chars _ (by decide) | fail) [frrPrefixListEntry]

@[simp] theorem parseFrr_veiled : parseFrr rt (veiled rt veil el) = parseFrr rt el := by
  simp (disch := first | exact rule_of_chars _ (by decide) | fail)
    [parseFrr, ← Option.map_or, List.filterMap_map, Function.comp_def,
    frrOspfInterface_veiled rt veil _ (ospf6Password_veiled rt veil)]

@[simp] theorem parseAgent_veiled : parseAgent rt (veiled rt veil el) = parseAgent rt el := by
  simp (disch := first | exact rule_of_chars _ (by decide) | fail) [parseAgent]

@[simp] theorem parseProxy_veiled : parseProxy rt (veiled rt veil el) = parseProxy rt el := by
  simp (disch := first | exact rule_of_chars _ (by decide) | fail) [parseProxy]

@[simp] theorem parseZabbix_veiled : parseZabbix rt (veiled rt veil el) = parseZabbix rt el := by
  simp [parseZabbix, ← Option.map_or, Function.comp_def]

@[simp] theorem network_veiled : network (veiled rt veil el) = network el := by
  simp (disch := first | exact rule_of_chars _ (by decide) | fail) [network]

@[simp] theorem wireGuardTunnel_veiled :
    wireGuardTunnel rt (veiled rt veil el) = wireGuardTunnel rt el := by
  simp (disch := first | exact rule_of_chars _ (by decide) | fail)
    [wireGuardTunnel, List.filterMap_map]

theorem allowedIps_veiled (same : (veiled rt veil el).content = el.content) :
    allowedIps (veiled rt veil el) = allowedIps el := by
  simp [allowedIps, same, List.filterMap_map]

@[simp] theorem wireGuardPeer_veiled :
    wireGuardPeer rt (veiled rt veil el) = wireGuardPeer rt el := by
  have plain : Rule "allowedips" false := rule_of_chars _ (by decide)
  have allowed := find_plain rt veil plain (fun el => allowedIps_veiled rt veil el) el
  simp (disch := first | exact rule_of_chars _ (by decide) | fail) only [wireGuardPeer, allowed,
    text_veiled, redact_secret, placeholder_orText, placeholder_text_veiled, boolFlag_veiled]

@[simp] theorem parseWireguard_veiled :
    parseWireguard rt (veiled rt veil el) = parseWireguard rt el := by
  simp [parseWireguard, List.filterMap_map, Function.comp_def]

@[simp] theorem miniUpnpdConfig_veiled :
    miniUpnpdConfig (veiled rt veil el) = miniUpnpdConfig el := by
  have rules : ∀ slot ∈ permitSlots, Rule slot false := by
    simp only [permitSlots, List.forall_mem_cons]
    refine ⟨?_, ?_, ?_, ?_, ?_, ?_, ?_, ?_, ?_, ?_, fun _ member => absurd member List.not_mem_nil⟩
    all_goals exact rule_of_chars _ (by decide)
  have slots : permitSlots.filterMap (fun slot => truthy (text (veiled rt veil el) slot)) =
      permitSlots.filterMap fun slot => truthy (text el slot) := by
    apply List.filterMap_congr
    intro slot member
    rw [text_veiled rt veil (rules slot member)]
  simp (disch := first | exact rule_of_chars _ (by decide) | fail) [miniUpnpdConfig, slots]

@[simp] theorem parseMiniupnpd_veiled : parseMiniupnpd (veiled rt veil el) = parseMiniupnpd el := by
  simp [parseMiniupnpd, Function.comp_def]

@[simp] theorem avahiConfig_veiled : avahiConfig (veiled rt veil el) = avahiConfig el := by
  simp (disch := first | exact rule_of_chars _ (by decide) | fail) [avahiConfig]

@[simp] theorem parseAvahi_veiled : parseAvahi (veiled rt veil el) = parseAvahi el := by
  simp [parseAvahi, Function.comp_def]

@[simp] theorem openvpnClientExportServer_veiled (i : Nat) :
    openvpnClientExportServer (veiled rt veil el) i = openvpnClientExportServer el i := by
  simp (disch := first | exact rule_of_chars _ (by decide) | fail) [openvpnClientExportServer]

@[simp] theorem openvpnClientExportConfig_veiled :
    openvpnClientExportConfig (veiled rt veil el) = openvpnClientExportConfig el := by
  simp (disch := first | exact rule_of_chars _ (by decide) | fail)
    [openvpnClientExportConfig, List.zipIdx_map, Function.comp_def]

@[simp] theorem parseOpenvpnExport_veiled :
    parseOpenvpnExport (veiled rt veil el) = parseOpenvpnExport el := by
  simp [parseOpenvpnExport, ← Option.map_or, Function.comp_def]

@[simp] theorem shellCmdEntry_veiled : shellCmdEntry (veiled rt veil el) = shellCmdEntry el := by
  simp (disch := first | exact rule_of_chars _ (by decide) | fail) [shellCmdEntry]

@[simp] theorem shellCmdSettings_veiled :
    shellCmdSettings (veiled rt veil el) = shellCmdSettings el := by
  simp [shellCmdSettings, List.filterMap_map]

@[simp] theorem parseShellcmd_veiled : parseShellcmd (veiled rt veil el) = parseShellcmd el := by
  simp [parseShellcmd, Function.comp_def]

end Secrets

end PfsenseBackups.ServicePackages

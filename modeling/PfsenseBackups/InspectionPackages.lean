import PfsenseBackups.SystemSections

/-! The parsers of the packages that inspect traffic: `pfblockerng.py`, `suricata.py`, `snort.py`
and `squid.py`. -/

namespace PfsenseBackups.InspectionPackages
open Value Xml Entries Entry PythonText Labels Redaction Models

/-- `bool((text(el, tag) or "").strip())`. -/
def configured (el : Option Element) (tag : String) : Bool :=
  decide (strip ((textIn el tag).getD "") ≠ "")

/-! ### `pfblockerng.py` -/

def isHex (char : Char) : Bool :=
  decide ('0' ≤ char ∧ char ≤ '9' ∨ 'a' ≤ char ∧ char ≤ 'f' ∨ 'A' ≤ char ∧ char ≤ 'F')

/-- `_OINKCODE_PATH_RE`: from 30 to 64 hexadecimal digits between two slashes. -/
def oinkcodePath : List Char → Option (Nat × List Char)
  | '/' :: rest =>
    let digits := rest.takeWhile isHex
    if 30 ≤ digits.length ∧ digits.length ≤ 64 ∧ (rest.drop digits.length).head? = some '/' then
      some (digits.length + 2, "/***oinkcode***/".toList)
    else none
  | _ => none

/-- `_OINKCODE_QUERY_RE`: a query parameter, in any case, with a value. -/
def oinkcodeQuery : List Char → Option (Nat × List Char)
  | [] => none
  | char :: rest =>
    let name := "oinkcode=".toList
    let value := (rest.drop name.length).takeWhile (· ≠ '&')
    if (char = '?' ∨ char = '&') ∧ matchesFront name rest = true ∧ value ≠ [] then
      some (1 + name.length + value.length,
        char :: rest.take name.length ++ "***redacted***".toList)
    else none

def scrubFeedUrl (url : String) : String :=
  substitute oinkcodeQuery (substitute oinkcodePath url)

/-- `_GEOIP_CONTINENT_TAGS`. -/
def geoipContinentTags : List (String × String) := [
  ("pfblockerngafrica", "Africa"), ("pfblockerngantarctica", "Antarctica"),
  ("pfblockerngasia", "Asia"), ("pfblockerngeurope", "Europe"),
  ("pfblockerngnorthamerica", "North America"), ("pfblockerngoceania", "Oceania"),
  ("pfblockerngocean", "Oceania"), ("pfblockerngsouthamerica", "South America"),
  ("pfblockerngproxyandsatellite", "Proxy & satellite"), ("pfblockerngtopv4", "Top-V4"),
  ("pfblockerngtopv6", "Top-V6")]

def pfBlockerNgTags : List String := [
  "pfblockerng", "pfblockerngipsettings", "pfblockerngdnsblsettings", "pfblockernglistsv4",
  "pfblockernglistsv6", "pfblockerngdnsbl", "pfblockerngdnsblsafesearch", "pfblockerngglobal",
  "pfblockerngtopspammers", "pfblockerngblacklist", "pfblockerngsafesearch",
  "pfblockerngreputation"] ++ geoipContinentTags.map Prod.fst

def pfBlockerNgFeed (lst row : Element) : Option (Row PfBlockerNgFeed) :=
  (truthy ((text row "url").map scrubFeedUrl)).map fun url =>
    let header := text lst "aliasname"
    instance_ [
      .str "key" (orElse header "?" ++ "|" ++ url), .opt "header" header,
      .opt "state" (text row "state"), .opt "format" (text row "format"),
      .opt "action" (text lst "action"), .opt "url" (some url)] rfl

def collectFeeds (el : Option Element) : List (Row PfBlockerNgFeed) :=
  (childrenIn el "config").flatMap fun lst => (children lst "row").filterMap (pfBlockerNgFeed lst)

/-- The labels of the continents that have a section, each once. -/
def geoipContinents (ip : Element) : List String :=
  geoipContinentTags.foldl (fun labels continent =>
    if (ip.find continent.1).isSome && !labels.contains continent.2 then labels ++ [continent.2]
    else labels) []

def parsePfblockerng (ip : Element) : Option (Row PfBlockerNgConfig) :=
  let pbn := ip.find "pfblockerng"
  let ipset := ip.find "pfblockerngipsettings"
  let dnsblset := ip.find "pfblockerngdnsblsettings"
  let listsv4 := ip.find "pfblockernglistsv4"
  let listsv6 := ip.find "pfblockernglistsv6"
  let dnsbl_feeds := ip.find "pfblockerngdnsbl"
  let topspammers := ip.find "pfblockerngtopspammers"
  let blacklist := ip.find "pfblockerngblacklist"
  let safesearch := ip.find "pfblockerngsafesearch"
  let reputation := ip.find "pfblockerngreputation"
  let dnsbl_safesearch := ip.find "pfblockerngdnsblsafesearch"
  let pbn_global := ip.find "pfblockerngglobal"
  let geoip_continents := geoipContinents ip
  let geoip_configured := !geoip_continents.isEmpty
  if pbn.isNone && ipset.isNone && dnsblset.isNone && listsv4.isNone && listsv6.isNone &&
      dnsbl_feeds.isNone && topspammers.isNone && blacklist.isNone && safesearch.isNone &&
      reputation.isNone && dnsbl_safesearch.isNone && pbn_global.isNone && !geoip_configured then
    none
  else
    let feeds := collectFeeds listsv4 ++ collectFeeds listsv6 ++ collectFeeds dnsbl_feeds ++
      collectFeeds reputation ++ collectFeeds blacklist
    some (instance_ [
      .bool "enable_pfblockerng" (flagIn pbn "enable_cb"),
      .bool "keep_settings" (flagIn pbn "keep"),
      .opt "pfb_interface" (textIn pbn "inbound_interface"),
      .opt "pfb_inbound" (textIn pbn "inbound_deny_action"),
      .opt "pfb_outbound" (textIn pbn "outbound_deny_action"),
      .bool "ip_enabled" (flagIn ipset "enable_cb"),
      .bool "ipv6_enabled" (flagIn ipset "ipv6usage"),
      .bool "maxmind_key_configured" (configured ipset "maxmind_key"),
      .bool "dnsbl_enabled" (flagIn dnsblset "dnsbl"),
      .opt "dnsbl_mode" (textIn dnsblset "dnsbl_mode"),
      .opt "dnsbl_port" (textIn dnsblset "dnsbl_port"), .rows "feeds" feeds,
      .bool "topspammers_present" ((topspammers).isSome),
      .bool "blacklist_present" ((blacklist).isSome),
      .bool "safesearch_present" ((safesearch).isSome),
      .bool "reputation_present" ((reputation).isSome),
      .bool "dnsbl_safesearch_present" ((dnsbl_safesearch).isSome),
      .bool "global_present" ((pbn_global).isSome), .bool "geoip_configured" geoip_configured,
      .strs "geoip_continents" geoip_continents] rfl)

/-! ### `suricata.py` -/

def categoryList (item : Element) : List String :=
  match truthy (text item "rulesets") with
  | some raw => (splitBars raw).filter (· ≠ "")
  | none => texts item "category"

def suricataInterface (item : Element) : Row SuricataInterface :=
  let uuid := orElse (orText (text item "uuid") (text item "interface")) "?"
  instance_ [
    .str "uuid" uuid, .opt "interface" (text item "interface"), .opt "descr" (text item "descr"),
    .bool "enable" (boolFlag item "enable"),
    .bool "blockoffenders7" (boolFlag item "blockoffenders7"),
    .opt "ips_mode" (text item "ips_mode"), .bool "eve_enable" (boolFlag item "eve_log_enabled"),
    .strs "categories" (categoryList item)] rfl

def suricataPasslistEntry (row : Element) : Option (Row SuricataPasslistEntry) :=
  (truthy (orText (text row "ipaddress") (text row "address"))).map fun addr =>
    instance_ [
      .str "key" (addr ++ "|" ++ (text row "descr").getD ""), .opt "address" (some addr),
      .opt "descr" (text row "descr")] rfl

def suricataPasslist (item : Element) : Option (Row SuricataPasslist) :=
  (truthy (text item "name")).map fun name =>
    let rows := orRows (childrenIn (item.find "row") "item") (children item "row")
    let entries := rows.filterMap suricataPasslistEntry
    instance_ [
      .str "name" name, .opt "descr" (text item "descr"), .rows "entries" entries] rfl

def parseSuricata (ip : Element) : Option (Row SuricataConfig) :=
  let root := ip.find "suricata"
  let passlist_root := ip.find "suricatapasslist"
  if root.isNone && passlist_root.isNone then none
  else
    let rule_el := (findIn root "rule").or (findIn root "suricataconfig")
    let interfaces := (childrenIn rule_el "item").map suricataInterface
    let passlists := (childrenIn passlist_root "item").filterMap suricataPasslist
    some (instance_ [
      .bool "enable_stats" (flagIn root "enable_stats_collection"),
      .bool "oinkmaster_configured" (configured root "oinkcode"), .rows "interfaces" interfaces,
      .rows "passlists" passlists] rfl)

/-! ### `snort.py` -/

def snortInterface (item : Element) : Row SnortInterface :=
  let uuid := orElse (orText (text item "uuid") (text item "interface")) "?"
  instance_ [
    .str "uuid" uuid, .opt "interface" (text item "interface"), .opt "descr" (text item "descr"),
    .bool "enable" (boolFlag item "enable"),
    .bool "blockoffenders7" (boolFlag item "blockoffenders7" || boolFlag item "blockoffenders"),
    .opt "ips_mode" (text item "ips_mode"), .strs "categories" (categoryList item)] rfl

def parseSnort (ip : Element) : Option (Row SnortConfig) :=
  let root := ip.find "snort"
  let global_el := ip.find "snortglobal"
  if root.isNone && global_el.isNone then none
  else
    let rule_el := findIn root "rule"
    let interfaces := (childrenIn rule_el "item").map snortInterface
    let community := flagIn global_el "snortcommunityrules"
    let et_enabled := flagIn global_el "emergingthreats" || flagIn global_el "emerging_threats"
    some (instance_ [
      .bool "oinkmaster_configured" (configured global_el "oinkcode"),
      .bool "snort_community_rules_enabled" community, .bool "emerging_threats_enabled" et_enabled,
      .rows "interfaces" interfaces] rfl)

/-! ### `squid.py` -/

def parseSquidMain (rt : Runtime) (el : Element) : Row SquidConfig :=
  instance_ [
    .bool "enable" (boolFlag el "enable"), .opt "active_interface" (text el "active_interface"),
    .opt "proxy_port" (text el "proxy_port"),
    .bool "transparent_mode" (boolFlag el "transparent_proxy"),
    .strs "allow_interface" (strippedParts ',' (text el "allow_interface")),
    .opt "auth_method" (text el "auth_method"), .opt "auth_realm" (text el "auth_realm"),
    .opt "ldap_server" (orText (text el "ldap_server") (text el "auth_server")),
    .opt "ldap_binddn" (orText (text el "ldap_binddn") (text el "auth_binddn")),
    .opt "ldap_bindpw"
      (redact rt "ldap_bindpw" (orText (text el "ldap_bindpw") (text el "auth_bindpw"))),
    .opt "ntlm_domain" (text el "ntlm_domain"),
    .opt "ntlm_admin_username" (text el "ntlm_admin_username"),
    .opt "ntlm_admin_password" (redact rt "ntlm_admin_password" (text el "ntlm_admin_password")),
    .bool "ssl_proxy_enable" (boolFlag el "ssl_proxy"),
    .opt "ssl_proxy_intercept_port" (text el "ssl_proxy_port"),
    .strs "ssl_proxy_intercept_interfaces"
      (strippedParts ',' (text el "ssl_proxy_intercept_interfaces")),
    .opt "ssl_proxy_dhparams_size" (text el "dhparams_size"),
    .opt "ssl_proxy_options" (text el "sslproxy_options"),
    .opt "ssl_proxy_compatibility" (text el "sslproxy_compatibility_mode"),
    .opt "ssl_proxy_cafile_ref" (text el "dca"),
    .opt "ssl_proxy_certificate_ref" (text el "ssl_proxy_certref"),
    .opt "sslproxy_cipher" (text el "sslproxy_cipher")] rfl

def parseSquidcache (el : Element) : Row SquidCacheConfig :=
  instance_ [
    .bool "enable" (boolFlag el "enable"),
    .opt "harddisk_cache_size" (text el "harddisk_cache_size"),
    .opt "harddisk_cache_system" (text el "harddisk_cache_system"),
    .opt "harddisk_cache_location" (text el "harddisk_cache_location"),
    .opt "minimum_object_size" (text el "minimum_object_size"),
    .opt "maximum_object_size" (text el "maximum_object_size"),
    .opt "memory_cache_size" (text el "memory_cache_size"),
    .opt "maximum_objsize_in_mem" (text el "maximum_objsize_in_mem"),
    .opt "cache_replacement_policy" (text el "cache_replacement_policy"),
    .opt "memory_replacement_policy" (text el "memory_replacement_policy"),
    .opt "level1_subdirs" (text el "level1_subdirs"), .opt "donotcache" (text el "donotcache"),
    .bool "enable_offline" (boolFlag el "enable_offline")] rfl

def parseSquidantivirus (el : Element) : Row SquidAntivirusConfig :=
  instance_ [
    .bool "enable" (boolFlag el "enable"), .opt "client_info" (text el "client_info"),
    .bool "enable_advanced" (boolFlag el "enable_advanced"),
    .opt "raw_squidclamav_conf" (text el "raw_squidclamav_conf"),
    .opt "raw_cicap_conf" (text el "raw_cicap_conf"),
    .opt "raw_cicap_magic" (text el "raw_cicap_magic"),
    .opt "raw_freshclam_conf" (text el "raw_freshclam_conf"),
    .opt "raw_clamd_conf" (text el "raw_clamd_conf")] rfl

def parseSquidremote (rt : Runtime) (el : Element) : Row SquidRemoteConfig :=
  instance_ [
    .bool "enable" (boolFlag el "enable"), .opt "proxyaddr" (text el "proxyaddr"),
    .opt "proxyport" (text el "proxyport"), .opt "username" (text el "username"),
    .opt "password" (redact rt "password" (text el "password"))] rfl

def squidGuardTarget (t : Element) : Option (Row SquidGuardTarget) :=
  (truthy (text t "name")).map fun name =>
    let domains_raw := orText (text t "domainlist") (text t "domains")
    let urls_raw := orText (text t "urllist") (text t "urls")
    instance_ [
      .str "name" name, .opt "descr" (orText (text t "descr") (text t "description")),
      .strs "domain_list" (commaWords (domains_raw.getD "")),
      .strs "url_list" (commaWords (urls_raw.getD "")),
      .bool "enabled" (!(boolFlag t "disabled"))] rfl

def squidGuardAcl (a : Element) : Option (Row SquidGuardAcl) :=
  (truthy (text a "name")).map fun name => instance_ [
    .str "name" name, .opt "descr" (orText (text a "description") (text a "descr")),
    .opt "source" (orText (text a "sources") (text a "source")), .opt "time_range" (text a "time"),
    .opt "redirect" (text a "redirect"), .bool "enabled" (!(boolFlag a "disabled"))] rfl

/-- The items of a block, or the elements beside it; nothing without a block. -/
def blockRows (el : Element) (block : Option Element) (tag : String) : List Element :=
  block.elim [] fun block => orRows (children block "item") (children el tag)

def parseSquidguard (el : Element) : Row SquidGuardConfig :=
  let targets_block := (el.find "destinations").or (el.find "target")
  let targets := (blockRows el targets_block "target").filterMap squidGuardTarget
  let acls := (blockRows el (el.find "acls") "acl").filterMap squidGuardAcl
  instance_ [
    .bool "enabled" (boolFlag el "enable" || boolFlag el "enabled"),
    .bool "blacklist_enabled" (boolFlag el "blacklist"),
    .opt "blacklist_url" (text el "blacklist_url"), .bool "strip_path" (boolFlag el "strip_path"),
    .rows "targets" targets, .rows "acls" acls] rfl

def parseSquidauth (rt : Runtime) (el : Element) : Row SquidAuthConfig :=
  let item := (el.find "item").getD el
  instance_ [
    .opt "auth_method" (text item "auth_method"), .opt "ldap_server" (text item "ldap_server"),
    .opt "ldap_port" (text item "ldap_port"),
    .opt "ldap_binddn" (orText (text item "ldap_user") (text item "ldap_binddn")),
    .opt "ldap_pass"
      (redact rt "ldap_bindpw" (orText (text item "ldap_pass") (text item "ldap_bindpw"))),
    .opt "ldap_search_base" (orText (text item "ldap_basedomain") (text item "ldap_search_base")),
    .opt "ldap_filter" (orText (text item "ldap_userattribute") (text item "ldap_filter")),
    .opt "radius_server" (text item "radius_server"), .opt "radius_port" (text item "radius_port"),
    .opt "radius_secret" (redact rt "radius_secret" (text item "radius_secret")),
    .opt "nt_user" (text item "nt_user"),
    .opt "nt_pass" (redact rt "nt_pass" (text item "nt_pass"))] rfl

def parseSquid (rt : Runtime) (ip : Element) : Option (Row SquidBundle) :=
  let sq := (ip.find "squid").map (parseSquidMain rt)
  let sg := (ip.find "squidguard").map parseSquidguard
  let auth := (ip.find "squidauth").map (parseSquidauth rt)
  let cache := (ip.find "squidcache").map parseSquidcache
  let remote := (ip.find "squidremote").map (parseSquidremote rt)
  let antivirus := (ip.find "squidantivirus").map parseSquidantivirus
  if sq.isNone && sg.isNone && auth.isNone && cache.isNone && remote.isNone && antivirus.isNone then
    none
  else some (instance_ [
    .optRow "squid" sq, .optRow "squidguard" sg, .bool "cache_present" ((cache).isSome),
    .optRow "cache" cache, .bool "remote_present" ((remote).isSome), .optRow "remote" remote,
    .optRow "auth" auth, .bool "antivirus_present" ((antivirus).isSome),
    .optRow "antivirus" antivirus] rfl)

/-! ### Secrets -/

section Secrets

variable (rt : Runtime) (veil : Veil) (root el : Element)

@[simp] theorem pfBlockerNgFeed_veiled (lst row : Element) :
    pfBlockerNgFeed (veiled rt veil lst) (veiled rt veil row) = pfBlockerNgFeed lst row := by
  simp (disch := first | exact rule_of_chars _ (by decide) | fail) [pfBlockerNgFeed]

@[simp] theorem collectFeeds_veiled (el : Option Element) :
    collectFeeds (el.map (veiled rt veil)) = collectFeeds el := by
  simp [collectFeeds, List.flatMap_map, List.filterMap_map]

@[simp] theorem geoipContinents_veiled :
    geoipContinents (veiled rt veil el) = geoipContinents el := by
  simp [geoipContinents]

theorem parsePfblockerng_veiled
    (same : configured ((el.find "pfblockerngipsettings").map (veiled rt veil)) "maxmind_key" =
      configured (el.find "pfblockerngipsettings") "maxmind_key") :
    parsePfblockerng (veiled rt veil el) = parsePfblockerng el := by
  simp (disch := first | exact rule_of_chars _ (by decide) | fail) [parsePfblockerng, same]

@[simp] theorem categoryList_veiled : categoryList (veiled rt veil el) = categoryList el := by
  simp (disch := first | exact rule_of_chars _ (by decide) | fail) [categoryList]

@[simp] theorem suricataInterface_veiled :
    suricataInterface (veiled rt veil el) = suricataInterface el := by
  simp (disch := first | exact rule_of_chars _ (by decide) | fail) [suricataInterface]

@[simp] theorem suricataPasslistEntry_veiled :
    suricataPasslistEntry (veiled rt veil el) = suricataPasslistEntry el := by
  simp (disch := first | exact rule_of_chars _ (by decide) | fail) [suricataPasslistEntry]

@[simp] theorem suricataPasslist_veiled :
    suricataPasslist (veiled rt veil el) = suricataPasslist el := by
  simp (disch := first | exact rule_of_chars _ (by decide) | fail)
    [suricataPasslist, List.filterMap_map]

theorem parseSuricata_veiled
    (same : configured ((el.find "suricata").map (veiled rt veil)) "oinkcode" =
      configured (el.find "suricata") "oinkcode") :
    parseSuricata (veiled rt veil el) = parseSuricata el := by
  simp [parseSuricata, same, ← Option.map_or, List.filterMap_map, Function.comp_def]

@[simp] theorem snortInterface_veiled : snortInterface (veiled rt veil el) = snortInterface el := by
  simp (disch := first | exact rule_of_chars _ (by decide) | fail) [snortInterface]

theorem parseSnort_veiled
    (same : configured ((el.find "snortglobal").map (veiled rt veil)) "oinkcode" =
      configured (el.find "snortglobal") "oinkcode") :
    parseSnort (veiled rt veil el) = parseSnort el := by
  simp [parseSnort, same, Function.comp_def]

@[simp] theorem parseSquidMain_veiled :
    parseSquidMain rt (veiled rt veil el) = parseSquidMain rt el := by
  simp (disch := first | exact rule_of_chars _ (by decide) | fail) [parseSquidMain]

@[simp] theorem parseSquidcache_veiled :
    parseSquidcache (veiled rt veil el) = parseSquidcache el := by
  simp (disch := first | exact rule_of_chars _ (by decide) | fail) [parseSquidcache]

@[simp] theorem parseSquidantivirus_veiled :
    parseSquidantivirus (veiled rt veil el) = parseSquidantivirus el := by
  simp (disch := first | exact rule_of_chars _ (by decide) | fail) [parseSquidantivirus]

@[simp] theorem parseSquidremote_veiled :
    parseSquidremote rt (veiled rt veil el) = parseSquidremote rt el := by
  simp (disch := first | exact rule_of_chars _ (by decide) | fail) [parseSquidremote]

@[simp] theorem squidGuardTarget_veiled :
    squidGuardTarget (veiled rt veil el) = squidGuardTarget el := by
  simp (disch := first | exact rule_of_chars _ (by decide) | fail) [squidGuardTarget]

@[simp] theorem squidGuardAcl_veiled : squidGuardAcl (veiled rt veil el) = squidGuardAcl el := by
  simp (disch := first | exact rule_of_chars _ (by decide) | fail) [squidGuardAcl]

@[simp] theorem blockRows_veiled (block : Option Element) (tag : String) :
    blockRows (veiled rt veil el) (block.map (veiled rt veil)) tag =
      (blockRows el block tag).map (veiled rt veil) := by
  cases block <;> simp [blockRows]

@[simp] theorem parseSquidguard_veiled :
    parseSquidguard (veiled rt veil el) = parseSquidguard el := by
  simp (disch := first | exact rule_of_chars _ (by decide) | fail)
    [parseSquidguard, ← Option.map_or, List.filterMap_map]

@[simp] theorem parseSquidauth_veiled :
    parseSquidauth rt (veiled rt veil el) = parseSquidauth rt el := by
  simp (disch := first | exact rule_of_chars _ (by decide) | fail) [parseSquidauth]

@[simp] theorem parseSquid_veiled : parseSquid rt (veiled rt veil el) = parseSquid rt el := by
  simp [parseSquid, Function.comp_def]

end Secrets

end PfsenseBackups.InspectionPackages

import PfsenseBackups.Entries
import PfsenseBackups.PythonText
import PfsenseBackups.Redaction

/-! The section parsers of the firewall itself: `system.py`, `revision.py`, `sysctl.py`,
`cron.py`, `auth.py`, `apikeys.py`, `pki.py`, `ssh.py` and `misc.py`. -/

namespace PfsenseBackups.SystemSections
open Value Xml Entries Entry PythonText Labels Redaction Models

/-! ### `system.py` -/

def parseWebgui (el : Element) : Row WebGui :=
  instance_ [
    .opt "protocol" (text el "protocol"), .opt "port" (text el "port"),
    .opt "ssl_certref" (text el "ssl-certref"),
    .bool "disablehttpredirect" (boolFlag el "disablehttpredirect"),
    .bool "loginautocomplete" (boolFlag el "loginautocomplete")] rfl

def systemInfo (sys : Element) : Row SystemInfo :=
  let dnsservers := (contents sys "dnsserver").filter fun server => strip server ≠ ""
  let timeservers := (contents sys "timeservers").flatMap fun raw => words (strip raw)
  instance_ [
    .opt "hostname" (text sys "hostname"), .opt "domain" (text sys "domain"),
    .opt "timezone" (text sys "timezone"), .strs "timeservers" timeservers,
    .opt "language" (text sys "language"), .strs "dnsservers" dnsservers,
    .bool "dns_allow_override" (boolFlag sys "dnsallowoverride"),
    .bool "dnslocalhost" (boolFlag sys "dnslocalhost"),
    .bool "disablenatreflection" (boolFlag sys "disablenatreflection"),
    .optRow "webgui" ((sys.find "webgui").map parseWebgui),
    .bool "enablesshd" (boolFlag sys "enablesshd" || (sys.find "ssh").isSome),
    .opt "sshport" (textIn (sys.find "ssh") "port"),
    .opt "powerd_ac_mode" (text sys "powerd_ac_mode"),
    .opt "powerd_battery_mode" (text sys "powerd_battery_mode"),
    .opt "powerd_normal_mode" (text sys "powerd_normal_mode")] rfl

def parseSystem (root : Element) : Option (Row SystemInfo) :=
  (root.find "system").map systemInfo

/-! ### `revision.py` -/

/-- `int(digits)`, or a `ValueError` at a digit that is not decimal. -/
def number (rt : Runtime) (digits : List Char) : Option Nat :=
  (digits.mapM rt.decimal).map fun values =>
    values.foldl (fun number digit => 10 * number + digit) 0

/-- The time of a revision, if it has one; `none` where reading it raises. -/
def timestamp (rt : Runtime) (raw : Option String) : Option (Option String) :=
  let digits := (strip (raw.getD "")).toList
  if digits ≠ [] ∧ digits.all rt.isDigit = true then
    ((number rt digits).bind fromTimestamp).map some
  else some none

def revision (el : Element) (ts : Option String) : Row Revision :=
  instance_ [
    .datetime "time" ts, .opt "description" (text el "description"),
    .opt "username" (text el "username")] rfl

/-- The revision, if there is one; `none` where its time raises. -/
def parseRevision (rt : Runtime) (root : Element) : Option (Option (Row Revision)) :=
  match root.find "revision" with
  | none => some none
  | some el => (timestamp rt (text el "time")).map fun ts => some (revision el ts)

/-! ### `sysctl.py` -/

def sysctlTunable (item : Element) : Option (Row SysctlTunable) :=
  (truthy (text item "tunable")).map fun name => instance_ [
    .str "tunable" name, .opt "value" (text item "value"), .opt "descr" (text item "descr")] rfl

def parseSysctl (root : Element) : List (Row SysctlTunable) :=
  (childrenIn (root.find "sysctl") "item").filterMap sysctlTunable

/-! ### `cron.py` -/

/-- The first digits of the hash of some fields, a unit separator between two. -/
def hashed (rt : Runtime) (fields : List (Option String)) : String :=
  take 12 (rt.sha1 ("\x1f".intercalate (fields.map fun field => field.getD "")))

def cronJob (rt : Runtime) (item : Element) : Row CronJob :=
  let fields := ["minute", "hour", "mday", "month", "wday", "who", "command"].map (text item)
  instance_ [
    .str "key" (hashed rt fields), .opt "minute" (text item "minute"),
    .opt "hour" (text item "hour"), .opt "mday" (text item "mday"),
    .opt "month" (text item "month"), .opt "wday" (text item "wday"), .opt "who" (text item "who"),
    .opt "command" (text item "command")] rfl

def parseCron (rt : Runtime) (root : Element) : List (Row CronJob) :=
  (childrenIn (root.find "cron") "item").map (cronJob rt)

/-! ### `auth.py` -/

def user (rt : Runtime) (u : Element) : Option (Row User) :=
  (truthy (text u "name")).map fun name =>
    let u2f_keys := (childrenIn (u.find "u2f_keys") "item").filterMap fun item =>
      truthy (orText (text item "keyHandle") (text item "keyhandle"))
    let bhash := orText (text u "bcrypt-hash") (text u "password")
    instance_ [
      .str "name" name, .opt "uid" (text u "uid"), .opt "scope" (text u "scope"),
      .opt "descr" (text u "descr"), .opt "bcrypt_hash" (redact rt "bcrypt_hash" bhash),
      .bool "disabled" (boolFlag u "disabled"), .strs "groups" (texts u "groupname"),
      .strs "certrefs" (texts u "cert"), .opt "expires" (text u "expires"),
      .opt "otp_seed" (redact rt "otp_seed" (text u "otp_seed")), .strs "u2f_keys" u2f_keys,
      .opt "ssh_key" (orText (text u "authorizedkeys") (text u "ssh_key"))] rfl

def parseUsers (rt : Runtime) (root : Element) : List (Row User) :=
  (childrenIn (root.find "system") "user").filterMap (user rt)

def group (g : Element) : Option (Row Group) :=
  (truthy (text g "name")).map fun name => instance_ [
    .str "name" name, .opt "gid" (text g "gid"), .opt "scope" (text g "scope"),
    .opt "description" (text g "description"), .strs "privs" (texts g "priv"),
    .strs "members" (texts g "member")] rfl

def parseGroups (root : Element) : List (Row Group) :=
  (childrenIn (root.find "system") "group").filterMap group

def authServer (rt : Runtime) (a : Element) : Option (Row AuthServer) :=
  (truthy (text a "name")).map fun name => instance_ [
    .str "name" name, .opt "type" (text a "type"), .opt "host" (text a "host"),
    .opt "port" (orText (text a "port") (orText (text a "ldap_port") (text a "radius_auth_port"))),
    .opt "ldap_bindpw" (redact rt "ldap_bindpw" (text a "ldap_bindpw")),
    .opt "radius_secret" (redact rt "radius_secret" (text a "radius_secret")),
    .opt "ldap_binddn" (text a "ldap_binddn"), .opt "ldap_basedn" (text a "ldap_basedn"),
    .opt "ldap_scope" (text a "ldap_scope"), .opt "ldap_authcn" (text a "ldap_authcn")] rfl

def parseAuthservers (rt : Runtime) (root : Element) : List (Row AuthServer) :=
  (childrenIn (root.find "system") "authserver").filterMap (authServer rt)

/-! ### `apikeys.py` -/

def apiKeyEntry (rt : Runtime) (it : Element) : Option (Row ApiKeyEntry) :=
  (truthy (orText (text it "apikey") (text it "key"))).map fun apikey => instance_ [
    .str "key" apikey, .opt "username" (orText (text it "username") (text it "user")),
    .opt "descr" (orText (text it "descr") (text it "description")), .opt "apikey" (some apikey),
    .opt "apisecret" (redact rt "api_secret" (orText (text it "apisecret") (text it "secret")))] rfl

def parseApikeys (rt : Runtime) (root : Element) : List (Row ApiKeyEntry) :=
  (childrenIn (root.find "apikeys") "item").filterMap (apiKeyEntry rt)

/-! ### `pki.py` -/

/-- `_x509.decode`. -/
def decodeX509 (rt : Runtime) (raw : Option String) : Option (Row CertMetadata) :=
  let stripped := strip (raw.getD "")
  if stripped = "" then none else rt.certificate stripped

def certificateAuthority (rt : Runtime) (ca : Element) : Option (Row CertificateAuthority) :=
  (truthy (text ca "refid")).map fun refid =>
    let crt := text ca "crt"
    instance_ [
      .str "refid" refid, .opt "descr" (text ca "descr"), .opt "crt" crt,
      .opt "prv" (redact rt "prv" (text ca "prv")), .opt "serial" (text ca "serial"),
      .optRow "metadata" (decodeX509 rt crt)] rfl

def parseCas (rt : Runtime) (root : Element) : List (Row CertificateAuthority) :=
  (children root "ca").filterMap (certificateAuthority rt)

def certificateRevocationList (crl : Element) : Option (Row CertificateRevocationList) :=
  (truthy (text crl "refid")).map fun refid =>
    let revoked := (children crl "cert").filterMap fun cert => truthy (text cert "refid")
    instance_ [
      .str "refid" refid, .opt "descr" (text crl "descr"), .opt "caref" (text crl "caref"),
      .opt "method" (text crl "method"), .opt "lifetime" (text crl "lifetime"),
      .opt "serial" (text crl "serial"), .strs "revoked_cert_refids" revoked,
      .opt "text" (text crl "text")] rfl

def parseCrls (root : Element) : List (Row CertificateRevocationList) :=
  (children root "crl").filterMap certificateRevocationList

def certificate (rt : Runtime) (c : Element) : Option (Row Certificate) :=
  (truthy (text c "refid")).map fun refid =>
    let crt := text c "crt"
    instance_ [
      .str "refid" refid, .opt "descr" (text c "descr"), .opt "caref" (text c "caref"),
      .opt "type" (text c "type"), .opt "crt" crt, .opt "prv" (redact rt "prv" (text c "prv")),
      .optRow "metadata" (decodeX509 rt crt)] rfl

def parseCerts (rt : Runtime) (root : Element) : List (Row Certificate) :=
  (children root "cert").filterMap (certificate rt)

/-! ### `ssh.py` -/

/-- `_redact_tag_for_filename`. -/
def redactTagForFilename (rt : Runtime) (filename : String) : String :=
  let lower := rt.lower filename
  if startsWith lower "ssh_host_" = true ∧ endsWith lower "_key" = true then
    let chars := lower.toList
    "ssh_" ++ String.ofList ((chars.take (chars.length - 4)).drop 9) ++ "_key"
  else "ssh_host_privkey"

def sshHostKeyFile (filename : String) (is_private : Bool) (xmldata : Option String) :
    Row SshHostKeyFile :=
  instance_ [.str "filename" filename, .bool "is_private" is_private, .opt "xmldata" xmldata] rfl

/-- The key of one `<sshkeyfile>`, with its file's name. -/
def listedKey (rt : Runtime) (f : Element) : Option (String × Row SshHostKeyFile) :=
  (truthy (text f "filename")).map fun name =>
    let raw := text f "xmldata"
    (name, if endsWith name ".pub" then sshHostKeyFile name false raw
      else sshHostKeyFile name true (redact rt (redactTagForFilename rt name) raw))

/-- The keys of an algorithm that the older layout holds, unless the files have been seen. -/
def looseKeys (rt : Runtime) (el : Element) (seen : List String) (algo : String) :
    List (Row SshHostKeyFile) :=
  let priv_name := "ssh_host_" ++ algo ++ "_key"
  let pub_name := priv_name ++ ".pub"
  let tag := "ssh_" ++ algo ++ "_key"
  (if priv_name ∈ seen then []
    else ((truthy (text el tag)).map fun priv =>
      sshHostKeyFile priv_name true (redact rt tag (some priv))).toList) ++
  (if pub_name ∈ seen then []
    else ((truthy (text el ("ssh_" ++ algo ++ "_key_pub"))).map fun pub =>
      sshHostKeyFile pub_name false (some pub)).toList)

def sshKeys (rt : Runtime) (el : Element) : List (Row SshHostKeyFile) :=
  let listed := (children el "sshkeyfile").filterMap (listedKey rt)
  listed.map Prod.snd ++
    ["rsa", "ecdsa", "ed25519", "dsa"].flatMap (looseKeys rt el (listed.map Prod.fst))

def parseSsh (rt : Runtime) (root : Element) : Option (Row SshData) :=
  (root.find "sshdata").bind fun el =>
    let keys := sshKeys rt el
    if keys.isEmpty then none else some (instance_ [.rows "keys" keys] rfl)

/-! ### `misc.py` -/

/-- The stripped text of an element without children, unless it is blank. -/
def leafText (el : Element) : Option String :=
  if el.nodes.isEmpty then truthy (some (strip (el.content.getD ""))) else none

def lastChange (el : Element) : Row LastChange :=
  match leafText el with
  | some stamp => instance_ [.opt "time" (some stamp), .opt "username" none] rfl
  | none => instance_ [
    .opt "time" (text el "time"), .opt "username" (text el "username")] rfl

def parseLastchange (root : Element) : Option (Row LastChange) :=
  (root.find "lastchange").map lastChange

def themePreference (el : Element) : Row ThemePreference :=
  match leafText el with
  | some name => instance_ [.opt "name" (some name)] rfl
  | none => instance_ [
    .opt "name" (text el "name")] rfl

def parseTheme (root : Element) : Option (Row ThemePreference) :=
  (root.find "theme").map themePreference

def diagPreferences (el : Element) : Row DiagPreferences :=
  instance_ [
    .bool "ipv6nat" (boolFlag el "ipv6nat"), .bool "shownoaliases" (boolFlag el "shownoaliases"),
    .bool "showallpasswords" (boolFlag el "showallpasswords")] rfl

def parseDiag (root : Element) : Option (Row DiagPreferences) :=
  (root.find "diag").map diagPreferences

def dhcpBackend (el : Element) : Row DhcpBackend :=
  match leafText el with
  | some backend => instance_ [.opt "backend" (some backend)] rfl
  | none => instance_ [
    .opt "backend" (text el "backend")] rfl

def parseDhcpbackend (root : Element) : Option (Row DhcpBackend) :=
  (root.find "dhcpbackend").map dhcpBackend

def legacyBridge (el : Element) : Row LegacyBridge :=
  instance_ [
    .bool "enabled" (boolFlag el "enable"),
    .strs "interfaces" (filledParts ',' (text el "interfaces"))] rfl

def parseLegacyBridge (root : Element) : Option (Row LegacyBridge) :=
  (root.find "bridge").map legacyBridge

def proxyArpEntry (n : Element) : Row ProxyArpEntry :=
  let iface := text n "interface"
  let network := orText (text n "network") (text n "address")
  instance_ [
    .str "key" (orElse iface "?" ++ "|" ++ orElse network "?"), .opt "interface" iface,
    .opt "network" network, .opt "descr" (text n "descr")] rfl

def parseProxyarp (root : Element) : List (Row ProxyArpEntry) :=
  (childrenIn (root.find "proxyarp") "proxyarpnet").map proxyArpEntry

def interfaceGroup (g : Element) : Option (Row InterfaceGroup) :=
  (truthy (text g "ifname")).map fun name => instance_ [
    .str "ifname" name, .strs "members" (filledParts ' ' (text g "members")),
    .opt "descr" (text g "descr")] rfl

def parseIfgroups (root : Element) : List (Row InterfaceGroup) :=
  (childrenIn (root.find "ifgroups") "ifgroupentry").filterMap interfaceGroup

def ezShaperQueue (q : Element) : Option (Row EzShaperQueue) :=
  (truthy (text q "name")).map fun name => instance_ [
    .str "name" name, .opt "bandwidth" (text q "bandwidth"),
    .opt "bandwidth_unit" (orText (text q "bandwidth_unit") (text q "bandwidthtype"))] rfl

def ezShaperConfig (el : Element) : Row EzShaperConfig :=
  instance_ [
    .opt "step" (text el "step"), .opt "interface" (text el "interface"),
    .opt "upload" (text el "upload"), .opt "download" (text el "download"),
    .rows "queues" ((iter "queue" el).filterMap ezShaperQueue)] rfl

def parseEzshaper (root : Element) : Option (Row EzShaperConfig) :=
  (root.find "ezshaper").map ezShaperConfig

def ovpnServerWizard (rt : Runtime) (el : Element) : Row OvpnServerWizard :=
  instance_ [
    .opt "step" (text el "step"),
    .opt "description" (orText (text el "description") (text el "descr")),
    .opt "cacrt" (text el "cacrt"), .opt "cakey" (redact rt "prv" (text el "cakey")),
    .opt "crt" (text el "crt"), .opt "key" (redact rt "prv" (text el "key"))] rfl

def parseOvpnserver (rt : Runtime) (root : Element) : Option (Row OvpnServerWizard) :=
  (root.find "ovpnserver").map (ovpnServerWizard rt)

/-! ### Secrets -/

section Secrets

variable (rt : Runtime) (veil : Veil) (root el : Element)

@[simp] theorem parseWebgui_veiled : parseWebgui (veiled rt veil el) = parseWebgui el := by
  simp (disch := first | exact rule_of_chars _ (by decide) | fail) [parseWebgui]

@[simp] theorem systemInfo_veiled : systemInfo (veiled rt veil el) = systemInfo el := by
  simp (disch := first | exact rule_of_chars _ (by decide) | fail) [systemInfo, Function.comp_def]

@[simp] theorem parseSystem_veiled : parseSystem (veiled rt veil root) = parseSystem root := by
  simp [parseSystem, Function.comp_def]

@[simp] theorem revision_veiled (ts : Option String) :
    revision (veiled rt veil el) ts = revision el ts := by
  simp (disch := first | exact rule_of_chars _ (by decide) | fail) [revision]

@[simp] theorem parseRevision_veiled :
    parseRevision rt (veiled rt veil root) = parseRevision rt root := by
  rw [parseRevision, parseRevision, find_veiled]
  cases root.find "revision" with
  | none => rfl
  | some el => simp (disch := first | exact rule_of_chars _ (by decide) | fail)

@[simp] theorem sysctlTunable_veiled : sysctlTunable (veiled rt veil el) = sysctlTunable el := by
  simp (disch := first | exact rule_of_chars _ (by decide) | fail) [sysctlTunable]

@[simp] theorem parseSysctl_veiled : parseSysctl (veiled rt veil root) = parseSysctl root := by
  simp [parseSysctl, List.filterMap_map]

@[simp] theorem cronJob_veiled : cronJob rt (veiled rt veil el) = cronJob rt el := by
  simp (disch := first | exact rule_of_chars _ (by decide) | fail) [cronJob]

@[simp] theorem parseCron_veiled : parseCron rt (veiled rt veil root) = parseCron rt root := by
  simp [parseCron, Function.comp_def]

theorem keyHandle_plain : Rule "keyHandle" false :=
  rule_of_lower (by decide) (rule_of_chars _ (by decide))

@[simp] theorem user_veiled : user rt (veiled rt veil el) = user rt el := by
  simp (disch := first | exact rule_of_chars _ (by decide) | fail)
    [user, List.filterMap_map, text_veiled rt veil keyHandle_plain]

@[simp] theorem parseUsers_veiled : parseUsers rt (veiled rt veil root) = parseUsers rt root := by
  simp [parseUsers, List.filterMap_map]

@[simp] theorem group_veiled : group (veiled rt veil el) = group el := by
  simp (disch := first | exact rule_of_chars _ (by decide) | fail) [group]

@[simp] theorem parseGroups_veiled : parseGroups (veiled rt veil root) = parseGroups root := by
  simp [parseGroups, List.filterMap_map]

@[simp] theorem authServer_veiled : authServer rt (veiled rt veil el) = authServer rt el := by
  simp (disch := first | exact rule_of_chars _ (by decide) | fail) [authServer]

@[simp] theorem parseAuthservers_veiled :
    parseAuthservers rt (veiled rt veil root) = parseAuthservers rt root := by
  simp [parseAuthservers, List.filterMap_map]

@[simp] theorem certificateAuthority_veiled :
    certificateAuthority rt (veiled rt veil el) = certificateAuthority rt el := by
  simp (disch := first | exact rule_of_chars _ (by decide) | fail) [certificateAuthority]

@[simp] theorem parseCas_veiled : parseCas rt (veiled rt veil root) = parseCas rt root := by
  simp [parseCas, List.filterMap_map]

@[simp] theorem certificateRevocationList_veiled :
    certificateRevocationList (veiled rt veil el) = certificateRevocationList el := by
  simp (disch := first | exact rule_of_chars _ (by decide) | fail)
    [certificateRevocationList, List.filterMap_map]

@[simp] theorem parseCrls_veiled : parseCrls (veiled rt veil root) = parseCrls root := by
  simp [parseCrls, List.filterMap_map]

@[simp] theorem certificate_veiled : certificate rt (veiled rt veil el) = certificate rt el := by
  simp (disch := first | exact rule_of_chars _ (by decide) | fail) [certificate]

@[simp] theorem parseCerts_veiled : parseCerts rt (veiled rt veil root) = parseCerts rt root := by
  simp [parseCerts, List.filterMap_map]

@[simp] theorem listedKey_veiled : listedKey rt (veiled rt veil el) = listedKey rt el := by
  simp (disch := first | exact rule_of_chars _ (by decide) | fail) [listedKey]

/-- Redacting the text that is there, or testing what redaction leaves. -/
theorem map_placeholder {α : Type} (read : Option String → α) (value : Option String) :
    ((truthy value).map fun text => read (placeholder (some text))) =
      (truthy (placeholder value)).map fun text => read (some text) := by
  have mark : redacted ≠ "" := by decide
  cases value with
  | none => rfl
  | some text =>
    by_cases empty : text = ""
    · simp [placeholder, empty]
    · simp [placeholder, empty, truthy_some, mark]

theorem looseKeys_veiled {algo : String} (seen : List String)
    (secret : Rule ("ssh_" ++ algo ++ "_key") true)
    (plain : Rule ("ssh_" ++ algo ++ "_key_pub") false) :
    looseKeys rt (veiled rt veil el) seen algo = looseKeys rt el seen algo := by
  have row := fun name => map_placeholder (sshHostKeyFile name true)
  simp only [looseKeys, text_veiled rt veil plain, redact_secret rt secret, row,
    placeholder_text_veiled]

@[simp] theorem sshKeys_veiled : sshKeys rt (veiled rt veil el) = sshKeys rt el := by
  have rules : ∀ algo ∈ ["rsa", "ecdsa", "ed25519", "dsa"],
      Rule ("ssh_" ++ algo ++ "_key") true ∧ Rule ("ssh_" ++ algo ++ "_key_pub") false := by
    simp only [List.forall_mem_cons, String.reduceAppend]
    refine ⟨⟨?_, ?_⟩, ⟨?_, ?_⟩, ⟨?_, ?_⟩, ⟨?_, ?_⟩, fun _ member => absurd member List.not_mem_nil⟩
    all_goals exact rule_of_chars _ (by decide)
  simp only [sshKeys, children_veiled, List.filterMap_map, Function.comp_def, listedKey_veiled]
  congr 1
  apply List.flatMap_congr
  intro algo member
  exact looseKeys_veiled rt veil el _ (rules algo member).1 (rules algo member).2

@[simp] theorem parseSsh_veiled : parseSsh rt (veiled rt veil root) = parseSsh rt root := by
  simp [parseSsh, Option.bind_map]

theorem leafText_veiled (same : (veiled rt veil el).content = el.content) :
    leafText (veiled rt veil el) = leafText el := by
  simp [leafText, same]

@[simp] theorem parseLastchange_veiled :
    parseLastchange (veiled rt veil root) = parseLastchange root := by
  refine find_plain rt veil (rule_of_chars _ (by decide)) (fun el same => ?_) root
  simp (disch := first | exact rule_of_chars _ (by decide) | fail)
    [lastChange, leafText_veiled rt veil el same]

@[simp] theorem parseTheme_veiled : parseTheme (veiled rt veil root) = parseTheme root := by
  refine find_plain rt veil (rule_of_chars _ (by decide)) (fun el same => ?_) root
  simp (disch := first | exact rule_of_chars _ (by decide) | fail)
    [themePreference, leafText_veiled rt veil el same]

@[simp] theorem parseDhcpbackend_veiled :
    parseDhcpbackend (veiled rt veil root) = parseDhcpbackend root := by
  refine find_plain rt veil (rule_of_chars _ (by decide)) (fun el same => ?_) root
  simp (disch := first | exact rule_of_chars _ (by decide) | fail)
    [dhcpBackend, leafText_veiled rt veil el same]

@[simp] theorem diagPreferences_veiled :
    diagPreferences (veiled rt veil el) = diagPreferences el := by
  simp (disch := first | exact rule_of_chars _ (by decide) | fail) [diagPreferences]

@[simp] theorem parseDiag_veiled : parseDiag (veiled rt veil root) = parseDiag root := by
  simp [parseDiag, Function.comp_def]

@[simp] theorem legacyBridge_veiled : legacyBridge (veiled rt veil el) = legacyBridge el := by
  simp (disch := first | exact rule_of_chars _ (by decide) | fail) [legacyBridge]

@[simp] theorem parseLegacyBridge_veiled :
    parseLegacyBridge (veiled rt veil root) = parseLegacyBridge root := by
  simp [parseLegacyBridge, Function.comp_def]

@[simp] theorem proxyArpEntry_veiled : proxyArpEntry (veiled rt veil el) = proxyArpEntry el := by
  simp (disch := first | exact rule_of_chars _ (by decide) | fail) [proxyArpEntry]

@[simp] theorem parseProxyarp_veiled :
    parseProxyarp (veiled rt veil root) = parseProxyarp root := by
  simp [parseProxyarp, Function.comp_def]

@[simp] theorem interfaceGroup_veiled : interfaceGroup (veiled rt veil el) = interfaceGroup el := by
  simp (disch := first | exact rule_of_chars _ (by decide) | fail) [interfaceGroup]

@[simp] theorem parseIfgroups_veiled :
    parseIfgroups (veiled rt veil root) = parseIfgroups root := by
  simp [parseIfgroups, List.filterMap_map]

@[simp] theorem ezShaperQueue_veiled : ezShaperQueue (veiled rt veil el) = ezShaperQueue el := by
  simp (disch := first | exact rule_of_chars _ (by decide) | fail) [ezShaperQueue]

@[simp] theorem ezShaperConfig_veiled : ezShaperConfig (veiled rt veil el) = ezShaperConfig el := by
  simp (disch := first | exact rule_of_chars _ (by decide) | fail)
    [ezShaperConfig, List.filterMap_map]

@[simp] theorem parseEzshaper_veiled :
    parseEzshaper (veiled rt veil root) = parseEzshaper root := by
  simp [parseEzshaper, Function.comp_def]

@[simp] theorem ovpnServerWizard_veiled :
    ovpnServerWizard rt (veiled rt veil el) = ovpnServerWizard rt el := by
  simp (disch := first | exact rule_of_chars _ (by decide) | fail) [ovpnServerWizard]

@[simp] theorem parseOvpnserver_veiled :
    parseOvpnserver rt (veiled rt veil root) = parseOvpnserver rt root := by
  simp [parseOvpnserver, Function.comp_def]

end Secrets

end PfsenseBackups.SystemSections

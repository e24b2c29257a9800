import PfsenseBackups.SystemSections

/-! The section parsers of the services: `services.py`, `services_extra.py` and
`notifications.py`. -/

namespace PfsenseBackups.ServiceSections
open Value Xml Entries Entry PythonText Labels Redaction Models

/-! ### `services.py` -/

/-- The texts that are not blank, as they are. -/
def filledTexts (el : Element) (tag : String) : List String :=
  (contents el tag).filter fun text => strip text ≠ ""

def dhcpStaticMap (sm : Element) : Row DhcpStaticMap :=
  instance_ [
    .opt "mac" (text sm "mac"), .opt "ipaddr" (text sm "ipaddr"),
    .opt "hostname" (text sm "hostname"), .opt "descr" (text sm "descr"),
    .opt "ddnsdomain" (text sm "ddnsdomain"), .opt "filename" (text sm "filename"),
    .opt "rootpath" (text sm "rootpath"), .opt "gateway" (text sm "gateway"),
    .strs "dnsservers" (filledTexts sm "dnsserver")] rfl

def dhcpNumberOption (opt : Element) : Row DhcpNumberOption :=
  instance_ [
    .opt "number" (text opt "number"), .opt "value" (text opt "value"),
    .opt "type" (text opt "type")] rfl

/-- The server of one interface, in the section with the tag. -/
def dhcpServer (rt : Runtime) (tag : String) (iface : Element) : Row DhcpServer :=
  let range_el := iface.find "range"
  let maps := (children iface "staticmap").map dhcpStaticMap
  let numopts := (childrenIn (iface.find "numberoptions") "item").map dhcpNumberOption
  instance_ [
    .str "interface" (if tag = "dhcpd" then iface.tag else iface.tag ++ " (v6)"),
    .bool "enabled" (boolFlag iface "enable"), .opt "range_from" (textIn range_el "from"),
    .opt "range_to" (textIn range_el "to"), .opt "domain" (text iface "domain"),
    .strs "dnsservers" (filledTexts iface "dnsserver"), .opt "gateway" (text iface "gateway"),
    .opt "domainsearchlist" (text iface "domainsearchlist"), .rows "static_mappings" maps,
    .rows "numberoptions" numopts, .opt "ddnsdomain" (text iface "ddnsdomain"),
    .opt "ddnsdomainprimary" (text iface "ddnsdomainprimary"),
    .opt "ddnsdomainkey" (redact rt "ddnsdomainkey" (text iface "ddnsdomainkey")),
    .opt "defaultleasetime" (text iface "defaultleasetime"),
    .opt "maxleasetime" (text iface "maxleasetime")] rfl

def parseDhcp (rt : Runtime) (root : Element) : List (Row DhcpServer) :=
  ["dhcpd", "dhcpdv6"].flatMap fun tag =>
    ((root.find tag).elim [] Element.nodes).map (dhcpServer rt tag)

def dnsHostAlias (item : Element) : Row DnsHostAlias :=
  instance_ [
    .opt "host" (text item "host"), .opt "domain" (text item "domain"),
    .opt "description" (text item "description")] rfl

def dnsHostOverride (ho : Element) : Row DnsHostOverride :=
  let aliases := (childrenIn (ho.find "aliases") "item").map dnsHostAlias
  instance_ [
    .opt "host" (text ho "host"), .opt "domain" (text ho "domain"), .opt "ip" (text ho "ip"),
    .opt "descr" (text ho "descr"), .rows "aliases" aliases] rfl

def hostOverrides (el : Option Element) : List (Row DnsHostOverride) :=
  (childrenIn el "hosts").map dnsHostOverride

def dnsDomainOverride (entry : Element) : Row DnsDomainOverride :=
  instance_ [
    .opt "domain" (text entry "domain"), .opt "ip" (text entry "ip"),
    .opt "descr" (text entry "descr")] rfl

def domainOverrides (el : Option Element) : List (Row DnsDomainOverride) :=
  (childrenIn el "domainoverrides").map dnsDomainOverride

def parseDns (root : Element) : Option (Row DnsConfig) :=
  let unbound_el := root.find "unbound"
  let dnsmasq_el := root.find "dnsmasq"
  if unbound_el.isNone && dnsmasq_el.isNone then none
  else
    let hosts := hostOverrides unbound_el ++ hostOverrides dnsmasq_el
    let domains := domainOverrides unbound_el ++ domainOverrides dnsmasq_el
    some (instance_ [
      .bool "unbound_enabled" (flagIn unbound_el "enable"),
      .bool "dnsmasq_enabled" (flagIn dnsmasq_el "enable"),
      .opt "unbound_port" (textIn unbound_el "port"),
      .opt "dnsmasq_port" (textIn dnsmasq_el "port"), .rows "host_overrides" hosts,
      .rows "domain_overrides" domains] rfl)

/-! ### `services_extra.py` -/

def ntpdConfig (el : Element) : Row NtpdConfig :=
  instance_ [
    .bool "enable" (boolFlag el "enable" || (el.find "enable").isSome),
    .strs "interfaces" (parts ',' (text el "interface")),
    .strs "timeservers" (words ((text el "timeservers").getD "")), .opt "orphan" (text el "orphan"),
    .opt "leapsec" (text el "leapsec")] rfl

def parseNtpd (root : Element) : Option (Row NtpdConfig) :=
  (root.find "ntpd").map ntpdConfig

def snmpdConfig (rt : Runtime) (el : Element) : Row SnmpdConfig :=
  instance_ [
    .bool "enable" (boolFlag el "enable"), .opt "syslocation" (text el "syslocation"),
    .opt "syscontact" (text el "syscontact"),
    .opt "rocommunity" (redact rt "rocommunity" (text el "rocommunity")),
    .opt "rwcommunity" (redact rt "rwcommunity" (text el "rwcommunity")),
    .opt "pollport" (text el "pollport"), .bool "trapenable" (boolFlag el "trapenable"),
    .opt "trapserver" (text el "trapserver"), .opt "trapserverport" (text el "trapserverport"),
    .opt "trapstring" (redact rt "trapstring" (text el "trapstring")),
    .bool "bindlan" (boolFlag el "bindlan"), .opt "bindip" (text el "bindip")] rfl

def parseSnmpd (rt : Runtime) (root : Element) : Option (Row SnmpdConfig) :=
  (root.find "snmpd").map (snmpdConfig rt)

def syslogHost (el : Element) (tag : String) : Option (Row SyslogHost) :=
  (truthy (text el tag)).map fun val => instance_ [
    .str "key" (tag ++ ":" ++ val), .str "host" val, .opt "sourceip" none,
    .opt "ipprotocol" none] rfl

def syslogConfig (el : Element) : Row SyslogConfig :=
  let hosts := ["remoteserver", "remoteserver2", "remoteserver3"].filterMap (syslogHost el)
  instance_ [
    .bool "enable" (boolFlag el "enable"), .bool "reverse" (boolFlag el "reverse"),
    .opt "nentries" (text el "nentries"), .bool "filter_" (boolFlag el "filter"),
    .bool "dhcp" (boolFlag el "dhcp"), .bool "portalauth" (boolFlag el "portalauth"),
    .bool "vpn" (boolFlag el "vpn"), .bool "dpinger" (boolFlag el "dpinger"),
    .bool "hostapd" (boolFlag el "hostapd"), .bool "system" (boolFlag el "system"),
    .bool "resolver" (boolFlag el "resolver"), .bool "ppp" (boolFlag el "ppp"),
    .bool "routing" (boolFlag el "routing"), .bool "ntpd" (boolFlag el "ntpd"),
    .rows "hosts" hosts] rfl

def parseSyslog (root : Element) : Option (Row SyslogConfig) :=
  (root.find "syslog").map syslogConfig

def dhcpRelayConfig (kind : String) (el : Element) : Row DhcpRelayConfig :=
  instance_ [
    .str "kind" kind, .bool "enable" (boolFlag el "enable"),
    .strs "interface" (parts ',' (text el "interface")),
    .strs "server" (parts ',' (text el "server")),
    .bool "agentoption" (boolFlag el "agentoption")] rfl

def parseDhcpRelay (root : Element) : List (Row DhcpRelayConfig) :=
  [("dhcrelay", "ipv4"), ("dhcrelay6", "ipv6")].flatMap fun relay =>
    ((root.find relay.1).map (dhcpRelayConfig relay.2)).toList

def timeRange (tr : Element) : String :=
  let parts := [
    "M" ++ orElse (text tr "month") "*" ++ "D" ++ orElse (text tr "day") "*",
    orElse (text tr "hour") "*",
    "range-descr:" ++ (text tr "rangedescr").getD ""]
  " ".intercalate (parts.filter (· ≠ ""))

def schedule (s : Element) : Option (Row Schedule) :=
  (truthy (text s "name")).map fun name => instance_ [
    .str "name" name, .opt "descr" (text s "descr"),
    .strs "time_ranges" ((children s "timerange").map timeRange)] rfl

def parseSchedules (root : Element) : List (Row Schedule) :=
  (childrenIn (root.find "schedules") "schedule").filterMap schedule

def dnShaperPipe (p : Element) : Option (Row DnShaperPipe) :=
  (truthy (text p "name")).map fun name => instance_ [
    .str "name" name, .opt "number" (text p "number"), .opt "bandwidth" (text p "bandwidth"),
    .opt "bandwidthtype" (text p "bandwidthtype"), .opt "descr" (text p "descr")] rfl

def parseDnshaper (root : Element) : List (Row DnShaperPipe) :=
  (childrenIn (root.find "dnshaper") "pipe").filterMap dnShaperPipe

def poolMember (entry : String) : Row LoadBalancerPoolMember :=
  match splitOnce '|' entry with
  | some (ip, port) => instance_ [.opt "ip" (some ip), .opt "port" (some port)] rfl
  | none => instance_ [.opt "ip" (some entry), .opt "port" none] rfl

def loadBalancerPool (p : Element) : Option (Row LoadBalancerPool) :=
  (truthy (text p "name")).map fun name =>
    let servers := (words ((text p "servers").getD "")).map poolMember
    instance_ [
      .str "name" name, .opt "descr" (text p "descr"), .opt "behaviour" (text p "behaviour"),
      .opt "port" (text p "port"), .opt "monitor" (text p "monitor"), .rows "servers" servers] rfl

def loadBalancerVirtualServer (v : Element) : Option (Row LoadBalancerVirtualServer) :=
  (truthy (text v "name")).map fun name => instance_ [
    .str "name" name, .opt "descr" (text v "descr"), .opt "ipaddr" (text v "ipaddr"),
    .opt "port" (text v "port"), .opt "mode" (text v "mode"),
    .opt "poolname" (text v "poolname")] rfl

def parseLoadBalancer (root : Element) :
    List (Row LoadBalancerPool) × List (Row LoadBalancerVirtualServer) :=
  let el := root.find "load_balancer"
  ((childrenIn el "lbpool").filterMap loadBalancerPool,
    (childrenIn el "virtual_server").filterMap loadBalancerVirtualServer)

def captivePortalZone (rt : Runtime) (z : Element) : Row CaptivePortalZone :=
  instance_ [
    .str "zone" z.tag, .opt "zoneid" (text z "zoneid"), .bool "enable" (boolFlag z "enable"),
    .strs "interfaces" (parts ',' (text z "interface")), .opt "auth_method" (text z "auth_method"),
    .opt "redirurl" (text z "redirurl"),
    .opt "radius_secret" (redact rt "radius_secret" (text z "radius_secret"))] rfl

def parseCaptivePortal (rt : Runtime) (root : Element) : List (Row CaptivePortalZone) :=
  ((root.find "captiveportal").elim [] Element.nodes).map (captivePortalZone rt)

def igmpProxyEntry (item : Element) : Row IgmpProxyEntry :=
  let typ := text item "type"
  let ifname := text item "ifname"
  let networks_raw := orText (text item "network") (text item "networks")
  instance_ [
    .str "key" (orElse typ "?" ++ "|" ++ orElse ifname "?"), .opt "type" typ, .opt "ifname" ifname,
    .opt "descr" (text item "descr"), .opt "threshold" (text item "threshold"),
    .strs "networks" (strippedParts ',' networks_raw)] rfl

def parseIgmpproxy (root : Element) : List (Row IgmpProxyEntry) :=
  (childrenIn (root.find "igmpproxy") "item").map igmpProxyEntry

def radvdInterfaceConfig (iface : Element) : Row RadvdInterfaceConfig :=
  let radns := ((words ((text iface "radns").getD "")).map strip).filter (· ≠ "")
  instance_ [
    .str "interface" iface.tag, .opt "ramode" (text iface "ramode"),
    .opt "rapriority" (text iface "rapriority"), .opt "ramininterval" (text iface "ramininterval"),
    .opt "ramaxinterval" (text iface "ramaxinterval"), .opt "ralifetime" (text iface "ralifetime"),
    .opt "radomainsearchlist" (text iface "radomainsearchlist"), .strs "radns" radns] rfl

def parseRadvd (root : Element) : List (Row RadvdInterfaceConfig) :=
  ((root.find "radvd").elim [] Element.nodes).map radvdInterfaceConfig

def upsConfig (rt : Runtime) (el : Element) : Row UpsConfig :=
  instance_ [
    .bool "enable" (boolFlag el "enable"), .opt "driver" (text el "driver"),
    .opt "port" (text el "port"), .opt "cable" (text el "cable"),
    .opt "upsname" (text el "upsname"), .opt "remoteuser" (text el "remoteuser"),
    .opt "remotepassword" (redact rt "remotepassword" (text el "remotepassword"))] rfl

def parseUps (rt : Runtime) (root : Element) : Option (Row UpsConfig) :=
  (root.find "ups").map (upsConfig rt)

def voucherRoll (roll : Element) : Option (Row VoucherRoll) :=
  (truthy (text roll "number")).map fun num => instance_ [
    .str "number" num, .opt "minutes" (text roll "minutes"), .opt "count" (text roll "count"),
    .opt "descr" (text roll "descr")] rfl

def parseVouchers (root : Element) : List (Row VoucherRoll) :=
  (childrenIn (root.find "voucher") "roll").filterMap voucherRoll

def ftpProxyConfig (el : Element) : Row FtpProxyConfig :=
  instance_ [
    .bool "enable" (boolFlag el "enable"), .opt "ports" (text el "ports"),
    .opt "interface" (text el "interface")] rfl

def parseFtpproxy (root : Element) : Option (Row FtpProxyConfig) :=
  (root.find "ftpproxy").map ftpProxyConfig

/-! ### `notifications.py` -/

/-- `enabled` of a notifier that may have a `disable` tag. -/
def notifierEnabled (rt : Runtime) (el : Element) : Bool :=
  let disabled := decide (rt.lower ((text el "disable").getD "") ∈ ["yes", "true", "on", "1"])
  if (el.find "disable").isSome then !disabled else boolFlag el "enable"

def parseSmtp (rt : Runtime) (el : Element) : Row SmtpNotifier :=
  instance_ [
    .bool "enabled" (notifierEnabled rt el), .opt "ipaddress" (text el "ipaddress"),
    .opt "port" (text el "port"), .opt "timeout" (text el "timeout"),
    .bool "ssl" (boolFlag el "ssl"), .bool "sslvalidate" (boolFlag el "sslvalidate"),
    .opt "fromaddress" (text el "fromaddress"),
    .opt "notifyemailaddress" (text el "notifyemailaddress"),
    .opt "authentication_mechanism" (text el "authentication_mechanism"),
    .opt "username" (text el "username"),
    .opt "password" (redact rt "password" (text el "password"))] rfl

def parsePushover (rt : Runtime) (el : Element) : Row PushoverNotifier :=
  instance_ [
    .bool "enabled" (notifierEnabled rt el),
    .opt "api_key" (redact rt "api_key" (orText (text el "api_key") (text el "apikey"))),
    .opt "user_key" (redact rt "user_key" (orText (text el "user_key") (text el "userkey")))] rfl

def parseGrowl (rt : Runtime) (el : Element) : Row GrowlNotifier :=
  instance_ [
    .bool "enabled" (notifierEnabled rt el), .opt "name" (text el "name"),
    .opt "notification_name" (text el "notification_name"), .opt "ipaddress" (text el "ipaddress"),
    .opt "password" (redact rt "password" (text el "password"))] rfl

def parseTelegram (rt : Runtime) (el : Element) : Row TelegramNotifier :=
  instance_ [
    .bool "enabled" (boolFlag el "enable"),
    .opt "chat_id" (orText (text el "chat_id") (text el "chatid")),
    .opt "api_token"
      (redact rt "api_token" (orText (text el "api_token") (text el "apitoken")))] rfl

def parseSlack (rt : Runtime) (el : Element) : Row SlackNotifier :=
  instance_ [
    .bool "enabled" (boolFlag el "enable"),
    .opt "webhook_url"
      (redact rt "webhook_url" (orText (text el "webhook_url") (text el "webhookurl")))] rfl

def parseNotifications (rt : Runtime) (root : Element) : Option (Row NotificationConfig) :=
  (root.find "notifications").bind fun el =>
    let smtp := (el.find "smtp").map (parseSmtp rt)
    let pushover := (el.find "pushover").map (parsePushover rt)
    let growl := (el.find "growl").map (parseGrowl rt)
    let telegram := (el.find "telegram").map (parseTelegram rt)
    let slack := (el.find "slack").map (parseSlack rt)
    if smtp.isNone && pushover.isNone && growl.isNone && telegram.isNone && slack.isNone then none
    else some (instance_ [
      .optRow "smtp" smtp, .optRow "pushover" pushover, .optRow "growl" growl,
      .optRow "telegram" telegram, .optRow "slack" slack] rfl)

/-! ### Secrets -/

section Secrets

variable (rt : Runtime) (veil : Veil) (root el : Element)

@[simp] theorem filledTexts_veiled {tag : String} (plain : Rule tag false) :
    filledTexts (veiled rt veil el) tag = filledTexts el tag := by
  rw [filledTexts, filledTexts, contents_veiled rt veil plain]

@[simp] theorem dhcpStaticMap_veiled : dhcpStaticMap (veiled rt veil el) = dhcpStaticMap el := by
  simp (disch := first | exact rule_of_chars _ (by decide) | fail) [dhcpStaticMap]

@[simp] theorem dhcpNumberOption_veiled :
    dhcpNumberOption (veiled rt veil el) = dhcpNumberOption el := by
  simp (disch := first | exact rule_of_chars _ (by decide) | fail) [dhcpNumberOption]

@[simp] theorem dhcpServer_veiled (tag : String) :
    dhcpServer rt tag (veiled rt veil el) = dhcpServer rt tag el := by
  simp (disch := first | exact rule_of_chars _ (by decide) | fail)
    [dhcpServer, Function.comp_def]

@[simp] theorem parseDhcp_veiled : parseDhcp rt (veiled rt veil root) = parseDhcp rt root := by
  rw [parseDhcp, parseDhcp]
  apply List.flatMap_congr
  intro tag _
  cases found : root.find tag <;> simp [found, Function.comp_def]

@[simp] theorem dnsHostAlias_veiled : dnsHostAlias (veiled rt veil el) = dnsHostAlias el := by
  simp (disch := first | exact rule_of_chars _ (by decide) | fail) [dnsHostAlias]

@[simp] theorem dnsHostOverride_veiled :
    dnsHostOverride (veiled rt veil el) = dnsHostOverride el := by
  simp (disch := first | exact rule_of_chars _ (by decide) | fail)
    [dnsHostOverride, Function.comp_def]

@[simp] theorem hostOverrides_veiled (el : Option Element) :
    hostOverrides (el.map (veiled rt veil)) = hostOverrides el := by
  simp [hostOverrides, Function.comp_def]

@[simp] theorem dnsDomainOverride_veiled :
    dnsDomainOverride (veiled rt veil el) = dnsDomainOverride el := by
  simp (disch := first | exact rule_of_chars _ (by decide) | fail) [dnsDomainOverride]

@[simp] theorem domainOverrides_veiled (el : Option Element) :
    domainOverrides (el.map (veiled rt veil)) = domainOverrides el := by
  simp [domainOverrides, Function.comp_def]

@[simp] theorem parseDns_veiled : parseDns (veiled rt veil root) = parseDns root := by
  simp (disch := first | exact rule_of_chars _ (by decide) | fail) [parseDns]

@[simp] theorem ntpdConfig_veiled : ntpdConfig (veiled rt veil el) = ntpdConfig el := by
  simp (disch := first | exact rule_of_chars _ (by decide) | fail) [ntpdConfig]

@[simp] theorem parseNtpd_veiled : parseNtpd (veiled rt veil root) = parseNtpd root := by
  simp [parseNtpd, Function.comp_def]

@[simp] theorem snmpdConfig_veiled : snmpdConfig rt (veiled rt veil el) = snmpdConfig rt el := by
  simp (disch := first | exact rule_of_chars _ (by decide) | fail) [snmpdConfig]

@[simp] theorem parseSnmpd_veiled : parseSnmpd rt (veiled rt veil root) = parseSnmpd rt root := by
  simp [parseSnmpd, Function.comp_def]

@[simp] theorem syslogHost_veiled {tag : String} (plain : Rule tag false) :
    syslogHost (veiled rt veil el) tag = syslogHost el tag := by
  rw [syslogHost, syslogHost, text_veiled rt veil plain]

@[simp] theorem syslogConfig_veiled : syslogConfig (veiled rt veil el) = syslogConfig el := by
  simp (disch := first | exact rule_of_chars _ (by decide) | fail)
    [syslogConfig, List.filterMap_cons]

@[simp] theorem parseSyslog_veiled : parseSyslog (veiled rt veil root) = parseSyslog root := by
  simp [parseSyslog, Function.comp_def]

@[simp] theorem dhcpRelayConfig_veiled (kind : String) :
    dhcpRelayConfig kind (veiled rt veil el) = dhcpRelayConfig kind el := by
  simp (disch := first | exact rule_of_chars _ (by decide) | fail) [dhcpRelayConfig]

@[simp] theorem parseDhcpRelay_veiled :
    parseDhcpRelay (veiled rt veil root) = parseDhcpRelay root := by
  simp [parseDhcpRelay, Function.comp_def]

@[simp] theorem timeRange_veiled : timeRange (veiled rt veil el) = timeRange el := by
  simp (disch := first | exact rule_of_chars _ (by decide) | fail) [timeRange]

@[simp] theorem schedule_veiled : schedule (veiled rt veil el) = schedule el := by
  simp (disch := first | exact rule_of_chars _ (by decide) | fail) [schedule, Function.comp_def]

@[simp] theorem parseSchedules_veiled :
    parseSchedules (veiled rt veil root) = parseSchedules root := by
  simp [parseSchedules, List.filterMap_map]

mutual

@[simp] theorem walk_veiled : ∀ el : Element, walk (veiled rt veil el) = walk el
  | .mk tag content nodes attrib tail => by rw [veiled, walk, walk, walkEach_veiled nodes]

theorem walkEach_veiled :
    ∀ nodes : List Element, walkEach (veiledEach rt veil nodes) = walkEach nodes
  | [] => by rw [veiledEach]
  | q :: rest => by
    have row : queueRow (veiled rt veil q) = queueRow q := by
      simp (disch := first | exact rule_of_chars _ (by decide) | fail) [queueRow]
    rw [veiledEach, walkEach, walkEach, walk_veiled q, walkEach_veiled rest, row, tag_veiled]

end

@[simp] theorem parseShaper_veiled : parseShaper (veiled rt veil root) = parseShaper root := by
  rw [parseShaper, parseShaper, find_veiled]
  cases root.find "shaper" with
  | none => rfl
  | some el => exact walk_veiled rt veil el

@[simp] theorem dnShaperPipe_veiled : dnShaperPipe (veiled rt veil el) = dnShaperPipe el := by
  simp (disch := first | exact rule_of_chars _ (by decide) | fail) [dnShaperPipe]

@[simp] theorem parseDnshaper_veiled :
    parseDnshaper (veiled rt veil root) = parseDnshaper root := by
  simp [parseDnshaper, List.filterMap_map]

@[simp] theorem loadBalancerPool_veiled :
    loadBalancerPool (veiled rt veil el) = loadBalancerPool el := by
  simp (disch := first | exact rule_of_chars _ (by decide) | fail) [loadBalancerPool]

@[simp] theorem loadBalancerVirtualServer_veiled :
    loadBalancerVirtualServer (veiled rt veil el) = loadBalancerVirtualServer el := by
  simp (disch := first | exact rule_of_chars _ (by decide) | fail) [loadBalancerVirtualServer]

@[simp] theorem parseLoadBalancer_veiled :
    parseLoadBalancer (veiled rt veil root) = parseLoadBalancer root := by
  simp [parseLoadBalancer, List.filterMap_map]

@[simp] theorem captivePortalZone_veiled :
    captivePortalZone rt (veiled rt veil el) = captivePortalZone rt el := by
  simp (disch := first | exact rule_of_chars _ (by decide) | fail) [captivePortalZone]

@[simp] theorem parseCaptivePortal_veiled :
    parseCaptivePortal rt (veiled rt veil root) = parseCaptivePortal rt root := by
  rw [parseCaptivePortal, parseCaptivePortal, find_veiled]
  cases root.find "captiveportal" <;> simp

@[simp] theorem igmpProxyEntry_veiled : igmpProxyEntry (veiled rt veil el) = igmpProxyEntry el := by
  simp (disch := first | exact rule_of_chars _ (by decide) | fail) [igmpProxyEntry]

@[simp] theorem parseIgmpproxy_veiled :
    parseIgmpproxy (veiled rt veil root) = parseIgmpproxy root := by
  simp [parseIgmpproxy, Function.comp_def]

@[simp] theorem radvdInterfaceConfig_veiled :
    radvdInterfaceConfig (veiled rt veil el) = radvdInterfaceConfig el := by
  simp (disch := first | exact rule_of_chars _ (by decide) | fail) [radvdInterfaceConfig]

@[simp] theorem parseRadvd_veiled : parseRadvd (veiled rt veil root) = parseRadvd root := by
  rw [parseRadvd, parseRadvd, find_veiled]
  cases root.find "radvd" <;> simp

@[simp] theorem upsConfig_veiled : upsConfig rt (veiled rt veil el) = upsConfig rt el := by
  simp (disch := first | exact rule_of_chars _ (by decide) | fail) [upsConfig]

@[simp] theorem parseUps_veiled : parseUps rt (veiled rt veil root) = parseUps rt root := by
  simp [parseUps, Function.comp_def]

@[simp] theorem voucherRoll_veiled : voucherRoll (veiled rt veil el) = voucherRoll el := by
  simp (disch := first | exact rule_of_chars _ (by decide) | fail) [voucherRoll]

@[simp] theorem parseVouchers_veiled :
    parseVouchers (veiled rt veil root) = parseVouchers root := by
  simp [parseVouchers, List.filterMap_map]

@[simp] theorem ftpProxyConfig_veiled : ftpProxyConfig (veiled rt veil el) = ftpProxyConfig el := by
  simp (disch := first | exact rule_of_chars _ (by decide) | fail) [ftpProxyConfig]

@[simp] theorem parseFtpproxy_veiled :
    parseFtpproxy (veiled rt veil root) = parseFtpproxy root := by
  simp [parseFtpproxy, Function.comp_def]

@[simp] theorem notifierEnabled_veiled :
    notifierEnabled rt (veiled rt veil el) = notifierEnabled rt el := by
  simp (disch := first | exact rule_of_chars _ (by decide) | fail) [notifierEnabled]

@[simp] theorem parseSmtp_veiled : parseSmtp rt (veiled rt veil el) = parseSmtp rt el := by
  simp (disch := first | exact rule_of_chars _ (by decide) | fail) [parseSmtp]

@[simp] theorem parsePushover_veiled :
    parsePushover rt (veiled rt veil el) = parsePushover rt el := by
  simp (disch := first | exact rule_of_chars _ (by decide) | fail) [parsePushover]

@[simp] theorem parseGrowl_veiled : parseGrowl rt (veiled rt veil el) = parseGrowl rt el := by
  simp (disch := first | exact rule_of_chars _ (by decide) | fail) [parseGrowl]

@[simp] theorem parseTelegram_veiled :
    parseTelegram rt (veiled rt veil el) = parseTelegram rt el := by
  simp (disch := first | exact rule_of_chars _ (by decide) | fail) [parseTelegram]

@[simp] theorem parseSlack_veiled : parseSlack rt (veiled rt veil el) = parseSlack rt el := by
  simp (disch := first | exact rule_of_chars _ (by decide) | fail) [parseSlack]

@[simp] theorem parseNotifications_veiled :
    parseNotifications rt (veiled rt veil root) = parseNotifications rt root := by
  simp [parseNotifications, Option.bind_map, Function.comp_def]

end Secrets

end PfsenseBackups.ServiceSections

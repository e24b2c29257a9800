import PfsenseBackups.Config
import PfsenseBackups.ElementTree
import PfsenseBackups.InspectionPackages
import PfsenseBackups.NetworkSections
import PfsenseBackups.Selections
import PfsenseBackups.ServicePackages
import PfsenseBackups.ServiceSections
import PfsenseBackups.VpnSections

/-! `pfsense_parser.parse` after the XML has been read, and `pfsense_sections/packages.py`: what
the parsers leave over is kept as raw XML. -/

namespace PfsenseBackups.PfsenseParser
open Value Xml Entries Entry Redaction ElementTree Models Config
open SystemSections NetworkSections ServiceSections VpnSections InspectionPackages ServicePackages

/-- The children whose tag is not listed, the first of each tag. -/
def leftOver (el : Element) (listed : List String) : List Element :=
  Selections.firsts Element.tag [] (el.nodes.filter fun child => !listed.contains child.tag)

/-! ### `packages.py` -/

/-- `_CONSUMED`: the tags that a package's parser handles, and the metadata. -/
def consumed : List String :=
  pfBlockerNgTags ++ [
    "haproxy", "ha_backends", "ha_pools", "suricata", "suricatapasslist", "acme", "squid",
    "squidguard", "squidcache", "squidremote", "squidauth", "squidantivirus", "freeradius",
    "freeradiussettings", "telegraf", "frr", "frrbgp", "frrospf", "frrglobal", "frrbgpneighbors",
    "frrospfinterfaces", "frrospfd", "frrospfdareas", "frrospfdinterfaces", "frrglobalacls",
    "frrglobalprefixes", "frrbgp6d", "zabbixagentlts", "zabbixproxylts", "zabbixagent",
    "zabbixproxy", "wireguard", "snort", "snortglobal", "miniupnpd", "avahi",
    "vpn_openvpn_export", "openvpnexport", "shellcmdsettings", "menu", "service", "package"]

/-- The fields of `InstalledPackages`. -/
structure Installed where
  pfblockerng : Option (Row PfBlockerNgConfig) := none
  haproxy : Option (Row HaProxyConfig) := none
  suricata : Option (Row SuricataConfig) := none
  acme : Option (Row AcmeConfig) := none
  squid : Option (Row SquidBundle) := none
  freeradius : Option (Row FreeRadiusConfig) := none
  telegraf : Option (Row TelegrafConfig) := none
  frr : Option (Row FrrConfig) := none
  zabbix : Option (Row ZabbixBundle) := none
  wireguard : Option (Row WireGuardConfig) := none
  snort : Option (Row SnortConfig) := none
  miniupnpd : Option (Row MiniUpnpdConfig) := none
  avahi : Option (Row AvahiConfig) := none
  openvpnClientExport : Option (Row OpenvpnClientExportConfig) := none
  shellcmd : Option (Row ShellCmdSettings) := none
  unknown : List (Row UnknownPackage) := []

namespace Installed

/-- No package is there. -/
def nothing (packages : Installed) : Bool :=
  packages.pfblockerng.isNone && packages.haproxy.isNone && packages.suricata.isNone &&
    packages.acme.isNone && packages.squid.isNone && packages.freeradius.isNone &&
    packages.telegraf.isNone && packages.frr.isNone && packages.zabbix.isNone &&
    packages.wireguard.isNone && packages.snort.isNone && packages.miniupnpd.isNone &&
    packages.avahi.isNone && packages.openvpnClientExport.isNone && packages.shellcmd.isNone &&
    packages.unknown.isEmpty

def row (packages : Installed) : Row InstalledPackages :=
  instance_ [
    .optRow "pfblockerng" packages.pfblockerng, .optRow "haproxy" packages.haproxy,
    .optRow "suricata" packages.suricata, .optRow "acme" packages.acme,
    .optRow "squid" packages.squid, .optRow "freeradius" packages.freeradius,
    .optRow "telegraf" packages.telegraf, .optRow "frr" packages.frr,
    .optRow "zabbix" packages.zabbix, .optRow "wireguard" packages.wireguard,
    .optRow "snort" packages.snort, .optRow "miniupnpd" packages.miniupnpd,
    .optRow "avahi" packages.avahi,
    .optRow "openvpn_client_export" packages.openvpnClientExport,
    .optRow "shellcmd" packages.shellcmd, .rows "unknown" packages.unknown] rfl

end Installed

def unknownPackage (rt : Runtime) (child : Element) : Row UnknownPackage :=
  instance_ [.str "tag" child.tag, .int "entry_count" child.nodes.length,
    .str "xml" (tostring rt child)] rfl

def installed (rt : Runtime) (el : Element) : Installed where
  pfblockerng := parsePfblockerng el
  haproxy := parseHaproxy rt el
  suricata := parseSuricata el
  acme := parseAcme rt el
  squid := parseSquid rt el
  freeradius := parseFreeradius rt el
  telegraf := parseTelegraf rt el
  frr := parseFrr rt el
  zabbix := parseZabbix rt el
  wireguard := (el.find "wireguard").map (parseWireguard rt)
  snort := parseSnort el
  miniupnpd := parseMiniupnpd el
  avahi := parseAvahi el
  openvpnClientExport := parseOpenvpnExport el
  shellcmd := parseShellcmd el
  unknown := (leftOver el consumed).map (unknownPackage rt)

def parsePackages (rt : Runtime) (root : Element) : Option Installed :=
  (root.find "installedpackages").bind fun el =>
    let packages := installed rt el
    if el.nodes.isEmpty || packages.nothing then none else some packages

/-- The packages; a `<wireguard>` at the top stands in the place of the package's own. -/
def packagesOf (rt : Runtime) (root : Element) : Option Installed :=
  match root.find "wireguard" with
  | none => parsePackages rt root
  | some el =>
    some { (parsePackages rt root).getD {} with wireguard := some (parseWireguard rt el) }

/-! ### `pfsense_parser.py` -/

/-- `_KNOWN`, then `_IGNORED`. -/
def recognized : List String := [
  "version", "system", "revision", "sysctl", "cron", "interfaces", "gateways", "staticroutes",
  "filter", "nat", "aliases", "dhcpd", "dhcpdv6", "unbound", "dnsmasq", "vlans", "bridges",
  "gifs", "gres", "ppps", "qinqs", "wol", "virtualip", "hasync", "ntpd", "snmpd", "syslog",
  "captiveportal", "schedules", "shaper", "dnshaper", "load_balancer", "dhcrelay", "dhcrelay6",
  "openvpn", "ipsec", "ca", "cert", "crl", "installedpackages", "dyndnses", "laggs",
  "notifications", "igmpproxy", "radvd", "ups", "voucher", "ftpproxy", "sshdata", "lastchange",
  "theme", "diag", "dhcpbackend", "bridge", "proxyarp", "ifgroups", "ezshaper", "ovpnserver",
  "apikeys", "l2tp", "pppoes", "wireguard", "widgets", "rrd", "pkgs"]

def rawSection (rt : Runtime) (child : Element) : Row RawSection :=
  instance_ [.str "tag" child.tag, .str "xml" (tostring rt child)] rfl

def unrecognized (rt : Runtime) (root : Element) : List (Row RawSection) :=
  (leftOver root recognized).map (rawSection rt)

/-- The config with all but the revision, whose time may raise. -/
def parseUndated (rt : Runtime) (root : Element) (revision : Option (Row Revision)) :
    ParsedConfig where
  configVersion := PythonText.truthy ((root.find "version").bind Element.content)
  system := parseSystem root
  revision := revision
  sysctl := parseSysctl root
  cron := parseCron rt root
  interfaces := parseInterfaces root
  vlans := parseVlans root
  bridges := parseBridges root
  gifs := parseGifs root
  gres := parseGres root
  ppps := parsePpps root
  qinqs := parseQinqs root
  laggs := parseLaggs root
  wol := parseWol root
  gateways := (parseGateways root).1
  gatewayGroups := (parseGateways root).2
  staticRoutes := parseStaticRoutes root
  virtualIps := parseVirtualips rt root
  hasync := parseHasync rt root
  firewallRules := parseFirewall rt root
  natRules := parseNat rt root
  aliases := parseAliases root
  dyndnsEntries := parseDyndns rt root
  notifications := parseNotifications rt root
  dhcpServers := parseDhcp rt root
  dhcpRelays := parseDhcpRelay root
  dns := parseDns root
  ntpd := parseNtpd root
  snmpd := parseSnmpd rt root
  syslog := parseSyslog root
  schedules := parseSchedules root
  shaperQueues := parseShaper root
  dnshaperPipes := parseDnshaper root
  lbPools := (parseLoadBalancer root).1
  lbVirtualServers := (parseLoadBalancer root).2
  captivePortalZones := parseCaptivePortal rt root
  igmpproxyEntries := parseIgmpproxy root
  radvdInterfaces := parseRadvd root
  ups := parseUps rt root
  voucherRolls := parseVouchers root
  ftpproxy := parseFtpproxy root
  users := parseUsers rt root
  groups := parseGroups root
  authservers := parseAuthservers rt root
  openvpnServers := (parseOpenvpn rt root).1
  openvpnClients := (parseOpenvpn rt root).2.1
  openvpnCscs := (parseOpenvpn rt root).2.2
  ipsecPhase1 := (parseIpsec rt root).1
  ipsecPhase2 := (parseIpsec rt root).2.1
  ipsecPsks := (parseIpsec rt root).2.2.1
  ipsecMobileClients := (parseIpsec rt root).2.2.2
  certificateAuthorities := parseCas rt root
  certificates := parseCerts rt root
  crls := parseCrls root
  sshdata := parseSsh rt root
  lastchange := parseLastchange root
  theme := parseTheme root
  diag := parseDiag root
  dhcpBackend := parseDhcpbackend root
  legacyBridge := parseLegacyBridge root
  proxyarp := parseProxyarp root
  interfaceGroups := parseIfgroups root
  ezshaper := parseEzshaper root
  ovpnserverWizard := parseOvpnserver rt root
  apikeys := parseApikeys rt root
  l2tp := parseL2tp rt root
  pppoeServers := parsePppoes rt root
  installedpackages := (packagesOf rt root).map Installed.row
  unrecognizedSections := unrecognized rt root

/-- `parse`, of a tree; `none` where it raises. -/
def parse (rt : Runtime) (root : Element) : Option ParsedConfig :=
  (parseRevision rt root).map (parseUndated rt root)

end PfsenseBackups.PfsenseParser

import PfsenseBackups.Config
import PfsenseBackups.Diff
import PfsenseBackups.Labels

/-! `pfsense_diff.ConfigDiff` and `diff_configs`. `ParsedConfig` has 69 fields and
`ConfigDiff` 68: the mobile client settings of IPsec have no section of their own. -/

namespace PfsenseBackups.DiffConfigs
open Value Keyed Config Diff Labels

structure ConfigDiff where
  system : SectionDiff := {}
  revision : SectionDiff := {}
  sysctl : SectionDiff := {}
  cron : SectionDiff := {}
  interfaces : SectionDiff := {}
  vlans : SectionDiff := {}
  bridges : SectionDiff := {}
  gifs : SectionDiff := {}
  gres : SectionDiff := {}
  ppps : SectionDiff := {}
  qinqs : SectionDiff := {}
  laggs : SectionDiff := {}
  wol : SectionDiff := {}
  gateways : SectionDiff := {}
  gatewayGroups : SectionDiff := {}
  staticRoutes : SectionDiff := {}
  virtualIps : SectionDiff := {}
  hasync : SectionDiff := {}
  firewallRules : SectionDiff := {}
  natRules : SectionDiff := {}
  aliases : SectionDiff := {}
  dyndnsEntries : SectionDiff := {}
  notifications : SectionDiff := {}
  dhcpServers : SectionDiff := {}
  dhcpRelays : SectionDiff := {}
  dns : SectionDiff := {}
  ntpd : SectionDiff := {}
  snmpd : SectionDiff := {}
  syslog : SectionDiff := {}
  schedules : SectionDiff := {}
  shaperQueues : SectionDiff := {}
  dnshaperPipes : SectionDiff := {}
  lbPools : SectionDiff := {}
  lbVirtualServers : SectionDiff := {}
  captivePortalZones : SectionDiff := {}
  igmpproxyEntries : SectionDiff := {}
  radvdInterfaces : SectionDiff := {}
  ups : SectionDiff := {}
  voucherRolls : SectionDiff := {}
  ftpproxy : SectionDiff := {}
  openvpnServers : SectionDiff := {}
  openvpnClients : SectionDiff := {}
  openvpnCscs : SectionDiff := {}
  ipsecPhase1 : SectionDiff := {}
  ipsecPhase2 : SectionDiff := {}
  ipsecPsks : SectionDiff := {}
  certificateAuthorities : SectionDiff := {}
  certificates : SectionDiff := {}
  crls : SectionDiff := {}
  installedpackages : SectionDiff := {}
  users : SectionDiff := {}
  groups : SectionDiff := {}
  authservers : SectionDiff := {}
  sshdata : SectionDiff := {}
  lastchange : SectionDiff := {}
  theme : SectionDiff := {}
  diag : SectionDiff := {}
  dhcpBackend : SectionDiff := {}
  legacyBridge : SectionDiff := {}
  proxyarp : SectionDiff := {}
  interfaceGroups : SectionDiff := {}
  ezshaper : SectionDiff := {}
  ovpnserverWizard : SectionDiff := {}
  apikeys : SectionDiff := {}
  l2tp : SectionDiff := {}
  pppoeServers : SectionDiff := {}
  unrecognizedSections : SectionDiff := {}
  configVersion : SectionDiff := {}

/-- `[_dump(x) for x in rows]`. -/
abbrev dumps {model : Model} (rows : List (Row model)) : List Dict :=
  rows.map Row.dump

/-- `_dump(section)`, when there is one. -/
abbrev dump {model : Model} (section_ : Option (Row model)) : Option Dict :=
  section_.map Row.dump

/-- Produce a per-section diff between two parsed configs. -/
def diffConfigs (a b : ParsedConfig) : ConfigDiff where
  system := diffOptionalModel (dump a.system) (dump b.system) "system"
  revision := diffOptionalModel (dump a.revision) (dump b.revision) "revision"
  sysctl := diffList "tunable" (dumps a.sysctl) (dumps b.sysctl) labelSysctl false
  cron := diffList "key" (dumps a.cron) (dumps b.cron) labelCron false
  interfaces := diffList "key" (dumps a.interfaces) (dumps b.interfaces) labelInterface false
  vlans := diffList "key" (dumps a.vlans) (dumps b.vlans) labelNamed false
  bridges := diffList "bridgeif" (dumps a.bridges) (dumps b.bridges) labelBridge false
  gifs := diffList "name" (dumps a.gifs) (dumps b.gifs) labelTunnel false
  gres := diffList "name" (dumps a.gres) (dumps b.gres) labelTunnel false
  ppps := diffList "ptpid" (dumps a.ppps) (dumps b.ppps) labelPpp false
  qinqs := diffList "key" (dumps a.qinqs) (dumps b.qinqs) labelNamed false
  laggs := diffList "laggif" (dumps a.laggs) (dumps b.laggs) labelLagg false
  wol := diffList "mac" (dumps a.wol) (dumps b.wol) labelWol false
  gateways := diffList "name" (dumps a.gateways) (dumps b.gateways) labelNamed false
  gatewayGroups := diffList "name" (dumps a.gatewayGroups) (dumps b.gatewayGroups) labelNamed false
  staticRoutes := diffList "key" (dumps a.staticRoutes) (dumps b.staticRoutes) labelRoute false
  virtualIps := diffList "key" (dumps a.virtualIps) (dumps b.virtualIps) labelVip false
  hasync := diffOptionalModel (dump a.hasync) (dump b.hasync) "hasync"
  firewallRules := diffList "key" (dumps a.firewallRules) (dumps b.firewallRules) labelFirewall true
  natRules := diffList "key" (dumps a.natRules) (dumps b.natRules) labelNat true
  aliases := diffList "name" (dumps a.aliases) (dumps b.aliases) labelNamed false
  dyndnsEntries := diffList "key" (dumps a.dyndnsEntries) (dumps b.dyndnsEntries) labelDyndns false
  notifications := diffOptionalModel (dump a.notifications) (dump b.notifications) "notifications"
  dhcpServers := diffList "interface" (dumps a.dhcpServers) (dumps b.dhcpServers) labelDhcp false
  dhcpRelays := diffList "kind" (dumps a.dhcpRelays) (dumps b.dhcpRelays) labelDhcpRelay false
  dns := diffOptionalModel (dump a.dns) (dump b.dns) "dns"
  ntpd := diffOptionalModel (dump a.ntpd) (dump b.ntpd) "ntpd"
  snmpd := diffOptionalModel (dump a.snmpd) (dump b.snmpd) "snmpd"
  syslog := diffOptionalModel (dump a.syslog) (dump b.syslog) "syslog"
  schedules := diffList "name" (dumps a.schedules) (dumps b.schedules) labelNamed false
  shaperQueues := diffList "name" (dumps a.shaperQueues) (dumps b.shaperQueues) labelQueue false
  dnshaperPipes := diffList "name" (dumps a.dnshaperPipes) (dumps b.dnshaperPipes) labelNamed false
  lbPools := diffList "name" (dumps a.lbPools) (dumps b.lbPools) labelNamed false
  lbVirtualServers := diffList "name" (dumps a.lbVirtualServers)
    (dumps b.lbVirtualServers) labelNamed false
  captivePortalZones := diffList "zone" (dumps a.captivePortalZones)
    (dumps b.captivePortalZones) labelPortal false
  igmpproxyEntries := diffList "key" (dumps a.igmpproxyEntries)
    (dumps b.igmpproxyEntries) labelIgmp false
  radvdInterfaces := diffList "interface" (dumps a.radvdInterfaces)
    (dumps b.radvdInterfaces) labelRadvd false
  ups := diffOptionalModel (dump a.ups) (dump b.ups) "ups"
  voucherRolls := diffList "number" (dumps a.voucherRolls) (dumps b.voucherRolls) labelVoucher false
  ftpproxy := diffOptionalModel (dump a.ftpproxy) (dump b.ftpproxy) "ftpproxy"
  openvpnServers := diffList "vpnid" (dumps a.openvpnServers)
    (dumps b.openvpnServers) labelOvpn false
  openvpnClients := diffList "vpnid" (dumps a.openvpnClients)
    (dumps b.openvpnClients) labelOvpn false
  openvpnCscs := diffList "common_name" (dumps a.openvpnCscs) (dumps b.openvpnCscs) labelCsc false
  ipsecPhase1 := diffList "ikeid" (dumps a.ipsecPhase1) (dumps b.ipsecPhase1) labelIpsecP1 false
  ipsecPhase2 := diffList "uniqid" (dumps a.ipsecPhase2) (dumps b.ipsecPhase2) labelIpsecP2 false
  ipsecPsks := diffList "key" (dumps a.ipsecPsks) (dumps b.ipsecPsks) labelIpsecPsk false
  certificateAuthorities := diffList "refid" (dumps a.certificateAuthorities)
    (dumps b.certificateAuthorities) labelPki false
  certificates := diffList "refid" (dumps a.certificates) (dumps b.certificates) labelPki false
  crls := diffList "refid" (dumps a.crls) (dumps b.crls) labelPki false
  installedpackages := diffOptionalModel (dump a.installedpackages)
    (dump b.installedpackages) "installedpackages"
  users := diffList "name" (dumps a.users) (dumps b.users) labelNamed false
  groups := diffList "name" (dumps a.groups) (dumps b.groups) labelNamed false
  authservers := diffList "name" (dumps a.authservers) (dumps b.authservers) labelNamed false
  sshdata := diffOptionalModel (dump a.sshdata) (dump b.sshdata) "sshdata"
  lastchange := diffOptionalModel (dump a.lastchange) (dump b.lastchange) "lastchange"
  theme := diffOptionalModel (dump a.theme) (dump b.theme) "theme"
  diag := diffOptionalModel (dump a.diag) (dump b.diag) "diag"
  dhcpBackend := diffOptionalModel (dump a.dhcpBackend) (dump b.dhcpBackend) "dhcp_backend"
  legacyBridge := diffOptionalModel (dump a.legacyBridge) (dump b.legacyBridge) "legacy_bridge"
  proxyarp := diffList "key" (dumps a.proxyarp) (dumps b.proxyarp) labelProxyarp false
  interfaceGroups := diffList "ifname" (dumps a.interfaceGroups)
    (dumps b.interfaceGroups) labelNamed false
  ezshaper := diffOptionalModel (dump a.ezshaper) (dump b.ezshaper) "ezshaper"
  ovpnserverWizard := diffOptionalModel (dump a.ovpnserverWizard)
    (dump b.ovpnserverWizard) "ovpnserver_wizard"
  apikeys := diffList "key" (dumps a.apikeys) (dumps b.apikeys) labelApikey false
  l2tp := diffOptionalModel (dump a.l2tp) (dump b.l2tp) "l2tp"
  pppoeServers := diffList "key" (dumps a.pppoeServers) (dumps b.pppoeServers) labelPppoe false
  unrecognizedSections := diffList "tag" (dumps a.unrecognizedSections)
    (dumps b.unrecognizedSections) labelTag false
  configVersion := diffScalar (.optional a.configVersion) (.optional b.configVersion) "config_version"

/-! ### Sections by name -/

/-- The section of a `ConfigDiff` for a list of rows. -/
def ConfigDiff.list (diff : ConfigDiff) : ListSection → SectionDiff
  | .sysctl => diff.sysctl
  | .cron => diff.cron
  | .interfaces => diff.interfaces
  | .vlans => diff.vlans
  | .bridges => diff.bridges
  | .gifs => diff.gifs
  | .gres => diff.gres
  | .ppps => diff.ppps
  | .qinqs => diff.qinqs
  | .laggs => diff.laggs
  | .wol => diff.wol
  | .gateways => diff.gateways
  | .gatewayGroups => diff.gatewayGroups
  | .staticRoutes => diff.staticRoutes
  | .virtualIps => diff.virtualIps
  | .firewallRules => diff.firewallRules
  | .natRules => diff.natRules
  | .aliases => diff.aliases
  | .dyndnsEntries => diff.dyndnsEntries
  | .dhcpServers => diff.dhcpServers
  | .dhcpRelays => diff.dhcpRelays
  | .schedules => diff.schedules
  | .shaperQueues => diff.shaperQueues
  | .dnshaperPipes => diff.dnshaperPipes
  | .lbPools => diff.lbPools
  | .lbVirtualServers => diff.lbVirtualServers
  | .captivePortalZones => diff.captivePortalZones
  | .igmpproxyEntries => diff.igmpproxyEntries
  | .radvdInterfaces => diff.radvdInterfaces
  | .voucherRolls => diff.voucherRolls
  | .openvpnServers => diff.openvpnServers
  | .openvpnClients => diff.openvpnClients
  | .openvpnCscs => diff.openvpnCscs
  | .ipsecPhase1 => diff.ipsecPhase1
  | .ipsecPhase2 => diff.ipsecPhase2
  | .ipsecPsks => diff.ipsecPsks
  | .certificateAuthorities => diff.certificateAuthorities
  | .certificates => diff.certificates
  | .crls => diff.crls
  | .users => diff.users
  | .groups => diff.groups
  | .authservers => diff.authservers
  | .proxyarp => diff.proxyarp
  | .interfaceGroups => diff.interfaceGroups
  | .apikeys => diff.apikeys
  | .pppoeServers => diff.pppoeServers
  | .unrecognizedSections => diff.unrecognizedSections

/-- The section of a `ConfigDiff` for an optional model, where there is one. -/
def ConfigDiff.model (diff : ConfigDiff) : ModelSection → Option SectionDiff
  | .system => some diff.system
  | .revision => some diff.revision
  | .hasync => some diff.hasync
  | .notifications => some diff.notifications
  | .dns => some diff.dns
  | .ntpd => some diff.ntpd
  | .snmpd => some diff.snmpd
  | .syslog => some diff.syslog
  | .ups => some diff.ups
  | .ftpproxy => some diff.ftpproxy
  | .installedpackages => some diff.installedpackages
  | .sshdata => some diff.sshdata
  | .lastchange => some diff.lastchange
  | .theme => some diff.theme
  | .diag => some diff.diag
  | .dhcpBackend => some diff.dhcpBackend
  | .legacyBridge => some diff.legacyBridge
  | .ezshaper => some diff.ezshaper
  | .ovpnserverWizard => some diff.ovpnserverWizard
  | .l2tp => some diff.l2tp
  | .ipsecMobileClients => none

/-- The `key` attribute that `diff_configs` matches the rows of a section on. -/
def rowKey : ListSection → String
  | .sysctl => "tunable"
  | .cron | .interfaces | .vlans | .qinqs | .staticRoutes | .virtualIps | .firewallRules |
    .natRules | .dyndnsEntries | .igmpproxyEntries | .ipsecPsks | .proxyarp | .apikeys |
    .pppoeServers => "key"
  | .bridges => "bridgeif"
  | .gifs | .gres | .gateways | .gatewayGroups | .aliases | .schedules | .shaperQueues |
    .dnshaperPipes | .lbPools | .lbVirtualServers | .users | .groups | .authservers => "name"
  | .ppps => "ptpid"
  | .laggs => "laggif"
  | .wol => "mac"
  | .dhcpServers | .radvdInterfaces => "interface"
  | .dhcpRelays => "kind"
  | .captivePortalZones => "zone"
  | .voucherRolls => "number"
  | .openvpnServers | .openvpnClients => "vpnid"
  | .openvpnCscs => "common_name"
  | .ipsecPhase1 => "ikeid"
  | .ipsecPhase2 => "uniqid"
  | .certificateAuthorities | .certificates | .crls => "refid"
  | .interfaceGroups => "ifname"
  | .unrecognizedSections => "tag"

/-- The `label_fn` of a section. -/
def rowLabel : ListSection → Dict → String
  | .sysctl => labelSysctl
  | .cron => labelCron
  | .interfaces => labelInterface
  | .vlans | .qinqs | .gateways | .gatewayGroups | .aliases | .schedules | .dnshaperPipes |
    .lbPools | .lbVirtualServers | .users | .groups | .authservers | .interfaceGroups =>
    labelNamed
  | .bridges => labelBridge
  | .gifs | .gres => labelTunnel
  | .ppps => labelPpp
  | .laggs => labelLagg
  | .wol => labelWol
  | .staticRoutes => labelRoute
  | .virtualIps => labelVip
  | .firewallRules => labelFirewall
  | .natRules => labelNat
  | .dyndnsEntries => labelDyndns
  | .dhcpServers => labelDhcp
  | .dhcpRelays => labelDhcpRelay
  | .shaperQueues => labelQueue
  | .captivePortalZones => labelPortal
  | .igmpproxyEntries => labelIgmp
  | .radvdInterfaces => labelRadvd
  | .voucherRolls => labelVoucher
  | .openvpnServers | .openvpnClients => labelOvpn
  | .openvpnCscs => labelCsc
  | .ipsecPhase1 => labelIpsecP1
  | .ipsecPhase2 => labelIpsecP2
  | .ipsecPsks => labelIpsecPsk
  | .certificateAuthorities | .certificates | .crls => labelPki
  | .proxyarp => labelProxyarp
  | .apikeys => labelApikey
  | .pppoeServers => labelPppoe
  | .unrecognizedSections => labelTag

/-- pfSense evaluates firewall and NAT rules top to bottom. -/
def orderSensitive : ListSection → Bool
  | .firewallRules | .natRules => true
  | _ => false

theorem diffConfigs_list (a b : ParsedConfig) (section_ : ListSection) :
    (diffConfigs a b).list section_ =
      diffList (rowKey section_) (a.rows section_) (b.rows section_) (rowLabel section_)
        (orderSensitive section_) := by
  cases section_ <;> rfl

theorem diffConfigs_model (a b : ParsedConfig) (section_ : ModelSection) :
    ∀ diff ∈ (diffConfigs a b).model section_,
      diff = diffOptionalModel (a.model section_) (b.model section_) section_.name := by
  intro diff member
  cases section_ <;> cases member <;> rfl

theorem listSection_wellNamed (section_ : ListSection) : WellNamed section_.model := by
  cases section_ <;> decide +kernel

theorem modelSection_wellNamed (section_ : ModelSection) : WellNamed section_.model := by
  cases section_ <;> decide +kernel

end PfsenseBackups.DiffConfigs

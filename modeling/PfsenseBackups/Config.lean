import PfsenseBackups.Models

/-! `pfsense_parser.ParsedConfig`, with the two families of fields that the code walks by
name: the sections that hold a list of rows and those that hold one optional model. -/

namespace PfsenseBackups.Config
open Value

/-- The fields of `ParsedConfig` that hold a list of rows. -/
inductive ListSection where
  | sysctl | cron | interfaces | vlans | bridges | gifs | gres | ppps | qinqs | laggs | wol
  | gateways | gatewayGroups | staticRoutes | virtualIps | firewallRules | natRules | aliases
  | dyndnsEntries | dhcpServers | dhcpRelays | schedules | shaperQueues | dnshaperPipes | lbPools
  | lbVirtualServers | captivePortalZones | igmpproxyEntries | radvdInterfaces | voucherRolls
  | users | groups | authservers | openvpnServers | openvpnClients | openvpnCscs | ipsecPhase1
  | ipsecPhase2 | ipsecPsks | certificateAuthorities | certificates | crls | proxyarp
  | interfaceGroups | apikeys | pppoeServers | unrecognizedSections
  deriving DecidableEq

/-- The fields of `ParsedConfig` that hold one model or nothing. -/
inductive ModelSection where
  | system | revision | hasync | notifications | dns | ntpd | snmpd | syslog | ups | ftpproxy
  | ipsecMobileClients | sshdata | lastchange | theme | diag | dhcpBackend | legacyBridge
  | ezshaper | ovpnserverWizard | l2tp | installedpackages
  deriving DecidableEq

namespace ListSection

def all : List ListSection := [
  .sysctl, .cron, .interfaces, .vlans, .bridges, .gifs, .gres, .ppps, .qinqs, .laggs, .wol,
  .gateways, .gatewayGroups, .staticRoutes, .virtualIps, .firewallRules, .natRules, .aliases,
  .dyndnsEntries, .dhcpServers, .dhcpRelays, .schedules, .shaperQueues, .dnshaperPipes, .lbPools,
  .lbVirtualServers, .captivePortalZones, .igmpproxyEntries, .radvdInterfaces, .voucherRolls,
  .users, .groups, .authservers, .openvpnServers, .openvpnClients, .openvpnCscs, .ipsecPhase1,
  .ipsecPhase2, .ipsecPsks, .certificateAuthorities, .certificates, .crls, .proxyarp,
  .interfaceGroups, .apikeys, .pppoeServers, .unrecognizedSections]

/-- The attribute name, which is also the JSON key. -/
def name : ListSection → String
  | .sysctl => "sysctl"
  | .cron => "cron"
  | .interfaces => "interfaces"
  | .vlans => "vlans"
  | .bridges => "bridges"
  | .gifs => "gifs"
  | .gres => "gres"
  | .ppps => "ppps"
  | .qinqs => "qinqs"
  | .laggs => "laggs"
  | .wol => "wol"
  | .gateways => "gateways"
  | .gatewayGroups => "gateway_groups"
  | .staticRoutes => "static_routes"
  | .virtualIps => "virtual_ips"
  | .firewallRules => "firewall_rules"
  | .natRules => "nat_rules"
  | .aliases => "aliases"
  | .dyndnsEntries => "dyndns_entries"
  | .dhcpServers => "dhcp_servers"
  | .dhcpRelays => "dhcp_relays"
  | .schedules => "schedules"
  | .shaperQueues => "shaper_queues"
  | .dnshaperPipes => "dnshaper_pipes"
  | .lbPools => "lb_pools"
  | .lbVirtualServers => "lb_virtual_servers"
  | .captivePortalZones => "captive_portal_zones"
  | .igmpproxyEntries => "igmpproxy_entries"
  | .radvdInterfaces => "radvd_interfaces"
  | .voucherRolls => "voucher_rolls"
  | .users => "users"
  | .groups => "groups"
  | .authservers => "authservers"
  | .openvpnServers => "openvpn_servers"
  | .openvpnClients => "openvpn_clients"
  | .openvpnCscs => "openvpn_cscs"
  | .ipsecPhase1 => "ipsec_phase1"
  | .ipsecPhase2 => "ipsec_phase2"
  | .ipsecPsks => "ipsec_psks"
  | .certificateAuthorities => "certificate_authorities"
  | .certificates => "certificates"
  | .crls => "crls"
  | .proxyarp => "proxyarp"
  | .interfaceGroups => "interface_groups"
  | .apikeys => "apikeys"
  | .pppoeServers => "pppoe_servers"
  | .unrecognizedSections => "unrecognized_sections"

/-- The class of the rows. -/
def model : ListSection → Model
  | .sysctl => Models.SysctlTunable
  | .cron => Models.CronJob
  | .interfaces => Models.Interface
  | .vlans => Models.Vlan
  | .bridges => Models.Bridge
  | .gifs => Models.Tunnel
  | .gres => Models.Tunnel
  | .ppps => Models.Ppp
  | .qinqs => Models.QinQ
  | .laggs => Models.Lagg
  | .wol => Models.WolHost
  | .gateways => Models.Gateway
  | .gatewayGroups => Models.GatewayGroup
  | .staticRoutes => Models.StaticRoute
  | .virtualIps => Models.VirtualIP
  | .firewallRules => Models.FirewallRule
  | .natRules => Models.NatRule
  | .aliases => Models.Alias
  | .dyndnsEntries => Models.DyndnsEntry
  | .dhcpServers => Models.DhcpServer
  | .dhcpRelays => Models.DhcpRelayConfig
  | .schedules => Models.Schedule
  | .shaperQueues => Models.ShaperQueue
  | .dnshaperPipes => Models.DnShaperPipe
  | .lbPools => Models.LoadBalancerPool
  | .lbVirtualServers => Models.LoadBalancerVirtualServer
  | .captivePortalZones => Models.CaptivePortalZone
  | .igmpproxyEntries => Models.IgmpProxyEntry
  | .radvdInterfaces => Models.RadvdInterfaceConfig
  | .voucherRolls => Models.VoucherRoll
  | .users => Models.User
  | .groups => Models.Group
  | .authservers => Models.AuthServer
  | .openvpnServers => Models.OpenVpnServer
  | .openvpnClients => Models.OpenVpnClient
  | .openvpnCscs => Models.OpenVpnCsc
  | .ipsecPhase1 => Models.IpsecPhase1
  | .ipsecPhase2 => Models.IpsecPhase2
  | .ipsecPsks => Models.IpsecPskEntry
  | .certificateAuthorities => Models.CertificateAuthority
  | .certificates => Models.Certificate
  | .crls => Models.CertificateRevocationList
  | .proxyarp => Models.ProxyArpEntry
  | .interfaceGroups => Models.InterfaceGroup
  | .apikeys => Models.ApiKeyEntry
  | .pppoeServers => Models.PppoeServerEntry
  | .unrecognizedSections => Models.RawSection

end ListSection

namespace ModelSection

def all : List ModelSection := [
  .system, .revision, .hasync, .notifications, .dns, .ntpd, .snmpd, .syslog, .ups, .ftpproxy,
  .ipsecMobileClients, .sshdata, .lastchange, .theme, .diag, .dhcpBackend, .legacyBridge,
  .ezshaper, .ovpnserverWizard, .l2tp, .installedpackages]

def name : ModelSection → String
  | .system => "system"
  | .revision => "revision"
  | .hasync => "hasync"
  | .notifications => "notifications"
  | .dns => "dns"
  | .ntpd => "ntpd"
  | .snmpd => "snmpd"
  | .syslog => "syslog"
  | .ups => "ups"
  | .ftpproxy => "ftpproxy"
  | .ipsecMobileClients => "ipsec_mobile_clients"
  | .sshdata => "sshdata"
  | .lastchange => "lastchange"
  | .theme => "theme"
  | .diag => "diag"
  | .dhcpBackend => "dhcp_backend"
  | .legacyBridge => "legacy_bridge"
  | .ezshaper => "ezshaper"
  | .ovpnserverWizard => "ovpnserver_wizard"
  | .l2tp => "l2tp"
  | .installedpackages => "installedpackages"

def model : ModelSection → Model
  | .system => Models.SystemInfo
  | .revision => Models.Revision
  | .hasync => Models.HaSync
  | .notifications => Models.NotificationConfig
  | .dns => Models.DnsConfig
  | .ntpd => Models.NtpdConfig
  | .snmpd => Models.SnmpdConfig
  | .syslog => Models.SyslogConfig
  | .ups => Models.UpsConfig
  | .ftpproxy => Models.FtpProxyConfig
  | .ipsecMobileClients => Models.IpsecMobileClient
  | .sshdata => Models.SshData
  | .lastchange => Models.LastChange
  | .theme => Models.ThemePreference
  | .diag => Models.DiagPreferences
  | .dhcpBackend => Models.DhcpBackend
  | .legacyBridge => Models.LegacyBridge
  | .ezshaper => Models.EzShaperConfig
  | .ovpnserverWizard => Models.OvpnServerWizard
  | .l2tp => Models.L2tpConfig
  | .installedpackages => Models.InstalledPackages

end ModelSection

/-- Structured, redaction-aware projection of a pfSense config.xml. -/
structure ParsedConfig where
  configVersion : Option String := none
  system : Option (Row Models.SystemInfo) := none
  revision : Option (Row Models.Revision) := none
  sysctl : List (Row Models.SysctlTunable) := []
  cron : List (Row Models.CronJob) := []
  interfaces : List (Row Models.Interface) := []
  vlans : List (Row Models.Vlan) := []
  bridges : List (Row Models.Bridge) := []
  gifs : List (Row Models.Tunnel) := []
  gres : List (Row Models.Tunnel) := []
  ppps : List (Row Models.Ppp) := []
  qinqs : List (Row Models.QinQ) := []
  laggs : List (Row Models.Lagg) := []
  wol : List (Row Models.WolHost) := []
  gateways : List (Row Models.Gateway) := []
  gatewayGroups : List (Row Models.GatewayGroup) := []
  staticRoutes : List (Row Models.StaticRoute) := []
  virtualIps : List (Row Models.VirtualIP) := []
  hasync : Option (Row Models.HaSync) := none
  firewallRules : List (Row Models.FirewallRule) := []
  natRules : List (Row Models.NatRule) := []
  aliases : List (Row Models.Alias) := []
  dyndnsEntries : List (Row Models.DyndnsEntry) := []
  notifications : Option (Row Models.NotificationConfig) := none
  dhcpServers : List (Row Models.DhcpServer) := []
  dhcpRelays : List (Row Models.DhcpRelayConfig) := []
  dns : Option (Row Models.DnsConfig) := none
  ntpd : Option (Row Models.NtpdConfig) := none
  snmpd : Option (Row Models.SnmpdConfig) := none
  syslog : Option (Row Models.SyslogConfig) := none
  schedules : List (Row Models.Schedule) := []
  shaperQueues : List (Row Models.ShaperQueue) := []
  dnshaperPipes : List (Row Models.DnShaperPipe) := []
  lbPools : List (Row Models.LoadBalancerPool) := []
  lbVirtualServers : List (Row Models.LoadBalancerVirtualServer) := []
  captivePortalZones : List (Row Models.CaptivePortalZone) := []
  igmpproxyEntries : List (Row Models.IgmpProxyEntry) := []
  radvdInterfaces : List (Row Models.RadvdInterfaceConfig) := []
  ups : Option (Row Models.UpsConfig) := none
  voucherRolls : List (Row Models.VoucherRoll) := []
  ftpproxy : Option (Row Models.FtpProxyConfig) := none
  users : List (Row Models.User) := []
  groups : List (Row Models.Group) := []
  authservers : List (Row Models.AuthServer) := []
  openvpnServers : List (Row Models.OpenVpnServer) := []
  openvpnClients : List (Row Models.OpenVpnClient) := []
  openvpnCscs : List (Row Models.OpenVpnCsc) := []
  ipsecPhase1 : List (Row Models.IpsecPhase1) := []
  ipsecPhase2 : List (Row Models.IpsecPhase2) := []
  ipsecPsks : List (Row Models.IpsecPskEntry) := []
  ipsecMobileClients : Option (Row Models.IpsecMobileClient) := none
  certificateAuthorities : List (Row Models.CertificateAuthority) := []
  certificates : List (Row Models.Certificate) := []
  crls : List (Row Models.CertificateRevocationList) := []
  sshdata : Option (Row Models.SshData) := none
  lastchange : Option (Row Models.LastChange) := none
  theme : Option (Row Models.ThemePreference) := none
  diag : Option (Row Models.DiagPreferences) := none
  dhcpBackend : Option (Row Models.DhcpBackend) := none
  legacyBridge : Option (Row Models.LegacyBridge) := none
  proxyarp : List (Row Models.ProxyArpEntry) := []
  interfaceGroups : List (Row Models.InterfaceGroup) := []
  ezshaper : Option (Row Models.EzShaperConfig) := none
  ovpnserverWizard : Option (Row Models.OvpnServerWizard) := none
  apikeys : List (Row Models.ApiKeyEntry) := []
  l2tp : Option (Row Models.L2tpConfig) := none
  pppoeServers : List (Row Models.PppoeServerEntry) := []
  installedpackages : Option (Row Models.InstalledPackages) := none
  unrecognizedSections : List (Row Models.RawSection) := []

namespace ParsedConfig

/-- `[_dump(x) for x in config.<section>]`. -/
def rows (config : ParsedConfig) : ListSection → List Dict
  | .sysctl => config.sysctl.map Row.dump
  | .cron => config.cron.map Row.dump
  | .interfaces => config.interfaces.map Row.dump
  | .vlans => config.vlans.map Row.dump
  | .bridges => config.bridges.map Row.dump
  | .gifs => config.gifs.map Row.dump
  | .gres => config.gres.map Row.dump
  | .ppps => config.ppps.map Row.dump
  | .qinqs => config.qinqs.map Row.dump
  | .laggs => config.laggs.map Row.dump
  | .wol => config.wol.map Row.dump
  | .gateways => config.gateways.map Row.dump
  | .gatewayGroups => config.gatewayGroups.map Row.dump
  | .staticRoutes => config.staticRoutes.map Row.dump
  | .virtualIps => config.virtualIps.map Row.dump
  | .firewallRules => config.firewallRules.map Row.dump
  | .natRules => config.natRules.map Row.dump
  | .aliases => config.aliases.map Row.dump
  | .dyndnsEntries => config.dyndnsEntries.map Row.dump
  | .dhcpServers => config.dhcpServers.map Row.dump
  | .dhcpRelays => config.dhcpRelays.map Row.dump
  | .schedules => config.schedules.map Row.dump
  | .shaperQueues => config.shaperQueues.map Row.dump
  | .dnshaperPipes => config.dnshaperPipes.map Row.dump
  | .lbPools => config.lbPools.map Row.dump
  | .lbVirtualServers => config.lbVirtualServers.map Row.dump
  | .captivePortalZones => config.captivePortalZones.map Row.dump
  | .igmpproxyEntries => config.igmpproxyEntries.map Row.dump
  | .radvdInterfaces => config.radvdInterfaces.map Row.dump
  | .voucherRolls => config.voucherRolls.map Row.dump
  | .users => config.users.map Row.dump
  | .groups => config.groups.map Row.dump
  | .authservers => config.authservers.map Row.dump
  | .openvpnServers => config.openvpnServers.map Row.dump
  | .openvpnClients => config.openvpnClients.map Row.dump
  | .openvpnCscs => config.openvpnCscs.map Row.dump
  | .ipsecPhase1 => config.ipsecPhase1.map Row.dump
  | .ipsecPhase2 => config.ipsecPhase2.map Row.dump
  | .ipsecPsks => config.ipsecPsks.map Row.dump
  | .certificateAuthorities => config.certificateAuthorities.map Row.dump
  | .certificates => config.certificates.map Row.dump
  | .crls => config.crls.map Row.dump
  | .proxyarp => config.proxyarp.map Row.dump
  | .interfaceGroups => config.interfaceGroups.map Row.dump
  | .apikeys => config.apikeys.map Row.dump
  | .pppoeServers => config.pppoeServers.map Row.dump
  | .unrecognizedSections => config.unrecognizedSections.map Row.dump

/-- `config.<section>.model_dump()`, when the section is there. -/
def model (config : ParsedConfig) : ModelSection → Option Dict
  | .system => config.system.map Row.dump
  | .revision => config.revision.map Row.dump
  | .hasync => config.hasync.map Row.dump
  | .notifications => config.notifications.map Row.dump
  | .dns => config.dns.map Row.dump
  | .ntpd => config.ntpd.map Row.dump
  | .snmpd => config.snmpd.map Row.dump
  | .syslog => config.syslog.map Row.dump
  | .ups => config.ups.map Row.dump
  | .ftpproxy => config.ftpproxy.map Row.dump
  | .ipsecMobileClients => config.ipsecMobileClients.map Row.dump
  | .sshdata => config.sshdata.map Row.dump
  | .lastchange => config.lastchange.map Row.dump
  | .theme => config.theme.map Row.dump
  | .diag => config.diag.map Row.dump
  | .dhcpBackend => config.dhcpBackend.map Row.dump
  | .legacyBridge => config.legacyBridge.map Row.dump
  | .ezshaper => config.ezshaper.map Row.dump
  | .ovpnserverWizard => config.ovpnserverWizard.map Row.dump
  | .l2tp => config.l2tp.map Row.dump
  | .installedpackages => config.installedpackages.map Row.dump

theorem dumps_conform {model : Model} (rows : List (Row model)) :
    ∀ dump ∈ rows.map Row.dump, model.Conforms dump := by
  intro dump member
  obtain ⟨row, -, rfl⟩ := List.mem_map.mp member
  exact row.conforms

theorem rows_conform (config : ParsedConfig) (section_ : ListSection) :
    ∀ dump ∈ config.rows section_, section_.model.Conforms dump := by
  cases section_ <;> exact dumps_conform _

theorem model_conforms (config : ParsedConfig) (section_ : ModelSection) :
    ∀ dump ∈ config.model section_, section_.model.Conforms dump := by
  intro dump member
  cases section_ <;>
  · obtain ⟨row, -, rfl⟩ := Option.map_eq_some_iff.mp member
    exact row.conforms

/-- A config with one alias and nothing else. -/
def ofAlias (name descr : String) : ParsedConfig where
  aliases := [
    { dump := Models.Alias.dumpWith [("name", .str name), ("descr", .str descr)]
      conforms := by simp [Model.Conforms, Models.Alias, Model.dumpWith, Model.blank, Dict.keys,
        Dict.get_cons, FieldType.fieldsConform, FieldType.conforms] }]

end ParsedConfig

end PfsenseBackups.Config

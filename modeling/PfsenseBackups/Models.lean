import PfsenseBackups.Value

/-! The field tables of the Pydantic models of `pfsense_sections/` and `pfsense_packages/`,
one definition for each class under the class's own name. -/

namespace PfsenseBackups.Models
open Value

def CertMetadata : Model := [
  ("subject_cn", .optStr), ("subject", .optStr), ("issuer_cn", .optStr), ("issuer", .optStr),
  ("serial_hex", .optStr), ("not_before", .optDatetime), ("not_after", .optDatetime),
  ("sans", .list .str), ("fingerprint_sha256", .optStr)]

def Alias : Model := [
  ("name", .str), ("type", .optStr), ("descr", .optStr), ("entries", .list .str),
  ("details", .list .str), ("updatefreq", .optStr)]

def ApiKeyEntry : Model := [
  ("key", .str), ("username", .optStr), ("descr", .optStr), ("apikey", .optStr),
  ("apisecret", .optStr)]

def User : Model := [
  ("name", .str), ("uid", .optStr), ("scope", .optStr), ("descr", .optStr),
  ("bcrypt_hash", .optStr), ("disabled", .bool), ("groups", .list .str), ("certrefs", .list .str),
  ("expires", .optStr), ("otp_seed", .optStr), ("u2f_keys", .list .str), ("ssh_key", .optStr)]

def Group : Model := [
  ("name", .str), ("gid", .optStr), ("scope", .optStr), ("description", .optStr),
  ("privs", .list .str), ("members", .list .str)]

def AuthServer : Model := [
  ("name", .str), ("type", .optStr), ("host", .optStr), ("port", .optStr), ("ldap_bindpw", .optStr),
  ("radius_secret", .optStr), ("ldap_binddn", .optStr), ("ldap_basedn", .optStr),
  ("ldap_scope", .optStr), ("ldap_authcn", .optStr)]

def CronJob : Model := [
  ("key", .str), ("minute", .optStr), ("hour", .optStr), ("mday", .optStr), ("month", .optStr),
  ("wday", .optStr), ("who", .optStr), ("command", .optStr)]

def DyndnsEntry : Model := [
  ("key", .str), ("type", .optStr), ("interface", .optStr), ("host", .optStr),
  ("domainname", .optStr), ("mx", .optStr), ("descr", .optStr), ("enabled", .bool),
  ("wildcard", .bool), ("force_update", .bool), ("verboselog", .bool), ("username", .optStr),
  ("password", .optStr), ("token", .optStr)]

def L2tpUser : Model := [
  ("name", .str), ("ip", .optStr), ("password", .optStr)]

def L2tpConfig : Model := [
  ("mode", .optStr), ("interface", .optStr), ("localip", .optStr), ("remoteip", .optStr),
  ("radius_enabled", .bool), ("radius_server", .optStr), ("radius_secret", .optStr),
  ("users", .list (.model L2tpUser))]

def PppoeUser : Model := [
  ("name", .str), ("ip", .optStr), ("password", .optStr)]

def PppoeServerEntry : Model := [
  ("key", .str), ("mode", .optStr), ("interface", .optStr), ("localip", .optStr),
  ("remoteip", .optStr), ("descr", .optStr), ("radius_enabled", .bool), ("radius_server", .optStr),
  ("radius_secret", .optStr), ("users", .list (.model PppoeUser))]

def Endpoint : Model := [
  ("any_", .bool), ("network", .optStr), ("address", .optStr), ("port", .optStr), ("not_", .bool)]

def RuleChange : Model := [
  ("time", .optStr), ("username", .optStr), ("description", .optStr)]

def FirewallRule : Model := [
  ("key", .str), ("tracker", .optStr), ("type", .optStr), ("interface", .optStr),
  ("ipprotocol", .optStr), ("protocol", .optStr), ("source", .model Endpoint),
  ("destination", .model Endpoint), ("descr", .optStr), ("disabled", .bool), ("log", .bool),
  ("statetype", .optStr), ("gateway", .optStr), ("schedule", .optStr), ("floating", .bool),
  ("direction", .optStr), ("tag", .optStr), ("dnpipe", .optStr), ("pdnpipe", .optStr),
  ("queuename", .optStr), ("ackqueue", .optStr), ("max_mss", .optStr),
  ("created", .optModel RuleChange), ("updated", .optModel RuleChange)]

def VirtualIP : Model := [
  ("key", .str), ("mode", .optStr), ("interface", .optStr), ("subnet", .optStr),
  ("subnet_bits", .optStr), ("vhid", .optStr), ("advbase", .optStr), ("advskew", .optStr),
  ("descr", .optStr), ("password", .optStr)]

def HaSync : Model := [
  ("pfsyncenabled", .bool), ("pfsyncinterface", .optStr), ("pfsyncpeerip", .optStr),
  ("synchronizetoip", .optStr), ("username", .optStr), ("password", .optStr),
  ("synchronizerules", .bool), ("synchronizenat", .bool), ("synchronizealiases", .bool),
  ("synchronizeschedules", .bool), ("synchronizedhcpd", .bool), ("synchronizedhcrelay", .bool),
  ("synchronizedns", .bool), ("synchronizeopenvpn", .bool), ("synchronizeipsec", .bool),
  ("synchronizeusers", .bool), ("synchronizeauthservers", .bool), ("synchronizecerts", .bool)]

def Interface : Model := [
  ("key", .str), ("descr", .optStr), ("if_", .optStr), ("enabled", .bool), ("ipaddr", .optStr),
  ("subnet", .optStr), ("gateway", .optStr), ("ipaddrv6", .optStr), ("subnetv6", .optStr),
  ("gatewayv6", .optStr), ("mtu", .optStr), ("mss", .optStr), ("media", .optStr),
  ("mediaopt", .optStr), ("blockpriv", .bool), ("blockbogons", .bool),
  ("track6_interface", .optStr), ("track6_prefix_id", .optStr), ("dhcp6_ia_pd_len", .optStr),
  ("dhcp6_prefix_only", .bool), ("adv_dhcp6_prefix_selected_interface", .optStr)]

def Vlan : Model := [
  ("key", .str), ("if_", .optStr), ("tag", .optStr), ("pcp", .optStr), ("vlanif", .optStr),
  ("descr", .optStr)]

def Bridge : Model := [
  ("bridgeif", .str), ("members", .list .str), ("descr", .optStr), ("enablestp", .bool),
  ("stp_proto", .optStr), ("stp_priority", .optStr), ("stp_forward_delay", .optStr),
  ("stp_hello_time", .optStr), ("stp_maxage", .optStr), ("stp_holdcnt", .optStr),
  ("stp_member_priorities", .strDict), ("stp_member_pathcosts", .strDict)]

def Tunnel : Model := [
  ("kind", .str), ("name", .str), ("if_", .optStr), ("remote_addr", .optStr),
  ("tunnel_local_addr", .optStr), ("tunnel_remote_addr", .optStr), ("tunnel_remote_net", .optStr),
  ("descr", .optStr)]

def Ppp : Model := [
  ("ptpid", .str), ("type", .optStr), ("if_", .optStr), ("username", .optStr),
  ("provider", .optStr), ("phone", .optStr), ("descr", .optStr)]

def QinQ : Model := [
  ("key", .str), ("if_", .optStr), ("tag", .optStr), ("members", .list .str), ("descr", .optStr)]

def WolHost : Model := [
  ("mac", .str), ("interface", .optStr), ("descr", .optStr)]

def Lagg : Model := [
  ("laggif", .str), ("members", .list .str), ("proto", .optStr), ("lacptimeout", .optStr),
  ("lacp_fast_timeout", .bool), ("descr", .optStr)]

def LastChange : Model := [
  ("time", .optStr), ("username", .optStr)]

def ThemePreference : Model := [
  ("name", .optStr)]

def DiagPreferences : Model := [
  ("ipv6nat", .bool), ("shownoaliases", .bool), ("showallpasswords", .bool)]

def DhcpBackend : Model := [
  ("backend", .optStr)]

def LegacyBridge : Model := [
  ("enabled", .bool), ("interfaces", .list .str)]

def ProxyArpEntry : Model := [
  ("key", .str), ("interface", .optStr), ("network", .optStr), ("descr", .optStr)]

def InterfaceGroup : Model := [
  ("ifname", .str), ("members", .list .str), ("descr", .optStr)]

def EzShaperQueue : Model := [
  ("name", .str), ("bandwidth", .optStr), ("bandwidth_unit", .optStr)]

def EzShaperConfig : Model := [
  ("step", .optStr), ("interface", .optStr), ("upload", .optStr), ("download", .optStr),
  ("queues", .list (.model EzShaperQueue))]

def OvpnServerWizard : Model := [
  ("step", .optStr), ("description", .optStr), ("cacrt", .optStr), ("cakey", .optStr),
  ("crt", .optStr), ("key", .optStr)]

def NatRule : Model := [
  ("key", .str), ("kind", .str), ("interface", .optStr), ("protocol", .optStr),
  ("source", .model Endpoint), ("destination", .model Endpoint), ("target", .optStr),
  ("local_port", .optStr), ("descr", .optStr), ("disabled", .bool)]

def SmtpNotifier : Model := [
  ("enabled", .bool), ("ipaddress", .optStr), ("port", .optStr), ("timeout", .optStr),
  ("ssl", .bool), ("sslvalidate", .bool), ("fromaddress", .optStr), ("notifyemailaddress", .optStr),
  ("authentication_mechanism", .optStr), ("username", .optStr), ("password", .optStr)]

def PushoverNotifier : Model := [
  ("enabled", .bool), ("api_key", .optStr), ("user_key", .optStr)]

def GrowlNotifier : Model := [
  ("enabled", .bool), ("name", .optStr), ("notification_name", .optStr), ("ipaddress", .optStr),
  ("password", .optStr)]

def TelegramNotifier : Model := [
  ("enabled", .bool), ("chat_id", .optStr), ("api_token", .optStr)]

def SlackNotifier : Model := [
  ("enabled", .bool), ("webhook_url", .optStr)]

def NotificationConfig : Model := [
  ("smtp", .optModel SmtpNotifier), ("pushover", .optModel PushoverNotifier),
  ("growl", .optModel GrowlNotifier), ("telegram", .optModel TelegramNotifier),
  ("slack", .optModel SlackNotifier)]

def CertificateAuthority : Model := [
  ("refid", .str), ("descr", .optStr), ("crt", .optStr), ("prv", .optStr), ("serial", .optStr),
  ("metadata", .optModel CertMetadata)]

def Certificate : Model := [
  ("refid", .str), ("descr", .optStr), ("caref", .optStr), ("type", .optStr), ("crt", .optStr),
  ("prv", .optStr), ("metadata", .optModel CertMetadata)]

def CertificateRevocationList : Model := [
  ("refid", .str), ("descr", .optStr), ("caref", .optStr), ("method", .optStr),
  ("lifetime", .optStr), ("serial", .optStr), ("revoked_cert_refids", .list .str),
  ("text", .optStr)]

def Revision : Model := [
  ("time", .optDatetime), ("description", .optStr), ("username", .optStr)]

def Gateway : Model := [
  ("name", .str), ("interface", .optStr), ("gateway", .optStr), ("ipprotocol", .optStr),
  ("monitor", .optStr), ("descr", .optStr), ("weight", .optStr), ("defaultgw", .bool),
  ("disabled", .bool), ("latencylow", .optStr), ("latencyhigh", .optStr), ("losslow", .optStr),
  ("losshigh", .optStr), ("interval", .optStr), ("time_period", .optStr),
  ("alert_interval", .optStr), ("loss_interval", .optStr), ("data_payload", .optStr),
  ("force_down", .bool)]

def GatewayGroup : Model := [
  ("name", .str), ("descr", .optStr), ("trigger", .optStr), ("members", .list .str)]

def StaticRoute : Model := [
  ("key", .str), ("network", .optStr), ("gateway", .optStr), ("descr", .optStr),
  ("disabled", .bool)]

def DhcpStaticMap : Model := [
  ("mac", .optStr), ("ipaddr", .optStr), ("hostname", .optStr), ("descr", .optStr),
  ("ddnsdomain", .optStr), ("filename", .optStr), ("rootpath", .optStr), ("gateway", .optStr),
  ("dnsservers", .list .str)]

def DhcpNumberOption : Model := [
  ("number", .optStr), ("value", .optStr), ("type", .optStr)]

def DhcpServer : Model := [
  ("interface", .str), ("enabled", .bool), ("range_from", .optStr), ("range_to", .optStr),
  ("domain", .optStr), ("dnsservers", .list .str), ("gateway", .optStr),
  ("domainsearchlist", .optStr), ("static_mappings", .list (.model DhcpStaticMap)),
  ("numberoptions", .list (.model DhcpNumberOption)), ("ddnsdomain", .optStr),
  ("ddnsdomainprimary", .optStr), ("ddnsdomainkey", .optStr), ("defaultleasetime", .optStr),
  ("maxleasetime", .optStr)]

def DnsHostAlias : Model := [
  ("host", .optStr), ("domain", .optStr), ("description", .optStr)]

def DnsHostOverride : Model := [
  ("host", .optStr), ("domain", .optStr), ("ip", .optStr), ("descr", .optStr),
  ("aliases", .list (.model DnsHostAlias))]

def DnsDomainOverride : Model := [
  ("domain", .optStr), ("ip", .optStr), ("descr", .optStr)]

def DnsConfig : Model := [
  ("unbound_enabled", .bool), ("dnsmasq_enabled", .bool), ("unbound_port", .optStr),
  ("dnsmasq_port", .optStr), ("host_overrides", .list (.model DnsHostOverride)),
  ("domain_overrides", .list (.model DnsDomainOverride))]

def NtpdConfig : Model := [
  ("enable", .bool), ("interfaces", .list .str), ("timeservers", .list .str), ("orphan", .optStr),
  ("leapsec", .optStr)]

def SnmpdConfig : Model := [
  ("enable", .bool), ("syslocation", .optStr), ("syscontact", .optStr), ("rocommunity", .optStr),
  ("rwcommunity", .optStr), ("pollport", .optStr), ("trapenable", .bool), ("trapserver", .optStr),
  ("trapserverport", .optStr), ("trapstring", .optStr), ("bindlan", .bool), ("bindip", .optStr)]

def SyslogHost : Model := [
  ("key", .str), ("host", .str), ("sourceip", .optStr), ("ipprotocol", .optStr)]

def SyslogConfig : Model := [
  ("enable", .bool), ("reverse", .bool), ("nentries", .optStr), ("filter_", .bool), ("dhcp", .bool),
  ("portalauth", .bool), ("vpn", .bool), ("dpinger", .bool), ("hostapd", .bool), ("system", .bool),
  ("resolver", .bool), ("ppp", .bool), ("routing", .bool), ("ntpd", .bool),
  ("hosts", .list (.model SyslogHost))]

def DhcpRelayConfig : Model := [
  ("kind", .str), ("enable", .bool), ("interface", .list .str), ("server", .list .str),
  ("agentoption", .bool)]

def Schedule : Model := [
  ("name", .str), ("descr", .optStr), ("time_ranges", .list .str)]

def ShaperQueue : Model := [
  ("name", .str), ("interface", .optStr), ("priority", .optStr), ("bandwidth", .optStr),
  ("bandwidthtype", .optStr), ("descr", .optStr)]

def DnShaperPipe : Model := [
  ("name", .str), ("number", .optStr), ("bandwidth", .optStr), ("bandwidthtype", .optStr),
  ("descr", .optStr)]

def LoadBalancerPoolMember : Model := [
  ("ip", .optStr), ("port", .optStr)]

def LoadBalancerPool : Model := [
  ("name", .str), ("descr", .optStr), ("behaviour", .optStr), ("port", .optStr),
  ("monitor", .optStr), ("servers", .list (.model LoadBalancerPoolMember))]

def LoadBalancerVirtualServer : Model := [
  ("name", .str), ("descr", .optStr), ("ipaddr", .optStr), ("port", .optStr), ("mode", .optStr),
  ("poolname", .optStr)]

def CaptivePortalZone : Model := [
  ("zone", .str), ("zoneid", .optStr), ("enable", .bool), ("interfaces", .list .str),
  ("auth_method", .optStr), ("redirurl", .optStr), ("radius_secret", .optStr)]

def IgmpProxyEntry : Model := [
  ("key", .str), ("type", .optStr), ("ifname", .optStr), ("descr", .optStr), ("threshold", .optStr),
  ("networks", .list .str)]

def RadvdInterfaceConfig : Model := [
  ("interface", .str), ("ramode", .optStr), ("rapriority", .optStr), ("ramininterval", .optStr),
  ("ramaxinterval", .optStr), ("ralifetime", .optStr), ("radomainsearchlist", .optStr),
  ("radns", .list .str)]

def UpsConfig : Model := [
  ("enable", .bool), ("driver", .optStr), ("port", .optStr), ("cable", .optStr),
  ("upsname", .optStr), ("remoteuser", .optStr), ("remotepassword", .optStr)]

def VoucherRoll : Model := [
  ("number", .str), ("minutes", .optStr), ("count", .optStr), ("descr", .optStr)]

def FtpProxyConfig : Model := [
  ("enable", .bool), ("ports", .optStr), ("interface", .optStr)]

def SshHostKeyFile : Model := [
  ("filename", .str), ("is_private", .bool), ("xmldata", .optStr)]

def SshData : Model := [
  ("keys", .list (.model SshHostKeyFile))]

def SysctlTunable : Model := [
  ("tunable", .str), ("value", .optStr), ("descr", .optStr)]

def WebGui : Model := [
  ("protocol", .optStr), ("port", .optStr), ("ssl_certref", .optStr),
  ("disablehttpredirect", .bool), ("loginautocomplete", .bool)]

def SystemInfo : Model := [
  ("hostname", .optStr), ("domain", .optStr), ("timezone", .optStr), ("timeservers", .list .str),
  ("language", .optStr), ("dnsservers", .list .str), ("dns_allow_override", .bool),
  ("dnslocalhost", .bool), ("disablenatreflection", .bool), ("webgui", .optModel WebGui),
  ("enablesshd", .bool), ("sshport", .optStr), ("powerd_ac_mode", .optStr),
  ("powerd_battery_mode", .optStr), ("powerd_normal_mode", .optStr)]

def OpenVpnServer : Model := [
  ("vpnid", .str), ("description", .optStr), ("mode", .optStr), ("protocol", .optStr),
  ("interface", .optStr), ("local_port", .optStr), ("tunnel_network", .optStr),
  ("tunnel_networkv6", .optStr), ("remote_network", .optStr), ("remote_networkv6", .optStr),
  ("local_network", .optStr), ("local_networkv6", .optStr), ("dev_mode", .optStr),
  ("topology", .optStr), ("crypto", .optStr), ("digest", .optStr), ("caref", .optStr),
  ("certref", .optStr), ("authmode", .list .str), ("push_options", .optStr),
  ("custom_options", .optStr), ("comp_lzo", .optStr), ("verify_x509_name", .optStr),
  ("x509_alt_name", .optStr), ("fragment", .optStr), ("mtu_test", .bool), ("tunnel_mtu", .optStr),
  ("data_ciphers", .optStr), ("data_ciphers_fallback", .optStr), ("shared_key", .optStr),
  ("tls", .optStr)]

def OpenVpnClient : Model := [
  ("vpnid", .str), ("description", .optStr), ("mode", .optStr), ("protocol", .optStr),
  ("interface", .optStr), ("server_addr", .optStr), ("server_port", .optStr),
  ("tunnel_network", .optStr), ("dev_mode", .optStr), ("crypto", .optStr), ("digest", .optStr),
  ("caref", .optStr), ("certref", .optStr), ("custom_options", .optStr), ("comp_lzo", .optStr),
  ("fragment", .optStr), ("tunnel_mtu", .optStr), ("data_ciphers", .optStr),
  ("data_ciphers_fallback", .optStr), ("username", .optStr), ("password", .optStr),
  ("auth_user_pass", .optStr), ("shared_key", .optStr), ("tls", .optStr)]

def OpenVpnCsc : Model := [
  ("common_name", .str), ("description", .optStr), ("disable", .bool), ("block", .bool),
  ("server_list", .list .str), ("tunnel_network", .optStr), ("local_network", .optStr),
  ("remote_network", .optStr), ("push_reset", .bool), ("dns_server1", .optStr),
  ("ntp_server1", .optStr)]

def IpsecPhase1 : Model := [
  ("ikeid", .str), ("iketype", .optStr), ("interface", .optStr), ("remote_gateway", .optStr),
  ("protocol", .optStr), ("descr", .optStr), ("disabled", .bool),
  ("authentication_method", .optStr), ("myid_type", .optStr), ("myid_data", .optStr),
  ("peerid_type", .optStr), ("peerid_data", .optStr), ("mode", .optStr), ("nat_traversal", .optStr),
  ("mobike", .optStr), ("dpd_action", .optStr), ("dpd_delay", .optStr), ("dpd_maxfail", .optStr),
  ("lifetime", .optStr), ("reauth_time", .optStr), ("gw_duplicates", .bool),
  ("pre_shared_key", .optStr), ("encryption_set", .list .str)]

def IpsecPhase2 : Model := [
  ("uniqid", .str), ("ikeid", .optStr), ("descr", .optStr), ("disabled", .bool), ("mode", .optStr),
  ("protocol", .optStr), ("local_type", .optStr), ("local_address", .optStr),
  ("local_netbits", .optStr), ("remote_type", .optStr), ("remote_address", .optStr),
  ("remote_netbits", .optStr), ("encryption_set", .list .str), ("lifetime", .optStr),
  ("keepalive", .optStr), ("pfsgroup", .optStr), ("mode_vti_addr", .optStr),
  ("mode_vti_remote_addr", .optStr)]

def IpsecMobileClient : Model := [
  ("enable", .bool), ("user_source", .optStr), ("group_source", .optStr), ("pool_address", .optStr),
  ("pool_netbits", .optStr), ("dns_address", .optStr), ("wins_address", .optStr),
  ("login_banner", .optStr)]

def IpsecPskEntry : Model := [
  ("key", .str), ("ident_type", .optStr), ("ident", .optStr), ("pre_shared_key", .optStr)]

/-! ### Packages -/

def AcmeAccountKey : Model := [
  ("name", .str), ("descr", .optStr), ("acmeserver", .optStr), ("email", .optStr),
  ("accountkey", .optStr)]

def AcmeCertificate : Model := [
  ("name", .str), ("acmeaccount", .optStr), ("keylength", .optStr), ("preferredchain", .optStr),
  ("ocspstaple", .bool), ("dnssleep", .optStr), ("san_list", .list .str), ("renewafter", .optStr)]

def AcmeConfig : Model := [
  ("enable", .bool), ("writecert_log", .bool), ("account_keys", .list (.model AcmeAccountKey)),
  ("certificates", .list (.model AcmeCertificate))]

def AvahiConfig : Model := [
  ("enable", .bool), ("reflector", .bool), ("ipv4_enabled", .bool), ("ipv6_enabled", .bool),
  ("wide_area", .bool), ("publish_workstation", .bool), ("publish_addresses", .bool),
  ("reflect_ipv", .optStr), ("interfaces", .optStr), ("allow_deny_interfaces", .optStr),
  ("cache_entries_max", .optStr), ("browse_domains", .optStr)]

def FreeRadiusClient : Model := [
  ("name", .str), ("ipaddr", .optStr), ("shortname", .optStr), ("shared_secret", .optStr),
  ("nas_type", .optStr), ("descr", .optStr)]

def FreeRadiusUser : Model := [
  ("name", .str), ("password", .optStr), ("auth_type", .optStr), ("expiration", .optStr),
  ("descr", .optStr)]

def FreeRadiusInterface : Model := [
  ("key", .str), ("ipaddr", .optStr), ("port", .optStr), ("ip_type", .optStr),
  ("interface_type", .optStr)]

def FreeRadiusConfig : Model := [
  ("enabled", .bool), ("interfaces", .list (.model FreeRadiusInterface)),
  ("clients", .list (.model FreeRadiusClient)), ("users", .list (.model FreeRadiusUser))]

def FrrBgpNeighbor : Model := [
  ("name", .str), ("remote_as", .optStr), ("peer_address", .optStr), ("descr", .optStr),
  ("password", .optStr)]

def FrrBgpConfig : Model := [
  ("enabled", .bool), ("local_as", .optStr), ("router_id", .optStr),
  ("neighbors", .list (.model FrrBgpNeighbor))]

def FrrOspfInterface : Model := [
  ("interface", .str), ("area", .optStr), ("cost", .optStr), ("priority", .optStr),
  ("hello_interval", .optStr), ("dead_interval", .optStr), ("md5_password", .optStr)]

def FrrOspfdInterface : Model := FrrOspfInterface

def FrrOspfConfig : Model := [
  ("enabled", .bool), ("router_id", .optStr), ("interfaces", .list (.model FrrOspfInterface))]

def FrrOspfd6Config : Model := [
  ("enabled", .bool), ("router_id", .optStr), ("redistribute_connected", .bool),
  ("redistribute_static", .bool), ("redistribute_kernel", .bool), ("redistribute_bgp", .bool)]

def FrrAclEntry : Model := [
  ("name", .str), ("seq", .optStr), ("action", .optStr), ("source", .optStr), ("descr", .optStr)]

def FrrPrefixListEntry : Model := [
  ("name", .str), ("seq", .optStr), ("action", .optStr), ("prefix", .optStr), ("ge", .optStr),
  ("le", .optStr), ("descr", .optStr)]

def FrrConfig : Model := [
  ("enabled", .bool), ("bgp", .optModel FrrBgpConfig), ("ospf", .optModel FrrOspfConfig),
  ("ospfd_present", .bool), ("ospfd", .optModel FrrOspfd6Config), ("ospfd_areas_present", .bool),
  ("ospfd_interfaces_present", .bool), ("global_acls_present", .bool),
  ("global_acls", .list (.model FrrAclEntry)), ("global_prefixes_present", .bool),
  ("global_prefixes", .list (.model FrrPrefixListEntry)), ("bgp6_present", .bool),
  ("ospfd_interfaces", .list (.model FrrOspfdInterface))]

def HaProxyAcl : Model := [
  ("name", .str), ("expression", .optStr), ("value", .optStr), ("casesensitive", .bool),
  ("inverse", .bool)]

def HaProxyAction : Model := [
  ("action", .optStr), ("acl", .optStr), ("parameters", .optStr)]

def HaProxyFrontend : Model := [
  ("name", .str), ("status", .optStr), ("type", .optStr), ("descr", .optStr), ("extaddr", .optStr),
  ("addresses", .list .str), ("default_backend", .optStr), ("ssl", .bool), ("forwardfor", .bool),
  ("ssloffloadcert", .optStr), ("dcertadv", .optStr), ("clientcert_ca", .optStr),
  ("clientcert_crl", .optStr), ("sslclientcert_required", .bool), ("sslciphers", .optStr),
  ("sslprotocols", .optStr), ("advanced", .optStr), ("acls", .list (.model HaProxyAcl)),
  ("actions", .list (.model HaProxyAction))]

def HaProxyServer : Model := [
  ("name", .str), ("address", .optStr), ("port", .optStr), ("ssl", .bool), ("status", .optStr),
  ("weight", .optStr), ("password", .optStr), ("maxconn", .optStr), ("sslservercertverify", .bool),
  ("advanced", .optStr)]

def HaProxyBackend : Model := [
  ("name", .str), ("descr", .optStr), ("balance", .optStr), ("check_type", .optStr),
  ("servers", .list (.model HaProxyServer)), ("connection_timeout", .optStr),
  ("server_timeout", .optStr), ("retries", .optStr), ("httpcheck_method", .optStr),
  ("monitor_uri", .optStr), ("monitor_httpversion", .optStr), ("check_interval", .optStr),
  ("persist_cookie_enabled", .bool), ("persist_cookie_name", .optStr),
  ("persist_cookie_mode", .optStr), ("advanced", .optStr)]

def HaProxyConfig : Model := [
  ("enable", .bool), ("advanced", .optStr), ("remotesyslog", .optStr),
  ("frontends", .list (.model HaProxyFrontend)), ("backends", .list (.model HaProxyBackend)),
  ("maxconn", .optStr), ("nbthread", .optStr), ("nbproc", .optStr), ("hard_stop_after", .optStr),
  ("ssldefaultdhparam", .optStr), ("log_facility", .optStr), ("log_level", .optStr),
  ("log_send_hostname", .optStr), ("localstats_port", .optStr), ("localstats_refresh", .optStr),
  ("localstats_sticktable_views", .bool), ("carpdev", .optStr), ("enable_iface", .optStr)]

def MiniUpnpdConfig : Model := [
  ("enable", .bool), ("enable_upnp", .bool), ("enable_natpmp", .bool), ("iface_array", .optStr),
  ("ext_iface", .optStr), ("download", .optStr), ("upload", .optStr), ("permit_rules", .list .str)]

def OpenvpnClientExportServer : Model := [
  ("key", .str), ("vpnid", .optStr), ("useaddr", .optStr), ("verifyservercn", .optStr),
  ("blockoutsidedns", .bool), ("usetoken", .bool), ("usepkcs11", .bool), ("bindmode", .optStr),
  ("silent_install", .bool)]

def OpenvpnClientExportConfig : Model := [
  ("use_random_local_port", .bool), ("silent_install", .bool), ("interface_selection", .optStr),
  ("hostname", .optStr), ("ovpnexportcert", .optStr), ("ovpnexportcountry", .optStr),
  ("ovpnexportstate", .optStr), ("ovpnexportcity", .optStr),
  ("servers", .list (.model OpenvpnClientExportServer))]

def PfBlockerNgFeed : Model := [
  ("key", .str), ("header", .optStr), ("state", .optStr), ("format", .optStr), ("action", .optStr),
  ("url", .optStr)]

def PfBlockerNgConfig : Model := [
  ("enable_pfblockerng", .bool), ("keep_settings", .bool), ("pfb_interface", .optStr),
  ("pfb_inbound", .optStr), ("pfb_outbound", .optStr), ("ip_enabled", .bool),
  ("ipv6_enabled", .bool), ("maxmind_key_configured", .bool), ("dnsbl_enabled", .bool),
  ("dnsbl_mode", .optStr), ("dnsbl_port", .optStr), ("feeds", .list (.model PfBlockerNgFeed)),
  ("topspammers_present", .bool), ("blacklist_present", .bool), ("safesearch_present", .bool),
  ("reputation_present", .bool), ("dnsbl_safesearch_present", .bool), ("global_present", .bool),
  ("geoip_configured", .bool), ("geoip_continents", .list .str)]

def ShellCmdEntry : Model := [
  ("cmd", .str), ("cmdtype", .optStr), ("descr", .optStr), ("disabled", .bool)]

def ShellCmdSettings : Model := [
  ("entries", .list (.model ShellCmdEntry))]

def SnortInterface : Model := [
  ("uuid", .str), ("interface", .optStr), ("descr", .optStr), ("enable", .bool),
  ("blockoffenders7", .bool), ("ips_mode", .optStr), ("categories", .list .str)]

def SnortConfig : Model := [
  ("oinkmaster_configured", .bool), ("snort_community_rules_enabled", .bool),
  ("emerging_threats_enabled", .bool), ("interfaces", .list (.model SnortInterface))]

def SquidConfig : Model := [
  ("enable", .bool), ("active_interface", .optStr), ("proxy_port", .optStr),
  ("transparent_mode", .bool), ("allow_interface", .list .str), ("auth_method", .optStr),
  ("auth_realm", .optStr), ("ldap_server", .optStr), ("ldap_binddn", .optStr),
  ("ldap_bindpw", .optStr), ("ntlm_domain", .optStr), ("ntlm_admin_username", .optStr),
  ("ntlm_admin_password", .optStr), ("ssl_proxy_enable", .bool),
  ("ssl_proxy_intercept_port", .optStr), ("ssl_proxy_intercept_interfaces", .list .str),
  ("ssl_proxy_dhparams_size", .optStr), ("ssl_proxy_options", .optStr),
  ("ssl_proxy_compatibility", .optStr), ("ssl_proxy_cafile_ref", .optStr),
  ("ssl_proxy_certificate_ref", .optStr), ("sslproxy_cipher", .optStr)]

def SquidCacheConfig : Model := [
  ("enable", .bool), ("harddisk_cache_size", .optStr), ("harddisk_cache_system", .optStr),
  ("harddisk_cache_location", .optStr), ("minimum_object_size", .optStr),
  ("maximum_object_size", .optStr), ("memory_cache_size", .optStr),
  ("maximum_objsize_in_mem", .optStr), ("cache_replacement_policy", .optStr),
  ("memory_replacement_policy", .optStr), ("level1_subdirs", .optStr), ("donotcache", .optStr),
  ("enable_offline", .bool)]

def SquidAntivirusConfig : Model := [
  ("enable", .bool), ("client_info", .optStr), ("enable_advanced", .bool),
  ("raw_squidclamav_conf", .optStr), ("raw_cicap_conf", .optStr), ("raw_cicap_magic", .optStr),
  ("raw_freshclam_conf", .optStr), ("raw_clamd_conf", .optStr)]

def SquidRemoteConfig : Model := [
  ("enable", .bool), ("proxyaddr", .optStr), ("proxyport", .optStr), ("username", .optStr),
  ("password", .optStr)]

def SquidGuardTarget : Model := [
  ("name", .str), ("descr", .optStr), ("domain_list", .list .str), ("url_list", .list .str),
  ("enabled", .bool)]

def SquidGuardAcl : Model := [
  ("name", .str), ("descr", .optStr), ("source", .optStr), ("time_range", .optStr),
  ("redirect", .optStr), ("enabled", .bool)]

def SquidGuardConfig : Model := [
  ("enabled", .bool), ("blacklist_enabled", .bool), ("blacklist_url", .optStr),
  ("strip_path", .bool), ("targets", .list (.model SquidGuardTarget)),
  ("acls", .list (.model SquidGuardAcl))]

def SquidAuthConfig : Model := [
  ("auth_method", .optStr), ("ldap_server", .optStr), ("ldap_port", .optStr),
  ("ldap_binddn", .optStr), ("ldap_pass", .optStr), ("ldap_search_base", .optStr),
  ("ldap_filter", .optStr), ("radius_server", .optStr), ("radius_port", .optStr),
  ("radius_secret", .optStr), ("nt_user", .optStr), ("nt_pass", .optStr)]

def SquidBundle : Model := [
  ("squid", .optModel SquidConfig), ("squidguard", .optModel SquidGuardConfig),
  ("cache_present", .bool), ("cache", .optModel SquidCacheConfig), ("remote_present", .bool),
  ("remote", .optModel SquidRemoteConfig), ("auth", .optModel SquidAuthConfig),
  ("antivirus_present", .bool), ("antivirus", .optModel SquidAntivirusConfig)]

def SuricataInterface : Model := [
  ("uuid", .str), ("interface", .optStr), ("descr", .optStr), ("enable", .bool),
  ("blockoffenders7", .bool), ("ips_mode", .optStr), ("eve_enable", .bool),
  ("categories", .list .str)]

def SuricataPasslistEntry : Model := [
  ("key", .str), ("address", .optStr), ("descr", .optStr)]

def SuricataPasslist : Model := [
  ("name", .str), ("descr", .optStr), ("entries", .list (.model SuricataPasslistEntry))]

def SuricataConfig : Model := [
  ("enable_stats", .bool), ("oinkmaster_configured", .bool),
  ("interfaces", .list (.model SuricataInterface)), ("passlists", .list (.model SuricataPasslist))]

def TelegrafConfig : Model := [
  ("enabled", .bool), ("interval", .optStr), ("output_plugin", .optStr), ("url", .optStr),
  ("database", .optStr), ("organization", .optStr), ("bucket", .optStr), ("username", .optStr),
  ("password", .optStr), ("token", .optStr)]

def WireGuardTunnel : Model := [
  ("name", .str), ("descr", .optStr), ("enabled", .bool), ("listen_port", .optStr),
  ("mtu", .optStr), ("addresses", .list .str), ("dns", .optStr), ("public_key", .optStr),
  ("private_key", .optStr)]

def WireGuardPeer : Model := [
  ("descr", .optStr), ("enabled", .bool), ("tun", .optStr), ("endpoint", .optStr),
  ("port", .optStr), ("persistent_keepalive", .optStr), ("allowed_ips", .list .str),
  ("public_key", .optStr), ("preshared_key", .optStr)]

def WireGuardConfig : Model := [
  ("tunnels", .list (.model WireGuardTunnel)), ("peers", .list (.model WireGuardPeer))]

def ZabbixAgentConfig : Model := [
  ("enabled", .bool), ("server", .optStr), ("serveractive", .optStr), ("hostname", .optStr),
  ("listenport", .optStr), ("tls_psk_identity", .optStr), ("tls_psk", .optStr)]

def ZabbixProxyConfig : Model := [
  ("enabled", .bool), ("server", .optStr), ("hostname", .optStr), ("listenport", .optStr),
  ("tls_psk_identity", .optStr), ("tls_psk", .optStr)]

def ZabbixBundle : Model := [
  ("agent", .optModel ZabbixAgentConfig), ("proxy", .optModel ZabbixProxyConfig)]

def UnknownPackage : Model := [
  ("tag", .str), ("entry_count", .int), ("xml", .str)]

def InstalledPackages : Model := [
  ("pfblockerng", .optModel PfBlockerNgConfig), ("haproxy", .optModel HaProxyConfig),
  ("suricata", .optModel SuricataConfig), ("acme", .optModel AcmeConfig),
  ("squid", .optModel SquidBundle), ("freeradius", .optModel FreeRadiusConfig),
  ("telegraf", .optModel TelegrafConfig), ("frr", .optModel FrrConfig),
  ("zabbix", .optModel ZabbixBundle), ("wireguard", .optModel WireGuardConfig),
  ("snort", .optModel SnortConfig), ("miniupnpd", .optModel MiniUpnpdConfig),
  ("avahi", .optModel AvahiConfig), ("openvpn_client_export", .optModel OpenvpnClientExportConfig),
  ("shellcmd", .optModel ShellCmdSettings), ("unknown", .list (.model UnknownPackage))]

/-- `pfsense_parser.RawSection`: a top-level tag no section parser knows. -/
def RawSection : Model := [("tag", .str), ("xml", .str)]

end PfsenseBackups.Models

import PfsenseBackups.DiffCompleteness
import PfsenseBackups.FieldEvents
import PfsenseBackups.RowEvents

/-! `changedAnchors.ts`, the browser's own walk over the JSON of a `ConfigDiff`, beside the
server's events for the same diff. -/

namespace PfsenseBackups.ChangedAnchors
open Value Keyed Config Diff DiffConfigs DiffCompleteness AnchorEvents AnchorScopes RowEvents
  FieldEvents

/-! ### The browser's walk -/

/-- `key.replace(/[^A-Za-z0-9_-]/g, "_")`: the pattern goes by UTF-16 units, of which a
character outside the basic plane has two. -/
def safeUnits (key : String) : String :=
  String.ofList (key.toList.flatMap fun char =>
    if isSafe char then [char] else if char.toNat < 65536 then ['_'] else ['_', '_'])

/-- Within the basic plane the browser sanitises as the server does. -/
theorem safeUnits_of_basic {key : String} (basic : ∀ char ∈ key.toList, char.toNat < 65536) :
    safeUnits key = safe key := by
  have units : ∀ chars : List Char, (∀ char ∈ chars, char.toNat < 65536) →
      (chars.flatMap fun char =>
        if isSafe char then [char] else if char.toNat < 65536 then ['_'] else ['_', '_']) =
      chars.map fun char => if isSafe char then char else '_' := by
    intro chars basic
    induction chars with
    | nil => rfl
    | cons char rest ih =>
      rw [List.flatMap_cons, List.map_cons,
        ih fun other member => basic other (List.mem_cons_of_mem _ member),
        if_pos (basic char List.mem_cons_self)]
      split <;> rfl
  rw [safeUnits, safe, units _ basic]

/-- `SECTION_ROW_ANCHOR`. -/
def sectionRowAnchor : List (String × Option String) := [
  ("firewall_rules", some "rule"), ("nat_rules", some "nat"), ("interfaces", some "interface"),
  ("vlans", some "vlan"), ("gateways", some "gateway"), ("gateway_groups", some "gateway_group"),
  ("schedules", some "schedule"), ("aliases", some "alias"),
  ("certificate_authorities", some "ca"), ("certificates", some "cert"), ("crls", some "crl"),
  ("authservers", some "authserver"), ("openvpn_servers", some "openvpn_server"),
  ("openvpn_clients", some "openvpn_client"), ("ipsec_phase1", some "ipsec_phase1"),
  ("lb_pools", some "lb_pool"), ("users", some "user"), ("groups", some "group"),
  ("interface_groups", some "interface_group"), ("sysctl", none), ("cron", none),
  ("bridges", none), ("gifs", none), ("gres", none), ("ppps", none), ("qinqs", none),
  ("laggs", none), ("wol", none), ("static_routes", none), ("virtual_ips", none),
  ("dhcp_servers", none), ("dhcp_relays", none), ("dyndns_entries", none),
  ("shaper_queues", none), ("dnshaper_pipes", none), ("lb_virtual_servers", none),
  ("captive_portal_zones", none), ("igmpproxy_entries", none), ("radvd_interfaces", none),
  ("ipsec_phase2", none), ("ipsec_psks", none), ("pppoe_servers", none), ("voucher_rolls", none),
  ("apikeys", none), ("proxyarp", none), ("unrecognized_sections", none)]

/-- The kind of a section's rows, where they have anchors. -/
def rowKind (section_ : String) : Option String :=
  (sectionRowAnchor.lookup section_).join

def fieldId (section_ name : String) : String :=
  anchorId "field" section_ (safeUnits name)

/-- `item.key`, where it is a string and not empty. -/
def itemKey (item : Dict) : Option String :=
  match Dict.get item "key" with
  | .str key => if key = "" then none else some key
  | _ => none

/-- `Object.entries(diff)`. -/
def entries (diff : ConfigDiff) : List (String × SectionDiff) :=
  (ListSection.all.map fun section_ => (section_.name, diff.list section_)) ++
    (ModelSection.all.filterMap fun section_ =>
      (diff.model section_).map fun inner => (section_.name, inner)) ++
    [("config_version", diff.configVersion)]

/-- The row sections that the browser has anchors for. -/
def knownRows : List RowSpec :=
  sectionSpec.filter fun spec => (rowKind spec.section_.name).isSome

theorem knownRows_listed {spec : RowSpec} (known : spec ∈ knownRows) : spec ∈ sectionSpec :=
  (List.mem_filter.mp known).1

section Browser

variable {diff : ConfigDiff} {aid : String}

end Browser

/-! ### Rows -/

/-- The id that the browser builds for a row: from its `key` attribute when it was added or
removed, from its diff key when it was edited or moved. -/
def browserId (spec : RowSpec) (row : Dict) : Kind → Option String
  | .added | .removed => (itemKey row).map fun key => anchorId "xref" spec.anchorKind (safeUnits key)
  | .modified | .reordered =>
    some (anchorId "xref" spec.anchorKind (safeUnits (diffKey spec.diffKeyField row)))

/-- The id that the server builds for a row. -/
def serverId (spec : RowSpec) (row : Dict) : Option String :=
  rowAnchorId spec.anchorKind row spec.anchorKeyField

section Rows

variable {a b : ParsedConfig} {spec : RowSpec}

/-- Sections not keyed by `key` have no such attribute. -/
theorem key_undeclared : ∀ spec ∈ knownRows, spec.diffKeyField ≠ "key" →
    "key" ∉ spec.section_.model.names := by
  decide

theorem serverId_of_ne (known : spec ∈ knownRows) (others : spec.section_ ≠ .vlans) {row : Dict}
    (member : row ∈ a.rows spec.section_) :
    serverId spec row =
      some (anchorId "xref" spec.anchorKind (safe (diffKey spec.diffKeyField row))) := by
  have listed := knownRows_listed known
  rw [serverId, anchorKeyField_eq listed others,
    rowAnchorId_of_present _ (diffKey_present listed a row member)]
  rfl

/-- A row that was added or removed never matches in a section without `key` attributes. -/
theorem lone_unmatched (known : spec ∈ knownRows) (unkeyed : spec.diffKeyField ≠ "key")
    (others : spec.section_ ≠ .vlans) {row : Dict} (member : row ∈ a.rows spec.section_) :
    browserId spec row .added ≠ serverId spec row := by
  have absent : "key" ∉ Dict.keys row := by
    rw [(a.rows_conform _ row member).keys]
    exact key_undeclared spec known unkeyed
  rw [serverId_of_ne known others member, browserId, itemKey, Dict.get_of_not_mem row _ absent]
  simp

/-- A row that was edited or moved matches when its diff key stays in the basic plane. -/
theorem edited_matches (known : spec ∈ knownRows) (others : spec.section_ ≠ .vlans) {row : Dict}
    (member : row ∈ a.rows spec.section_)
    (basic : ∀ char ∈ (diffKey spec.diffKeyField row).toList, char.toNat < 65536) :
    browserId spec row .modified = serverId spec row := by
  rw [serverId_of_ne known others member, browserId, safeUnits_of_basic basic]

end Rows

/-! ### Fields -/

section Fields

variable {spec : FieldSpec} {x y : Dict}

end Fields

section FieldSections

variable {a b : ParsedConfig} {spec : FieldSpec}

end FieldSections

end PfsenseBackups.ChangedAnchors

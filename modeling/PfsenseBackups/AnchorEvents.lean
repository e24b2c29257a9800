import PfsenseBackups.DiffConfigs
import Mathlib.Data.List.Basic

/-! `anchor_events.py`: the projection of a `ConfigDiff` to the event log, and the walk over
one config that seeds it. -/

namespace PfsenseBackups.AnchorEvents
open Value Keyed Config Diff DiffConfigs

/-! ### Anchor ids -/

def isSafe (char : Char) : Bool :=
  char.isAlphanum || char == '_' || char == '-'

/-- Any character outside `[A-Za-z0-9_-]` becomes `_`. -/
def safe (key : String) : String :=
  String.ofList (key.toList.map fun char => if isSafe char then char else '_')

/-- `f"{namespace}-{scope}-{tail}"`. -/
def anchorId (space scope tail : String) : String :=
  space ++ "-" ++ scope ++ "-" ++ tail

inductive Kind where
  | added | modified | removed | reordered
  deriving DecidableEq

structure Event where
  anchorId : String
  kind : Kind
  value : Val
  deriving DecidableEq

/-! ### Row sections -/

/-- An entry of `SECTION_SPEC`. -/
structure RowSpec where
  section_ : ListSection
  anchorKind : String
  anchorKeyField : String
  diffKeyField : String
  deriving DecidableEq

def sectionSpec : List RowSpec := [
  ⟨.firewallRules, "rule", "key", "key"⟩,
  ⟨.natRules, "nat", "key", "key"⟩,
  ⟨.aliases, "alias", "name", "name"⟩,
  ⟨.interfaces, "interface", "key", "key"⟩,
  ⟨.vlans, "vlan", "vlanif", "key"⟩,
  ⟨.gateways, "gateway", "name", "name"⟩,
  ⟨.gatewayGroups, "gateway_group", "name", "name"⟩,
  ⟨.schedules, "schedule", "name", "name"⟩,
  ⟨.certificateAuthorities, "ca", "refid", "refid"⟩,
  ⟨.certificates, "cert", "refid", "refid"⟩,
  ⟨.crls, "crl", "refid", "refid"⟩,
  ⟨.authservers, "authserver", "name", "name"⟩,
  ⟨.openvpnServers, "openvpn_server", "vpnid", "vpnid"⟩,
  ⟨.openvpnClients, "openvpn_client", "vpnid", "vpnid"⟩,
  ⟨.openvpnCscs, "openvpn_csc", "common_name", "common_name"⟩,
  ⟨.ipsecPhase1, "ipsec_phase1", "ikeid", "ikeid"⟩,
  ⟨.ipsecPhase2, "ipsec_phase2", "uniqid", "uniqid"⟩,
  ⟨.lbPools, "lb_pool", "name", "name"⟩,
  ⟨.users, "user", "name", "name"⟩,
  ⟨.groups, "group", "name", "name"⟩,
  ⟨.interfaceGroups, "interface_group", "ifname", "ifname"⟩]

def anchorKeyFromRow (row : Dict) (anchorKeyField : String) : Option String :=
  match Dict.get row anchorKeyField with
  | .none => none
  | raw => some (safe raw.text)

def rowAnchorId (kind : String) (row : Dict) (anchorKeyField : String) : Option String :=
  (anchorKeyFromRow row anchorKeyField).map (anchorId "xref" kind)

theorem rowAnchorId_of_present (kind : String) {row : Dict} {field : String}
    (present : Dict.get row field ≠ .none) :
    rowAnchorId kind row field = some (anchorId "xref" kind (safe (Dict.get row field).text)) := by
  unfold rowAnchorId anchorKeyFromRow
  cases found : Dict.get row field with
  | none => exact (present found).elim
  | _ => rfl

/-- The event for a row, unless the row has no anchor. -/
def rowEvent (spec : RowSpec) (kind : Kind) (row : Dict) : Option Event :=
  (rowAnchorId spec.anchorKind row spec.anchorKeyField).map fun aid => ⟨aid, kind, .dict row⟩

/-- `by_diff_key`: the rows of the later config by the text of their diff key. -/
def byDiffKey (spec : RowSpec) (rows : List Dict) (key : String) : Option Dict :=
  lastBy (diffKey spec.diffKeyField)
    (rows.filter fun row => Dict.get row spec.diffKeyField ≠ .none) key

/-- The events of one entry of `SECTION_SPEC`. -/
def rowEvents (spec : RowSpec) (diff : SectionDiff) (after : List Dict) : List Event :=
  diff.added.filterMap (rowEvent spec .added) ++
    diff.removed.filterMap (rowEvent spec .removed) ++
    (diff.modified.filterMap fun item =>
      (byDiffKey spec after item.key).bind (rowEvent spec .modified)) ++
    diff.reordered.filterMap fun event =>
      (byDiffKey spec after event.key).bind (rowEvent spec .reordered)

/-! ### Singleton sections -/

/-- An entry of `SINGLETON_SPEC`. -/
structure FieldSpec where
  section_ : ModelSection
  scope : String
  deriving DecidableEq

def singletonSpec : List FieldSpec := [
  ⟨.system, "system"⟩, ⟨.dns, "dns"⟩, ⟨.hasync, "hasync"⟩, ⟨.ntpd, "ntpd"⟩, ⟨.snmpd, "snmpd"⟩,
  ⟨.syslog, "syslog"⟩, ⟨.notifications, "notifications"⟩, ⟨.ups, "ups"⟩,
  ⟨.ftpproxy, "ftpproxy"⟩, ⟨.diag, "diag"⟩, ⟨.theme, "theme"⟩]

/-- `_SINGLETON_FIELD_RESCOPE.get(section_name, {})`. -/
def singletonFieldRescope : ModelSection → List (String × String × String)
  | .dns => [
      ("dnsmasq_enabled", "dns", "enable"),
      ("dnsmasq_port", "dns", "port"),
      ("unbound_enabled", "unbound", "enable"),
      ("unbound_port", "unbound", "port")]
  | _ => []

/-- Scope and tag of a top-level field. -/
def fieldTarget (spec : FieldSpec) (field : String) : String × String :=
  ((singletonFieldRescope spec.section_).lookup field).getD (spec.scope, field)

/-- Scope and tag of a field's anchor; a dotted path has none. -/
def rescope (spec : FieldSpec) (field : String) : Option (String × String) :=
  if dotless field then some (fieldTarget spec field) else none

def fieldAnchorId (spec : FieldSpec) (field : String) : Option String :=
  (rescope spec field).map fun target => anchorId "field" target.1 target.2

/-- The events for every field of a section that sprouted or went. -/
def wholeEvents (spec : FieldSpec) (kind : Kind) (whole : Dict) : List Event :=
  whole.filterMap fun field =>
    (fieldAnchorId spec field.1).map fun aid => ⟨aid, kind, field.2⟩

/-- The kind of a field's event. -/
def changeKind (before after : Val) : Kind :=
  if after = .none ∧ before ≠ .none then .removed
  else if before = .none ∧ after ≠ .none then .added
  else .modified

/-- The value of a field's event: a removal keeps the old one. -/
def changeValue (before after : Val) : Val :=
  if after = .none ∧ before ≠ .none then before else after

def fieldEvent (spec : FieldSpec) (change : FieldChange) : Option Event :=
  (fieldAnchorId spec change.field).map fun aid =>
    ⟨aid, changeKind change.before change.after, changeValue change.before change.after⟩

/-- The events of one entry of `SINGLETON_SPEC`. -/
def singletonEvents (spec : FieldSpec) (diff : SectionDiff) : List Event :=
  diff.added.flatMap (wholeEvents spec .added) ++
    diff.removed.flatMap (wholeEvents spec .removed) ++
    diff.modified.flatMap fun item => item.changes.filterMap (fieldEvent spec)

/-! ### Packages -/

def packageSingletonSpec : List (String × String) := [
  ("avahi", "avahi"), ("miniupnpd", "miniupnpd"),
  ("openvpn_client_export", "openvpn_client_export"), ("telegraf", "telegraf")]

/-- An entry of `PACKAGE_ROW_SPEC`. -/
structure PackageRowSpec where
  listPath : String
  anchorKind : String
  anchorKeyField : String
  deriving DecidableEq

def packageRowSpec : List PackageRowSpec := [⟨"haproxy.backends", "haproxy_backend", "name"⟩]

/-- `path.split(".")`. -/
def splitPath (path : String) : List String :=
  (path.toList.splitOn '.').map String.ofList

/-- Walk a dotted path of attributes; missing segments read as `None`. -/
def descend (fields : Dict) (path : String) : Val :=
  (splitPath path).foldl (fun value part =>
    match value with
    | .dict inner => Dict.get inner part
    | _ => .none) (.dict fields)

/-- `row_list or []`, each row dumped. -/
def rowsAt (fields : Dict) (path : String) : List Dict :=
  match descend fields path with
  | .list rows => rows.map fun row =>
      match row with
      | .dict dumped => dumped
      | _ => []
  | _ => []

/-- The events for the packages of a block that appeared or disappeared. -/
def wholePackageEvents (kind : Kind) (whole : Dict) : List Event :=
  packageSingletonSpec.flatMap fun (pkg, scope) =>
    match Dict.get whole pkg with
    | .dict fields => fields.filterMap fun (leaf, value) =>
        if dotless leaf then some ⟨anchorId "field" scope leaf, kind, value⟩ else none
    | _ => []

/-- The event for a change with a path of two segments. -/
def packageFieldEvent (change : FieldChange) : Option Event :=
  match splitPath change.field with
  | [pkg, leaf] => (packageSingletonSpec.lookup pkg).map fun scope =>
      ⟨anchorId "field" scope leaf, changeKind change.before change.after,
        changeValue change.before change.after⟩
  | _ => none

/-- The row list and the row that a path of four segments or more points into. -/
def packageRowKey (parts : List String) : Option (PackageRowSpec × String) :=
  if 4 ≤ parts.length then do
    let spec ← packageRowSpec.find? fun spec =>
      parts.take (splitPath spec.listPath).length = splitPath spec.listPath
    let rowKey ← parts[(splitPath spec.listPath).length]?
    return (spec, rowKey)
  else none

/-- One step of the loop that fills `package_row_hits`: the first change of a row decides. -/
def addRowHit (hits : List ((PackageRowSpec × String) × Kind)) (change : FieldChange) :
    List ((PackageRowSpec × String) × Kind) :=
  match packageRowKey (splitPath change.field) with
  | none => hits
  | some rowKey =>
    if rowKey ∈ hits.map (·.1) then hits
    else hits ++ [(rowKey, changeKind change.before change.after)]

/-- The row of the later block that a hit names, by either of its key fields. -/
def hitRow (after : Option Dict) (spec : PackageRowSpec) (rowKey : String) : Option Dict :=
  (rowsAt (after.getD []) spec.listPath).find? fun row =>
    diffKey spec.anchorKeyField row = rowKey ∨ diffKey "key" row = rowKey

/-- The event of one entry of `package_row_hits`; a row that is gone has the value `None`. -/
def packageRowEvent (after : Option Dict) (hit : (PackageRowSpec × String) × Kind) : Event :=
  let row := hitRow after hit.1.1 hit.1.2
  let key := row.bind fun row => anchorKeyFromRow row hit.1.1.anchorKeyField
  ⟨anchorId "xref" hit.1.1.anchorKind (key.getD (safe hit.1.2)), hit.2,
    (row.map Val.dict).getD .none⟩

/-- The events of the `installedpackages` block. -/
def packageEvents (diff : SectionDiff) (after : Option Dict) : List Event :=
  let changes := diff.modified.flatMap ItemDiff.changes
  diff.added.flatMap (wholePackageEvents .added) ++
    diff.removed.flatMap (wholePackageEvents .removed) ++
    changes.filterMap packageFieldEvent ++
    (changes.foldl addRowHit []).map (packageRowEvent after)

/-! ### The two walks -/

/-- Project a `ConfigDiff` and the later config into events. -/
def diffToAnchorEvents (diff : ConfigDiff) (after : ParsedConfig) : List Event :=
  (sectionSpec.flatMap fun spec =>
    rowEvents spec (diff.list spec.section_) (after.rows spec.section_)) ++
    (singletonSpec.flatMap fun spec =>
      ((diff.model spec.section_).map (singletonEvents spec)).getD []) ++
    packageEvents diff.installedpackages (after.model .installedpackages)

/-- The rows of one section with their anchors. -/
def enumerateRows (spec : RowSpec) (rows : List Dict) : List (String × Dict) :=
  rows.filterMap fun row =>
    (rowAnchorId spec.anchorKind row spec.anchorKeyField).map fun aid => (aid, row)

/-- Every anchor of a config with its value. -/
def enumerateAnchors (config : ParsedConfig) : List (String × Val) :=
  (sectionSpec.flatMap fun spec =>
    (enumerateRows spec (config.rows spec.section_)).map fun entry => (entry.1, .dict entry.2)) ++
    (singletonSpec.flatMap fun spec =>
      ((config.model spec.section_).getD []).filterMap fun field =>
        (fieldAnchorId spec field.1).map fun aid => (aid, field.2)) ++
    (packageSingletonSpec.flatMap fun (pkg, scope) =>
      match Dict.get ((config.model .installedpackages).getD []) pkg with
      | .dict fields => fields.filterMap fun (leaf, value) =>
          if dotless leaf then some (anchorId "field" scope leaf, value) else none
      | _ => []) ++
    packageRowSpec.flatMap fun spec =>
      (rowsAt ((config.model .installedpackages).getD []) spec.listPath).filterMap fun row =>
        (rowAnchorId spec.anchorKind row spec.anchorKeyField).map fun aid => (aid, .dict row)

/-! ### Ids of different scopes never meet -/

theorem append_dash_inj {left right : List Char} {restLeft restRight : List Char}
    (dashless : '-' ∉ left) (dashless' : '-' ∉ right)
    (same : left ++ '-' :: restLeft = right ++ '-' :: restRight) :
    left = right ∧ restLeft = restRight := by
  induction left generalizing right with
  | nil =>
    cases right with
    | nil => exact ⟨rfl, (List.cons.inj same).2⟩
    | cons char rest =>
      have head := (List.cons.inj same).1
      exact (dashless' (head ▸ List.mem_cons_self)).elim
  | cons char rest ih =>
    cases right with
    | nil =>
      have head := (List.cons.inj same).1
      exact (dashless (head ▸ List.mem_cons_self)).elim
    | cons other tail =>
      obtain ⟨rfl, inner⟩ := List.cons.inj same
      simp only [List.mem_cons, not_or] at dashless dashless'
      obtain ⟨rfl, rests⟩ := ih dashless.2 dashless'.2 inner
      exact ⟨rfl, rests⟩

def dashless (text : String) : Bool :=
  decide ('-' ∉ text.toList)

theorem dash_split {left right restLeft restRight : String} (plain : dashless left = true)
    (plain' : dashless right = true)
    (same : left ++ "-" ++ restLeft = right ++ "-" ++ restRight) :
    left = right ∧ restLeft = restRight := by
  simp only [dashless, decide_eq_true_eq] at plain plain'
  have lists := congrArg String.toList same
  simp only [String.toList_append, List.append_assoc] at lists
  obtain ⟨heads, tails⟩ := append_dash_inj plain plain' lists
  exact ⟨String.toList_inj.mp heads, String.toList_inj.mp tails⟩

/-- The parts of an anchor id can be read back when the scope has no dash. -/
theorem anchorId_inj {space space' scope scope' tail tail' : String}
    (plainSpace : dashless space = true) (plainSpace' : dashless space' = true)
    (plain : dashless scope = true) (plain' : dashless scope' = true)
    (same : anchorId space scope tail = anchorId space' scope' tail') :
    space = space' ∧ scope = scope' ∧ tail = tail' := by
  unfold anchorId at same
  have spaces := @dash_split space space' (scope ++ "-" ++ tail) (scope' ++ "-" ++ tail')
    plainSpace plainSpace' (by simpa only [String.append_assoc] using same)
  exact ⟨spaces.1, dash_split plain plain' spaces.2⟩

end PfsenseBackups.AnchorEvents

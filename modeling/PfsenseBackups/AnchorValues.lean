import PfsenseBackups.AnchorEvents

/-! `pfsense_anchor_values.py`: the value that an anchor id points at inside one config. -/

namespace PfsenseBackups.AnchorValues
open Value Config AnchorEvents

/-! ### Anchor ids read back -/

/-- `[A-Za-z0-9_]`. -/
def isWord (char : Char) : Bool :=
  char.isAlphanum || char == '_'

/-- What `_ANCHOR_RE` captures: namespace, scope and, if there is one, the tail. No scope
has a dash, so each of them ends at the next one; `$` ignores one trailing newline. -/
def matchAnchor (anchor : String) : Option (String × String × Option String) :=
  let body := if anchor.toList.getLast? = some '\n' then anchor.toList.dropLast else anchor.toList
  let space := String.ofList (body.takeWhile (· != '-'))
  let rest := (body.dropWhile (· != '-')).drop 1
  let scope := rest.takeWhile (· != '-')
  let tail := rest.dropWhile (· != '-')
  if space ∈ ["xref", "field", "section"] ∧ scope ≠ [] ∧ scope.all isWord = true then
    if tail = [] then some (space, String.ofList scope, none)
    else if tail.drop 1 ≠ [] ∧ '\n' ∉ tail then
      some (space, String.ofList scope, some (String.ofList (tail.drop 1)))
    else none
  else none

theorem takeWhile_dash {left : List Char} (dashless : '-' ∉ left) (rest : List Char) :
    (left ++ '-' :: rest).takeWhile (· != '-') = left := by
  have all : ∀ char ∈ left, (char != '-') = true := by
    intro char member
    simp only [bne_iff_ne]
    rintro rfl
    exact dashless member
  rw [List.takeWhile_append_of_pos all]
  simp

theorem dropWhile_dash {left : List Char} (dashless : '-' ∉ left) (rest : List Char) :
    (left ++ '-' :: rest).dropWhile (· != '-') = '-' :: rest := by
  have all : ∀ char ∈ left, (char != '-') = true := by
    intro char member
    simp only [bne_iff_ne]
    rintro rfl
    exact dashless member
  rw [List.dropWhile_append_of_pos all]
  simp

/-- An id built from a namespace, a word and a one-line tail is read back into these. -/
theorem matchAnchor_anchorId {space scope tail : String} (known : space ∈ ["xref", "field"])
    (word : scope.toList.all isWord = true) (scopeNonempty : scope ≠ "")
    (tailNonempty : tail ≠ "") (oneLine : '\n' ∉ tail.toList) :
    matchAnchor (anchorId space scope tail) = some (space, scope, some tail) := by
  have plainSpace : '-' ∉ space.toList := by
    simp only [List.mem_cons, List.not_mem_nil, or_false] at known
    rcases known with rfl | rfl <;> decide
  have plainScope : '-' ∉ scope.toList := by
    intro dash
    have isDash := List.all_eq_true.mp word _ dash
    revert isDash
    decide
  have listed : space ∈ ["xref", "field", "section"] := by
    simp only [List.mem_cons, List.not_mem_nil, or_false] at known ⊢
    tauto
  have whole : (anchorId space scope tail).toList =
      space.toList ++ '-' :: (scope.toList ++ '-' :: tail.toList) := by
    simp [anchorId]
  have filled : tail.toList ≠ [] := fun none => tailNonempty (String.toList_inj.mp none)
  have noNewline : (space.toList ++ '-' :: (scope.toList ++ '-' :: tail.toList)).getLast? ≠
      some '\n' := by
    obtain ⟨front, last, split⟩ := List.eq_nil_or_concat tail.toList |>.resolve_left filled
    rw [split] at oneLine ⊢
    have lastPlain : last ≠ '\n' := by
      rintro rfl
      simp at oneLine
    have shape : space.toList ++ '-' :: (scope.toList ++ '-' :: front.concat last) =
        (space.toList ++ '-' :: (scope.toList ++ '-' :: front)) ++ [last] := by simp
    rw [shape, List.getLast?_concat]
    simpa using lastPlain
  have scopeFilled : scope.toList ≠ [] := fun none => scopeNonempty (String.toList_inj.mp none)
  have oneLine' : '\n' ∉ '-' :: tail.toList := by
    simp [oneLine]
  unfold matchAnchor
  simp only [if_neg noNewline, whole, takeWhile_dash plainSpace, dropWhile_dash plainSpace,
    takeWhile_dash plainScope, dropWhile_dash plainScope, List.drop_one, List.tail_cons,
    String.ofList_toList, listed, scopeFilled, word, filled, oneLine', ne_eq, not_false_eq_true,
    and_self, reduceCtorEq, if_true, if_false]

/-! ### Tables -/

/-- `_ROW_SCOPES`: the list of each anchor kind and the attribute that names a row. -/
def rowScopes : List (String × String × String) := [
  ("rule", "firewall_rules", "key"),
  ("nat", "nat_rules", "key"),
  ("alias", "aliases", "name"),
  ("interface", "interfaces", "key"),
  ("vlan", "vlans", "vlanif"),
  ("gateway", "gateways", "name"),
  ("gateway_group", "gateway_groups", "name"),
  ("schedule", "schedules", "name"),
  ("ca", "certificate_authorities", "refid"),
  ("cert", "certificates", "refid"),
  ("crl", "crls", "refid"),
  ("authserver", "authservers", "name"),
  ("openvpn_server", "openvpn_servers", "vpnid"),
  ("openvpn_client", "openvpn_clients", "vpnid"),
  ("openvpn_csc", "openvpn_cscs", "common_name"),
  ("ipsec_phase1", "ipsec_phase1", "ikeid"),
  ("ipsec_phase2", "ipsec_phase2", "uniqid"),
  ("lb_pool", "lb_pools", "name"),
  ("user", "users", "name"),
  ("group", "groups", "name"),
  ("interface_group", "interface_groups", "ifname"),
  ("haproxy_backend", "installedpackages.haproxy.backends", "name")]

/-- `_FIELD_ALIASES`. -/
def fieldAliases : List ((String × String) × String) := [
  (("dns", "enable"), "dnsmasq_enabled"),
  (("dns", "port"), "dnsmasq_port"),
  (("unbound", "enable"), "unbound_enabled"),
  (("unbound", "port"), "unbound_port")]

/-- `_SINGLETON_PATH`. -/
def singletonPath : List (String × String) := [
  ("system", "system"),
  ("dns", "dns"),
  ("unbound", "dns"),
  ("hasync", "hasync"),
  ("ntpd", "ntpd"),
  ("snmpd", "snmpd"),
  ("syslog", "syslog"),
  ("notifications", "notifications"),
  ("ups", "ups"),
  ("ftpproxy", "ftpproxy"),
  ("diag", "diag"),
  ("theme", "theme"),
  ("avahi", "installedpackages.avahi"),
  ("miniupnpd", "installedpackages.miniupnpd"),
  ("openvpn_client_export", "installedpackages.openvpn_client_export"),
  ("telegraf", "installedpackages.telegraf")]

/-! ### The resolver -/

/-- `getattr(cfg, name, None)` of a section that holds one model. -/
def sectionAttr (config : ParsedConfig) (name : String) : Val :=
  match ModelSection.all.find? fun section_ => section_.name = name with
  | some section_ => ((config.model section_).map Val.dict).getD .none
  | none => .none

/-- `_descend(cfg, path)`, for a path that starts at a section with one model. -/
def descendConfig (config : ParsedConfig) (path : String) : Val :=
  match splitPath path with
  | [] => .none
  | first :: rest => rest.foldl (fun value part =>
      match value with
      | .dict inner => Dict.get inner part
      | _ => .none) (sectionAttr config first)

/-- The rows that `list_attr` names, or `None`. -/
def listAttr (config : ParsedConfig) (path : String) : Option (List Dict) :=
  if '.' ∈ path.toList then
    match descendConfig config path with
    | .list rows => some (rows.map fun row =>
        match row with
        | .dict dumped => dumped
        | _ => [])
    | _ => none
  else (ListSection.all.find? fun section_ => section_.name = path).map config.rows

section

-- What Pydantic prints for `str(model)`, by the model's dump.
variable (modelText : Dict → String)

mutual

/-- `_stringify`: the text of a field's value, or `None`. -/
def stringify : Val → Option String
  | .none => none
  | .bool flag => some (if flag then "yes" else "no")
  | .list items => some (", ".intercalate (stringifyItems items))
  | .dict fields => some (modelText fields)
  | value => some value.text

/-- `[_stringify(v) or "" for v in value]`. -/
def stringifyItems : List Val → List String
  | [] => []
  | item :: rest => (stringify item).getD "" :: stringifyItems rest

end

/-- The field of a singleton section that an id names. -/
def resolveField (config : ParsedConfig) (scope tail : String) : Val :=
  match singletonPath.lookup scope with
  | none => .none
  | some path =>
    match descendConfig config path with
    | .dict fields =>
      .optional (stringify modelText
        (Dict.get fields ((fieldAliases.lookup (scope, tail)).getD tail)))
    | _ => .none

/-- The row that an id names: the first one whose key sanitises to the tail. -/
def resolveRow (config : ParsedConfig) (scope tail : String) : Val :=
  match rowScopes.lookup scope with
  | none => .none
  | some (path, keyField) =>
    (((listAttr config path).getD []).find? fun row =>
      anchorKeyFromRow row keyField = some (safe tail)).elim .none .dict

/-- The whole object of a singleton section. -/
def resolveSection (config : ParsedConfig) (scope : String) : Val :=
  match singletonPath.lookup scope with
  | none => .none
  | some path => descendConfig config path

/-- Return the value the given anchor points at inside a config. Attributes of a model
other than its fields are left out. -/
def resolveAnchorValue (config : ParsedConfig) (anchor : String) : Val :=
  match matchAnchor anchor with
  | none => .none
  | some (space, scope, tail) =>
    if space = "section" then resolveSection config scope
    else match tail with
      | none => .none
      | some tail =>
        if space = "field" then resolveField modelText config scope tail
        else resolveRow config scope tail

end

end PfsenseBackups.AnchorValues

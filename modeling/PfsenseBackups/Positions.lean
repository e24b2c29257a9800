import PfsenseBackups.NatKeys
import PfsenseBackups.AnchorScopes

/-! `pfsense_positions.py`: the lines of the raw file at which anchors stand, found by a second
walk over the document, and where that walk meets the elements that the parser read. -/

namespace PfsenseBackups.Positions
open Value Keyed Xml Redaction Models NetworkSections NatKeys AnchorEvents

/-! ### The tree of `lxml` -/

/-- A node of a document: an element, or a comment or processing instruction. -/
inductive Node where
  | element (sourceline : Option Nat) (tag : String) (text : Option String) (nodes : List Node)
    (attrib : List (String × String)) (tail : Option String)
  | comment (sourceline : Option Nat) (tail : Option String)

namespace Node

def sourceline : Node → Option Nat
  | element line _ _ _ _ _ => line
  | comment line _ => line

/-- The children of an element. -/
def nodes : Node → List Node
  | element _ _ _ nodes _ _ => nodes
  | comment _ _ => []

/-- `el.tag`, where it is a string. -/
def tag : Node → Option String
  | element _ tag _ _ _ _ => some tag
  | comment _ _ => none

def content : Node → Option String
  | element _ _ text _ _ _ => text
  | comment _ _ => none

/-- `el.findall(tag)`, one tag deep. -/
def children (el : Node) (tag : String) : List Node :=
  el.nodes.filter fun node => node.tag = some tag

/-- `el.findall(path)` -/
def findall (el : Node) (path : List String) : List Node :=
  path.foldl (fun found tag => found.flatMap fun node => node.children tag) [el]

/-- `el.find(path)` -/
def find (el : Node) (path : List String) : Option Node :=
  (el.findall path).head?

mutual

/-- The lines of an element and of all below it. -/
def lines : Node → List Nat
  | element line _ _ nodes _ _ => line.toList ++ linesEach nodes
  | comment line _ => line.toList

def linesEach : List Node → List Nat
  | [] => []
  | node :: rest => node.lines ++ linesEach rest

end

/-- `el.sourceline or 1` -/
def start (el : Node) : Nat :=
  if el.sourceline.getD 0 = 0 then 1 else el.sourceline.getD 0

/-- `_end_line` -/
def endLine (el : Node) : Nat :=
  max el.start (el.lines.foldl max el.start) + 1

/-- `_findtext` -/
def findtext (el : Node) (tag : String) : Option String :=
  PythonText.truthy ((el.find [tag]).map fun sub => Labels.strip (sub.content.getD ""))

end Node

/-! ### The tree of `ElementTree` -/

/-- A text with the texts behind the comments that follow it. -/
def joined (text : Option String) : List Node → Option String
  | .comment _ tail :: rest =>
    joined (if text.isNone ∧ tail.isNone then none else some (text.getD "" ++ tail.getD "")) rest
  | _ => text

mutual

/-- The element that `ElementTree` has for a node, given the nodes behind it. -/
def plain (rest : List Node) : Node → Option Element
  | .element _ tag text nodes attrib tail =>
    some (.mk tag (joined text nodes) (plainEach nodes) attrib (joined tail rest))
  | .comment _ _ => none

def plainEach : List Node → List Element
  | [] => []
  | node :: rest => (plain rest node).toList ++ plainEach rest

end

/-- The root of the document, as `ElementTree` has it. -/
def Node.tree (root : Node) : Element :=
  (plain [] root).getD (.mk "" none [])

/-- The elements among some nodes, each as both libraries have it. -/
def twins : List Node → List (Node × Element)
  | [] => []
  | node :: rest => (plain rest node).toList.map (Prod.mk node) ++ twins rest

/-- The children with a tag, as both libraries have them. -/
def childTwins (el : Node) (tag : String) : List (Node × Element) :=
  (twins el.nodes).filter fun twin => twin.1.tag = some tag

def childTwinsIn (el : Option (Node × Element)) (tag : String) : List (Node × Element) :=
  el.elim [] fun twin => childTwins twin.1 tag

/-! ### `build_positions` -/

/-- The assignments that fill the map of positions, in order. -/
abbrev LineMap := List (String × Nat × Nat)

/-- `_add` -/
def entryOf (anchor_id : String) (el : Node) : String × Nat × Nat :=
  (anchor_id, el.start, el.endLine)

/-- `positions.get(anchor_id)` -/
def LineMap.get (positions : LineMap) (anchor_id : String) : Option (Nat × Nat) :=
  (lastBy Prod.fst positions anchor_id).map Prod.snd

/-- The key of a row of firewall or NAT rules. -/
def keyText {model : Model} (row : Row model) : String :=
  (Dict.get row.dump "key").text

/-- `_KIND_ANCHORS` -/
def kindAnchors : List (String × List String × String) := [
  ("alias", ["aliases", "alias"], "name"),
  ("gateway", ["gateways", "gateway_item"], "name"),
  ("gateway_group", ["gateways", "gateway_group"], "name"),
  ("schedule", ["schedules", "schedule"], "name"),
  ("ca", ["ca"], "refid"),
  ("cert", ["cert"], "refid"),
  ("crl", ["crl"], "refid"),
  ("authserver", ["system", "authserver"], "name"),
  ("openvpn_server", ["openvpn", "openvpn-server"], "vpnid"),
  ("openvpn_client", ["openvpn", "openvpn-client"], "vpnid"),
  ("openvpn_csc", ["openvpn", "openvpn-csc"], "common_name"),
  ("ipsec_phase1", ["ipsec", "phase1"], "ikeid"),
  ("ipsec_phase2", ["ipsec", "phase2"], "uniqid"),
  ("lb_pool", ["load_balancer", "lbpool"], "name"),
  ("user", ["system", "user"], "name"),
  ("group", ["system", "group"], "name"),
  ("vlan", ["vlans", "vlan"], "vlanif"),
  ("interface_group", ["ifgroups", "ifgroupentry"], "ifname"),
  ("haproxy_backend", ["installedpackages", "haproxy", "ha_pools", "item"], "name")]

/-- The entries of the elements that have a text under a tag. -/
def keyedAnchors (kind key_tag : String) (els : List Node) : LineMap :=
  els.filterMap fun el =>
    (el.findtext key_tag).map fun key => entryOf (anchorId "xref" kind (safe key)) el

/-- The entries of elements and the rows they are paired with. -/
def pairedAnchors {model : Model} (kind : String) (els : List Node) (rows : List (Row model)) :
    LineMap :=
  (els.zip rows).map fun pair => entryOf (anchorId "xref" kind (safe (keyText pair.2))) pair.1

def ruleAnchors (root : Node) (parsed : Option Config.ParsedConfig) : LineMap :=
  match root.find ["filter"] with
  | none => []
  | some f_el =>
    let rule_els := f_el.children "rule"
    match parsed with
    | none => keyedAnchors "rule" "tracker" rule_els
    | some parsed =>
      if parsed.firewallRules.length = rule_els.length then
        pairedAnchors "rule" rule_els parsed.firewallRules
      else keyedAnchors "rule" "tracker" rule_els

/-- The elements that are taken for the rows of NAT rules. -/
def natEls (n_el : Node) : List Node :=
  n_el.children "rule" ++ n_el.children "onetoone" ++
    (n_el.find ["outbound"]).elim [] fun outbound => outbound.children "rule"

def natAnchors (root : Node) (parsed : Option Config.ParsedConfig) : LineMap :=
  match root.find ["nat"], parsed with
  | some n_el, some parsed =>
    if parsed.natRules.length = (natEls n_el).length then
      pairedAnchors "nat" (natEls n_el) parsed.natRules
    else keyedAnchors "nat" "tracker" (n_el.children "rule")
  | _, _ => []

def interfaceAnchors (root : Node) : LineMap :=
  ((root.find ["interfaces"]).elim [] Node.nodes).filterMap fun iface =>
    iface.tag.map fun tag => entryOf (anchorId "xref" "interface" (safe tag)) iface

/-- `_SINGLETON_SECTIONS` -/
def singletonSections : List (String × List String × List String) := [
  ("system", ["system"], []), ("dns", ["dnsmasq"], []), ("unbound", ["unbound"], []),
  ("ntpd", ["ntpd"], []), ("snmpd", ["snmpd"], []), ("syslog", ["syslog"], []),
  ("notifications", ["notifications"], []), ("ups", ["ups"], []), ("ftpproxy", ["ftpproxy"], []),
  ("hasync", ["hasync"], []), ("theme", ["theme"], []), ("diag", ["diag"], []),
  ("avahi", ["installedpackages", "avahi"], []),
  ("miniupnpd", ["installedpackages", "miniupnpd"], []),
  ("openvpn_client_export", ["installedpackages", "vpn_openvpn_export"], ["defaults"]),
  ("telegraf", ["installedpackages", "telegraf"], [])]

def childAnchors (section_ : String) (el : Node) : LineMap :=
  el.nodes.filterMap fun child =>
    child.tag.map fun tag => entryOf (anchorId "field" section_ (safe tag)) child

def singletonAnchors (root : Node) : LineMap :=
  singletonSections.flatMap fun (section_, path, inner_paths) =>
    match root.find path with
    | none => []
    | some el => entryOf ("section-" ++ section_) el :: childAnchors section_ el ++
        inner_paths.flatMap fun inner_path =>
          (el.find [inner_path]).elim [] (childAnchors section_)

def buildPositions (root : Node) (parsed : Option Config.ParsedConfig) : LineMap :=
  ruleAnchors root parsed ++ natAnchors root parsed ++
    (kindAnchors.flatMap fun (kind, path, key_tag) => keyedAnchors kind key_tag (root.findall path)) ++
    interfaceAnchors root ++ singletonAnchors root

/-! ### Both trees side by side -/

theorem twin_spec {nodes : List Node} {twin : Node × Element} (member : twin ∈ twins nodes) :
    twin.1.tag = some twin.2.tag ∧ twin.2.nodes = plainEach twin.1.nodes := by
  induction nodes with
  | nil => cases member
  | cons node rest ih =>
    rcases List.mem_append.mp member with here | later
    · cases node with
      | element line tag text nodes attrib tail =>
        simp only [plain, Option.toList_some, List.map_cons, List.map_nil,
          List.mem_singleton] at here
        subst here
        exact ⟨rfl, rfl⟩
      | comment line tail => simp [plain] at here
    · exact ih later

theorem tree_nodes (root : Node) : root.tree.nodes = plainEach root.nodes := by
  cases root <;> rfl

theorem twins_snd (nodes : List Node) : (twins nodes).map Prod.snd = plainEach nodes := by
  induction nodes with
  | nil => rfl
  | cons node rest ih =>
    rw [twins, plainEach, List.map_append, ih, List.map_map]
    congr 1
    exact List.map_id _

theorem twins_fst (nodes : List Node) :
    (twins nodes).map Prod.fst = nodes.filter fun node => node.tag.isSome := by
  induction nodes with
  | nil => rfl
  | cons node rest ih =>
    rw [twins, List.map_append, ih]
    cases node <;> rfl

theorem childTwins_fst (el : Node) (tag : String) :
    (childTwins el tag).map Prod.fst = el.children tag := by
  calc (childTwins el tag).map Prod.fst
    _ = ((twins el.nodes).map Prod.fst).filter fun node => node.tag = some tag := by
      rw [List.filter_map]
      rfl
    _ = el.children tag := by
      rw [twins_fst, List.filter_filter, Node.children]
      refine List.filter_congr fun node _ => ?_
      cases node <;> simp [Node.tag]

theorem childTwins_snd {el : Node} {element : Element} (same : element.nodes = plainEach el.nodes)
    (tag : String) : (childTwins el tag).map Prod.snd = children element tag := by
  have tags : childTwins el tag = (twins el.nodes).filter fun twin => twin.2.tag = tag := by
    refine List.filter_congr fun twin member => ?_
    simp only [(twin_spec member).1, Option.some.injEq]
  rw [tags, children, same, ← twins_snd, List.filter_map]
  rfl

theorem head_childTwins_fst (el : Node) (tag : String) :
    (childTwins el tag).head?.map Prod.fst = el.find [tag] := by
  rw [← List.head?_map, childTwins_fst, Node.find, Node.findall]
  simp

theorem head_childTwins_snd {el : Node} {element : Element}
    (same : element.nodes = plainEach el.nodes) (tag : String) :
    (childTwins el tag).head?.map Prod.snd = element.find tag := by
  rw [← List.head?_map, childTwins_snd same, children, List.head?_filter]
  rfl

/-- An element that may be missing, as both libraries have it. -/
def Twinned (el : Option (Node × Element)) : Prop :=
  ∀ twin ∈ el, twin.2.nodes = plainEach twin.1.nodes

theorem twinned_head (el : Node) (tag : String) : Twinned (childTwins el tag).head? :=
  fun _ found => (twin_spec (List.mem_of_mem_filter (List.mem_of_head? found))).2

theorem childTwinsIn_fst (el : Option (Node × Element)) (tag : String) :
    (childTwinsIn el tag).map Prod.fst = (el.map Prod.fst).elim [] fun el => el.children tag := by
  cases el with
  | none => rfl
  | some twin => exact childTwins_fst twin.1 tag

theorem childTwinsIn_snd {el : Option (Node × Element)} (twinned : Twinned el) (tag : String) :
    (childTwinsIn el tag).map Prod.snd = childrenIn (el.map Prod.snd) tag := by
  cases el with
  | none => rfl
  | some twin => exact childTwins_snd (twinned twin rfl) tag

/-! ### Rules and the elements they are parsed from -/

def ruleTwins (root : Node) : List (Node × Element) :=
  childTwinsIn (childTwins root "filter").head? "rule"

theorem parseFirewall_tree (rt : Runtime) (root : Node) :
    parseFirewall rt root.tree = (ruleTwins root).map fun twin => firewallRule rt twin.2 := by
  rw [parseFirewall, ← head_childTwins_snd (tree_nodes root),
    ← childTwinsIn_snd (twinned_head root "filter"), List.map_map]
  rfl

def natTwin (root : Node) : Option (Node × Element) :=
  (childTwins root "nat").head?

def outboundTwin (root : Node) : Option (Node × Element) :=
  (natTwin root).bind fun nat => (childTwins nat.1 "outbound").head?

/-- The NAT rules that the second walk visits. -/
def walkedTwins (root : Node) : List (NatKind × Node × Element) :=
  (childTwinsIn (natTwin root) "rule").map (Prod.mk .portForward) ++
    (childTwinsIn (natTwin root) "onetoone").map (Prod.mk .oneToOne) ++
    (childTwinsIn (outboundTwin root) "rule").map (Prod.mk .outbound)

def nptTwins (root : Node) : List (NatKind × Node × Element) :=
  (childTwinsIn (natTwin root) "npt").map (Prod.mk .npt)

theorem twinned_outbound (root : Node) : Twinned (outboundTwin root) := by
  intro twin found
  obtain ⟨nat, -, found⟩ := Option.bind_eq_some_iff.mp found
  exact twinned_head nat.1 "outbound" twin found

theorem outboundTwin_snd (root : Node) :
    (outboundTwin root).map Prod.snd = findIn (root.tree.find "nat") "outbound" := by
  rw [← head_childTwins_snd (tree_nodes root), outboundTwin, findIn, natTwin]
  cases found : (childTwins root "nat").head? with
  | none => rfl
  | some nat =>
    exact head_childTwins_snd (twinned_head root "nat" nat found) "outbound"

theorem natElements_tree (root : Node) :
    natElements root.tree =
      (walkedTwins root ++ nptTwins root).map fun rule => (rule.1, rule.2.2) := by
  have nat := head_childTwins_snd (tree_nodes root) "nat"
  have listed : ∀ tag, childrenIn (root.tree.find "nat") tag =
      (childTwinsIn (natTwin root) tag).map Prod.snd := by
    intro tag
    rw [natTwin, childTwinsIn_snd (twinned_head root "nat"), nat]
  have wrapped : childrenIn (findIn (root.tree.find "nat") "outbound") "rule" =
      (childTwinsIn (outboundTwin root) "rule").map Prod.snd := by
    rw [childTwinsIn_snd (twinned_outbound root), outboundTwin_snd]
  simp [natElements, walkedTwins, nptTwins, listed, wrapped, Function.comp_def]

theorem parseNat_tree (rt : Runtime) (root : Node) :
    parseNat rt root.tree =
      (walkedTwins root ++ nptTwins root).map fun rule => natRule rt rule.1 rule.2.2 := by
  rw [parseNat_eq, natElements_tree, List.map_map]
  rfl

/-- The elements of the firewall rules with the keys of the rules parsed from them. -/
def ruleRows (rt : Runtime) (root : Node) : List (Node × String) :=
  (ruleTwins root).map fun twin => (twin.1, keyText (firewallRule rt twin.2))

def keyedNat (rt : Runtime) (twins : List (NatKind × Node × Element)) : List (Node × String) :=
  twins.map fun rule => (rule.2.1, keyText (natRule rt rule.1 rule.2.2))

/-- The elements of the NAT rules with the keys of the rules parsed from them. -/
def natRows (rt : Runtime) (root : Node) : List (Node × String) :=
  keyedNat rt (walkedTwins root ++ nptTwins root)

/-! ### Entries and their lines -/

/-- The entries of keyed elements. -/
def entries (kind : String) (rows : List (Node × String)) : LineMap :=
  rows.map fun row => entryOf (anchorId "xref" kind (safe row.2)) row.1

/-- The line of the last row with a key. -/
def lineOf (rows : List (Node × String)) (key : String) : Option Nat :=
  (lastBy Prod.snd rows key).map fun row => row.1.start

/-- The line of the last row with a key that looks the same in an anchor id. -/
def shownLine (rows : List (Node × String)) (key : String) : Option Nat :=
  (lastBy (fun row => safe row.2) rows (safe key)).map fun row => row.1.start

/-- Every rule has an entry, at the line of the last rule with its key. -/
def Placed (positions : LineMap) (kind : String) (rows : List (Node × String)) : Prop :=
  ∀ row ∈ rows, ∃ line, lineOf rows row.2 = some line ∧
    (positions.get (anchorId "xref" kind (safe row.2))).map Prod.fst = some line

theorem lineOf_isSome {rows : List (Node × String)} {row : Node × String} (member : row ∈ rows) :
    ∃ line, lineOf rows row.2 = some line := by
  have listed : row.2 ∈ keys Prod.snd rows := mem_keys.mpr ⟨row, member, rfl⟩
  obtain ⟨last, found⟩ := lastBy_isSome listed
  exact ⟨last.1.start, by rw [lineOf, found, Option.map_some]⟩

theorem get_entries (kind key : String) (rows : List (Node × String)) :
    ((entries kind rows).get (anchorId "xref" kind (safe key))).map Prod.fst =
      shownLine rows key := by
  have ids : lastBy (fun row : Node × String => anchorId "xref" kind (safe row.2)) rows
      (anchorId "xref" kind (safe key)) = lastBy (fun row => safe row.2) rows (safe key) := by
    rw [lastBy, lastBy]
    congr 1
    refine List.filter_congr fun row _ => ?_
    simp [anchorId]
  rw [LineMap.get, entries, lastBy_map, shownLine, ← ids]
  simp [entryOf, Option.map_map, Function.comp_def]

/-- The last element that looks like a rule in an anchor id stands on the line of the last rule
with the rule's key. -/
def LandsOn (named rows : List (Node × String)) : Prop :=
  ∀ row ∈ rows, shownLine named row.2 = lineOf rows row.2

theorem placed_entries_iff {kind : String} {named rows : List (Node × String)} :
    Placed (entries kind named) kind rows ↔ LandsOn named rows := by
  constructor
  · intro placed row member
    obtain ⟨line, spec, found⟩ := placed row member
    rw [← get_entries kind, found, spec]
  · intro lands row member
    obtain ⟨line, spec⟩ := lineOf_isSome member
    exact ⟨line, spec, by rw [get_entries, lands row member, spec]⟩

/-- Keys that look the same in an anchor id have their last rules on one line. -/
def LinesAgree (rows : List (Node × String)) : Prop :=
  ∀ row ∈ rows, ∀ other ∈ rows, safe row.2 = safe other.2 →
    lineOf rows row.2 = lineOf rows other.2

theorem landsOn_self {rows : List (Node × String)} : LandsOn rows rows ↔ LinesAgree rows := by
  constructor
  · intro lands row member other member' same
    rw [← lands row member, ← lands other member', shownLine, shownLine, same]
  · intro agree row member
    have listed : safe row.2 ∈ keys (fun row : Node × String => safe row.2) rows :=
      mem_keys.mpr ⟨row, member, rfl⟩
    obtain ⟨last, found⟩ := lastBy_isSome listed
    obtain ⟨inside, same⟩ := lastBy_spec found
    have own : lastBy Prod.snd rows last.2 = some last := lastBy_of_comp found
    rw [agree row member last inside same.symm, shownLine, found, lineOf, own]

/-! ### The map that is built -/

/-- The port forwards that name a tracker, with it. -/
def strays (root : Node) : List (Node × String) :=
  ((root.find ["nat"]).elim [] fun n_el => n_el.children "rule").filterMap fun el =>
    (el.findtext "tracker").map fun tracker => (el, tracker)

theorem keyedAnchors_eq (kind key_tag : String) (els : List Node) :
    keyedAnchors kind key_tag els =
      entries kind (els.filterMap fun el => (el.findtext key_tag).map fun key => (el, key)) := by
  rw [keyedAnchors, entries, List.map_filterMap]
  simp [Option.map_map, Function.comp_def]

theorem pairedAnchors_eq {model : Model} {α : Type} (kind : String) (twins : List α)
    (node : α → Node) (row : α → Row model) :
    pairedAnchors kind (twins.map node) (twins.map row) =
      entries kind (twins.map fun twin => (node twin, keyText (row twin))) := by
  rw [pairedAnchors, entries, List.zip_map', List.map_map, List.map_map]
  rfl

section Built

variable {rt : Runtime} {root : Node} {parsed : Config.ParsedConfig}

theorem ruleAnchors_eq (rules : parsed.firewallRules = parseFirewall rt root.tree) :
    ruleAnchors root (some parsed) = entries "rule" (ruleRows rt root) := by
  have els : (ruleTwins root).map Prod.fst =
      (root.find ["filter"]).elim [] fun f_el => f_el.children "rule" := by
    rw [ruleTwins, childTwinsIn_fst, head_childTwins_fst]
  rw [ruleRows, ← pairedAnchors_eq "rule" (ruleTwins root) Prod.fst fun twin => firewallRule rt twin.2,
    els, ← parseFirewall_tree, ← rules, ruleAnchors]
  cases found : root.find ["filter"] with
  | none => simp [pairedAnchors]
  | some f_el =>
    have lengths : parsed.firewallRules.length = (f_el.children "rule").length := by
      rw [rules, parseFirewall_tree, List.length_map, ← List.length_map, els, found]
      rfl
    exact if_pos lengths

theorem natEls_eq (root : Node) :
    (walkedTwins root).map (fun rule => rule.2.1) = (root.find ["nat"]).elim [] natEls := by
  have nat := head_childTwins_fst root "nat"
  have wrapped : (outboundTwin root).map Prod.fst =
      (root.find ["nat"]).bind fun n_el => n_el.find ["outbound"] := by
    rw [← nat, outboundTwin, natTwin]
    cases (childTwins root "nat").head? with
    | none => rfl
    | some twin => exact head_childTwins_fst twin.1 "outbound"
  have listed : ∀ tag, (childTwinsIn (natTwin root) tag).map Prod.fst =
      (root.find ["nat"]).elim [] fun n_el => n_el.children tag := by
    intro tag
    rw [natTwin, childTwinsIn_fst, nat]
  simp only [walkedTwins, List.map_append, List.map_map, Function.comp_def]
  rw [show (fun twin : Node × Element => twin.1) = Prod.fst from rfl, listed, listed,
    childTwinsIn_fst, wrapped]
  cases root.find ["nat"] <;> rfl

theorem nptTwins_of_absent (absent : root.find ["nat"] = none) : nptTwins root = [] := by
  have nat := head_childTwins_fst root "nat"
  rw [absent, Option.map_eq_none_iff] at nat
  rw [nptTwins, natTwin, nat]
  rfl

/-- Any NPt entry upsets the pairing, and only trackers are left to stand for the rules. -/
theorem natAnchors_eq (rules : parsed.natRules = parseNat rt root.tree) :
    natAnchors root (some parsed) =
      if nptTwins root = [] then entries "nat" (natRows rt root)
      else entries "nat" (strays root) := by
  have els := natEls_eq root
  have count : parsed.natRules.length = (walkedTwins root).length + (nptTwins root).length := by
    rw [rules, parseNat_tree, List.length_map, List.length_append]
  cases found : root.find ["nat"] with
  | none =>
    rw [found, Option.elim_none, List.map_eq_nil_iff] at els
    rw [if_pos (nptTwins_of_absent found), natRows, els, nptTwins_of_absent found]
    simp [natAnchors, found, keyedNat, entries]
  | some n_el =>
    rw [found, Option.elim_some] at els
    have walked : (natEls n_el).length = (walkedTwins root).length := by
      rw [← els, List.length_map]
    by_cases free : nptTwins root = []
    · have lengths : parsed.natRules.length = (natEls n_el).length := by
        rw [count, walked, free, List.length_nil, Nat.add_zero]
      simp only [natAnchors, found, if_pos free, if_pos lengths]
      rw [natRows, free, List.append_nil, ← els, rules, parseNat_tree, free, List.append_nil]
      exact pairedAnchors_eq "nat" (walkedTwins root) _ _
    · have lengths : parsed.natRules.length ≠ (natEls n_el).length := by
        have some_npt := List.length_pos_of_ne_nil free
        omega
      simp only [natAnchors, found, if_neg free, if_neg lengths]
      rw [keyedAnchors_eq, strays, found]
      rfl

end Built

/-! ### Ids of other anchors -/

/-- None of the entries has an id of the kind. -/
def Foreign (kind : String) (positions : LineMap) : Prop :=
  ∀ entry ∈ positions, ∀ key, entry.1 ≠ anchorId "xref" kind key

theorem Foreign.get_append {kind : String} {later : LineMap} (foreign : Foreign kind later)
    (positions : LineMap) (key : String) :
    (positions ++ later : LineMap).get (anchorId "xref" kind key) =
      positions.get (anchorId "xref" kind key) := by
  have absent : lastBy Prod.fst later (anchorId "xref" kind key) = none := by
    refine lastBy_eq_none fun member => ?_
    obtain ⟨entry, inside, same⟩ := mem_keys.mp member
    exact foreign entry inside key same
  rw [LineMap.get, lastBy_append, absent, Option.none_or, LineMap.get]

theorem Foreign.append_get {kind : String} {positions : LineMap}
    (foreign : Foreign kind positions) (later : LineMap) (key : String) :
    (positions ++ later : LineMap).get (anchorId "xref" kind key) =
      later.get (anchorId "xref" kind key) := by
  have absent : lastBy Prod.fst positions (anchorId "xref" kind key) = none := by
    refine lastBy_eq_none fun member => ?_
    obtain ⟨entry, inside, same⟩ := mem_keys.mp member
    exact foreign entry inside key same
  rw [LineMap.get, lastBy_append, absent, Option.or_none, LineMap.get]

theorem Foreign.append {kind : String} {first second : LineMap} (left : Foreign kind first)
    (right : Foreign kind second) : Foreign kind (first ++ second) := by
  intro entry member
  rcases List.mem_append.mp member with inside | inside
  · exact left entry inside
  · exact right entry inside

theorem Foreign.flatMap {α : Type} {kind : String} {items : List α} {f : α → LineMap}
    (each : ∀ item ∈ items, Foreign kind (f item)) : Foreign kind (items.flatMap f) := by
  intro entry member
  obtain ⟨item, listed, inside⟩ := List.mem_flatMap.mp member
  exact each item listed entry inside

/-- An id of another space or scope is not of the kind. -/
theorem anchorId_ne {space scope kind : String} (plainSpace : dashless space = true)
    (plain : dashless scope = true) (plain' : dashless kind = true)
    (apart : space ≠ "xref" ∨ scope ≠ kind) (tail key : String) :
    anchorId space scope tail ≠ anchorId "xref" kind key := by
  intro same
  obtain ⟨spaces, scopes, -⟩ := anchorId_inj plainSpace (by decide) plain plain' same
  rcases apart with apart | apart
  · exact apart spaces
  · exact apart scopes

theorem foreign_entries {kind other : String} (plain : dashless other = true)
    (plain' : dashless kind = true) (apart : other ≠ kind) (rows : List (Node × String)) :
    Foreign kind (entries other rows) := by
  intro entry member key
  obtain ⟨row, -, rfl⟩ := List.mem_map.mp member
  exact anchorId_ne (by decide) plain plain' (.inr apart) _ _

theorem foreign_kinds {kind : String} (plain : dashless kind = true)
    (apart : ∀ anchor ∈ kindAnchors, anchor.1 ≠ kind) (root : Node) :
    Foreign kind (kindAnchors.flatMap fun (kind, path, key_tag) =>
      keyedAnchors kind key_tag (root.findall path)) := by
  have dashes : ∀ anchor ∈ kindAnchors, dashless anchor.1 = true := by decide
  refine Foreign.flatMap fun anchor listed => ?_
  simp only [keyedAnchors_eq]
  exact foreign_entries (dashes anchor listed) plain (apart anchor listed) _

theorem foreign_interfaces {kind : String} (plain : dashless kind = true)
    (apart : "interface" ≠ kind) (root : Node) : Foreign kind (interfaceAnchors root) := by
  intro entry member key
  obtain ⟨iface, -, found⟩ := List.mem_filterMap.mp member
  obtain ⟨tag, -, rfl⟩ := Option.map_eq_some_iff.mp found
  exact anchorId_ne (by decide) (by decide) plain (.inr apart) _ _

theorem foreign_children {kind section_ : String} (plain : dashless section_ = true)
    (plain' : dashless kind = true) (el : Node) : Foreign kind (childAnchors section_ el) := by
  intro entry member key
  obtain ⟨child, -, found⟩ := List.mem_filterMap.mp member
  obtain ⟨tag, -, rfl⟩ := Option.map_eq_some_iff.mp found
  exact anchorId_ne (by decide) plain plain' (.inl (by decide)) _ _

theorem foreign_singletons {kind : String} (plain : dashless kind = true) (root : Node) :
    Foreign kind (singletonAnchors root) := by
  have dashes : ∀ entry ∈ singletonSections, dashless entry.1 = true := by decide
  refine Foreign.flatMap fun (section_, path, inner_paths) listed => ?_
  have dash := dashes _ listed
  cases found : root.find path with
  | none =>
    intro entry member
    simp [found] at member
  | some el =>
    simp only [found]
    refine Foreign.append ?_ (Foreign.flatMap fun inner_path _ => ?_)
    · intro entry member key
      rcases List.mem_cons.mp member with rfl | inside
      · intro same
        have chars := congrArg (fun text => text.toList.head?) same
        simp [entryOf, anchorId] at chars
      · exact foreign_children dash plain el entry inside key
    · cases el.find [inner_path] with
      | none => exact fun entry member => absurd member List.not_mem_nil
      | some inner => exact foreign_children dash plain inner

/-! ### Where the rules stand -/

/-- The entries of rules are those of the walk over the rules. -/
theorem get_built {kind : String} (listed : kind = "rule" ∨ kind = "nat") (root : Node)
    (parsed : Option Config.ParsedConfig) (key : String) :
    (buildPositions root parsed).get (anchorId "xref" kind key) =
      (ruleAnchors root parsed ++ natAnchors root parsed : LineMap).get
        (anchorId "xref" kind key) := by
  have plain : dashless kind = true := by
    rcases listed with rfl | rfl <;> decide
  have kinds : ∀ anchor ∈ kindAnchors, anchor.1 ≠ kind := by
    rcases listed with rfl | rfl <;> decide
  have interface : "interface" ≠ kind := by
    rcases listed with rfl | rfl <;> decide
  rw [buildPositions, (foreign_singletons plain root).get_append,
    (foreign_interfaces plain interface root).get_append,
    (foreign_kinds plain kinds root).get_append]

theorem placed_congr {kind : String} {positions other : LineMap} (rows : List (Node × String))
    (same : ∀ key, positions.get (anchorId "xref" kind key) =
      other.get (anchorId "xref" kind key)) :
    Placed positions kind rows ↔ Placed other kind rows := by
  simp only [Placed, same]

/-- The rules of a config have their entries at their lines exactly if keys that look the same
in an anchor id have their last rules on one line and no NPt entry upsets the walk over the NAT
rules; with one, the last port forward whose tracker looks like a rule's key would have to stand
on the rule's line. -/
theorem positions_exact (rt : Runtime) {root : Node} {parsed : Config.ParsedConfig}
    (parses : PfsenseParser.parse rt root.tree = some parsed) :
    parsed.firewallRules.map keyText = (ruleRows rt root).map Prod.snd ∧
      parsed.natRules.map keyText = (natRows rt root).map Prod.snd ∧
      (Placed (buildPositions root (some parsed)) "rule" (ruleRows rt root) ∧
        Placed (buildPositions root (some parsed)) "nat" (natRows rt root) ↔
          LinesAgree (ruleRows rt root) ∧
            if nptTwins root = [] then LinesAgree (natRows rt root)
            else LandsOn (strays root) (natRows rt root)) := by
  obtain ⟨revision, -, rfl⟩ := Option.map_eq_some_iff.mp parses
  have firewall : (PfsenseParser.parseUndated rt root.tree revision).firewallRules =
      parseFirewall rt root.tree := rfl
  have nat : (PfsenseParser.parseUndated rt root.tree revision).natRules =
      parseNat rt root.tree := rfl
  have rule_entries := ruleAnchors_eq firewall
  have nat_entries := natAnchors_eq nat
  refine ⟨?_, ?_, ?_⟩
  · rw [firewall, parseFirewall_tree, ruleRows, List.map_map, List.map_map]
    rfl
  · rw [nat, parseNat_tree, natRows, keyedNat, List.map_map, List.map_map]
    rfl
  · have rules := placed_congr (ruleRows rt root) fun key => (get_built (.inl rfl) root
      (some (PfsenseParser.parseUndated rt root.tree revision)) key).trans
        (Foreign.get_append (by
          rw [nat_entries]
          split <;> exact foreign_entries (by decide) (by decide) (by decide) _) _ key)
    have nats := placed_congr (natRows rt root) fun key => (get_built (.inr rfl) root
      (some (PfsenseParser.parseUndated rt root.tree revision)) key).trans
        (Foreign.append_get (by
          rw [rule_entries]
          exact foreign_entries (by decide) (by decide) (by decide) _) _ key)
    rw [rules, nats, rule_entries, nat_entries, placed_entries_iff, landsOn_self]
    split
    · rw [placed_entries_iff, landsOn_self]
    · rw [placed_entries_iff]

/-- A config with a port forward and an NPt entry, each on a line of its own. -/
def mixedNat : Node :=
  .element (some 1) "pfsense" none [.element (some 2) "nat" none [
    .element (some 3) "rule" none [.element (some 4) "interface" (some "wan") [] [] none] [] none,
    .element (some 6) "npt" none [.element (some 7) "interface" (some "wan") [] [] none] [] none]
    [] none] [] none

def mixedParsed : Config.ParsedConfig :=
  PfsenseParser.parseUndated Secrecy.asciiRuntime mixedNat.tree none

theorem mixedNat_built : buildPositions mixedNat (some mixedParsed) = [] := rfl

/-- Neither rule of the config has an entry. -/
theorem mixedNat_lost :
    PfsenseParser.parse Secrecy.asciiRuntime mixedNat.tree = some mixedParsed ∧
      (natRows Secrecy.asciiRuntime mixedNat).length = 2 ∧
      ¬Placed (buildPositions mixedNat (some mixedParsed)) "nat"
        (natRows Secrecy.asciiRuntime mixedNat) := by
  refine ⟨rfl, rfl, fun placed => ?_⟩
  obtain ⟨line, -, found⟩ := placed _ (List.head_mem (List.cons_ne_nil _ _))
  rw [mixedNat_built] at found
  cases found

theorem positions_exact_mixed :
    PfsenseParser.parse Secrecy.asciiRuntime mixedNat.tree = some mixedParsed ∧
      mixedParsed.firewallRules.map keyText =
        (ruleRows Secrecy.asciiRuntime mixedNat).map Prod.snd ∧
      mixedParsed.natRules.map keyText = (natRows Secrecy.asciiRuntime mixedNat).map Prod.snd ∧
      (Placed (buildPositions mixedNat (some mixedParsed)) "rule"
          (ruleRows Secrecy.asciiRuntime mixedNat) ∧
        Placed (buildPositions mixedNat (some mixedParsed)) "nat"
          (natRows Secrecy.asciiRuntime mixedNat) ↔
        LinesAgree (ruleRows Secrecy.asciiRuntime mixedNat) ∧
          if nptTwins mixedNat = [] then LinesAgree (natRows Secrecy.asciiRuntime mixedNat)
          else LandsOn (strays mixedNat) (natRows Secrecy.asciiRuntime mixedNat)) :=
  ⟨rfl, positions_exact Secrecy.asciiRuntime rfl⟩

end PfsenseBackups.Positions

import PfsenseBackups.Secrecy

/-! The keys of NAT rules, from `nat.py`: what goes into the hash, what a parsed rule keeps,
and when the one identifies the other. -/

namespace PfsenseBackups.NatKeys
open Value Xml Entries Entry PythonText Redaction Models SystemSections NetworkSections Secrecy

/-! ### Texts joined by a separator -/

theorem intercalate_inj {sep : Char} {left right : List String}
    (apart : ∀ text ∈ left, sep ∉ text.toList) (apart' : ∀ text ∈ right, sep ∉ text.toList)
    (filled : left ≠ []) (filled' : right ≠ [])
    (same : (String.singleton sep).intercalate left = (String.singleton sep).intercalate right) :
    left = right := by
  have chars : [sep].intercalate (left.map String.toList) =
      [sep].intercalate (right.map String.toList) := by
    have whole := congrArg String.toList same
    rwa [String.toList_intercalate, String.toList_intercalate, String.toList_singleton] at whole
  have split : ∀ {texts : List String}, (∀ text ∈ texts, sep ∉ text.toList) → texts ≠ [] →
      ([sep].intercalate (texts.map String.toList)).splitOn sep = texts.map String.toList := by
    intro texts apart filled
    refine List.splitOn_intercalate sep (fun chars member => ?_) (by simpa using filled)
    obtain ⟨text, listed, rfl⟩ := List.mem_map.mp member
    exact apart text listed
  have parts : left.map String.toList = right.map String.toList := by
    rw [← split apart filled, chars, split apart' filled']
  exact List.map_injective_iff.mpr (fun _ _ => String.toList_inj.mp) parts

/-- A cut at a separator is known by how many separators stand before it. -/
theorem append_cons_inj {sep : Char} {first second rest rest' : List Char}
    (same : first ++ sep :: rest = second ++ sep :: rest')
    (bars : first.count sep = second.count sep) : first = second ∧ rest = rest' := by
  induction first generalizing second with
  | nil =>
    cases second with
    | nil => exact ⟨rfl, by simpa using same⟩
    | cons char second =>
      simp only [List.nil_append, List.cons_append, List.cons.injEq] at same
      simp [← same.1] at bars
  | cons char first ih =>
    cases second with
    | nil =>
      simp only [List.nil_append, List.cons_append, List.cons.injEq] at same
      simp [same.1] at bars
    | cons other second =>
      simp only [List.cons_append, List.cons.injEq] at same
      obtain ⟨rfl, same⟩ := same
      rw [List.count_cons, List.count_cons] at bars
      obtain ⟨firsts, rests⟩ := ih same (by omega)
      exact ⟨by rw [firsts], rests⟩

/-! ### The rules of a config -/

inductive NatKind where
  | portForward | oneToOne | outbound | npt
  deriving DecidableEq, Repr

def NatKind.name : NatKind → String
  | .portForward => "port_forward"
  | .oneToOne => "one_to_one"
  | .outbound => "outbound"
  | .npt => "npt"

theorem NatKind.name_injective : Function.Injective NatKind.name := by
  intro kind other same
  cases kind <;> cases other <;> first | rfl | exact absurd same (by decide)

/-- The row of a rule's element. -/
def natRule (rt : Runtime) : NatKind → Element → Row NatRule
  | .portForward => portForward rt
  | .oneToOne => oneToOne rt
  | .outbound => outbound rt
  | .npt => npt rt

/-- The elements that `parse` visits, each with its kind. -/
def natElements (root : Element) : List (NatKind × Element) :=
  let nat := root.find "nat"
  (childrenIn nat "rule").map (Prod.mk .portForward) ++
    (childrenIn nat "onetoone").map (Prod.mk .oneToOne) ++
    (childrenIn (findIn nat "outbound") "rule").map (Prod.mk .outbound) ++
    (childrenIn nat "npt").map (Prod.mk .npt)

theorem parseNat_eq (rt : Runtime) (root : Element) :
    parseNat rt root = (natElements root).map fun rule => natRule rt rule.1 rule.2 := by
  simp [parseNat, natElements, natRule, Function.comp_def]

/-- `rule.key` -/
def keyOf (row : Row NatRule) : Val :=
  Dict.get row.dump "key"

/-- The fields that make a rule the rule it is. -/
def identity (row : Row NatRule) : List Val :=
  ["kind", "interface", "protocol", "source", "destination", "target", "local_port"].map
    (Dict.get row.dump)

/-! ### The characters of XML -/

/-- XML 1.0 allows no other character below the blank than these three. -/
def xmlChar (char : Char) : Prop :=
  char = '\t' ∨ char = '\n' ∨ char = '\r' ∨ ' ' ≤ char

mutual

/-- The texts of an element and of all below it are made of XML's characters. -/
def XmlTexts : Element → Prop
  | .mk _ content nodes _ _ => (∀ text ∈ content, ∀ char ∈ text.toList, xmlChar char) ∧
      XmlTextsEach nodes

def XmlTextsEach : List Element → Prop
  | [] => True
  | node :: rest => XmlTexts node ∧ XmlTextsEach rest

end

theorem XmlTextsEach.of_mem {nodes : List Element} (texts : XmlTextsEach nodes) {el : Element}
    (member : el ∈ nodes) : XmlTexts el := by
  induction nodes with
  | nil => cases member
  | cons node rest ih =>
    rcases List.mem_cons.mp member with rfl | later
    · exact texts.1
    · exact ih texts.2 later

theorem XmlTexts.of_mem {parent el : Element} (texts : XmlTexts parent)
    (member : el ∈ parent.nodes) : XmlTexts el := by
  cases parent
  exact texts.2.of_mem member

theorem XmlTexts.of_find {parent el : Element} {tag : String} (texts : XmlTexts parent)
    (found : parent.find tag = some el) : XmlTexts el :=
  texts.of_mem (List.mem_of_find?_eq_some found)

theorem XmlTexts.of_mem_childrenIn {parent : Option Element} {el : Element} {tag : String}
    (texts : ∀ above ∈ parent, XmlTexts above) (member : el ∈ childrenIn parent tag) :
    XmlTexts el := by
  cases parent with
  | none => cases member
  | some above => exact (texts above rfl).of_mem (List.mem_of_mem_filter member)

theorem XmlTexts.text {el : Element} (texts : XmlTexts el) (tag : String) :
    ∀ char ∈ ((Xml.text el tag).getD "").toList, xmlChar char := by
  intro char member
  cases found : el.find tag with
  | none => simp [Xml.text, found] at member
  | some sub =>
    have inner := texts.of_find found
    cases sub with
    | mk _ content _ _ _ =>
      cases content with
      | none => simp [Xml.text, found, Element.content] at member
      | some text =>
        refine inner.1 text rfl char ?_
        simpa [Xml.text, found, Element.content] using member

/-- The rules of a config that is XML are XML. -/
theorem XmlTexts.of_mem_natElements {root : Element} (texts : XmlTexts root)
    {rule : NatKind × Element} (listed : rule ∈ natElements root) : XmlTexts rule.2 := by
  have nat : ∀ above ∈ root.find "nat", XmlTexts above := fun _ found => texts.of_find found
  have wrapped : ∀ above ∈ findIn (root.find "nat") "outbound", XmlTexts above := by
    intro above found
    obtain ⟨el, inside, found⟩ := Option.bind_eq_some_iff.mp found
    exact (nat el inside).of_find found
  simp only [natElements, List.mem_append, List.mem_map] at listed
  rcases listed with ((⟨el, inside, rfl⟩ | ⟨el, inside, rfl⟩) | ⟨el, inside, rfl⟩) |
      ⟨el, inside, rfl⟩
  · exact XmlTexts.of_mem_childrenIn nat inside
  · exact XmlTexts.of_mem_childrenIn nat inside
  · exact XmlTexts.of_mem_childrenIn wrapped inside
  · exact XmlTexts.of_mem_childrenIn nat inside

/-! ### Endpoints -/

/-- The blob of an endpoint, in which a missing endpoint looks like an empty one. -/
def shown (el : Option Element) : String :=
  "|".intercalate [if flagIn el "any" then "any" else "", (textIn el "network").getD "",
    (textIn el "address").getD "", (textIn el "port").getD "", if flagIn el "not" then "not" else ""]

/-- The separators in a text. -/
def bars (text : Option String) : Nat :=
  (text.getD "").toList.count '|'

/-- What an endpoint's blob does not tell: which empty fields are missing, and which
separators belong to a field. -/
def unshown (el : Option Element) : List Val :=
  ["network", "address", "port"].map (fun tag => .bool (textIn el tag).isSome) ++
    ["network", "address"].map fun tag => .int (bars (textIn el tag))

theorem endpoint_dump (el : Option Element) :
    (endpoint el).dump = [("any_", .bool (flagIn el "any")),
      ("network", .optional (textIn el "network")), ("address", .optional (textIn el "address")),
      ("port", .optional (textIn el "port")), ("not_", .bool (flagIn el "not"))] := by
  cases el <;> rfl

theorem endpointBlob_eq (el : Option Element) :
    endpointBlob el = if el.isSome then shown el else "" := by
  cases el <;> rfl

theorem shown_ne_empty (el : Option Element) : shown el ≠ "" := by
  intro empty
  have chars := congrArg String.toList empty
  simp [shown] at chars

/-- The blob tells what it shows and whether there is an endpoint at all. -/
theorem endpointBlob_inj {el other : Option Element} :
    endpointBlob el = endpointBlob other ↔
      shown el = shown other ∧ el.isSome = other.isSome := by
  rw [endpointBlob_eq, endpointBlob_eq]
  cases el <;> cases other <;> simp [shown_ne_empty, Ne.symm (shown_ne_empty _)]

theorem shown_toList (el : Option Element) : (shown el).toList =
    (if flagIn el "any" then "any" else "").toList ++ '|' ::
      (((textIn el "network").getD "").toList ++ '|' ::
        (((textIn el "address").getD "").toList ++ '|' ::
          (((textIn el "port").getD "").toList ++ '|' ::
            (if flagIn el "not" then "not" else "").toList))) := by
  simp [shown]

theorem flagText_inj {text : String} (filled : text ≠ "") {flag other : Bool}
    (same : (if flag then text else "").toList = (if other then text else "").toList) :
    flag = other := by
  cases flag <;> cases other <;> simp_all

/-- With the cuts known, the blob gives back the fields, empty or missing. -/
theorem fields_of_shown {el other : Option Element} (same : shown el = shown other)
    (network : bars (textIn el "network") = bars (textIn other "network"))
    (address : bars (textIn el "address") = bars (textIn other "address")) :
    flagIn el "any" = flagIn other "any" ∧ flagIn el "not" = flagIn other "not" ∧
      ∀ tag ∈ ["network", "address", "port"],
        (textIn el tag).getD "" = (textIn other tag).getD "" := by
  have chars := congrArg String.toList same
  rw [shown_toList, shown_toList] at chars
  have plain : ∀ flag : Bool, (if flag then "any" else "").toList.count '|' = 0 := by decide
  have plain' : ∀ flag : Bool, (if flag then "not" else "").toList.count '|' = 0 := by decide
  obtain ⟨first, chars⟩ := append_cons_inj chars ((plain _).trans (plain _).symm)
  obtain ⟨second, chars⟩ := append_cons_inj chars network
  obtain ⟨third, chars⟩ := append_cons_inj chars address
  have last : bars (textIn el "port") = bars (textIn other "port") := by
    have total := congrArg (List.count '|') chars
    simp only [List.count_append, List.count_cons_self, plain'] at total
    exact Nat.add_right_cancel total
  obtain ⟨fourth, fifth⟩ := append_cons_inj chars last
  refine ⟨flagText_inj (by decide) first, flagText_inj (by decide) fifth, ?_⟩
  simp only [List.forall_mem_cons, List.not_mem_nil, false_imp_iff, implies_true, and_true]
  exact ⟨String.toList_inj.mp second, String.toList_inj.mp third, String.toList_inj.mp fourth⟩

theorem option_ext {text other : Option String} (filled : text.isSome = other.isSome)
    (same : text.getD "" = other.getD "") : text = other := by
  cases text <;> cases other <;> simp_all

/-- A parsed endpoint is what its blob shows together with what the blob does not tell. -/
theorem endpoint_inj {el other : Option Element} :
    (endpoint el).dump = (endpoint other).dump ↔
      shown el = shown other ∧ unshown el = unshown other := by
  rw [endpoint_dump, endpoint_dump]
  constructor
  · intro same
    simp only [List.cons.injEq, Prod.mk.injEq, true_and, and_true, Val.bool.injEq,
      Val.optional_injective.eq_iff] at same
    obtain ⟨any, network, address, port, negated⟩ := same
    simp [shown, unshown, any, network, address, port, negated]
  · rintro ⟨same, untold⟩
    simp only [unshown, List.map_cons, List.map_nil, List.cons_append, List.nil_append,
      List.cons.injEq, Val.bool.injEq, Val.int.injEq, Int.natCast_inj, and_true] at untold
    obtain ⟨network, address, port, networkBars, addressBars⟩ := untold
    obtain ⟨any, negated, texts⟩ := fields_of_shown same networkBars addressBars
    simp only [List.forall_mem_cons, List.not_mem_nil, false_imp_iff, implies_true,
      and_true] at texts
    rw [any, negated, option_ext network texts.1, option_ext address texts.2.1,
      option_ext port texts.2.2]

/-! ### Keys and identities -/

/-- `text(r, tag) or ""` -/
def written (r : Element) (tag : String) : String :=
  (text r tag).getD ""

/-- Which of the fields a rule has, even if empty. -/
def present (r : Element) (tags : List String) : List Val :=
  tags.map fun tag => .bool (boolFlag r tag)

/-- The fields that `_key` joins. -/
def hashedFields (rule : NatKind × Element) : List String :=
  [rule.1.name, written rule.2 "interface", written rule.2 "protocol",
    endpointBlob (rule.2.find "source"), endpointBlob (rule.2.find "destination"),
    written rule.2 "target", written rule.2 "external", written rule.2 "local-port"]

/-- The text that `_key` hashes. -/
def natBlob (rule : NatKind × Element) : String :=
  "\x1f".intercalate (hashedFields rule)

/-- What the key and the row of a rule both tell. -/
def shared : NatKind × Element → List String
  | (.portForward, r) => [NatKind.portForward.name, written r "interface", written r "protocol",
      shown (r.find "source"), shown (r.find "destination"), written r "target",
      written r "local-port"]
  | (.oneToOne, r) => [NatKind.oneToOne.name, written r "interface", shown (r.find "source"),
      shown (r.find "destination"), written r "external"]
  | (.outbound, r) => [NatKind.outbound.name, written r "interface", written r "protocol",
      shown (r.find "source"), shown (r.find "destination"), written r "target"]
  | (.npt, r) => [NatKind.npt.name, written r "interface"]

/-- What the key alone tells: fields that the kind does not have, an empty endpoint. -/
def hashedOnly : NatKind × Element → List Val
  | (.portForward, r) => .str (written r "external") :: present r ["source", "destination"]
  | (.oneToOne, r) => ["protocol", "target", "local-port"].map (fun tag => .str (written r tag)) ++
      present r ["source", "destination"]
  | (.outbound, r) => ["external", "local-port"].map (fun tag => .str (written r tag)) ++
      present r ["source", "destination"]
  | (.npt, r) => ["protocol", "target", "external", "local-port"].map
      (fun tag => .str (written r tag)) ++
      ["source", "destination"].map fun tag => .str (endpointBlob (r.find tag))

/-- The address of an NPt endpoint, which may stand in a field of the rule itself. -/
def nptAddress (r : Element) (tag field : String) : Option String :=
  truthy (orText (textIn (r.find tag) "address") (text r field))

/-- What the row alone tells: which empty fields are missing, how an endpoint's blob is cut,
and the addresses of an NPt rule. -/
def parsedOnly : NatKind × Element → List Val
  | (.portForward, r) => present r ["interface", "protocol", "target", "local-port"] ++
      (unshown (r.find "source") ++ unshown (r.find "destination"))
  | (.oneToOne, r) => present r ["interface", "external"] ++
      (unshown (r.find "source") ++ unshown (r.find "destination"))
  | (.outbound, r) => present r ["interface", "protocol", "target"] ++
      (unshown (r.find "source") ++ unshown (r.find "destination"))
  | (.npt, r) => present r ["interface"] ++ [.optional (nptAddress r "source" "src"),
      .optional (nptAddress r "destination" "dst")]

theorem keyOf_natRule (rt : Runtime) (rule : NatKind × Element) :
    keyOf (natRule rt rule.1 rule.2) = .str ("hash:" ++ take 12 (rt.sha1 (natBlob rule))) := by
  obtain ⟨kind, r⟩ := rule
  cases kind <;> rfl

theorem shared_head (rule : NatKind × Element) : (shared rule).head? = some rule.1.name := by
  obtain ⟨kind, r⟩ := rule
  cases kind <;> rfl

theorem kind_of_shared {rule other : NatKind × Element} (same : shared rule = shared other) :
    rule.1 = other.1 := by
  apply NatKind.name_injective
  apply Option.some.inj
  rw [← shared_head, ← shared_head, same]

theorem hashedFields_inj {rule other : NatKind × Element} :
    hashedFields rule = hashedFields other ↔
      shared rule = shared other ∧ hashedOnly rule = hashedOnly other := by
  obtain ⟨kind, r⟩ := rule
  obtain ⟨kind', r'⟩ := other
  by_cases kinds : kind = kind'
  · subst kinds
    cases kind <;>
      simp only [hashedFields, shared, hashedOnly, present, boolFlag, endpointBlob_inj,
        List.cons.injEq, List.map_cons, List.map_nil, List.cons_append, List.nil_append,
        Val.str.injEq, Val.bool.injEq, true_and, and_true] <;> tauto
  · have names : kind.name ≠ kind'.name := fun same => kinds (NatKind.name_injective same)
    constructor
    · exact fun same => absurd (List.cons.inj same).1 names
    · exact fun both => absurd (kind_of_shared both.1) kinds

theorem unshown_append_inj {el el' other other' : Option Element} :
    unshown el ++ unshown el' = unshown other ++ unshown other' ↔
      unshown el = unshown other ∧ unshown el' = unshown other' := by
  constructor
  · exact fun same => List.append_inj same rfl
  · exact fun both => by rw [both.1, both.2]

theorem text_inj {r other : Element} {tag : String} :
    text r tag = text other tag ↔
      written r tag = written other tag ∧ boolFlag r tag = boolFlag other tag := by
  have flag : ∀ el : Element, boolFlag el tag = (text el tag).isSome := by simp [boolFlag, text]
  rw [flag, flag]
  constructor
  · intro same
    rw [written, written, same]
    exact ⟨rfl, rfl⟩
  · rintro ⟨same, filled⟩
    exact option_ext filled same

theorem identity_natRule (rt : Runtime) (kind : NatKind) (r : Element) :
    identity (natRule rt kind r) = .str kind.name :: .optional (text r "interface") ::
      match kind with
      | .portForward => [.optional (text r "protocol"), .dict (endpoint (r.find "source")).dump,
          .dict (endpoint (r.find "destination")).dump, .optional (text r "target"),
          .optional (text r "local-port")]
      | .oneToOne => [.none, .dict (endpoint (r.find "source")).dump,
          .dict (endpoint (r.find "destination")).dump, .optional (text r "external"), .none]
      | .outbound => [.optional (text r "protocol"), .dict (endpoint (r.find "source")).dump,
          .dict (endpoint (r.find "destination")).dump, .optional (text r "target"), .none]
      | .npt => [.none, .dict (plainEndpoint (nptAddress r "source" "src")).dump,
          .dict (plainEndpoint (nptAddress r "destination" "dst")).dump, .none, .none] := by
  cases kind <;> rfl

theorem plainEndpoint_inj {address other : Option String} :
    (plainEndpoint address).dump = (plainEndpoint other).dump ↔ address = other := by
  constructor
  · intro same
    simpa [plainEndpoint, instance_, opt, Val.optional_injective.eq_iff] using same
  · intro same
    rw [same]

theorem unit_not_xml {text : String} (chars : ∀ char ∈ text.toList, xmlChar char) :
    '\x1f' ∉ text.toList := by
  intro member
  exact absurd (chars _ member) (by simp [xmlChar])

theorem written_apart {r : Element} (xml : XmlTexts r) (tag : String) :
    '\x1f' ∉ (written r tag).toList :=
  unit_not_xml (xml.text tag)

theorem endpointBlob_apart {el : Option Element} (xml : ∀ inner ∈ el, XmlTexts inner) :
    '\x1f' ∉ (endpointBlob el).toList := by
  cases el with
  | none => decide
  | some el =>
    have text : ∀ tag, '\x1f' ∉ ((Xml.text el tag).getD "").toList :=
      fun tag => written_apart (xml el rfl) tag
    have any : ∀ flag : Bool, '\x1f' ∉ (if flag then "any" else "").toList := by decide
    have negated : ∀ flag : Bool, '\x1f' ∉ (if flag then "not" else "").toList := by decide
    rw [endpointBlob_eq, if_pos Option.isSome_some, shown_toList]
    simp [text, any, negated, textIn]

theorem hashedFields_apart {rule : NatKind × Element} (xml : XmlTexts rule.2) :
    ∀ field ∈ hashedFields rule, '\x1f' ∉ field.toList := by
  have name : '\x1f' ∉ rule.1.name.toList := by
    cases rule.1 <;> decide
  have blob : ∀ tag, '\x1f' ∉ (endpointBlob (rule.2.find tag)).toList :=
    fun tag => endpointBlob_apart fun inner found => xml.of_find found
  simp [hashedFields, name, blob, written_apart xml]

theorem natBlob_inj {rule other : NatKind × Element} (xml : XmlTexts rule.2)
    (xml' : XmlTexts other.2) :
    natBlob rule = natBlob other ↔ hashedFields rule = hashedFields other := by
  constructor
  · intro same
    exact intercalate_inj (hashedFields_apart xml) (hashedFields_apart xml')
      (List.cons_ne_nil _ _) (List.cons_ne_nil _ _) same
  · intro same
    rw [natBlob, natBlob, same]

/-- The shortened digests of two texts differ if the texts do. -/
def CollisionFree (rt : Runtime) (text other : String) : Prop :=
  take 12 (rt.sha1 text) = take 12 (rt.sha1 other) → text = other

theorem keyOf_inj (rt : Runtime) {rule other : NatKind × Element} (xml : XmlTexts rule.2)
    (xml' : XmlTexts other.2) (free : CollisionFree rt (natBlob rule) (natBlob other)) :
    keyOf (natRule rt rule.1 rule.2) = keyOf (natRule rt other.1 other.2) ↔
      shared rule = shared other ∧ hashedOnly rule = hashedOnly other := by
  rw [← hashedFields_inj, ← natBlob_inj xml xml', keyOf_natRule, keyOf_natRule, Val.str.injEq,
    String.append_right_inj]
  constructor
  · exact free
  · intro same
    rw [same]

theorem identity_inj (rt : Runtime) {rule other : NatKind × Element} :
    identity (natRule rt rule.1 rule.2) = identity (natRule rt other.1 other.2) ↔
      shared rule = shared other ∧ parsedOnly rule = parsedOnly other := by
  obtain ⟨kind, r⟩ := rule
  obtain ⟨kind', r'⟩ := other
  by_cases kinds : kind = kind'
  · subst kinds
    rw [identity_natRule, identity_natRule]
    cases kind <;>
      simp only [shared, parsedOnly, present, List.cons.injEq, Val.optional_injective.eq_iff,
        Val.dict.injEq, endpoint_inj, plainEndpoint_inj, text_inj, unshown_append_inj, List.map_cons, List.map_nil,
        List.cons_append, List.nil_append, Val.bool.injEq, true_and, and_true] <;> tauto
  · have names : kind.name ≠ kind'.name := fun same => kinds (NatKind.name_injective same)
    constructor
    · intro same
      rw [identity_natRule, identity_natRule] at same
      exact absurd (Val.str.inj (List.cons.inj same).1) names
    · exact fun both => absurd (kind_of_shared both.1) kinds

/-! ### Edits -/

/-- The fields that a key is made of. -/
def keyTags : List String :=
  ["interface", "protocol", "source", "destination", "target", "external", "local-port"]

/-- An edit that leaves these children alone, and may change, add or drop any other. -/
def Keeps (tags : List String) (r edited : Element) : Prop :=
  (r.nodes.filter fun node => node.tag ∈ tags) = edited.nodes.filter fun node => node.tag ∈ tags

theorem Keeps.find {tags : List String} {r edited : Element} (keeps : Keeps tags r edited)
    {tag : String} (listed : tag ∈ tags) : r.find tag = edited.find tag := by
  have kept : ∀ el : Element,
      el.find tag = (el.nodes.filter fun node => node.tag ∈ tags).find? fun node => node.tag = tag := by
    intro el
    rw [List.find?_filter, Element.find]
    congr 1
    funext node
    by_cases same : node.tag = tag <;> simp [same, listed]
  rw [kept r, keeps, ← kept edited]

theorem Keeps.hashedFields {kind : NatKind} {r edited : Element} (keeps : Keeps keyTags r edited) :
    NatKeys.hashedFields (kind, r) = NatKeys.hashedFields (kind, edited) := by
  have field : ∀ tag ∈ keyTags, written r tag = written edited tag := by
    intro tag listed
    rw [written, written, text, text, keeps.find listed]
  have source : r.find "source" = edited.find "source" := keeps.find (by decide)
  have destination : r.find "destination" = edited.find "destination" := keeps.find (by decide)
  simp only [keyTags, List.forall_mem_cons] at field
  obtain ⟨interface, protocol, -, -, target, external, port, -⟩ := field
  simp only [NatKeys.hashedFields, interface, protocol, source, destination, target, external, port]

/-- Of two rules of two configs, equal keys and equal identities go together exactly if the
rules differ in what the key and the row both tell, or agree in what the key alone tells
just when they agree in what the row alone tells. An edit of other fields keeps the key. -/
theorem natKey_exact (rt : Runtime) {root root' : Element} (xml : XmlTexts root)
    (xml' : XmlTexts root') {rule other : NatKind × Element} (listed : rule ∈ natElements root)
    (listed' : other ∈ natElements root')
    (free : CollisionFree rt (natBlob rule) (natBlob other)) :
    ((keyOf (natRule rt rule.1 rule.2) = keyOf (natRule rt other.1 other.2) ↔
        identity (natRule rt rule.1 rule.2) = identity (natRule rt other.1 other.2)) ↔
      (shared rule ≠ shared other ∨
        (hashedOnly rule = hashedOnly other ↔ parsedOnly rule = parsedOnly other))) ∧
    ∀ edited : Element, Keeps keyTags rule.2 edited →
      keyOf (natRule rt rule.1 edited) = keyOf (natRule rt rule.1 rule.2) := by
  constructor
  · rw [keyOf_inj rt (xml.of_mem_natElements listed) (xml'.of_mem_natElements listed') free,
      identity_inj]
    tauto
  · intro edited keeps
    have blob : natBlob (rule.1, edited) = natBlob rule := by
      rw [natBlob, natBlob, ← keeps.hashedFields]
    rw [keyOf_natRule rt rule, keyOf_natRule rt (rule.1, edited), blob]

/-- A config with two NPt rules that give their prefixes in `<src>` and `<dst>`. -/
def nptConfig : Element :=
  .mk "pfsense" none [.mk "nat" none [
    .mk "npt" none [.mk "interface" (some "wan") [], .mk "src" (some "fc00:1::/64") [],
      .mk "dst" (some "2001:db8:1::/64") []],
    .mk "npt" none [.mk "interface" (some "wan") [], .mk "src" (some "fc00:2::/64") [],
      .mk "dst" (some "2001:db8:2::/64") []]]]

theorem nptConfig_xml : XmlTexts nptConfig := by
  simp [nptConfig, XmlTexts, XmlTextsEach, xmlChar]

def nptRule (place : Fin 2) : NatKind × Element :=
  (natElements nptConfig).get (place.cast rfl)

/-- Both rules have one key, and their sources differ. -/
theorem nptConfig_merged :
    nptRule 0 ∈ natElements nptConfig ∧ nptRule 1 ∈ natElements nptConfig ∧
      CollisionFree asciiRuntime (natBlob (nptRule 0)) (natBlob (nptRule 1)) ∧
      ¬(keyOf (natRule asciiRuntime (nptRule 0).1 (nptRule 0).2) =
          keyOf (natRule asciiRuntime (nptRule 1).1 (nptRule 1).2) ↔
        identity (natRule asciiRuntime (nptRule 0).1 (nptRule 0).2) =
          identity (natRule asciiRuntime (nptRule 1).1 (nptRule 1).2)) := by
  refine ⟨List.get_mem _ _, List.get_mem _ _, fun _ => rfl, ?_⟩
  have keys : keyOf (natRule asciiRuntime (nptRule 0).1 (nptRule 0).2) =
      keyOf (natRule asciiRuntime (nptRule 1).1 (nptRule 1).2) := rfl
  have sources : identity (natRule asciiRuntime (nptRule 0).1 (nptRule 0).2) ≠
      identity (natRule asciiRuntime (nptRule 1).1 (nptRule 1).2) := by decide
  exact fun exact_ => sources (exact_.mp keys)

/-- The first NPt rule with another description. -/
def describedRule : Element :=
  .mk "npt" none [.mk "interface" (some "wan") [], .mk "src" (some "fc00:1::/64") [],
    .mk "descr" (some "moved") [], .mk "dst" (some "2001:db8:1::/64") []]

theorem natKey_exact_npt :
    (shared (nptRule 0) = shared (nptRule 1) ∧ hashedOnly (nptRule 0) = hashedOnly (nptRule 1) ∧
      parsedOnly (nptRule 0) ≠ parsedOnly (nptRule 1)) ∧
    ¬(keyOf (natRule asciiRuntime (nptRule 0).1 (nptRule 0).2) =
        keyOf (natRule asciiRuntime (nptRule 1).1 (nptRule 1).2) ↔
      identity (natRule asciiRuntime (nptRule 0).1 (nptRule 0).2) =
        identity (natRule asciiRuntime (nptRule 1).1 (nptRule 1).2)) ∧
    keyOf (natRule asciiRuntime (nptRule 0).1 describedRule) =
      keyOf (natRule asciiRuntime (nptRule 0).1 (nptRule 0).2) := by
  have alone : shared (nptRule 0) = shared (nptRule 1) ∧
      hashedOnly (nptRule 0) = hashedOnly (nptRule 1) ∧
      parsedOnly (nptRule 0) ≠ parsedOnly (nptRule 1) := ⟨rfl, rfl, by decide⟩
  have first : nptRule 0 ∈ natElements nptConfig := List.get_mem _ _
  have second : nptRule 1 ∈ natElements nptConfig := List.get_mem _ _
  obtain ⟨spec, edits⟩ :=
    natKey_exact asciiRuntime nptConfig_xml nptConfig_xml first second fun _ => rfl
  refine ⟨alone, fun holds => ?_, edits describedRule rfl⟩
  rcases spec.mp holds with apart | both
  · exact apart alone.1
  · exact alone.2.2 (both.mp alone.2.1)

end PfsenseBackups.NatKeys

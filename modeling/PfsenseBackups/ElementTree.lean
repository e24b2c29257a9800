import PfsenseBackups.Redaction
import Mathlib.Data.List.Sort

/-! `xml.etree.ElementTree.tostring`, and what a serialised tree tells of its secrets. -/

namespace PfsenseBackups.ElementTree
open Xml Redaction

/-! ### Names -/

/-- The URI and the local part of a name in the form `{uri}local`. -/
def splitName (name : String) : Option (String × String) :=
  match name.toList with
  | '{' :: rest =>
    -- `rsplit("}", 1)`: the last brace closes the URI.
    match rest.reverse.span (· ≠ '\x7d') with
    | (back, _ :: front) => some (String.ofList front.reverse, String.ofList back.reverse)
    | (_, []) => none
  | _ => none

mutual

/-- The names of a tree, in the order `elem.iter()` meets them. -/
def names : Element → List String
  | .mk tag _ nodes attrib _ => tag :: attrib.map Prod.fst ++ namesEach nodes

def namesEach : List Element → List String
  | [] => []
  | node :: rest => names node ++ namesEach rest

end

section Serialise

variable (rt : Runtime)

/-- `add_qname`: the URI of a name gets a prefix, unless it has one. -/
def addNamespace (namespaces : List (String × String)) (name : String) : List (String × String) :=
  match splitName name with
  | none => namespaces
  | some (uri, _) =>
    if (namespaces.lookup uri).isSome then namespaces
    else
      let mark := (rt.wellKnown uri).getD ("ns" ++ toString namespaces.length)
      if mark = "xml" then namespaces else namespaces ++ [(uri, mark)]

/-- The serialised form of a name. -/
def qname (namespaces : List (String × String)) (name : String) : String :=
  match splitName name with
  | none => name
  | some (uri, tag) =>
    let mark := ((namespaces.lookup uri).or (rt.wellKnown uri)).getD ""
    if mark = "" then tag else mark ++ ":" ++ tag

/-- `_escape_cdata`. -/
def escapeCdata (text : String) : String :=
  String.ofList (text.toList.flatMap fun char =>
    if char = '&' then "&amp;".toList
    else if char = '<' then "&lt;".toList
    else if char = '>' then "&gt;".toList
    else [char])

/-- `_escape_attrib`. -/
def escapeAttrib (text : String) : String :=
  String.ofList (text.toList.flatMap fun char =>
    if char = '&' then "&amp;".toList
    else if char = '<' then "&lt;".toList
    else if char = '>' then "&gt;".toList
    else if char = '"' then "&quot;".toList
    else if char = '\r' then "&#13;".toList
    else if char = '\n' then "&#10;".toList
    else if char = '\t' then "&#09;".toList
    else [char])

/-- The declarations of the namespaces, by prefix. -/
def declarations (namespaces : List (String × String)) : String :=
  String.join ((namespaces.insertionSort fun left right => left.2 ≤ right.2).map fun space =>
    " xmlns" ++ (if space.2 = "" then "" else ":" ++ space.2) ++ "=\"" ++ escapeAttrib space.1 ++
      "\"")

def attributes (namespaces attrib : List (String × String)) : String :=
  String.join (attrib.map fun item =>
    " " ++ qname rt namespaces item.1 ++ "=\"" ++ escapeAttrib item.2 ++ "\"")

mutual

/-- `_serialize_xml`; only the root declares namespaces. -/
def serialize (namespaces : List (String × String)) (declared : String) : Element → String
  | .mk tag text nodes attrib tail =>
    "<" ++ qname rt namespaces tag ++ declared ++ attributes rt namespaces attrib ++
      (if text.getD "" = "" ∧ nodes.isEmpty = true then " />"
        else ">" ++ escapeCdata (text.getD "") ++ serializeEach namespaces nodes ++ "</" ++
          qname rt namespaces tag ++ ">") ++
      escapeCdata (tail.getD "")

def serializeEach (namespaces : List (String × String)) : List Element → String
  | [] => ""
  | node :: rest => serialize namespaces "" node ++ serializeEach namespaces rest

end

/-- `tostring(el, encoding="unicode")`. -/
def tostring (el : Element) : String :=
  let namespaces := (names el).foldl (addNamespace rt) []
  serialize rt namespaces (declarations namespaces) el

/-! ### Secrets -/

/-- The secrets in the text of one element. -/
def ownSecrets (tag : String) (content : Option String) : Nat :=
  if shouldRedact rt tag = true ∧ content.getD "" ≠ "" then 1 else 0

mutual

/-- How many secrets a tree holds. -/
def secrets : Element → Nat
  | .mk tag content nodes _ _ => ownSecrets rt tag content + secretsEach nodes

def secretsEach : List Element → Nat
  | [] => 0
  | node :: rest => secrets node + secretsEach rest

end

variable (veil : Veil)

theorem veiledText_of_none {tag : String} {content : Option String}
    (bare : ownSecrets rt tag content = 0) : veiledText rt veil tag content = content := by
  rw [veiledText]
  split
  next secret =>
    cases content with
    | none => rfl
    | some text =>
      have empty : text = "" := by simpa [ownSecrets, secret] using bare
      simp [empty]
  next => rfl

theorem veiledText_eq_empty (tag : String) (content : Option String) :
    (veiledText rt veil tag content).getD "" = "" ↔ content.getD "" = "" := by
  rw [veiledText]
  split
  · cases content <;> simp
  · rfl

mutual

/-- A tree without secrets is left as it is. -/
theorem veiled_of_none : ∀ el : Element, secrets rt el = 0 → veiled rt veil el = el
  | .mk tag content nodes attrib tail, bare => by
    rw [secrets, Nat.add_eq_zero_iff] at bare
    rw [veiled, veiledText_of_none rt veil bare.1, veiledEach_of_none nodes bare.2]

theorem veiledEach_of_none :
    ∀ nodes : List Element, secretsEach rt nodes = 0 → veiledEach rt veil nodes = nodes
  | [], _ => by rw [veiledEach]
  | node :: rest, bare => by
    rw [secretsEach, Nat.add_eq_zero_iff] at bare
    rw [veiledEach, veiled_of_none node bare.1, veiledEach_of_none rest bare.2]

end

mutual

theorem names_veiled : ∀ el : Element, names (veiled rt veil el) = names el
  | .mk tag content nodes attrib tail => by rw [veiled, names, names, namesEach_veiled nodes]

theorem namesEach_veiled :
    ∀ nodes : List Element, namesEach (veiledEach rt veil nodes) = namesEach nodes
  | [] => by rw [veiledEach]
  | node :: rest => by
    rw [veiledEach, namesEach, namesEach, names_veiled node, namesEach_veiled rest]

end

end Serialise

/-- The veil that makes every secret one letter longer. -/
def longer : Veil where
  replace := fun secret => secret ++ "x"
  filled := fun secret _ empty => by simp at empty

theorem length_escapeCdata_longer (text : String) :
    (escapeCdata (text ++ "x")).length = (escapeCdata text).length + 1 := by
  have letter : "x".length = 1 := rfl
  simp [escapeCdata, letter]

theorem length_longer (rt : Runtime) (tag : String) (content : Option String) :
    (escapeCdata ((veiledText rt longer tag content).getD "")).length =
      (escapeCdata (content.getD "")).length + ownSecrets rt tag content := by
  rw [veiledText, ownSecrets]
  cases content with
  | none => split <;> simp
  | some text =>
    by_cases empty : text = ""
    · split <;> simp [empty]
    · by_cases secret : shouldRedact rt tag = true
      · have grown : longer.cover text = text ++ "x" := longer.cover_filled empty
        simp [secret, empty, grown, length_escapeCdata_longer]
      · simp [secret]

section Longer

variable (rt : Runtime)

mutual

/-- Every secret shows in the serialised tree. -/
theorem length_serialize_longer (namespaces : List (String × String)) (declared : String) :
    ∀ el : Element, (serialize rt namespaces declared (veiled rt longer el)).length =
      (serialize rt namespaces declared el).length + secrets rt el
  | .mk tag content nodes attrib tail => by
    have text := length_longer rt tag content
    have below := length_serializeEach_longer namespaces nodes
    have leaf : (veiledEach rt longer nodes).isEmpty = nodes.isEmpty := by
      rw [veiledEach_eq, List.isEmpty_map]
    rw [veiled, serialize, serialize, secrets]
    simp only [leaf, veiledText_eq_empty]
    split
    next bare =>
      obtain ⟨blank, childless⟩ := bare
      have own : ownSecrets rt tag content = 0 := by simp [ownSecrets, blank]
      have none_below : secretsEach rt nodes = 0 := by
        rw [List.isEmpty_iff.mp childless, secretsEach]
      simp only [String.length_append, own, none_below]
      omega
    next =>
      simp only [String.length_append, text, below]
      omega

theorem length_serializeEach_longer (namespaces : List (String × String)) :
    ∀ nodes : List Element, (serializeEach rt namespaces (veiledEach rt longer nodes)).length =
      (serializeEach rt namespaces nodes).length + secretsEach rt nodes
  | [] => by rw [veiledEach, secretsEach, Nat.add_zero]
  | node :: rest => by
    rw [veiledEach, serializeEach, serializeEach, secretsEach, String.length_append,
      String.length_append, length_serialize_longer namespaces "" node,
      length_serializeEach_longer namespaces rest]
    omega

end

theorem tostring_longer (el : Element) (same : tostring rt (veiled rt longer el) = tostring rt el) :
    secrets rt el = 0 := by
  have length := congrArg String.length same
  rw [tostring, tostring, names_veiled] at length
  have grown := length_serialize_longer rt ((names el).foldl (addNamespace rt) [])
    (declarations ((names el).foldl (addNamespace rt) [])) el
  simp only [length] at grown
  omega

end Longer

end PfsenseBackups.ElementTree

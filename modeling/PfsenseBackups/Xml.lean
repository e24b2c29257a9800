import PfsenseBackups.Models

/-! Parsed XML as `xml.etree.ElementTree` holds it, the helpers of
`pfsense_sections/_helpers.py`, and the section parsers that build row keys out of fields
that pfSense does not keep unique. -/

namespace PfsenseBackups.Xml
open Value

/-- An XML element: tag, leading text, children in document order, attributes, and the text
that follows it. -/
inductive Element where
  | mk (tag : String) (text : Option String) (nodes : List Element)
    (attrib : List (String × String) := []) (tail : Option String := none)

namespace Element

def tag : Element → String
  | mk tag _ _ _ _ => tag

def content : Element → Option String
  | mk _ text _ _ _ => text

def nodes : Element → List Element
  | mk _ _ nodes _ _ => nodes

/-- `el.find(tag)`: the first direct child with the tag. -/
def find (el : Element) (tag : String) : Option Element :=
  el.nodes.find? fun node => node.tag = tag

end Element

/-- `children(el, tag)`, where the element is there. -/
def children (el : Element) (tag : String) : List Element :=
  el.nodes.filter fun node => node.tag = tag

/-- `text(el, tag)`: a tag without text reads as the empty string. -/
def text (el : Element) (tag : String) : Option String :=
  (el.find tag).map fun sub => sub.content.getD ""

/-- `bool_flag(el, tag)`: present, even empty, means true. -/
def boolFlag (el : Element) (tag : String) : Bool :=
  (el.find tag).isSome

/-- `el.find(tag)` of an element that may be missing. -/
def findIn (el : Option Element) (tag : String) : Option Element :=
  el.bind fun el => el.find tag

/-- `text(el, tag)` of an element that may be missing. -/
def textIn (el : Option Element) (tag : String) : Option String :=
  el.bind fun el => text el tag

/-- `bool_flag(el, tag)` of an element that may be missing. -/
def flagIn (el : Option Element) (tag : String) : Bool :=
  el.any fun el => boolFlag el tag

/-- `children(el, tag)` of an element that may be missing. -/
def childrenIn (el : Option Element) (tag : String) : List Element :=
  el.elim [] fun el => children el tag

/-- `[e.text for e in children(el, tag) if e.text]`. -/
def texts (el : Element) (tag : String) : List String :=
  (children el tag).filterMap fun node => node.content.filter (· ≠ "")

/-- `[e.text or "" for e in children(el, tag)]`. -/
def contents (el : Element) (tag : String) : List String :=
  (children el tag).map fun node => node.content.getD ""

mutual

/-- `el.iter(tag)`: the element and all below it that have the tag, in document order. -/
def iter (tag : String) : Element → List Element
  | .mk own text nodes attrib tail =>
    (if own = tag then [.mk own text nodes attrib tail] else []) ++ iterEach tag nodes

def iterEach (tag : String) : List Element → List Element
  | [] => []
  | node :: rest => iter tag node ++ iterEach tag rest

end

/-- `first or second`, of two optional texts. -/
def orText (first second : Option String) : Option String :=
  if first.getD "" = "" then second else first

/-- `text or default`. -/
def orElse (text : Option String) (default : String) : String :=
  if text.getD "" = "" then default else text.getD ""

/-- The rows, or the others if there are none. -/
def orRows (rows others : List Element) : List Element :=
  if rows.isEmpty then others else rows

/-! ### `services_extra.parse_shaper` -/

def shaperQueue (name : String) (interface priority bandwidth bandwidthtype descr : Option String) :
    Row Models.ShaperQueue where
  dump := [("name", .str name), ("interface", .optional interface),
    ("priority", .optional priority), ("bandwidth", .optional bandwidth),
    ("bandwidthtype", .optional bandwidthtype), ("descr", .optional descr)]
  conforms := by simp [Model.Conforms, Models.ShaperQueue, FieldType.fieldsConform]

/-- The row of one `<queue>`, unless it has no name. -/
def queueRow (q : Element) : List (Row Models.ShaperQueue) :=
  match text q "name" with
  | none => []
  | some name =>
    if name = "" then []
    else [shaperQueue name (text q "interface") (text q "priority") (text q "bandwidth")
      (text q "bandwidthtype") (text q "descr")]

mutual

/-- The nested queues, flattened in document order. -/
def walk : Element → List (Row Models.ShaperQueue)
  | .mk _ _ nodes _ _ => walkEach nodes

def walkEach : List Element → List (Row Models.ShaperQueue)
  | [] => []
  | q :: rest => (if q.tag = "queue" then queueRow q ++ walk q else []) ++ walkEach rest

end

def parseShaper (root : Element) : List (Row Models.ShaperQueue) :=
  match root.find "shaper" with
  | none => []
  | some el => walk el

/-! ### `layer2.parse_vlans` -/

/-- A VLAN row: the key is the parent device and the tag, each with its default. -/
def vlan (iface tag pcp vlanif descr : Option String) : Row Models.Vlan where
  dump := [("key", .str ((orUnknown iface) ++ "." ++ (orUnknown tag))), ("if_", .optional iface),
    ("tag", .optional tag), ("pcp", .optional pcp), ("vlanif", .optional vlanif),
    ("descr", .optional descr)]
  conforms := by simp [Model.Conforms, Models.Vlan, FieldType.fieldsConform]
where
  /-- `value or '?'`. -/
  orUnknown : Option String → String
    | none => "?"
    | some text => if text = "" then "?" else text

def parseVlans (root : Element) : List (Row Models.Vlan) :=
  match root.find "vlans" with
  | none => []
  | some el => (children el "vlan").map fun v =>
      vlan (text v "if") (text v "tag") (text v "pcp") (text v "vlanif") (text v "descr")

end PfsenseBackups.Xml

import PfsenseBackups.PfsenseCrypto
import PfsenseBackups.Splits
import Mathlib.Data.List.DropRight

/-! The wrappers that pfSense may write, and what `_parse_wrapper` makes of them and of texts that
are none. -/

namespace PfsenseBackups.Wrappers
open Encodings PfsenseCrypto Splits

/-! ### The parser -/

section

-- `str.lower`, on the names of headers.
variable (lower : List Char → List Char)

/-- The loop of `_parse_wrapper`, on lines that are stripped. -/
def readLinesWith (sawHeader : Bool) :
    List (List Char) → List (List Char × List Char) × List (List Char)
  | [] => ([], [])
  | line :: lines =>
    if line = [] then
      if sawHeader then ([], lines.filter (· ≠ [])) else readLinesWith sawHeader lines
    else if ':' ∈ line ∧ ¬ line.all isBase64 then
      let later := readLinesWith true lines
      let key := line.takeWhile (· ≠ ':')
      let value := (line.dropWhile (· ≠ ':')).drop 1
      ((lower (stripLine key), stripLine value) :: later.1, later.2)
    else ([], line :: lines.filter (· ≠ []))

/-- `_parse_wrapper` of a text. -/
def parseText (text : List Char) : Except String Parsed :=
  let text := text.dropWhile (· = Char.ofNat 0xFEFF)
  match find beginMarker text, find endMarker text with
  | some beginIdx, some endIdx =>
    if endIdx < beginIdx then .error "encrypted blob missing BEGIN/END markers"
    else
      let inner := (text.take endIdx).drop (beginIdx + beginMarker.length)
      let read := readLinesWith lower false ((splitLines inner).map stripLine)
      if read.2.flatten = [] then .error "encrypted blob has no base64 body"
      else .ok ⟨read.1, read.2.flatten⟩
  | _, _ => .error "encrypted blob missing BEGIN/END markers"

/-- `_parse_wrapper` of bytes. -/
def parseBlob (blob : Bytes) : Except String Parsed :=
  parseText lower (decodeUtf8 blob)

end

theorem readLines_eq (sawHeader : Bool) (lines : List (List Char)) :
    readLines sawHeader lines = readLinesWith (List.map Char.toLower) sawHeader lines := by
  induction lines generalizing sawHeader with
  | nil => rfl
  | cons line lines ih => rw [readLines, readLinesWith, ih, ih]

/-- Where names are lowered letter by letter, this is the parser of the decryption. -/
theorem parseWrapper_eq (blob : Bytes) :
    parseWrapper blob = parseBlob (List.map Char.toLower) blob := by
  have same : readLines = readLinesWith (List.map Char.toLower) := by
    funext sawHeader lines
    exact readLines_eq sawHeader lines
  unfold parseWrapper
  rw [same]
  rfl

/-! ### Places in a text -/

/-- The first place at which a text has a part. -/
structure FirstAt (part text : List Char) (place : Nat) : Prop where
  here : part <+: text.drop place
  first : ∀ other, part <+: text.drop other → place ≤ other

theorem find_eq_some {part text : List Char} (filled : part ≠ []) {place : Nat} :
    find part text = some place ↔ FirstAt part text place := by
  induction text generalizing place with
  | nil =>
    rw [find, if_neg filled]
    apply iff_of_false (by simp)
    intro first
    exact filled (by simpa using first.here)
  | cons char rest ih =>
    rw [find]
    split
    next starts =>
      have start : part <+: (char :: rest).drop 0 := List.isPrefixOf_iff_prefix.mp starts
      apply Iff.intro
      · intro same
        obtain rfl := Option.some.inj same
        exact ⟨start, fun other _ => Nat.zero_le other⟩
      · intro found
        rw [Nat.le_zero.mp (found.first 0 start)]
    next later =>
      have never : ¬ part <+: (char :: rest).drop 0 := fun start =>
        later (List.isPrefixOf_iff_prefix.mpr start)
      rw [Option.map_eq_some_iff]
      apply Iff.intro
      · intro found
        obtain ⟨before, found, rfl⟩ := found
        have inner := ih.mp found
        refine ⟨inner.here, ?_⟩
        intro other starts
        cases other with
        | zero => exact (never starts).elim
        | succ other => exact Nat.succ_le_succ (inner.first other starts)
      · intro found
        cases place with
        | zero => exact (never found.here).elim
        | succ place =>
          refine ⟨place, ih.mpr ⟨found.here, ?_⟩, rfl⟩
          intro other starts
          exact Nat.le_of_succ_le_succ (found.first (other + 1) starts)

theorem find_isSome {part text : List Char} {place : Nat} (starts : part <+: text.drop place)
    (filled : part ≠ []) : ∃ first, find part text = some first ∧ FirstAt part text first := by
  classical
  have somewhere : ∃ place, part <+: text.drop place := ⟨place, starts⟩
  have found : FirstAt part text (Nat.find somewhere) :=
    ⟨Nat.find_spec somewhere, fun _ => Nat.find_min' somewhere⟩
  exact ⟨_, (find_eq_some filled).mpr found, found⟩

/-- Without the part in the text, it is found nowhere. -/
theorem find_eq_none {part text : List Char} (filled : part ≠ []) (absent : ¬ part <:+: text) :
    find part text = none := by
  cases found : find part text with
  | none => rfl
  | some place =>
    have here := ((find_eq_some filled).mp found).here
    exact (absent (here.isInfix.trans (List.drop_suffix place text).isInfix)).elim

theorem firstAt_append {part front : List Char} (rest : List Char)
    (absent : ¬ part <:+: front ++ part.dropLast) :
    FirstAt part (front ++ part ++ rest) front.length where
  here := by
    rw [List.append_assoc, List.drop_left]
    exact List.prefix_append part rest
  first := fun other starts => by
    by_contra early
    have bound : other ≤ (front ++ part.dropLast).length := by
      rw [List.length_append]
      omega
    have cut : front ++ part.dropLast <+: front ++ part ++ rest := by
      rw [List.append_assoc, List.prefix_append_right_inj]
      exact (List.dropLast_prefix part).trans (List.prefix_append part rest)
    obtain ⟨more, whole⟩ := cut
    rw [← whole, List.drop_append_of_le_length bound] at starts
    have inside : part <+: (front ++ part.dropLast).drop other := by
      apply List.prefix_of_prefix_length_le starts (List.prefix_append _ more)
      rw [List.length_drop, List.length_append, List.length_dropLast]
      omega
    exact absent (inside.isInfix.trans (List.drop_suffix other _).isInfix)

/-! ### Blank text -/

def Blank (text : List Char) : Prop :=
  ∀ char ∈ text, Labels.isSpace char = true

def Unbroken (text : List Char) : Prop :=
  ∀ char ∈ text, isLineBreak char = false

theorem stripLine_eq (line : List Char) :
    stripLine line = (line.dropWhile Labels.isSpace).rdropWhile Labels.isSpace :=
  rfl

theorem stripLine_blank {text : List Char} (blank : Blank text) : stripLine text = [] := by
  have none : text.dropWhile Labels.isSpace = [] := List.dropWhile_eq_nil_iff.mpr blank
  rw [stripLine_eq, none]
  rfl

theorem dropWhile_to {char : Char} (filled : Labels.isSpace char = false)
    (front back : List Char) :
    (front ++ char :: back).dropWhile Labels.isSpace =
      front.dropWhile Labels.isSpace ++ char :: back := by
  rw [List.dropWhile_append, List.dropWhile_cons_of_neg (by simp [filled])]
  split
  next none => rw [List.isEmpty_iff.mp none, List.nil_append]
  next => rfl

theorem rdropWhile_from {char : Char} (filled : Labels.isSpace char = false)
    (front back : List Char) :
    (front ++ char :: back).rdropWhile Labels.isSpace =
      front ++ char :: back.rdropWhile Labels.isSpace := by
  have mirrored := dropWhile_to filled back.reverse front.reverse
  rw [List.rdropWhile, List.reverse_append, List.reverse_cons, List.append_assoc,
    List.singleton_append, mirrored]
  simp [List.rdropWhile]

theorem stripLine_at {char : Char} (filled : Labels.isSpace char = false)
    (front back : List Char) :
    stripLine (front ++ char :: back) =
      front.dropWhile Labels.isSpace ++ char :: back.rdropWhile Labels.isSpace := by
  rw [stripLine_eq, dropWhile_to filled, rdropWhile_from filled]

/-- A text is blank, or comes apart at a character that is not. -/
theorem blank_or_filled (text : List Char) :
    Blank text ∨ ∃ front char back, Labels.isSpace char = false ∧ text = front ++ char :: back := by
  by_cases blank : Blank text
  · exact .inl blank
  · unfold Blank at blank
    push Not at blank
    obtain ⟨char, member, filled⟩ := blank
    obtain ⟨front, back, whole⟩ := List.append_of_mem member
    exact .inr ⟨front, char, back, Bool.eq_false_of_not_eq_true filled, whole⟩

theorem stripLine_dropWhile (text : List Char) :
    stripLine (text.dropWhile Labels.isSpace) = stripLine text := by
  rw [stripLine_eq, stripLine_eq, List.dropWhile_idempotent]

theorem stripLine_rdropWhile (text : List Char) :
    stripLine (text.rdropWhile Labels.isSpace) = stripLine text := by
  rcases blank_or_filled text with blank | ⟨front, char, back, filled, rfl⟩
  · rw [List.rdropWhile_eq_nil_iff.mpr blank, stripLine_blank blank]
    rfl
  · rw [rdropWhile_from filled, stripLine_at filled, stripLine_at filled,
      List.rdropWhile_idempotent]

/-- Blanks at both ends are stripped. -/
theorem stripLine_around {indent trail : List Char} (piece : List Char) (blank : Blank indent)
    (blank' : Blank trail) : stripLine (indent ++ piece ++ trail) = stripLine piece := by
  rcases blank_or_filled piece with none | ⟨front, char, back, filled, rfl⟩
  · rw [stripLine_blank none, stripLine_blank]
    intro char member
    rcases List.mem_append.mp member with inFront | inTrail
    · exact (List.mem_append.mp inFront).elim (blank char) (none char)
    · exact blank' char inTrail
  · have behind : (back ++ trail).rdropWhile Labels.isSpace = back.rdropWhile Labels.isSpace := by
      rw [List.rdropWhile, List.reverse_append, List.dropWhile_append_of_pos, ← List.rdropWhile]
      intro char member
      exact blank' char (List.mem_reverse.mp member)
    have around : indent ++ (front ++ char :: back) ++ trail =
        (indent ++ front) ++ char :: (back ++ trail) := by simp
    rw [around, stripLine_at filled, stripLine_at filled, behind,
      List.dropWhile_append_of_pos blank]

/-! ### Wrappers -/

inductive Ending where
  | lf | crlf

def Ending.text : Ending → List Char
  | .lf => ['\n']
  | .crlf => ['\r', '\n']

/-- Blanks inside a line. -/
abbrev Space := { text : List Char // Blank text ∧ Unbroken text }

/-- A line: what stands in it and how it ends. -/
structure Line where
  content : List Char
  ending : Ending
  unbroken : Unbroken content

def Line.text (line : Line) : List Char :=
  line.content ++ line.ending.text

structure HeaderLine where
  name : List Char
  value : List Char
  ending : Ending
  plain : ':' ∉ name
  unbroken : Unbroken (name ++ ':' :: value)
  markerless : ¬ endMarker <:+: name ++ ':' :: value

/-- A part of the body, or a blank line where there is none. -/
structure BodyLine where
  indent : Space
  piece : List Char
  trail : Space
  ending : Ending
  digits : ∀ char ∈ piece, isBase64 char = true

namespace HeaderLine

def line (header : HeaderLine) : Line :=
  ⟨header.name ++ ':' :: header.value, header.ending, header.unbroken⟩

/-- The field, its name in lower case, and both without blanks at their ends. -/
def field (lower : List Char → List Char) (header : HeaderLine) : List Char × List Char :=
  (lower (stripLine header.name), stripLine header.value)

end HeaderLine

namespace BodyLine

theorem unbroken (body : BodyLine) : Unbroken (body.indent ++ body.piece ++ body.trail) := by
  intro char member
  rcases List.mem_append.mp member with member | inTrail
  · rcases List.mem_append.mp member with inIndent | inPiece
    · exact body.indent.property.2 char inIndent
    · exact (plain_of_isBase64 (body.digits char inPiece)).lineBreak
  · exact body.trail.property.2 char inTrail

def line (body : BodyLine) : Line :=
  ⟨body.indent ++ body.piece ++ body.trail, body.ending, body.unbroken⟩

end BodyLine

/-- A blank line. -/
structure BlankLine where
  indent : Space
  ending : Ending

def BlankLine.line (blank : BlankLine) : Line :=
  ⟨blank.indent, blank.ending, blank.indent.property.2⟩

/-- A wrapper: the markers, header lines, and lines of the body, with blank lines anywhere but among
the headers. What follows the end marker may be anything. -/
structure Wrapper where
  bom : Bool
  front : { text : List Char // Blank text }
  opening : BlankLine
  lead : List BlankLine
  headers : List HeaderLine
  bodyLines : List BodyLine
  indent : Space
  rest : List Char
  filled : bodyLines.flatMap BodyLine.piece ≠ []

namespace Wrapper

variable (wrapper : Wrapper)

def body : List Char :=
  wrapper.bodyLines.flatMap BodyLine.piece

def fields (lower : List Char → List Char) : List (List Char × List Char) :=
  wrapper.headers.map (HeaderLine.field lower)

/-- The lines after the one with the first marker. -/
def lines : List Line :=
  wrapper.lead.map BlankLine.line ++ wrapper.headers.map HeaderLine.line ++
    wrapper.bodyLines.map BodyLine.line

/-- What stands between the markers. -/
def inner : List Char :=
  (wrapper.opening.line :: wrapper.lines).flatMap Line.text ++ wrapper.indent

def text : List Char :=
  (if wrapper.bom then [Char.ofNat 0xFEFF] else []) ++
    (wrapper.front ++ beginMarker ++ wrapper.inner ++ endMarker ++ wrapper.rest)

end Wrapper

/-! ### The markers of a wrapper -/

theorem count_blank {text : List Char} (blank : Blank text) {char : Char}
    (filled : Labels.isSpace char = false) : text.count char = 0 := by
  rw [List.count_eq_zero]
  intro member
  rw [blank char member] at filled
  cases filled

/-- A marker does not lie in what has fewer dashes. -/
theorem not_infix_of_count {part text : List Char} (char : Char)
    (fewer : text.count char < part.count char) : ¬ part <:+: text := by
  intro inside
  have bound := inside.sublist.count_le char
  omega

theorem beginMarker_first {front : List Char} (blank : Blank front) :
    ¬ beginMarker <:+: front ++ beginMarker.dropLast := by
  apply not_infix_of_count '-'
  rw [List.count_append, count_blank blank (by decide)]
  decide

theorem infix_ending {part content rest : List Char} {ending : Ending} (lineFeed : '\n' ∉ part)
    (carriageReturn : '\r' ∉ part) (filled : part ≠ [])
    (inside : part <:+: content ++ (ending.text ++ rest)) :
    part <:+: content ∨ part <:+: rest := by
  cases ending with
  | lf => exact infix_split lineFeed inside
  | crlf =>
    rcases infix_split carriageReturn inside with here | below
    · exact .inl here
    · rcases @infix_split _ _ [] _ _ lineFeed below with none | below
      · exact (filled (List.infix_nil.mp none)).elim
      · exact .inr below

/-- A marker lies within one line. -/
theorem infix_lines {part rest : List Char} {lines : List Line} (lineFeed : '\n' ∉ part)
    (carriageReturn : '\r' ∉ part) (filled : part ≠ [])
    (inside : part <:+: lines.flatMap Line.text ++ rest) :
    (∃ line ∈ lines, part <:+: line.content) ∨ part <:+: rest := by
  induction lines with
  | nil => exact .inr inside
  | cons line lines ih =>
    rw [List.flatMap_cons, Line.text, List.append_assoc, List.append_assoc] at inside
    rcases infix_ending lineFeed carriageReturn filled inside with here | below
    · exact .inl ⟨line, List.mem_cons_self, here⟩
    · rcases ih below with ⟨other, member, found⟩ | found
      · exact .inl ⟨other, List.mem_cons_of_mem line member, found⟩
      · exact .inr found

theorem BodyLine.markerless (body : BodyLine) : ¬ endMarker <:+: body.line.content := by
  apply not_infix_of_count '-'
  have digits : body.piece.count '-' = 0 := by
    rw [List.count_eq_zero]
    intro member
    exact (plain_of_isBase64 (body.digits _ member)).dash rfl
  show (body.indent.val ++ body.piece ++ body.trail.val).count '-' < _
  rw [List.count_append, List.count_append, count_blank body.indent.property.1 (by decide),
    count_blank body.trail.property.1 (by decide), digits]
  decide

theorem endMarker_first (wrapper : Wrapper) :
    ¬ endMarker <:+: wrapper.front ++ beginMarker ++ wrapper.inner ++ endMarker.dropLast := by
  intro inside
  have shape : wrapper.front ++ beginMarker ++ wrapper.inner ++ endMarker.dropLast =
      (wrapper.front ++ beginMarker ++ wrapper.opening.indent) ++ (wrapper.opening.ending.text ++
        (wrapper.lines.flatMap Line.text ++ (wrapper.indent ++ endMarker.dropLast))) := by
    simp [Wrapper.inner, Line.text, BlankLine.line]
  rw [shape] at inside
  have opening : ¬ endMarker <:+: wrapper.front ++ beginMarker ++ wrapper.opening.indent := by
    apply not_infix_of_count 'D'
    rw [List.count_append, List.count_append, count_blank wrapper.front.property (by decide),
      count_blank wrapper.opening.indent.property.1 (by decide)]
    decide
  have closing : ¬ endMarker <:+: wrapper.indent ++ endMarker.dropLast := by
    apply not_infix_of_count '-'
    rw [List.count_append, count_blank wrapper.indent.property.1 (by decide)]
    decide
  have between : ¬ endMarker <:+:
      wrapper.lines.flatMap Line.text ++ (wrapper.indent ++ endMarker.dropLast) := by
    intro below
    rcases infix_lines (by decide) (by decide) (by decide) below with ⟨line, member, found⟩ | last
    · rcases List.mem_append.mp member with member | inBody
      · rcases List.mem_append.mp member with inLead | inHeaders
        · obtain ⟨blank, -, rfl⟩ := List.mem_map.mp inLead
          apply not_infix_of_count '-' _ found
          rw [show blank.line.content = blank.indent.val from rfl,
            count_blank blank.indent.property.1 (by decide)]
          decide
        · obtain ⟨header, -, rfl⟩ := List.mem_map.mp inHeaders
          exact header.markerless found
      · obtain ⟨body, -, rfl⟩ := List.mem_map.mp inBody
        exact body.markerless found
    · exact closing last
  exact (infix_ending (by decide) (by decide) (by decide) inside).elim opening between

/-! ### The lines of a wrapper -/

theorem splitLines_carriageReturn {content : List Char} (rest : List Char)
    (unbroken : Unbroken content) :
    splitLines (content ++ '\r' :: '\n' :: rest) = content :: splitLines rest := by
  induction content with
  | nil => rw [List.nil_append, splitLines]
  | cons char content ih =>
    exact splitLines_cons (unbroken char List.mem_cons_self)
      (ih fun other member => unbroken other (List.mem_cons_of_mem char member))

theorem splitLines_text (line : Line) (rest : List Char) :
    splitLines (line.text ++ rest) = line.content :: splitLines rest := by
  rw [Line.text, List.append_assoc]
  cases line.ending with
  | lf => exact splitLines_line rest line.unbroken
  | crlf => exact splitLines_carriageReturn rest line.unbroken

theorem splitLines_unbroken {text : List Char} (unbroken : Unbroken text) :
    splitLines text = if text = [] then [] else [text] := by
  induction text with
  | nil => rfl
  | cons char text ih =>
    have head := unbroken char List.mem_cons_self
    have tail := ih fun other member => unbroken other (List.mem_cons_of_mem char member)
    cases text with
    | nil =>
      rw [splitLines, if_neg (by simp [head])]
      · rfl
      · intro rest _ none
        cases none
    | cons next text =>
      rw [splitLines_cons head (by simpa using tail)]
      rfl

theorem splitLines_flatMap (lines : List Line) {rest : List Char} (unbroken : Unbroken rest) :
    splitLines (lines.flatMap Line.text ++ rest) =
      lines.map Line.content ++ if rest = [] then [] else [rest] := by
  induction lines with
  | nil => exact splitLines_unbroken unbroken
  | cons line lines ih =>
    rw [List.flatMap_cons, List.append_assoc, splitLines_text, ih]
    rfl

/-! ### What is read from the lines -/

section

variable {lower : List Char → List Char}

theorem readLinesWith_blank {blanks : List (List Char)} (blank : ∀ line ∈ blanks, line = [])
    (lines : List (List Char)) :
    readLinesWith lower false (blanks ++ lines) = readLinesWith lower false lines := by
  induction blanks with
  | nil => rfl
  | cons line blanks ih =>
    rw [List.cons_append, readLinesWith, if_pos (blank line List.mem_cons_self)]
    exact ih fun other member => blank other (List.mem_cons_of_mem line member)

theorem stripLine_header (header : HeaderLine) : stripLine header.line.content =
    header.name.dropWhile Labels.isSpace ++
      ':' :: header.value.rdropWhile Labels.isSpace :=
  stripLine_at (by decide) _ _

theorem readLinesWith_header (sawHeader : Bool) (header : HeaderLine) (lines : List (List Char)) :
    readLinesWith lower sawHeader (stripLine header.line.content :: lines) =
      (header.field lower :: (readLinesWith lower true lines).1,
        (readLinesWith lower true lines).2) := by
  have colon : ':' ∈ stripLine header.line.content := by
    rw [stripLine_header]
    exact List.mem_append_right _ List.mem_cons_self
  have filled : stripLine header.line.content ≠ [] := List.ne_nil_of_mem colon
  have other : ¬ (stripLine header.line.content).all isBase64 = true := by
    intro all
    have digit := List.all_eq_true.mp all _ colon
    revert digit
    decide
  have plain : ∀ char ∈ header.name.dropWhile Labels.isSpace, (decide (char ≠ ':')) = true := by
    intro char member
    apply decide_eq_true
    rintro rfl
    exact header.plain ((List.dropWhile_suffix _).subset member)
  have name : (stripLine header.line.content).takeWhile (fun char => decide (char ≠ ':')) =
      header.name.dropWhile Labels.isSpace := by
    rw [stripLine_header, List.takeWhile_append_of_pos plain]
    simp
  have value : ((stripLine header.line.content).dropWhile
      (fun char => decide (char ≠ ':'))).drop 1 = header.value.rdropWhile Labels.isSpace := by
    rw [stripLine_header, List.dropWhile_append_of_pos plain]
    simp
  rw [readLinesWith, if_neg filled, if_pos ⟨colon, other⟩]
  simp only [name, value, stripLine_dropWhile, stripLine_rdropWhile]
  rfl

theorem readLinesWith_headers (sawHeader : Bool) (headers : List HeaderLine)
    (lines : List (List Char)) :
    readLinesWith lower sawHeader
        (headers.map (fun header => stripLine header.line.content) ++ lines) =
      let rest := readLinesWith lower (sawHeader || !headers.isEmpty) lines
      (headers.map (HeaderLine.field lower) ++ rest.1, rest.2) := by
  induction headers generalizing sawHeader with
  | nil => simp
  | cons header headers ih =>
    rw [List.map_cons, List.cons_append, readLinesWith_header, ih]
    simp

/-- Lines without a colon are the body, blank or not. -/
theorem readLinesWith_body (sawHeader : Bool) {lines : List (List Char)}
    (plain : ∀ line ∈ lines, ':' ∉ line) :
    (readLinesWith lower sawHeader lines).1 = [] ∧
      (readLinesWith lower sawHeader lines).2.flatten = lines.flatten := by
  induction lines with
  | nil => exact ⟨rfl, rfl⟩
  | cons line lines ih =>
    have tail := ih fun other member => plain other (List.mem_cons_of_mem line member)
    rw [readLinesWith]
    by_cases blank : line = []
    · rw [if_pos blank]
      split
      · exact ⟨rfl, by rw [filled_flatten, blank, List.flatten_cons, List.nil_append]⟩
      · exact ⟨tail.1, by rw [tail.2, blank, List.flatten_cons, List.nil_append]⟩
    · rw [if_neg blank, if_neg fun header => plain line List.mem_cons_self header.1]
      exact ⟨rfl, by rw [List.flatten_cons, filled_flatten, List.flatten_cons]⟩

end

theorem stripLine_blankLine (blank : BlankLine) : stripLine blank.line.content = [] :=
  stripLine_blank blank.indent.property.1

theorem stripLine_bodyLine (body : BodyLine) : stripLine body.line.content = body.piece := by
  have inner : stripLine body.line.content = stripLine body.piece :=
    stripLine_around body.piece body.indent.property.1 body.trail.property.1
  rw [inner]
  exact stripLine_of_filled fun char member =>
    (plain_of_isBase64 (body.digits char member)).space

namespace Wrapper

variable (wrapper : Wrapper) (lower : List Char → List Char)

theorem splitLines_inner : ∃ last : List (List Char), (∀ line ∈ last, line = []) ∧
    (splitLines wrapper.inner).map stripLine =
      ([] :: wrapper.lead.map fun _ => []) ++
        (wrapper.headers.map (fun header => stripLine header.line.content) ++
          (wrapper.bodyLines.map BodyLine.piece ++ last)) := by
  refine ⟨(if wrapper.indent.val = [] then [] else [wrapper.indent.val]).map stripLine, ?_, ?_⟩
  · intro line member
    obtain ⟨raw, listed, rfl⟩ := List.mem_map.mp member
    split at listed
    · cases listed
    · rw [List.mem_singleton.mp listed]
      exact stripLine_blank wrapper.indent.property.1
  · rw [inner, splitLines_flatMap _ wrapper.indent.property.2]
    simp only [lines, List.map_cons, List.map_append, List.map_map, List.cons_append,
      stripLine_blankLine, Function.comp_def, stripLine_bodyLine, List.append_assoc]

theorem readLinesWith_inner :
    ((readLinesWith lower false ((splitLines wrapper.inner).map stripLine)).1 =
        wrapper.fields lower) ∧
      (readLinesWith lower false ((splitLines wrapper.inner).map stripLine)).2.flatten =
        wrapper.body := by
  obtain ⟨last, blank, read⟩ := wrapper.splitLines_inner
  have lead : ∀ line ∈ [] :: wrapper.lead.map fun _ => ([] : List Char), line = [] := by
    intro line member
    rcases List.mem_cons.mp member with rfl | inLead
    · rfl
    · obtain ⟨-, -, rfl⟩ := List.mem_map.mp inLead
      rfl
  have plain : ∀ line ∈ wrapper.bodyLines.map BodyLine.piece ++ last, ':' ∉ line := by
    intro line member colon
    rcases List.mem_append.mp member with inBody | inLast
    · obtain ⟨body, -, rfl⟩ := List.mem_map.mp inBody
      exact (plain_of_isBase64 (body.digits _ colon)).colon rfl
    · rw [blank line inLast] at colon
      cases colon
  have nothing : last.flatten = [] := List.flatten_eq_nil_iff.mpr blank
  have body := @readLinesWith_body lower (false || !wrapper.headers.isEmpty) _ plain
  rw [read, readLinesWith_blank lead, readLinesWith_headers]
  dsimp only
  rw [body.1, body.2, List.append_nil, List.flatten_append, nothing, List.append_nil,
    ← List.flatMap_def]
  exact ⟨rfl, rfl⟩

theorem dropWhile_bom : wrapper.text.dropWhile (· = Char.ofNat 0xFEFF) =
    wrapper.front ++ beginMarker ++ wrapper.inner ++ endMarker ++ wrapper.rest := by
  have none : (wrapper.front.val ++ beginMarker ++ wrapper.inner ++ endMarker ++
      wrapper.rest).dropWhile (fun char => decide (char = Char.ofNat 0xFEFF)) =
        wrapper.front ++ beginMarker ++ wrapper.inner ++ endMarker ++ wrapper.rest := by
    cases front : wrapper.front.val with
    | nil => rfl
    | cons char rest =>
      apply List.dropWhile_cons_of_neg
      intro mark
      have blank := wrapper.front.property char (front ▸ List.mem_cons_self)
      rw [of_decide_eq_true mark] at blank
      revert blank
      decide
  unfold text
  split
  · rw [List.singleton_append, List.dropWhile_cons_of_pos (by decide), none]
  · rw [List.nil_append, none]

theorem parseText_text :
    parseText lower wrapper.text = .ok ⟨wrapper.fields lower, wrapper.body⟩ := by
  have whole : wrapper.front ++ beginMarker ++ wrapper.inner ++ endMarker ++ wrapper.rest =
      wrapper.front.val ++ beginMarker ++ (wrapper.inner ++ endMarker ++ wrapper.rest) := by simp
  have begins := (find_eq_some (by decide)).mpr (whole ▸
    firstAt_append (wrapper.inner ++ endMarker ++ wrapper.rest)
      (beginMarker_first wrapper.front.property))
  have ends := (find_eq_some (by decide)).mpr
    (firstAt_append wrapper.rest (endMarker_first wrapper))
  have between : ((wrapper.front ++ beginMarker ++ wrapper.inner ++ endMarker ++
      wrapper.rest).take (wrapper.front ++ beginMarker ++ wrapper.inner).length).drop
        (wrapper.front.val.length + beginMarker.length) = wrapper.inner := by
    rw [List.append_assoc _ endMarker, List.take_left, ← List.length_append, List.drop_left]
  have order : ¬ (wrapper.front ++ beginMarker ++ wrapper.inner).length <
      wrapper.front.val.length := by
    rw [List.length_append, List.length_append]
    omega
  obtain ⟨fields, body⟩ := wrapper.readLinesWith_inner lower
  unfold parseText
  simp only [dropWhile_bom, begins, ends, if_neg order, between, fields, body]
  exact if_neg wrapper.filled

end Wrapper

/-! ### Texts that are no wrappers -/

/-- A marker is missing, or an end marker starts before every begin marker. -/
def Unframed (text : List Char) : Prop :=
  ¬ beginMarker <:+: text ∨ ¬ endMarker <:+: text ∨
    ∃ place, endMarker <+: text.drop place ∧
      ∀ other, beginMarker <+: text.drop other → place < other

/-- Between the first markers there are header lines at most, with blank lines before and after
them. -/
def Bodyless (text : List Char) : Prop :=
  ∃ beginIdx endIdx lead headers rest, FirstAt beginMarker text beginIdx ∧
    FirstAt endMarker text endIdx ∧
    (splitLines ((text.take endIdx).drop (beginIdx + beginMarker.length))).map stripLine =
      lead ++ headers ++ rest ∧
    (∀ line ∈ lead, line = []) ∧ (∀ line ∈ headers, ':' ∈ line) ∧ ∀ line ∈ rest, line = []

/-- Byte-order marks move the places in a text. -/
theorem dropWhile_mark (text : List Char) : ∃ marks,
    text.dropWhile (· = Char.ofNat 0xFEFF) = text.drop marks ∧
      ∀ place char rest, text.drop place = char :: rest → char ≠ Char.ofNat 0xFEFF →
        marks ≤ place := by
  induction text with
  | nil => exact ⟨0, rfl, fun place _ _ _ _ => Nat.zero_le place⟩
  | cons first text ih =>
    by_cases mark : first = Char.ofNat 0xFEFF
    · obtain ⟨marks, dropped, before⟩ := ih
      refine ⟨marks + 1, ?_, ?_⟩
      · rw [List.dropWhile_cons_of_pos (by simp [mark]), dropped, List.drop_succ_cons]
      · intro place char rest there other
        cases place with
        | zero =>
          obtain ⟨rfl, -⟩ := List.cons.inj there
          exact (other mark).elim
        | succ place => exact Nat.succ_le_succ (before place char rest there other)
    · refine ⟨0, ?_, fun place _ _ _ _ => Nat.zero_le place⟩
      rw [List.dropWhile_cons_of_neg (by simp [mark]), List.drop_zero]

theorem le_of_starts {part text : List Char} {marks place : Nat} {first : Char} {more : List Char}
    (before : ∀ place char rest, text.drop place = char :: rest → char ≠ Char.ofNat 0xFEFF →
      marks ≤ place)
    (shape : part = first :: more) (other : first ≠ Char.ofNat 0xFEFF)
    (starts : part <+: text.drop place) : marks ≤ place := by
  obtain ⟨rest, whole⟩ := starts
  rw [shape, List.cons_append] at whole
  exact before place first (more ++ rest) whole.symm other

theorem FirstAt.drop {part text : List Char} {marks place : Nat} (found : FirstAt part text place)
    (after : marks ≤ place) : FirstAt part (text.drop marks) (place - marks) where
  here := by
    rw [List.drop_drop, Nat.add_sub_cancel' after]
    exact found.here
  first := fun other starts => by
    rw [List.drop_drop] at starts
    have bound := found.first _ starts
    omega

/-- Header lines at most, with blank lines before and after them, have no body. -/
theorem readLinesWith_bodyless (lower : List Char → List Char) {lead headers rest : List (List Char)}
    (blank : ∀ line ∈ lead, line = []) (colons : ∀ line ∈ headers, ':' ∈ line)
    (blank' : ∀ line ∈ rest, line = []) :
    (readLinesWith lower false (lead ++ headers ++ rest)).2.flatten = [] := by
  have ends : ∀ sawHeader, (readLinesWith lower sawHeader rest).2.flatten = [] := by
    intro sawHeader
    have plain : ∀ line ∈ rest, ':' ∉ line := by
      intro line member
      rw [blank' line member]
      exact List.not_mem_nil
    rw [(readLinesWith_body sawHeader plain).2]
    exact List.flatten_eq_nil_iff.mpr blank'
  have reads : ∀ sawHeader, (readLinesWith lower sawHeader (headers ++ rest)).2.flatten = [] := by
    clear blank
    induction headers with
    | nil => exact ends
    | cons header headers ih =>
      intro sawHeader
      have colon := colons header List.mem_cons_self
      have other : ¬ header.all isBase64 = true := by
        intro all
        have digit := List.all_eq_true.mp all _ colon
        revert digit
        decide
      rw [List.cons_append, readLinesWith, if_neg (List.ne_nil_of_mem colon),
        if_pos ⟨colon, other⟩]
      exact ih (fun line member => colons line (List.mem_cons_of_mem header member)) true
  rw [List.append_assoc, readLinesWith_blank blank]
  exact reads false

theorem parseText_unframed {lower : List Char → List Char} {text : List Char}
    (unframed : Unframed text) :
    parseText lower text = .error "encrypted blob missing BEGIN/END markers" := by
  obtain ⟨marks, dropped, before⟩ := dropWhile_mark text
  have inside : ∀ part : List Char, part ≠ [] → ¬ part <:+: text →
      find part (text.drop marks) = none := fun part filled absent =>
    find_eq_none filled fun below => absent (below.trans (List.drop_suffix marks text).isInfix)
  unfold parseText
  simp only [dropped]
  rcases unframed with noBegin | noEnd | ⟨place, starts, early⟩
  · rw [inside beginMarker (by decide) noBegin]
  · rw [inside endMarker (by decide) noEnd]
    cases find beginMarker (text.drop marks) <;> rfl
  · have after := @le_of_starts endMarker _ _ _ _ _ before rfl (by decide) starts
    have there : endMarker <+: (text.drop marks).drop (place - marks) := by
      rw [List.drop_drop, Nat.add_sub_cancel' after]
      exact starts
    obtain ⟨endIdx, found, first⟩ := find_isSome there (by decide)
    rw [found]
    cases begins : find beginMarker (text.drop marks) with
    | none => rfl
    | some beginIdx =>
      have late := ((find_eq_some (by decide)).mp begins).here
      rw [List.drop_drop] at late
      have later := early _ late
      have bound := first.first _ there
      exact if_pos (by omega)

theorem parseText_bodyless {lower : List Char → List Char} {text : List Char}
    (bodyless : Bodyless text) : ∃ message, parseText lower text = .error message := by
  obtain ⟨marks, dropped, before⟩ := dropWhile_mark text
  obtain ⟨beginIdx, endIdx, lead, headers, rest, begins, ends, read, blank, colons, blank'⟩ :=
    bodyless
  have afterBegin := @le_of_starts beginMarker _ _ _ _ _ before rfl (by decide) begins.here
  have afterEnd := @le_of_starts endMarker _ _ _ _ _ before rfl (by decide) ends.here
  have inner : ((text.drop marks).take (endIdx - marks)).drop
      (beginIdx - marks + beginMarker.length) =
        (text.take endIdx).drop (beginIdx + beginMarker.length) := by
    rw [← List.drop_take, List.drop_drop]
    congr 1
    omega
  unfold parseText
  simp only [dropped, (find_eq_some (by decide)).mpr (begins.drop afterBegin),
    (find_eq_some (by decide)).mpr (ends.drop afterEnd), inner, read,
    readLinesWith_bodyless lower blank colons blank', if_true]
  split <;> exact ⟨_, rfl⟩

/-- Every wrapper is read as its fields and its body, as a text and as bytes; what lacks a marker or
a body, or has the markers the wrong way round, is refused. -/
theorem wrappers_exact (lower : List Char → List Char) :
    (∀ wrapper : Wrapper,
      parseText lower wrapper.text = .ok ⟨wrapper.fields lower, wrapper.body⟩ ∧
        parseBlob lower (utf8 wrapper.text) = .ok ⟨wrapper.fields lower, wrapper.body⟩) ∧
      (∀ text, Unframed text ∨ Bodyless text → ∃ message, parseText lower text = .error message) ∧
      ∀ blob, Unframed (decodeUtf8 blob) ∨ Bodyless (decodeUtf8 blob) →
        ∃ message, parseBlob lower blob = .error message := by
  have refused : ∀ text, Unframed text ∨ Bodyless text →
      ∃ message, parseText lower text = .error message := by
    intro text given
    rcases given with unframed | bodyless
    · exact ⟨_, parseText_unframed unframed⟩
    · exact parseText_bodyless bodyless
  refine ⟨fun wrapper => ⟨wrapper.parseText_text lower, ?_⟩, refused,
    fun blob given => refused (decodeUtf8 blob) given⟩
  rw [parseBlob, decodeUtf8_utf8]
  exact wrapper.parseText_text lower

end PfsenseBackups.Wrappers

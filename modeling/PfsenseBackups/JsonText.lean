import PfsenseBackups.Value
import Mathlib.Data.List.Infix

/-! The text of `json.dumps(value, default=str)`: every character of a string outside printable
ASCII is escaped, and so are the quote and the backslash. -/

namespace PfsenseBackups.JsonText
open Value

/-- `[ -~]`. -/
def Printable (char : Char) : Prop :=
  ' ' ≤ char ∧ char ≤ '~'

instance : DecidablePred Printable := fun char =>
  inferInstanceAs (Decidable (' ' ≤ char ∧ char ≤ '~'))

/-- `'\\u{0:04x}'.format(code)`. -/
def unicodeEscape (code : Nat) : List Char :=
  '\\' :: 'u' :: hexDigits 4 code

/-- A character inside a string of `json.dumps`. -/
def escapeChar (char : Char) : List Char :=
  if char = '\\' then ['\\', '\\']
  else if char = '"' then ['\\', '"']
  else if char = '\n' then ['\\', 'n']
  else if char = '\r' then ['\\', 'r']
  else if char = '\t' then ['\\', 't']
  else if char = Char.ofNat 12 then ['\\', 'f']
  else if char = Char.ofNat 8 then ['\\', 'b']
  else if Printable char then [char]
  else if char.toNat < 0x10000 then unicodeEscape char.toNat
  -- Characters beyond the 16 bits are written as two surrogates.
  else unicodeEscape (0xd800 + (char.toNat - 0x10000) / 0x400) ++
    unicodeEscape (0xdc00 + (char.toNat - 0x10000) % 0x400)

def escape (chars : List Char) : List Char :=
  chars.flatMap escapeChar

theorem escape_cons (char : Char) (rest : List Char) :
    escape (char :: rest) = escapeChar char ++ escape rest :=
  List.flatMap_cons

theorem escape_append (first second : List Char) :
    escape (first ++ second) = escape first ++ escape second :=
  List.flatMap_append

def quoted (text : String) : List Char :=
  '"' :: (escape text.toList ++ ['"'])

mutual

def dumps : Val → List Char
  | .none => "null".toList
  | .bool true => "true".toList
  | .bool false => "false".toList
  | .int number => (toString number).toList
  | .str text => quoted text
  | .datetime text => quoted text
  | .list items => '[' :: ([',', ' '].intercalate (dumpsItems items) ++ [']'])
  | .dict fields =>
    '\x7b' :: ([',', ' '].intercalate (dumpsFields fields) ++ ['\x7d'])

def dumpsItems : List Val → List (List Char)
  | [] => []
  | item :: rest => dumps item :: dumpsItems rest

def dumpsFields : Dict → List (List Char)
  | [] => []
  | (name, value) :: rest => (quoted name ++ ':' :: ' ' :: dumps value) :: dumpsFields rest

end

mutual

/-- The strings inside a value, the names of its fields among them. -/
def strings : Val → List String
  | .str text => [text]
  | .datetime text => [text]
  | .list items => stringsIn items
  | .dict fields => stringsOf fields
  | _ => []

def stringsIn : List Val → List String
  | [] => []
  | item :: rest => strings item ++ stringsIn rest

def stringsOf : Dict → List String
  | [] => []
  | (name, value) :: rest => name :: strings value ++ stringsOf rest

end

/-! ### Strings in the text -/

theorem occurs_intercalate {separator part : List Char} {parts : List (List Char)}
    (member : part ∈ parts) : part <:+: separator.intercalate parts := by
  induction parts with
  | nil => cases member
  | cons first rest ih =>
    rcases List.mem_cons.mp member with rfl | later
    · cases rest with
      | nil => simp
      | cons second rest => exact ⟨[], separator ++ separator.intercalate (second :: rest), by simp⟩
    · cases rest with
      | nil => cases later
      | cons second rest =>
        refine (ih later).trans ⟨first ++ separator, [], ?_⟩
        simp

theorem occurs_enclosed (first last : Char) (inner : List Char) :
    inner <:+: first :: (inner ++ [last]) :=
  ⟨[first], [last], rfl⟩

mutual

/-- A string inside a value stands quoted in the text. -/
theorem quoted_occurs : (value : Val) → (text : String) → text ∈ strings value →
    quoted text <:+: dumps value
  | .none, _, member => by cases member
  | .bool _, _, member => by cases member
  | .int _, _, member => by cases member
  | .str held, text, member => by
    rw [strings, List.mem_singleton] at member
    rw [member, dumps]
  | .datetime held, text, member => by
    rw [strings, List.mem_singleton] at member
    rw [member, dumps]
  | .list items, text, member => by
    obtain ⟨part, listed, inside⟩ := quoted_occurs_items items text (by rwa [strings] at member)
    have within : part <:+: [',', ' '].intercalate (dumpsItems items) := occurs_intercalate listed
    rw [dumps]
    exact (inside.trans within).trans (occurs_enclosed _ _ _)
  | .dict fields, text, member => by
    obtain ⟨part, listed, inside⟩ := quoted_occurs_fields fields text (by rwa [strings] at member)
    have within : part <:+: [',', ' '].intercalate (dumpsFields fields) :=
      occurs_intercalate listed
    rw [dumps]
    exact (inside.trans within).trans (occurs_enclosed _ _ _)

theorem quoted_occurs_items : (items : List Val) → (text : String) → text ∈ stringsIn items →
    ∃ part ∈ dumpsItems items, quoted text <:+: part
  | [], _, member => by cases member
  | item :: rest, text, member => by
    rw [stringsIn, List.mem_append] at member
    rcases member with here | later
    · exact ⟨dumps item, List.mem_cons_self, quoted_occurs item text here⟩
    · obtain ⟨part, listed, inside⟩ := quoted_occurs_items rest text later
      exact ⟨part, List.mem_cons_of_mem _ listed, inside⟩

theorem quoted_occurs_fields : (fields : Dict) → (text : String) → text ∈ stringsOf fields →
    ∃ part ∈ dumpsFields fields, quoted text <:+: part
  | [], _, member => by cases member
  | (name, value) :: rest, text, member => by
    rw [stringsOf, List.cons_append, List.mem_cons, List.mem_append] at member
    rcases member with rfl | here | later
    · exact ⟨_, List.mem_cons_self, [], _, rfl⟩
    · have inside := quoted_occurs value text here
      exact ⟨_, List.mem_cons_self, inside.trans ⟨quoted name ++ [':', ' '], [], by simp⟩⟩
    · obtain ⟨part, listed, inside⟩ := quoted_occurs_fields rest text later
      exact ⟨part, List.mem_cons_of_mem _ listed, inside⟩

end

theorem escape_occurs {part chars : List Char} (inside : part <:+: chars) :
    escape part <:+: escape chars := by
  obtain ⟨front, back, rfl⟩ := inside
  exact ⟨escape front, escape back, by rw [escape_append, escape_append]⟩

/-- What occurs in a string of a value occurs in the text as it is escaped. -/
theorem escape_occurs_dumps {value : Val} {text : String} (member : text ∈ strings value)
    {part : List Char} (inside : part <:+: text.toList) : escape part <:+: dumps value := by
  have whole : escape text.toList <:+: quoted text := occurs_enclosed _ _ _
  exact (escape_occurs inside).trans (whole.trans (quoted_occurs value text member))

/-! ### Characters in the text -/

/-- A character that stands for itself. -/
structure Plain (char : Char) : Prop where
  printable : Printable char
  quoteless : char ≠ '"'
  slashless : char ≠ '\\'

theorem escapeChar_plain {char : Char} (plain : Plain char) : escapeChar char = [char] := by
  have control : ∀ other, ¬ Printable other → char ≠ other := fun other unprintable same =>
    unprintable (same ▸ plain.printable)
  unfold escapeChar
  rw [if_neg plain.slashless, if_neg plain.quoteless, if_neg (control _ (by decide)),
    if_neg (control _ (by decide)), if_neg (control _ (by decide)), if_neg (control _ (by decide)),
    if_neg (control _ (by decide)), if_pos plain.printable]

theorem escape_plain {chars : List Char} (plain : ∀ char ∈ chars, Plain char) :
    escape chars = chars := by
  induction chars with
  | nil => rfl
  | cons char rest ih =>
    rw [List.forall_mem_cons] at plain
    rw [escape_cons, escapeChar_plain plain.1, ih plain.2, List.singleton_append]

/-- The quote and the backslash are written behind a backslash. -/
def Special (char : Char) : Prop :=
  char = '"' ∨ char = '\\'

instance : DecidablePred Special := fun char =>
  inferInstanceAs (Decidable (char = '"' ∨ char = '\\'))

theorem escapeChar_special {char : Char} (special : Special char) :
    escapeChar char = ['\\', char] := by
  rcases special with rfl | rfl <;> rfl

theorem plain_or_special {char : Char} (printable : Printable char) :
    Plain char ∨ Special char := by
  by_cases special : Special char
  · exact .inr special
  · exact .inl ⟨printable, fun same => special (.inl same), fun same => special (.inr same)⟩

theorem printable_hexDigits {count value : Nat} {char : Char}
    (member : char ∈ hexDigits count value) : Printable char := by
  induction count generalizing value with
  | zero => cases member
  | succ count ih =>
    have digits : ∀ digit < 16, Printable ("0123456789abcdef".toList.getD digit '0') := by decide
    rw [hexDigits, List.mem_append, List.mem_singleton] at member
    rcases member with before | rfl
    · exact ih before
    · exact digits _ (Nat.mod_lt _ (by decide))

theorem printable_unicodeEscape {code : Nat} {char : Char} (member : char ∈ unicodeEscape code) :
    Printable char := by
  rw [unicodeEscape, List.mem_cons, List.mem_cons] at member
  rcases member with rfl | rfl | digit
  · decide
  · decide
  · exact printable_hexDigits digit

theorem printable_escapeChar {char written : Char} (member : written ∈ escapeChar char) :
    Printable written := by
  have pair : ∀ second, Printable second → written ∈ ['\\', second] → Printable written := by
    intro second printable inside
    rcases List.mem_pair.mp inside with rfl | rfl
    · decide
    · exact printable
  unfold escapeChar at member
  split_ifs at member with _ _ _ _ _ _ _ printable
  · exact pair _ (by decide) member
  · exact pair _ (by decide) member
  · exact pair _ (by decide) member
  · exact pair _ (by decide) member
  · exact pair _ (by decide) member
  · exact pair _ (by decide) member
  · exact pair _ (by decide) member
  · rwa [List.mem_singleton.mp member]
  · exact printable_unicodeEscape member
  · exact (List.mem_append.mp member).elim printable_unicodeEscape printable_unicodeEscape

theorem printable_escape {chars : List Char} {written : Char} (member : written ∈ escape chars) :
    Printable written := by
  obtain ⟨char, -, inside⟩ := List.mem_flatMap.mp member
  exact printable_escapeChar inside

end PfsenseBackups.JsonText

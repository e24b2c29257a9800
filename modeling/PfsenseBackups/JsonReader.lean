import Mathlib.Data.Char
import Mathlib.Data.List.Basic
import Mathlib.Data.List.Infix
import Mathlib.Data.List.Nodup

/-! A reader of JSON texts as Python's `json.loads` has it, and a writer whose texts it reads back.
A string of a text is a list of code points, since an escape may name half of a surrogate pair.
Numbers with a fraction or an exponent keep their text. -/

namespace PfsenseBackups.JsonReader

/-- A document, with strings of any kind. -/
inductive Json (τ : Type) where
  | null
  | bool (flag : Bool)
  | int (number : Int)
  | float (text : List Char)
  | str (text : τ)
  | list (items : List (Json τ))
  | dict (fields : List (τ × Json τ))

/-! ### Strings -/

def hexDigit (char : Char) : Option Nat :=
  let code := char.toNat
  if 48 ≤ code ∧ code ≤ 57 then some (code - 48)
  else if 97 ≤ code ∧ code ≤ 102 then some (code - 87)
  else if 65 ≤ code ∧ code ≤ 70 then some (code - 55)
  else none

def hexNumber (digits : List Char) : Option Nat :=
  digits.foldl (fun number char => do return (← number) * 16 + (← hexDigit char)) (some 0)

/-- What a backslash and a character stand for. -/
def escapeCode (char : Char) : Option Nat :=
  if char = '"' ∨ char = '\\' ∨ char = '/' then some char.toNat
  else if char = 'b' then some 8
  else if char = 'f' then some 12
  else if char = 'n' then some 10
  else if char = 'r' then some 13
  else if char = 't' then some 9
  else none

def push (units : List Nat) (read : Option (List Nat × List Char)) :
    Option (List Nat × List Char) :=
  read.map fun (later, rest) => (units ++ later, rest)

/-- The units up to the closing quote. A control character must be escaped. -/
def readUnits : List Char → Option (List Nat × List Char)
  | [] => none
  | [char] => if char = '"' then some ([], []) else none
  | char :: next :: rest =>
    if char = '"' then some ([], next :: rest)
    else if char = '\\' then
      if next = 'u' then
        match rest with
        | a :: b :: c :: d :: rest =>
          (hexNumber [a, b, c, d]).bind fun unit => push [unit] (readUnits rest)
        | _ => none
      else (escapeCode next).bind fun unit => push [unit] (readUnits rest)
    else if char.toNat < 32 then none
    else push [char.toNat] (readUnits (next :: rest))

/-- The two halves of a surrogate pair come to one code point. -/
def joinSurrogates : List Nat → List Nat
  | high :: low :: rest =>
    if (0xd800 ≤ high ∧ high ≤ 0xdbff) ∧ 0xdc00 ≤ low ∧ low ≤ 0xdfff then
      (0x10000 + (high - 0xd800) * 0x400 + (low - 0xdc00)) :: joinSurrogates rest
    else high :: joinSurrogates (low :: rest)
  | units => units

def readString (text : List Char) : Option (List Nat × List Char) :=
  (readUnits text).map fun (units, rest) => (joinSurrogates units, rest)

example : readString
    ['\\', 'u', 'd', '8', '3', 'd', '\\', 'u', 'd', 'e', '0', '0', '\\', 'n', '"', ','] =
      some ([0x1f600, 10], [',']) := by
  decide

/-! ### Numbers and literals -/

def isDigit (char : Char) : Bool :=
  48 ≤ char.toNat && char.toNat ≤ 57

def spanDigits (text : List Char) : List Char × List Char :=
  (text.takeWhile isDigit, text.dropWhile isDigit)

/-- `0|[1-9][0-9]*`. -/
def spanWhole (text : List Char) : List Char × List Char :=
  if text.head? = some '0' then (['0'], text.tail) else spanDigits text

/-- `(\.[0-9]+)?`. -/
def spanFraction (text : List Char) : List Char × List Char :=
  let digits := spanDigits text.tail
  if text.head? = some '.' ∧ digits.1 ≠ [] then ('.' :: digits.1, digits.2) else ([], text)

/-- `([eE][-+]?[0-9]+)?`. -/
def spanExponent (text : List Char) : List Char × List Char :=
  let signs := text.tail.takeWhile fun char => char = '-' ∨ char = '+'
  let digits := spanDigits (text.tail.drop signs.length)
  if (text.head? = some 'e' ∨ text.head? = some 'E') ∧ signs.length ≤ 1 ∧ digits.1 ≠ [] then
    (text.take 1 ++ signs ++ digits.1, digits.2)
  else ([], text)

def readNumber (text : List Char) : Option (Json (List Nat) × List Char) :=
  let negative := text.head? = some '-'
  let whole := spanWhole (if negative then text.tail else text)
  let fraction := spanFraction whole.2
  let exponent := spanExponent fraction.2
  let number := Nat.ofDigitChars 10 whole.1 0
  if whole.1 = [] then none
  else if fraction.1 = [] ∧ exponent.1 = [] then
    some (.int (if negative then -number else number), whole.2)
  else some (.float (text.take (text.length - exponent.2.length)), exponent.2)

def literals : List (List Char × Json (List Nat)) := [
  ("null".toList, .null), ("true".toList, .bool true), ("false".toList, .bool false),
  ("NaN".toList, .float "NaN".toList), ("Infinity".toList, .float "Infinity".toList),
  ("-Infinity".toList, .float "-Infinity".toList)]

def readLiteral (text : List Char) : Option (Json (List Nat) × List Char) :=
  literals.findSome? fun (word, value) =>
    if word.isPrefixOf text then some (value, text.drop word.length) else none

/-! ### Values -/

/-- `[ \t\n\r]*`. -/
def isSpace (char : Char) : Bool :=
  char = ' ' || char = '\t' || char = '\n' || char = '\r'

def skip (text : List Char) : List Char :=
  text.dropWhile isSpace

section Dicts

variable {τ α : Type} [DecidableEq τ]

/-- `d[name] = value`: a name that is there keeps its place. -/
def setItem (fields : List (τ × α)) (name : τ) (value : α) : List (τ × α) :=
  if name ∈ fields.map Prod.fst then
    fields.map fun field => if field.1 = name then (name, value) else field
  else fields ++ [(name, value)]

/-- The pairs of an object, the last one of each name. -/
def dictOf (pairs : List (τ × α)) : List (τ × α) :=
  pairs.foldl (fun fields pair => setItem fields pair.1 pair.2) []

end Dicts

/-- What follows an entry: whether there is another one, and the text from there. -/
def readSign (close : Char) (text : List Char) : Option (Bool × List Char) :=
  match skip text with
  | [] => none
  | sign :: rest =>
    if sign = ',' then some (true, skip rest)
    else if sign = close then some (false, rest)
    else none

/-- The name of a field, and the colon. -/
def readName (text : List Char) : Option (List Nat × List Char) := do
  if text.head? ≠ some '"' then none
  let (name, rest) ← readString text.tail
  if (skip rest).head? ≠ some ':' then none
  return (name, skip (skip rest).tail)

mutual

/-- A value at the head of a text. The fuel bounds how many values begin before its end. -/
def readValue : Nat → List Char → Option (Json (List Nat) × List Char)
  | 0, _ => none
  | _ + 1, [] => none
  | fuel + 1, first :: rest =>
    if first = '"' then do
      let (text, rest) ← readString rest
      return (.str text, rest)
    else if first = '[' then
      if (skip rest).head? = some ']' then some (.list [], (skip rest).tail)
      else do
        let (items, rest) ← readItems fuel (skip rest)
        return (.list items, rest)
    else if first = '\x7b' then
      if (skip rest).head? = some '\x7d' then some (.dict [], (skip rest).tail)
      else do
        let (pairs, rest) ← readFields fuel (skip rest)
        return (.dict (dictOf pairs), rest)
    else (readLiteral (first :: rest)).or (readNumber (first :: rest))

def readItems : Nat → List Char → Option (List (Json (List Nat)) × List Char)
  | 0, _ => none
  | fuel + 1, text => do
    let (item, rest) ← readValue fuel text
    let (more, rest) ← readSign ']' rest
    if more then
      let (items, rest) ← readItems fuel rest
      return (item :: items, rest)
    else return ([item], rest)

def readFields : Nat → List Char → Option (List (List Nat × Json (List Nat)) × List Char)
  | 0, _ => none
  | fuel + 1, text => do
    let (name, rest) ← readName text
    let (value, rest) ← readValue fuel rest
    let (more, rest) ← readSign '\x7d' rest
    if more then
      let (pairs, rest) ← readFields fuel rest
      return ((name, value) :: pairs, rest)
    else return ([(name, value)], rest)

end

/-- `json.loads`: one value, with nothing behind it but whitespace. -/
def loads (text : List Char) : Option (Json (List Nat)) := do
  let (value, rest) ← readValue (text.length + 1) (skip text)
  if skip rest ≠ [] then none
  return value

/-! ### The writer -/

/-- What is written for a character is read as units that come to its code point. -/
def Readable (escapeChar : Char → List Char) : Prop :=
  ∀ char, ∃ units, (∀ rest, readUnits (escapeChar char ++ rest) = push units (readUnits rest)) ∧
    ∀ later, joinSurrogates (units ++ later) = char.toNat :: joinSurrogates later

/-- A way to write documents: what stands behind each comma and each colon, and what is written for
a character of a string. -/
structure Format where
  gap : List Char
  escapeChar : Char → List Char
  blank : ∀ char ∈ gap, isSpace char = true
  readable : Readable escapeChar

namespace Format

variable (format : Format)

def quote (text : List Char) : List Char :=
  '"' :: (text.flatMap format.escapeChar ++ ['"'])

def join (parts : List (List Char)) : List Char :=
  (',' :: format.gap).intercalate parts

mutual

def write : Json (List Char) → List Char
  | .null => "null".toList
  | .bool true => "true".toList
  | .bool false => "false".toList
  | .int number => (toString number).toList
  | .float text => text
  | .str text => format.quote text
  | .list items => '[' :: (format.join (writeItems items) ++ [']'])
  | .dict fields => '\x7b' :: (format.join (writeFields fields) ++ ['\x7d'])

def writeItems : List (Json (List Char)) → List (List Char)
  | [] => []
  | item :: rest => write item :: writeItems rest

def writeFields : List (List Char × Json (List Char)) → List (List Char)
  | [] => []
  | (name, value) :: rest =>
    (format.quote name ++ ':' :: (format.gap ++ write value)) :: writeFields rest

end

end Format

mutual

/-- Every name of an object is there once, and there are no floats. -/
def Json.Exact : Json (List Char) → Prop
  | .float _ => False
  | .list items => ItemsExact items
  | .dict fields => (fields.map Prod.fst).Nodup ∧ FieldsExact fields
  | _ => True

def ItemsExact : List (Json (List Char)) → Prop
  | [] => True
  | item :: rest => item.Exact ∧ ItemsExact rest

def FieldsExact : List (List Char × Json (List Char)) → Prop
  | [] => True
  | (_, value) :: rest => value.Exact ∧ FieldsExact rest

end

def codes (text : List Char) : List Nat :=
  text.map Char.toNat

mutual

/-- The document with its strings as code points. -/
def Json.coded : Json (List Char) → Json (List Nat)
  | .null => .null
  | .bool flag => .bool flag
  | .int number => .int number
  | .float text => .float text
  | .str text => .str (codes text)
  | .list items => .list (codedItems items)
  | .dict fields => .dict (codedFields fields)

def codedItems : List (Json (List Char)) → List (Json (List Nat))
  | [] => []
  | item :: rest => item.coded :: codedItems rest

def codedFields : List (List Char × Json (List Char)) → List (List Nat × Json (List Nat))
  | [] => []
  | (name, value) :: rest => (codes name, value.coded) :: codedFields rest

end

/-! ### Strings read back -/

theorem readUnits_quote (rest : List Char) : readUnits ('"' :: rest) = some ([], rest) := by
  rw [readUnits.eq_def]
  cases rest <;> rfl

theorem readUnits_escape {char : Char} {code : Nat} (simple : char ≠ 'u')
    (known : escapeCode char = some code) (rest : List Char) :
    readUnits ('\\' :: char :: rest) = push [code] (readUnits rest) := by
  rw [readUnits.eq_def]
  simp only [show ('\\' : Char) ≠ '"' by decide, if_false, if_true, simple, known]
  rfl

theorem readUnits_unicode {digits : List Char} {code : Nat} (four : digits.length = 4)
    (known : hexNumber digits = some code) (rest : List Char) :
    readUnits ('\\' :: 'u' :: (digits ++ rest)) = push [code] (readUnits rest) := by
  match digits, four with
  | [a, b, c, d], _ =>
    rw [readUnits.eq_def]
    simp only [show ('\\' : Char) ≠ '"' by decide, if_false, if_true, List.cons_append,
      List.nil_append, known]
    rfl

theorem readUnits_plain {char : Char} (quoteless : char ≠ '"') (slashless : char ≠ '\\')
    (shown : 32 ≤ char.toNat) (rest : List Char) :
    readUnits (char :: rest) = push [char.toNat] (readUnits rest) := by
  rw [readUnits.eq_def]
  cases rest with
  | nil => exact if_neg quoteless
  | cons next rest =>
    simp only [quoteless, slashless, if_false, Nat.not_lt.mpr shown]

@[simp] theorem push_push (first second : List Nat) (read : Option (List Nat × List Char)) :
    push first (push second read) = push (first ++ second) read := by
  cases read <;> simp [push]

namespace Format

variable (format : Format)

theorem readUnits_flatMap (text rest : List Char) : ∃ units,
    readUnits (text.flatMap format.escapeChar ++ '"' :: rest) = some (units, rest) ∧
      joinSurrogates units = codes text := by
  induction text with
  | nil => exact ⟨[], readUnits_quote rest, rfl⟩
  | cons char text ih =>
    obtain ⟨later, read, joined⟩ := ih
    obtain ⟨units, escaped, whole⟩ := format.readable char
    refine ⟨units ++ later, ?_, ?_⟩
    · rw [List.flatMap_cons, List.append_assoc, escaped, read]
      rfl
    · rw [whole, joined]
      rfl

theorem readString_flatMap (text rest : List Char) :
    readString (text.flatMap format.escapeChar ++ '"' :: rest) = some (codes text, rest) := by
  obtain ⟨units, read, joined⟩ := format.readUnits_flatMap text rest
  rw [readString, read, ← joined]
  rfl

end Format

/-! ### Numbers read back -/

/-- A number would not go on with what follows. -/
def Ends (rest : List Char) : Prop :=
  ∀ char ∈ rest.head?, isDigit char = false ∧ char ≠ '.' ∧ char ≠ 'e' ∧ char ≠ 'E'

theorem spanDigits_append {digits rest : List Char} (all : ∀ char ∈ digits, isDigit char = true)
    (ends : Ends rest) : spanDigits (digits ++ rest) = (digits, rest) := by
  have stop : rest.takeWhile isDigit = [] ∧ rest.dropWhile isDigit = rest := by
    cases rest with
    | nil => exact ⟨rfl, rfl⟩
    | cons char rest =>
      have other := (ends char rfl).1
      exact ⟨List.takeWhile_cons_of_neg (by simp [other]),
        List.dropWhile_cons_of_neg (by simp [other])⟩
  rw [spanDigits, List.takeWhile_append_of_pos all, List.dropWhile_append_of_pos all, stop.1,
    stop.2, List.append_nil]

theorem isDigit_toDigits {n : Nat} {char : Char} (member : char ∈ Nat.toDigits 10 n) :
    isDigit char = true := by
  have digit := Nat.isDigit_of_mem_toDigits (by decide) (by decide) member
  have bounds : char.isDigit = (decide (char.val ≥ 48) && decide (char.val ≤ 57)) := rfl
  rw [bounds, Bool.and_eq_true, decide_eq_true_eq, decide_eq_true_eq] at digit
  rw [isDigit, Bool.and_eq_true, decide_eq_true_eq, decide_eq_true_eq]
  exact ⟨UInt32.le_iff_toNat_le.mp digit.1, UInt32.le_iff_toNat_le.mp digit.2⟩

/-- Only zero is written with a leading zero. -/
theorem head_toDigits (n : Nat) (positive : 0 < n) : (Nat.toDigits 10 n).head? ≠ some '0' := by
  induction n using Nat.strong_induction_on with
  | _ n ih =>
    by_cases small : n < 10
    · have digits : ∀ d < 10, 0 < d → some (Nat.digitChar d) ≠ some '0' := by decide
      rw [Nat.toDigits_of_lt_base small]
      exact digits n small positive
    · rw [Nat.toDigits_of_base_le (by decide) (by omega),
        List.head?_append_of_ne_nil _ Nat.toDigits_ne_nil]
      exact ih (n / 10) (by omega) (by omega)

theorem spanWhole_toDigits (n : Nat) {rest : List Char} (ends : Ends rest) :
    spanWhole (Nat.toDigits 10 n ++ rest) = (Nat.toDigits 10 n, rest) := by
  rcases Nat.eq_zero_or_pos n with rfl | positive
  · rw [Nat.toDigits_zero]
    rfl
  · rw [spanWhole, List.head?_append_of_ne_nil _ Nat.toDigits_ne_nil,
      if_neg (head_toDigits n positive)]
    exact spanDigits_append (fun _ => isDigit_toDigits) ends

theorem spanFraction_of_ends {rest : List Char} (ends : Ends rest) :
    spanFraction rest = ([], rest) := by
  have other : rest.head? ≠ some '.' := fun first => (ends '.' first).2.1 rfl
  exact if_neg fun both => other both.1

theorem spanExponent_of_ends {rest : List Char} (ends : Ends rest) :
    spanExponent rest = ([], rest) := by
  have other : ¬ (rest.head? = some 'e' ∨ rest.head? = some 'E') := by
    rintro (first | first)
    · exact (ends 'e' first).2.2.1 rfl
    · exact (ends 'E' first).2.2.2 rfl
  exact if_neg fun both => other both.1

theorem readNumber_whole {text rest : List Char} {n : Nat} (ends : Ends rest)
    (whole : (if text.head? = some '-' then text.tail else text) = Nat.toDigits 10 n ++ rest) :
    readNumber text = some (.int (if text.head? = some '-' then -n else n), rest) := by
  simp only [readNumber, whole, spanWhole_toDigits n ends, spanFraction_of_ends ends,
    spanExponent_of_ends ends, Nat.toDigits_ne_nil, Nat.ofDigitChars_ten_toDigits, and_self,
    if_true, if_false]

theorem toList_negSucc (n : Nat) :
    (toString (Int.negSucc n)).toList = '-' :: Nat.toDigits 10 (n + 1) := by
  have digits : (Nat.repr (n + 1)).toList = Nat.toDigits 10 (n + 1) := Nat.toList_repr
  rw [← digits]
  exact String.toList_append

theorem readNumber_toString (number : Int) {rest : List Char} (ends : Ends rest) :
    readNumber ((toString number).toList ++ rest) = some (.int number, rest) := by
  cases number with
  | ofNat n =>
    have text : (toString (Int.ofNat n)).toList = Nat.toDigits 10 n := Nat.toList_repr
    have plain : (Nat.toDigits 10 n ++ rest).head? ≠ some '-' := by
      rw [List.head?_append_of_ne_nil _ Nat.toDigits_ne_nil]
      intro first
      cases isDigit_toDigits (List.mem_of_head? first)
    rw [text, readNumber_whole ends (if_neg plain), if_neg plain]
    rfl
  | negSucc n =>
    rw [toList_negSucc, readNumber_whole (n := n + 1) ends (if_pos rfl)]
    rfl

/-! ### Values read back -/

mutual

/-- How many values begin in the text of a document. -/
def Json.size : Json (List Char) → Nat
  | .list items => 1 + itemsSize items
  | .dict fields => 1 + fieldsSize fields
  | _ => 1

def itemsSize : List (Json (List Char)) → Nat
  | [] => 0
  | item :: rest => 1 + item.size + itemsSize rest

def fieldsSize : List (List Char × Json (List Char)) → Nat
  | [] => 0
  | (_, value) :: rest => 1 + value.size + fieldsSize rest

end

/-- The first character of a value's text. -/
def Begins (char : Char) : Prop :=
  isSpace char = false ∧ char ≠ ']' ∧ char ≠ '\x7d'

instance : DecidablePred Begins := fun char =>
  inferInstanceAs (Decidable (isSpace char = false ∧ char ≠ ']' ∧ char ≠ '\x7d'))

theorem skip_cons {char : Char} (begins : isSpace char = false) (rest : List Char) :
    skip (char :: rest) = char :: rest := by
  rw [skip, List.dropWhile_cons_of_neg (by simp [begins])]

theorem ne_of_isDigit {char sign : Char} (digit : isDigit char = true)
    (other : isDigit sign = false) : char ≠ sign := by
  rintro rfl
  rw [other] at digit
  cases digit

theorem begins_of_isDigit {char : Char} (digit : isDigit char = true) : Begins char := by
  refine ⟨?_, ne_of_isDigit digit (by decide), ne_of_isDigit digit (by decide)⟩
  simp only [isSpace, Bool.or_eq_false_iff, decide_eq_false_iff_not]
  exact ⟨⟨⟨ne_of_isDigit digit (by decide), ne_of_isDigit digit (by decide)⟩,
    ne_of_isDigit digit (by decide)⟩, ne_of_isDigit digit (by decide)⟩

/-- The text of a number: a digit, or a sign and a digit. -/
theorem toString_cases (number : Int) : ∃ digit rest, isDigit digit = true ∧
    ((toString number).toList = digit :: rest ∨
      (toString number).toList = '-' :: digit :: rest) := by
  have first : ∀ n, ∃ digit rest, isDigit digit = true ∧ Nat.toDigits 10 n = digit :: rest := by
    intro n
    have filled : Nat.toDigits 10 n ≠ [] := Nat.toDigits_ne_nil
    obtain ⟨digit, rest, text⟩ := List.exists_cons_of_ne_nil filled
    exact ⟨digit, rest, isDigit_toDigits (text ▸ List.mem_cons_self), text⟩
  cases number with
  | ofNat n =>
    obtain ⟨digit, rest, isDigit, text⟩ := first n
    exact ⟨digit, rest, isDigit, .inl (Nat.toList_repr.trans text)⟩
  | negSucc n =>
    obtain ⟨digit, rest, isDigit, text⟩ := first (n + 1)
    refine ⟨digit, rest, isDigit, .inr ?_⟩
    rw [toList_negSucc, text]

/-- A literal begins with a letter, or with a sign and a letter. -/
def Lettered (word : List Char) : Prop :=
  ∃ sign letter later, word = sign :: letter :: later ∧ isDigit sign = false ∧
    (sign = '-' → isDigit letter = false)

theorem literals_lettered : ∀ pair ∈ literals, Lettered pair.1 := by
  intro pair member
  simp only [literals, List.mem_cons, List.not_mem_nil, or_false] at member
  rcases member with rfl | rfl | rfl | rfl | rfl | rfl <;>
    exact ⟨_, _, _, rfl, by decide, by decide⟩

theorem readLiteral_number (number : Int) (rest : List Char) :
    readLiteral ((toString number).toList ++ rest) = none := by
  rw [readLiteral, List.findSome?_eq_none_iff]
  intro pair member
  obtain ⟨sign, letter, word, spelled, other, letter'⟩ := literals_lettered pair member
  refine if_neg fun begins => ?_
  obtain ⟨tail, whole⟩ := List.isPrefixOf_iff_prefix.mp begins
  obtain ⟨digit, later, isDigit, text | text⟩ := toString_cases number
  · rw [spelled, text] at whole
    exact ne_of_isDigit isDigit other (List.cons.inj whole).1.symm
  · rw [spelled, text] at whole
    obtain ⟨same, whole⟩ := List.cons.inj whole
    exact ne_of_isDigit isDigit (letter' same) (List.cons.inj whole).1.symm

/-! ### Objects with distinct names -/

theorem foldl_setItem {τ α : Type} [DecidableEq τ] (pairs fields : List (τ × α))
    (unique : ((fields ++ pairs).map Prod.fst).Nodup) :
    pairs.foldl (fun fields pair => setItem fields pair.1 pair.2) fields = fields ++ pairs := by
  induction pairs generalizing fields with
  | nil => exact (List.append_nil _).symm
  | cons pair pairs ih =>
    have fresh : pair.1 ∉ fields.map Prod.fst := by
      rw [List.map_append, List.map_cons] at unique
      intro member
      exact (List.nodup_append.mp unique).2.2 _ member _ List.mem_cons_self rfl
    rw [List.foldl_cons, setItem, if_neg fresh, ih _ (by simpa using unique)]
    simp

theorem dictOf_unique {τ α : Type} [DecidableEq τ] {pairs : List (τ × α)}
    (unique : (pairs.map Prod.fst).Nodup) : dictOf pairs = pairs :=
  foldl_setItem pairs [] unique

theorem codes_injective : Function.Injective codes :=
  List.map_injective_iff.mpr fun _ _ => Char.toNat_inj.mp

theorem codedFields_names (fields : List (List Char × Json (List Char))) :
    (codedFields fields).map Prod.fst = (fields.map Prod.fst).map codes := by
  induction fields with
  | nil => rfl
  | cons field rest ih => exact congrArg (codes field.1 :: ·) ih

theorem dictOf_coded {fields : List (List Char × Json (List Char))}
    (unique : (fields.map Prod.fst).Nodup) : dictOf (codedFields fields) = codedFields fields := by
  apply dictOf_unique
  rw [codedFields_names]
  exact unique.map codes_injective

theorem ends_of_sign {sign : Char} {rest : List Char}
    (mark : sign = ',' ∨ sign = ']' ∨ sign = '\x7d') : Ends (sign :: rest) := by
  intro char same
  cases same
  rcases mark with rfl | rfl | rfl <;> decide

namespace Format

variable (format : Format)

theorem skip_gap {first : Char} (begins : Begins first) (rest : List Char) :
    skip (format.gap ++ first :: rest) = first :: rest := by
  rw [skip, List.dropWhile_append_of_pos format.blank]
  exact skip_cons begins.1 rest

theorem write_begins (document : Json (List Char)) (exact : document.Exact) :
    ∃ first rest, format.write document = first :: rest ∧ Begins first := by
  cases document with
  | null => exact ⟨'n', _, rfl, by decide⟩
  | bool flag => cases flag <;> exact ⟨_, _, rfl, by decide⟩
  | int number =>
    obtain ⟨digit, rest, isDigit, text | text⟩ := toString_cases number
    · exact ⟨digit, rest, text, begins_of_isDigit isDigit⟩
    · exact ⟨'-', digit :: rest, text, by decide⟩
  | float text => exact exact.elim
  | str text => exact ⟨'"', _, by rw [write, quote], by decide⟩
  | list items => exact ⟨'[', _, by rw [write], by decide⟩
  | dict fields => exact ⟨'\x7b', _, by rw [write], by decide⟩

@[simp] theorem join_singleton (part : List Char) : format.join [part] = part :=
  List.intercalate_singleton

theorem join_cons_cons (part next : List Char) (parts : List (List Char)) :
    format.join (part :: next :: parts) =
      part ++ ',' :: (format.gap ++ format.join (next :: parts)) := by
  rw [join, List.intercalate_cons_cons]
  simp [join]

theorem items_begin (item : Json (List Char)) (items : List (Json (List Char)))
    (exact : item.Exact) :
    ∃ first rest, format.join (format.writeItems (item :: items)) = first :: rest ∧
      Begins first := by
  obtain ⟨first, rest, text, begins⟩ := format.write_begins item exact
  cases items with
  | nil =>
    rw [writeItems, writeItems, join_singleton, text]
    exact ⟨first, rest, rfl, begins⟩
  | cons next items =>
    rw [writeItems, writeItems, join_cons_cons, text]
    exact ⟨first, _, rfl, begins⟩

theorem fields_begin (name : List Char) (value : Json (List Char))
    (fields : List (List Char × Json (List Char))) :
    ∃ rest, format.join (format.writeFields ((name, value) :: fields)) = '"' :: rest := by
  cases fields with
  | nil =>
    rw [writeFields, writeFields, join_singleton]
    exact ⟨_, rfl⟩
  | cons next fields =>
    obtain ⟨other, held⟩ := next
    rw [writeFields, writeFields, join_cons_cons]
    exact ⟨_, rfl⟩

theorem readName_write (name : List Char) {value : Json (List Char)} (exact : value.Exact)
    (rest : List Char) :
    readName (format.quote name ++ ':' :: (format.gap ++ format.write value) ++ rest) =
      some (codes name, format.write value ++ rest) := by
  obtain ⟨first, later, text, begins⟩ := format.write_begins value exact
  have read := format.readString_flatMap name (':' :: (format.gap ++ first :: (later ++ rest)))
  have colon := @skip_cons ':' (by decide) (format.gap ++ first :: (later ++ rest))
  have held := format.skip_gap begins (later ++ rest)
  simp [readName, quote, text, read, colon, held]

theorem readSign_close {close : Char} (mark : close = ']' ∨ close = '\x7d') (rest : List Char) :
    readSign close (close :: rest) = some (false, rest) := by
  rcases mark with rfl | rfl <;>
  · rw [readSign, skip_cons (by decide)]
    rfl

theorem readSign_comma (close : Char) {first : Char} (begins : Begins first) (rest : List Char) :
    readSign close (',' :: (format.gap ++ first :: rest)) = some (true, first :: rest) := by
  rw [readSign, skip_cons (by decide)]
  exact congrArg (fun text => some (true, text)) (format.skip_gap begins rest)

mutual

/-- A written value is read back, up to what follows it. -/
theorem readValue_write : (document : Json (List Char)) → document.Exact → (fuel : Nat) →
    document.size ≤ fuel → (rest : List Char) → Ends rest →
    readValue fuel (format.write document ++ rest) = some (document.coded, rest)
  | .null, _, fuel + 1, _, rest, _ => rfl
  | .bool true, _, fuel + 1, _, rest, _ => rfl
  | .bool false, _, fuel + 1, _, rest, _ => rfl
  | .int number, _, fuel + 1, _, rest, ends => by
    have value := readNumber_toString number ends
    have literal := readLiteral_number number rest
    rw [write]
    obtain ⟨digit, later, isDigit, text | text⟩ := toString_cases number
    · rw [text, List.cons_append] at value literal ⊢
      rw [readValue, if_neg (ne_of_isDigit isDigit (by decide)),
        if_neg (ne_of_isDigit isDigit (by decide)), if_neg (ne_of_isDigit isDigit (by decide)),
        literal, value]
      rfl
    · rw [text, List.cons_append] at value literal ⊢
      rw [readValue, if_neg (by decide), if_neg (by decide), if_neg (by decide), literal, value]
      rfl
  | .float _, exact, _, _, _, _ => exact.elim
  | .str text, _, fuel + 1, _, rest, _ => by
    have read := format.readString_flatMap text rest
    rw [write, quote, List.cons_append, List.append_assoc, readValue, if_pos rfl,
      List.singleton_append, read]
    rfl
  | .list [], _, fuel + 1, _, rest, _ => rfl
  | .list (item :: items), exact, fuel + 1, enough, rest, _ => by
    have read := readItems_write items item exact.1 exact.2 fuel
      (by rw [Json.size] at enough; omega) rest
    obtain ⟨first, later, text, begins⟩ := format.items_begin item items exact.1
    rw [text, List.cons_append] at read
    rw [write, text, List.cons_append, List.append_assoc, List.singleton_append, readValue,
      if_neg (by decide), if_pos rfl, List.cons_append, skip_cons begins.1,
      List.head?_cons, if_neg (fun same => begins.2.1 (Option.some.inj same)), read]
    rfl
  | .dict [], _, fuel + 1, _, rest, _ => rfl
  | .dict ((name, value) :: fields), exact, fuel + 1, enough, rest, _ => by
    have read := readFields_write fields name value exact.2.1 exact.2.2 fuel
      (by rw [Json.size] at enough; omega) rest
    obtain ⟨later, text⟩ := format.fields_begin name value fields
    rw [text, List.cons_append] at read
    rw [write, text, List.cons_append, List.append_assoc, List.singleton_append, readValue,
      if_neg (by decide), if_neg (by decide), if_pos rfl, List.cons_append, skip_cons (by decide),
      if_neg (by simp), read]
    exact congrArg (fun fields : List (List Nat × Json (List Nat)) => some (Json.dict fields, rest))
      (dictOf_coded exact.1)
  | document, _, 0, enough, _, _ => by
    cases document <;> simp [Json.size] at enough

theorem readItems_write : (items : List (Json (List Char))) → (item : Json (List Char)) →
    item.Exact → ItemsExact items → (fuel : Nat) → itemsSize (item :: items) ≤ fuel →
    (rest : List Char) →
    readItems fuel (format.join (format.writeItems (item :: items)) ++ ']' :: rest) =
      some (codedItems (item :: items), rest)
  | _, _, _, _, 0, enough, _ => by
    simp [itemsSize] at enough
  | [], item, exact, _, fuel + 1, enough, rest => by
    have read := readValue_write item exact fuel (by simp only [itemsSize] at enough; omega)
      (']' :: rest) (ends_of_sign (by simp))
    rw [writeItems, writeItems, join_singleton, readItems, read]
    simp [readSign_close (.inl rfl) rest, codedItems]
  | next :: items, item, exact, exacts, fuel + 1, enough, rest => by
    have later := readItems_write items next exacts.1 exacts.2 fuel
      (by simp only [itemsSize] at enough ⊢; omega) rest
    obtain ⟨first, tail, text, begins⟩ := format.items_begin next items exacts.1
    have read := readValue_write item exact fuel (by simp only [itemsSize] at enough; omega)
      (',' :: (format.gap ++ first :: (tail ++ ']' :: rest))) (ends_of_sign (by simp))
    have comma := format.readSign_comma ']' begins (tail ++ ']' :: rest)
    have whole : format.join (format.writeItems (item :: next :: items)) ++ ']' :: rest =
        format.write item ++ ',' :: (format.gap ++ first :: (tail ++ ']' :: rest)) := by
      rw [writeItems, writeItems, join_cons_cons, ← writeItems, text]
      simp
    rw [text, List.cons_append] at later
    rw [whole, readItems, read]
    simp [comma, later, codedItems]

theorem readFields_write : (fields : List (List Char × Json (List Char))) → (name : List Char) →
    (value : Json (List Char)) → value.Exact → FieldsExact fields → (fuel : Nat) →
    fieldsSize ((name, value) :: fields) ≤ fuel → (rest : List Char) →
    readFields fuel (format.join (format.writeFields ((name, value) :: fields)) ++ '\x7d' :: rest) =
      some (codedFields ((name, value) :: fields), rest)
  | _, _, _, _, _, 0, enough, _ => by
    simp [fieldsSize] at enough
  | [], name, value, exact, _, fuel + 1, enough, rest => by
    have named := format.readName_write name exact ('\x7d' :: rest)
    have read := readValue_write value exact fuel (by simp only [fieldsSize] at enough; omega)
      ('\x7d' :: rest) (ends_of_sign (by simp))
    rw [writeFields, writeFields, join_singleton, readFields, named]
    simp [read, readSign_close (.inr rfl) rest, codedFields]
  | (other, held) :: fields, name, value, exact, exacts, fuel + 1, enough, rest => by
    have later := readFields_write fields other held exacts.1 exacts.2 fuel
      (by simp only [fieldsSize] at enough ⊢; omega) rest
    obtain ⟨tail, text⟩ := format.fields_begin other held fields
    have named := format.readName_write name exact
      (',' :: (format.gap ++ '"' :: (tail ++ '\x7d' :: rest)))
    have read := readValue_write value exact fuel (by simp only [fieldsSize] at enough; omega)
      (',' :: (format.gap ++ '"' :: (tail ++ '\x7d' :: rest))) (ends_of_sign (by simp))
    have comma := @readSign_comma format '\x7d' '"' (by decide) (tail ++ '\x7d' :: rest)
    have whole : format.join (format.writeFields ((name, value) :: (other, held) :: fields)) ++
        '\x7d' :: rest = format.quote name ++ ':' :: (format.gap ++ format.write value) ++
          ',' :: (format.gap ++ '"' :: (tail ++ '\x7d' :: rest)) := by
      rw [writeFields, writeFields, join_cons_cons, ← writeFields, text]
      simp
    rw [text, List.cons_append] at later
    rw [whole, readFields, named]
    simp [read, comma, later, codedFields]

end

mutual

/-- Each value begins with a character of its own. -/
theorem size_le_length : (document : Json (List Char)) → document.Exact →
    document.size ≤ (format.write document).length
  | .null, _ | .bool true, _ | .bool false, _ => by simp [Json.size, write]
  | .int number, exact => by
    obtain ⟨first, rest, text, -⟩ := format.write_begins (.int number) exact
    rw [text]
    exact Nat.succ_le_succ (Nat.zero_le _)
  | .float _, exact => exact.elim
  | .str text, _ => by simp [Json.size, write, quote]
  | .list items, exact => by
    have inside := itemsSize_le_length items exact
    simp only [Json.size, write, List.length_cons, List.length_append, List.length_nil]
    omega
  | .dict fields, exact => by
    have inside := fieldsSize_le_length fields exact.2
    simp only [Json.size, write, List.length_cons, List.length_append, List.length_nil]
    omega

theorem itemsSize_le_length : (items : List (Json (List Char))) → ItemsExact items →
    itemsSize items ≤ (format.join (format.writeItems items)).length + 1
  | [], _ => by simp [itemsSize]
  | [item], exact => by
    have here := size_le_length item exact.1
    simp only [itemsSize, writeItems, join_singleton]
    omega
  | item :: next :: items, exact => by
    have here := size_le_length item exact.1
    have later := itemsSize_le_length (next :: items) exact.2
    rw [itemsSize, writeItems, writeItems, join_cons_cons, ← writeItems]
    simp only [List.length_append, List.length_cons]
    omega

theorem fieldsSize_le_length : (fields : List (List Char × Json (List Char))) →
    FieldsExact fields → fieldsSize fields ≤ (format.join (format.writeFields fields)).length + 1
  | [], _ => by simp [fieldsSize]
  | [(name, value)], exact => by
    have here := size_le_length value exact.1
    simp only [fieldsSize, writeFields, join_singleton, List.length_append, List.length_cons]
    omega
  | (name, value) :: (other, held) :: fields, exact => by
    have here := size_le_length value exact.1
    have later := fieldsSize_le_length ((other, held) :: fields) exact.2
    rw [fieldsSize, writeFields, writeFields, join_cons_cons, ← writeFields]
    simp only [List.length_append, List.length_cons]
    omega

end

/-- A written document is read back, with its strings as code points. -/
theorem loads_write {document : Json (List Char)} (exact : document.Exact) :
    loads (format.write document) = some document.coded := by
  have enough := format.size_le_length document exact
  have read := format.readValue_write document exact ((format.write document).length + 1)
    (by omega) [] nofun
  obtain ⟨first, rest, text, begins⟩ := format.write_begins document exact
  rw [List.append_nil, text] at read
  rw [loads, text, skip_cons begins.1, read]
  rfl

end Format

end PfsenseBackups.JsonReader

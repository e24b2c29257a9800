import Mathlib.Data.List.TakeWhile

/-! Python's `str.format` with named arguments only. A template is read piece by piece, and an error
in a later piece is met only when the pieces before it are written. -/

namespace PfsenseBackups.StrFormat

inductive FormatError where
  | valueError (text : String)
  | keyError (name : String)
  | indexError (text : String)
  /-- Raised by a value that is looked into, converted or written. -/
  | other (text : String)
  deriving DecidableEq

/-- A replacement field: the texts of its name and of its format specification. -/
structure Field where
  name : List Char
  conversion : Option Char
  spec : List Char
  /-- The specification has a brace. -/
  nested : Bool
  deriving DecidableEq

inductive Piece where
  | char (char : Char)
  | field (field : Field)
  deriving DecidableEq

/-! ### `MarkupIterator_next` -/

/-- Where a template is being read; texts that are being collected are reversed. -/
inductive Mode where
  | literal
  | name (read : List Char) (bracket : Bool)
  | conversion (name : List Char)
  | converted (name : List Char) (conversion : Char)
  | spec (name : List Char) (conversion : Option Char) (read : List Char) (depth : Nat)
      (nested : Bool)

/-- The error of a template that ends here. -/
def Mode.ending : Mode → List (Except FormatError Piece)
  | .literal => []
  | .name _ _ => [.error (.valueError "expected '\x7d' before end of string")]
  | .conversion _ =>
    [.error (.valueError "end of string while looking for conversion specifier")]
  | .converted _ _ | .spec .. =>
    [.error (.valueError "unmatched '\x7b' in format spec")]

def markup : Mode → List Char → List (Except FormatError Piece)
  | mode, [] => mode.ending
  | .literal, ['{'] => [.error (.valueError "Single '\x7b' encountered in format string")]
  | .literal, '{' :: '{' :: rest => .ok (.char '{') :: markup .literal rest
  | .literal, '}' :: '}' :: rest => .ok (.char '}') :: markup .literal rest
  | .literal, char :: rest =>
    if char = '{' then markup (.name [] false) rest
    else if char = '}' then
      [.error (.valueError "Single '\x7d' encountered in format string")]
    else .ok (.char char) :: markup .literal rest
  | .name read true, char :: rest => markup (.name (char :: read) (char ≠ ']')) rest
  | .name read false, char :: rest =>
    if char = '{' then [.error (.valueError "unexpected '\x7b' in field name")]
    else if char = '}' then
      .ok (.field ⟨read.reverse, none, [], false⟩) :: markup .literal rest
    else if char = '!' then markup (.conversion read.reverse) rest
    else if char = ':' then markup (.spec read.reverse none [] 1 false) rest
    else markup (.name (char :: read) (char = '[')) rest
  | .conversion name, char :: rest => markup (.converted name char) rest
  | .converted name conversion, char :: rest =>
    if char = '}' then
      .ok (.field ⟨name, some conversion, [], false⟩) :: markup .literal rest
    else if char = ':' then markup (.spec name (some conversion) [] 1 false) rest
    else [.error (.valueError "expected ':' after conversion specifier")]
  | .spec name conversion read depth nested, char :: rest =>
    if char = '{' then markup (.spec name conversion (char :: read) (depth + 1) true) rest
    else if char = '}' then
      if depth = 1 then
        .ok (.field ⟨name, conversion, read.reverse, nested⟩) :: markup .literal rest
      else markup (.spec name conversion (char :: read) (depth - 1) nested) rest
    else markup (.spec name conversion (char :: read) depth nested) rest

/-! ### `FieldNameIterator_next` -/

inductive Accessor where
  | attr (name : String)
  | index (index : Nat)
  | key (name : String)
  deriving DecidableEq

/-- `PY_SSIZE_T_MAX` -/
def maxIndex : Nat :=
  9223372036854775807

/-- `get_integer` from its second character on: the number, unless a character is no digit. -/
def integerFrom (decimal : Char → Option Nat) (number : Nat) :
    List Char → Except FormatError (Option Nat)
  | [] => .ok (some number)
  | char :: rest =>
    match decimal char with
    | none => .ok none
    | some digit =>
      if maxIndex < 10 * number + digit then
        .error (.valueError "Too many decimal digits in format string")
      else integerFrom decimal (10 * number + digit) rest

/-- `get_integer` -/
def integer (decimal : Char → Option Nat) (text : List Char) : Except FormatError (Option Nat) :=
  if text = [] then .ok none else integerFrom decimal 0 text

inductive Access where
  | start
  | attr (read : List Char)
  | item (read : List Char)

/-- `_FieldNameIterator_attr` -/
def attr (read : List Char) : Except FormatError Accessor :=
  if read = [] then .error (.valueError "Empty attribute in format string")
  else .ok (.attr (String.ofList read.reverse))

/-- `_FieldNameIterator_item` -/
def item (decimal : Char → Option Nat) (read : List Char) : Except FormatError Accessor :=
  match integer decimal read.reverse with
  | .error error => .error error
  | .ok (some index) => .ok (.index index)
  | .ok none =>
    if read = [] then .error (.valueError "Empty attribute in format string")
    else .ok (.key (String.ofList read.reverse))

/-- What follows the first part of a field's name, as a list that is looked up from the left. -/
def accessors (decimal : Char → Option Nat) : Access → List Char →
    List (Except FormatError Accessor)
  | .start, [] => []
  | .attr read, [] => [attr read]
  | .item _, [] => [.error (.valueError "Missing ']' in format string")]
  | .start, char :: rest =>
    if char = '.' then accessors decimal (.attr []) rest
    else if char = '[' then accessors decimal (.item []) rest
    else
      [.error (.valueError "Only '.' or '[' may follow ']' in format field specifier")]
  | .attr read, char :: rest =>
    if char = '.' then attr read :: accessors decimal (.attr []) rest
    else if char = '[' then attr read :: accessors decimal (.item []) rest
    else accessors decimal (.attr (char :: read)) rest
  | .item read, char :: rest =>
    if char = ']' then item decimal read :: accessors decimal .start rest
    else accessors decimal (.item (char :: read)) rest

/-! ### `output_markup` -/

def isLetter (char : Char) : Bool :=
  'a' ≤ char && char ≤ 'z'

/-- What a template may ask of the values it is given. -/
structure Objects (Value : Type) where
  /-- `Py_UNICODE_TODECIMAL` -/
  decimal : Char → Option Nat
  decimal_letter : ∀ char, isLetter char = true → decimal char = none
  ofText : String → Value
  /-- `getattr`, and `value[key]` for a number and for a text. -/
  follow : Value → Accessor → Except FormatError Value
  str : Value → Except FormatError String
  repr : Value → Except FormatError String
  ascii : Value → Except FormatError String
  /-- `format(value, spec)` -/
  write : Value → String → Except FormatError String
  write_text : ∀ text, write (ofText text) "" = .ok text

section Objects

variable {Value : Type} (objects : Objects Value)

/-- `do_conversion` -/
def convert (value : Value) : Option Char → Except FormatError Value
  | none => .ok value
  | some 's' => (objects.str value).map objects.ofText
  | some 'r' => (objects.repr value).map objects.ofText
  | some 'a' => (objects.ascii value).map objects.ofText
  | some char =>
    .error (.valueError (if 32 < char.toNat ∧ char.toNat < 127 then
        "Unknown conversion specifier " ++ String.ofList [char]
      else
        "Unknown conversion specifier \\x" ++ String.ofList (Nat.toDigits 16 char.toNat)))

/-- The part of a field's name up to a dot or a bracket. -/
def first (name : List Char) : List Char :=
  name.takeWhile fun char => char ≠ '.' && char ≠ '['

/-- The positional argument that is asked for where there is none. -/
def outOfRange (index : Nat) : FormatError :=
  .indexError ("Replacement index " ++ toString index ++
    " out of range for positional args tuple")

def followAll (value : Value) : List (Except FormatError Accessor) → Except FormatError Value
  | [] => .ok value
  | .error error :: _ => .error error
  | .ok accessor :: rest => do followAll (← objects.follow value accessor) rest

/-- `get_field_object`; the first field without a name is number 0. -/
def fieldObject (arguments : List (String × Value)) (name : List Char) :
    Except FormatError Value := do
  match ← integer objects.decimal (first name) with
  | some index => .error (outOfRange index)
  | none =>
    if first name = [] then .error (outOfRange 0)
    else
      match arguments.lookup (String.ofList (first name)) with
      | none => .error (.keyError (String.ofList (first name)))
      | some value =>
        followAll objects value (accessors objects.decimal .start (name.drop (first name).length))

/-- `do_markup`, where `write` writes a field. -/
def writeAll (write : Field → Except FormatError String) :
    List (Except FormatError Piece) → Except FormatError String
  | [] => .ok ""
  | .error error :: _ => .error error
  | .ok (.char char) :: rest => do .ok (String.ofList [char] ++ (← writeAll write rest))
  | .ok (.field field) :: rest => do
    let text ← write field
    .ok (text ++ (← writeAll write rest))

/-- `build_string`, to the depth that is left for fields within specifications. -/
def buildString (arguments : List (String × Value)) : Nat → List Char → Except FormatError String
  | 0, _ => .error (.valueError "Max string recursion exceeded")
  | depth + 1, template =>
    writeAll (fun field => do
      let value ← fieldObject objects arguments field.name
      let converted ← convert objects value field.conversion
      let spec ←
        if field.nested then buildString arguments depth field.spec
        else .ok (String.ofList field.spec)
      objects.write converted spec) (markup .literal template)

/-- `template.format(**arguments)` -/
def format (arguments : List (String × Value)) (template : String) : Except FormatError String :=
  buildString objects arguments 2 template.toList

/-! ### Templates of plain texts and names -/

/-- A part of a template that has only texts without braces and names of small letters. -/
inductive Part where
  | literal (text : List Char)
  | named (name : List Char)

def Part.source : Part → List Char
  | .literal text => text
  | .named name => '{' :: name ++ ['}']

def Part.Plain : Part → Prop
  | .literal text => ∀ char ∈ text, char ≠ '{' ∧ char ≠ '}'
  | .named name => name ≠ [] ∧ ∀ char ∈ name, isLetter char = true

def Part.pieces : Part → List (Except FormatError Piece)
  | .literal text => text.map fun char => .ok (.char char)
  | .named name => [.ok (.field ⟨name, none, [], false⟩)]

theorem isLetter_ne {char other : Char} (letter : isLetter char = true)
    (apart : isLetter other = false) : char ≠ other := by
  intro same
  rw [same, apart] at letter
  cases letter

theorem markup_char {char : Char} (opening : char ≠ '{') (closing : char ≠ '}')
    (rest : List Char) : markup .literal (char :: rest) =
      .ok (.char char) :: markup .literal rest := by
  rw [markup.eq_def]
  split
  all_goals simp_all

theorem markup_open {char : Char} (plain : char ≠ '{') (rest : List Char) :
    markup .literal ('{' :: char :: rest) = markup (.name [] false) (char :: rest) := by
  rw [markup]
  · exact if_pos rfl
  · simp
  · simpa using plain
  · simp

theorem markup_text {text : List Char} (plain : (Part.literal text).Plain) (rest : List Char) :
    markup .literal (text ++ rest) = (Part.literal text).pieces ++ markup .literal rest := by
  induction text with
  | nil => rfl
  | cons char text ih =>
    have head := plain char List.mem_cons_self
    rw [List.cons_append, markup_char head.1 head.2,
      ih fun other mem => plain other (List.mem_cons_of_mem _ mem)]
    rfl

theorem markup_letters {name : List Char} (letters : ∀ char ∈ name, isLetter char = true)
    (read rest : List Char) : markup (.name read false) (name ++ '}' :: rest) =
      .ok (.field ⟨read.reverse ++ name, none, [], false⟩) :: markup .literal rest := by
  induction name generalizing read with
  | nil => simp [markup]
  | cons char name ih =>
    have letter := letters char List.mem_cons_self
    have bracket : decide (char = '[') = false :=
      decide_eq_false (isLetter_ne letter (by decide))
    rw [List.cons_append, markup, if_neg (isLetter_ne letter (by decide)),
      if_neg (isLetter_ne letter (by decide)), if_neg (isLetter_ne letter (by decide)),
      if_neg (isLetter_ne letter (by decide)), bracket,
      ih fun other mem => letters other (List.mem_cons_of_mem _ mem)]
    simp

theorem markup_name {name : List Char} (plain : (Part.named name).Plain) (rest : List Char) :
    markup .literal ((Part.named name).source ++ rest) =
      (Part.named name).pieces ++ markup .literal rest := by
  cases name with
  | nil => exact absurd rfl plain.1
  | cons char name =>
    have head : char ≠ '{' := isLetter_ne (plain.2 char List.mem_cons_self) (by decide)
    calc
      _ = markup .literal ('{' :: char :: (name ++ '}' :: rest)) := by simp [Part.source]
      _ = markup (.name [] false) ((char :: name) ++ '}' :: rest) := markup_open head _
      _ = _ := markup_letters plain.2 [] rest

theorem markup_parts {parts : List Part} (plain : ∀ part ∈ parts, part.Plain) :
    markup .literal (parts.flatMap Part.source) = parts.flatMap Part.pieces := by
  induction parts with
  | nil => rfl
  | cons part parts ih =>
    have head := plain part List.mem_cons_self
    have tail := ih fun other mem => plain other (List.mem_cons_of_mem _ mem)
    rw [List.flatMap_cons, List.flatMap_cons, ← tail]
    cases part with
    | literal text => exact markup_text head _
    | named name => exact markup_name head _

/-! ### What is written for them -/

/-- What a part becomes, where the names stand for texts. -/
def Part.written (texts : List (String × String)) : Part → String
  | .literal text => String.ofList text
  | .named name => (texts.lookup (String.ofList name)).getD ""

/-- The arguments of a template that is given texts. -/
def textArguments (texts : List (String × String)) : List (String × Value) :=
  texts.map fun entry => (entry.1, objects.ofText entry.2)

theorem lookup_textArguments (texts : List (String × String)) (name : String) :
    (textArguments objects texts).lookup name = (texts.lookup name).map objects.ofText := by
  induction texts with
  | nil => rfl
  | cons entry texts ih =>
    rw [textArguments, List.map_cons, List.lookup_cons, List.lookup_cons]
    cases name == entry.1 with
    | true => rfl
    | false => exact ih

theorem first_letters {name : List Char} (letters : ∀ char ∈ name, isLetter char = true) :
    first name = name := by
  rw [first, List.takeWhile_eq_self_iff]
  intro char mem
  have dot : char ≠ '.' := isLetter_ne (letters char mem) (by decide)
  have bracket : char ≠ '[' := isLetter_ne (letters char mem) (by decide)
  simp [dot, bracket]

theorem fieldObject_letters {texts : List (String × String)} {name : List Char} {text : String}
    (plain : (Part.named name).Plain) (known : texts.lookup (String.ofList name) = some text) :
    fieldObject objects (textArguments objects texts) name = .ok (objects.ofText text) := by
  have noNumber : integer objects.decimal name = .ok none := by
    cases name with
    | nil => exact absurd rfl plain.1
    | cons char name =>
      have letter := objects.decimal_letter char (plain.2 char List.mem_cons_self)
      simp [integer, integerFrom, letter]
  rw [fieldObject, first_letters plain.2, noNumber]
  show (if name = [] then _ else _) = _
  rw [if_neg plain.1, lookup_textArguments, known, List.drop_length]
  rfl

section Writing

variable {write : Field → Except FormatError String} {later : String}
  {rest : List (Except FormatError Piece)} (written : writeAll write rest = .ok later)
include written

theorem writeAll_literal (text : List Char) :
    writeAll write ((Part.literal text).pieces ++ rest) = .ok (String.ofList text ++ later) := by
  induction text with
  | nil => rw [String.ofList_nil, String.empty_append]; exact written
  | cons char text ih =>
    have joined : String.ofList (char :: text) = String.ofList [char] ++ String.ofList text := by
      rw [← String.ofList_append, List.singleton_append]
    show writeAll write (.ok (.char char) :: ((Part.literal text).pieces ++ rest)) = _
    rw [writeAll, ih, joined, String.append_assoc]
    rfl

theorem writeAll_field {field : Field} {text : String} (head : write field = .ok text) :
    writeAll write (.ok (.field field) :: rest) = .ok (text ++ later) := by
  rw [writeAll, head, written]
  rfl

end Writing

theorem writeAll_parts {texts : List (String × String)} {write : Field → Except FormatError String}
    {parts : List Part} (fields : ∀ name, Part.named name ∈ parts →
      write ⟨name, none, [], false⟩ = .ok ((Part.named name).written texts)) :
    writeAll write (parts.flatMap Part.pieces) =
      .ok ((parts.map (Part.written texts)).foldr (· ++ ·) "") := by
  induction parts with
  | nil => rfl
  | cons part parts ih =>
    have tail := ih fun name mem => fields name (List.mem_cons_of_mem _ mem)
    cases part with
    | literal text => exact writeAll_literal tail text
    | named name => exact writeAll_field tail (fields name List.mem_cons_self)

/-- A template of plain texts and known names is written, whatever the texts it is given. -/
theorem format_parts {texts : List (String × String)} {parts : List Part}
    (plain : ∀ part ∈ parts, part.Plain)
    (known : ∀ name, Part.named name ∈ parts → (texts.lookup (String.ofList name)).isSome) :
    format objects (textArguments objects texts) (String.ofList (parts.flatMap Part.source)) =
      .ok ((parts.map (Part.written texts)).foldr (· ++ ·) "") := by
  rw [format, String.toList_ofList, buildString, markup_parts plain]
  apply writeAll_parts
  intro name mem
  have ⟨text, found⟩ := Option.isSome_iff_exists.mp (known name mem)
  rw [fieldObject_letters objects (plain _ mem) found, Part.written, found]
  exact objects.write_text text

end Objects

end PfsenseBackups.StrFormat

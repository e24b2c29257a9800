import Mathlib.Data.List.Basic
import Mathlib.Data.List.Infix
import Mathlib.Data.Char
import Mathlib.Tactic.Common

/-! Bytes and texts: UTF-8 read with replacement characters, base64, lines of a fixed width, and
padding to whole blocks. -/

namespace PfsenseBackups.Encodings

abbrev Bytes := List UInt8

/-! ### UTF-8 -/

/-- `text.encode("utf-8")`. -/
def utf8 (text : List Char) : Bytes :=
  text.flatMap String.utf8EncodeChar

/-- A character of which some bytes have been read. -/
structure Owing where
  /-- The bytes that follow after the next one. -/
  later : Nat
  low : Nat
  high : Nat
  value : Nat

def replacement : Char := Char.ofNat 0xFFFD

/-- The characters that are complete after the first byte of one, and what is owed then. -/
def opens (byte : Nat) : List Char × Option Owing :=
  if byte < 0x80 then ([Char.ofNat byte], none)
  else if byte < 0xC2 then ([replacement], none)
  else if byte < 0xE0 then ([], some ⟨0, 0x80, 0xBF, byte - 0xC0⟩)
  else if byte = 0xE0 then ([], some ⟨1, 0xA0, 0xBF, 0⟩)
  else if byte = 0xED then ([], some ⟨1, 0x80, 0x9F, 0xD⟩)
  else if byte < 0xF0 then ([], some ⟨1, 0x80, 0xBF, byte - 0xE0⟩)
  else if byte = 0xF0 then ([], some ⟨2, 0x90, 0xBF, 0⟩)
  else if byte < 0xF4 then ([], some ⟨2, 0x80, 0xBF, byte - 0xF0⟩)
  else if byte = 0xF4 then ([], some ⟨2, 0x80, 0x8F, 4⟩)
  else ([replacement], none)

def reads : Option Owing → Nat → List Char × Option Owing
  | none, byte => opens byte
  | some owing, byte =>
    if owing.low ≤ byte ∧ byte ≤ owing.high then
      let value := owing.value * 64 + byte % 64
      match owing.later with
      | 0 => ([Char.ofNat value], none)
      | later + 1 => ([], some ⟨later, 0x80, 0xBF, value⟩)
    -- What was begun is replaced, and the byte is read again as a first one.
    else (replacement :: (opens byte).1, (opens byte).2)

def decodeFrom : Option Owing → Bytes → List Char
  | none, [] => []
  | some _, [] => [replacement]
  | owing, byte :: rest =>
    (reads owing byte.toNat).1 ++ decodeFrom (reads owing byte.toNat).2 rest

/-- `blob.decode("utf-8", errors="replace")`. -/
def decodeUtf8 (blob : Bytes) : List Char :=
  decodeFrom none blob

def owed (owing : Option Owing) : Nat :=
  if owing.isSome then 1 else 0

theorem opens_length (byte : Nat) : (opens byte).1.length + owed (opens byte).2 ≤ 1 := by
  unfold opens owed
  split_ifs <;> simp_all

theorem reads_length (owing : Option Owing) (byte : Nat) :
    (reads owing byte).1.length + owed (reads owing byte).2 ≤ 1 + owed owing := by
  have first := opens_length byte
  cases owing with
  | none => exact Nat.le_add_right_of_le first
  | some owing =>
    simp only [reads]
    split
    · split <;> simp [owed]
    · simp only [List.length_cons, owed, Option.isSome_some, if_true] at first ⊢
      omega

theorem decodeFrom_length (owing : Option Owing) (blob : Bytes) :
    (decodeFrom owing blob).length ≤ blob.length + owed owing := by
  induction blob generalizing owing with
  | nil => cases owing <;> simp [decodeFrom, owed]
  | cons byte rest ih =>
    have head := reads_length owing byte.toNat
    have tail := ih (reads owing byte.toNat).2
    simp only [decodeFrom, List.length_append, List.length_cons]
    omega

theorem decodeUtf8_length (blob : Bytes) : (decodeUtf8 blob).length ≤ blob.length :=
  decodeFrom_length none blob

/-- The characters that are one byte each. -/
def Ascii (text : List Char) : Prop :=
  ∀ char ∈ text, char.toNat < 128

theorem utf8_of_ascii {text : List Char} (ascii : Ascii text) :
    utf8 text = text.map fun char => UInt8.ofNat char.toNat := by
  induction text with
  | nil => rfl
  | cons char rest ih =>
    have small : char.val.toNat ≤ 127 := Nat.le_of_lt_succ (ascii char List.mem_cons_self)
    have tail := ih fun other member => ascii other (List.mem_cons_of_mem char member)
    have head : String.utf8EncodeChar char = [UInt8.ofNat char.toNat] := if_pos small
    rw [utf8, List.flatMap_cons, head, ← utf8, tail]
    rfl

theorem decodeFrom_byte {owing : Option Owing} {code : Nat} (small : code < 256) (rest : Bytes) :
    decodeFrom owing (UInt8.ofNat code :: rest) =
      (reads owing code).1 ++ decodeFrom (reads owing code).2 rest := by
  have byte : (UInt8.ofNat code).toNat = code := by
    rw [UInt8.toNat_ofNat']
    omega
  rw [decodeFrom, byte]

theorem reads_more {low high : Nat} (later value digit : Nat) (above : low ≤ digit % 64 + 128)
    (below : digit % 64 + 128 ≤ high) :
    reads (some ⟨later + 1, low, high, value⟩) (digit % 64 + 128) =
      ([], some ⟨later, 0x80, 0xBF, value * 64 + digit % 64⟩) := by
  have low : (digit % 64 + 128) % 64 = digit % 64 := by omega
  rw [reads, if_pos ⟨above, below⟩, low]

theorem reads_last (value digit : Nat) :
    reads (some ⟨0, 0x80, 0xBF, value⟩) (digit % 64 + 128) =
      ([Char.ofNat (value * 64 + digit % 64)], none) := by
  have low : (digit % 64 + 128) % 64 = digit % 64 := by omega
  have range : 0x80 ≤ digit % 64 + 128 ∧ digit % 64 + 128 ≤ 0xBF := by omega
  rw [reads, if_pos range, low]

theorem opens_two {lead : Nat} (least : 2 ≤ lead) (most : lead < 32) :
    opens (lead + 192) = ([], some ⟨0, 0x80, 0xBF, lead⟩) := by
  unfold opens
  rw [if_neg (by omega), if_neg (by omega), if_pos (by omega), Nat.add_sub_cancel]

/-- The byte after the first is bounded where there is a shorter form, or no character. -/
theorem opens_three {lead next : Nat} (most : lead < 16) (digit : next < 64)
    (shortest : lead = 0 → 32 ≤ next) (character : lead = 13 → next < 32) :
    ∃ low high, opens (lead + 224) = ([], some ⟨1, low, high, lead⟩) ∧ low ≤ next + 128 ∧
      next + 128 ≤ high := by
  unfold opens
  rw [if_neg (by omega), if_neg (by omega), if_neg (by omega)]
  by_cases first : lead = 0
  · exact ⟨0xA0, 0xBF, by rw [if_pos (by omega), first], by omega, by omega⟩
  · rw [if_neg (by omega)]
    by_cases surrogate : lead = 13
    · exact ⟨0x80, 0x9F, by rw [if_pos (by omega), surrogate], by omega, by omega⟩
    · exact ⟨0x80, 0xBF, by rw [if_neg (by omega), if_pos (by omega), Nat.add_sub_cancel],
        by omega, by omega⟩

theorem opens_four {lead next : Nat} (most : lead ≤ 4) (digit : next < 64)
    (shortest : lead = 0 → 16 ≤ next) (character : lead = 4 → next < 16) :
    ∃ low high, opens (lead + 240) = ([], some ⟨2, low, high, lead⟩) ∧ low ≤ next + 128 ∧
      next + 128 ≤ high := by
  unfold opens
  rw [if_neg (by omega), if_neg (by omega), if_neg (by omega), if_neg (by omega),
    if_neg (by omega), if_neg (by omega)]
  by_cases first : lead = 0
  · exact ⟨0x90, 0xBF, by rw [if_pos (by omega), first], by omega, by omega⟩
  · rw [if_neg (by omega)]
    by_cases last : lead = 4
    · exact ⟨0x80, 0x8F, by rw [if_neg (by omega), if_pos (by omega), last], by omega, by omega⟩
    · exact ⟨0x80, 0xBF, by rw [if_pos (by omega), Nat.add_sub_cancel], by omega, by omega⟩

theorem decodeFrom_utf8EncodeChar (char : Char) (rest : Bytes) :
    decodeFrom none (String.utf8EncodeChar char ++ rest) = char :: decodeFrom none rest := by
  have valid : char.toNat < 55296 ∨ 57343 < char.toNat ∧ char.toNat < 1114112 := char.valid
  have whole : Char.ofNat char.toNat = char := Char.ofNat_toNat char
  have value : char.val.toNat = char.toNat := rfl
  unfold String.utf8EncodeChar
  simp only [value]
  generalize char.toNat = code at *
  subst whole
  split_ifs with one two three
  · have first : opens code = ([Char.ofNat code], none) := if_pos (by omega)
    rw [List.singleton_append, decodeFrom_byte (by omega), reads, first]
    rfl
  · have first := @opens_two (code / 64 % 32) (by omega) (by omega)
    have same : code / 64 % 32 * 64 + code % 64 = code := by omega
    simp only [List.cons_append, List.nil_append]
    rw [decodeFrom_byte (by omega), reads, first, decodeFrom_byte (by omega), reads_last, same]
    rfl
  · obtain ⟨low, high, first, above, below⟩ := @opens_three (code / 4096 % 16) (code / 64 % 64)
      (by omega) (by omega) (by omega) (by omega)
    have same : (code / 4096 % 16 * 64 + code / 64 % 64) * 64 + code % 64 = code := by omega
    simp only [List.cons_append, List.nil_append]
    rw [decodeFrom_byte (by omega), reads, first, decodeFrom_byte (by omega),
      reads_more _ _ _ above below, decodeFrom_byte (by omega), reads_last, same]
    rfl
  · obtain ⟨low, high, first, above, below⟩ := @opens_four (code / 262144 % 8) (code / 4096 % 64)
      (by omega) (by omega) (by omega) (by omega)
    have same : ((code / 262144 % 8 * 64 + code / 4096 % 64) * 64 + code / 64 % 64) * 64 +
        code % 64 = code := by omega
    simp only [List.cons_append, List.nil_append]
    rw [decodeFrom_byte (by omega), reads, first, decodeFrom_byte (by omega),
      reads_more _ _ _ above below, decodeFrom_byte (by omega),
      reads_more _ _ _ (by omega) (by omega), decodeFrom_byte (by omega), reads_last, same]
    rfl

/-- Every text is read back as it was. -/
theorem decodeUtf8_utf8 (text : List Char) : decodeUtf8 (utf8 text) = text := by
  unfold decodeUtf8
  induction text with
  | nil => rfl
  | cons char rest ih => rw [utf8, List.flatMap_cons, decodeFrom_utf8EncodeChar, ← utf8, ih]

theorem utf8_length {text : List Char} (ascii : Ascii text) : (utf8 text).length = text.length := by
  rw [utf8_of_ascii ascii, List.length_map]

/-- A character's first byte is no later one, and below 128 it is the only one. -/
theorem utf8EncodeChar_cons (char : Char) : ∃ first rest, String.utf8EncodeChar char = first :: rest ∧
    (first.toNat < 128 ∧ rest = [] ∨ 192 ≤ first.toNat) := by
  have single : char.val.toNat ≤ 127 → (UInt8.ofNat char.val.toNat).toNat < 128 := by
    intro small
    rw [UInt8.toNat_ofNat']
    omega
  have lead : ∀ value, 192 ≤ value → value < 256 → 192 ≤ (UInt8.ofNat value).toNat := by
    intro value low high
    rw [UInt8.toNat_ofNat']
    omega
  unfold String.utf8EncodeChar
  dsimp only
  split
  case isTrue small => exact ⟨_, _, rfl, .inl ⟨single small, rfl⟩⟩
  case isFalse =>
    split
    · exact ⟨_, _, rfl, .inr (lead _ (by omega) (by omega))⟩
    · split
      · exact ⟨_, _, rfl, .inr (lead _ (by omega) (by omega))⟩
      · exact ⟨_, _, rfl, .inr (lead _ (by omega) (by omega))⟩

/-- No text starts like a gzip stream. -/
theorem utf8_no_magic (text : List Char) : ¬ [0x1F, 0x8B] <+: utf8 text := by
  rintro ⟨rest, magic⟩
  cases text with
  | nil => cases magic
  | cons char text =>
    obtain ⟨first, later, head, small | large⟩ := utf8EncodeChar_cons char
    · rw [utf8, List.flatMap_cons, head, small.2] at magic
      have second := (List.cons.inj magic).2
      cases text with
      | nil => cases second
      | cons next text =>
        obtain ⟨byte, others, head', bound⟩ := utf8EncodeChar_cons next
        rw [List.flatMap_cons, head'] at second
        obtain rfl := (List.cons.inj second).1
        rcases bound with ⟨low, -⟩ | high
        · exact absurd low (by decide)
        · exact absurd high (by decide)
    · rw [utf8, List.flatMap_cons, head] at magic
      obtain rfl := (List.cons.inj magic).1
      exact absurd large (by decide)

/-! ### Base64 -/

/-- The digits of base64. -/
def sextet (value : Nat) : Char :=
  if value < 26 then Char.ofNat (65 + value)
  else if value < 52 then Char.ofNat (71 + value)
  else if value < 62 then Char.ofNat (value - 4)
  else if value = 62 then '+'
  else '/'

def sextetValue (char : Char) : Option Nat :=
  let code := char.toNat
  if 65 ≤ code ∧ code ≤ 90 then some (code - 65)
  else if 97 ≤ code ∧ code ≤ 122 then some (code - 71)
  else if 48 ≤ code ∧ code ≤ 57 then some (code + 4)
  else if char = '+' then some 62
  else if char = '/' then some 63
  else none

/-- `base64.b64encode`. -/
def b64encode : Bytes → List Char
  | [] => []
  | [a] => [sextet (a.toNat / 4), sextet (a.toNat % 4 * 16), '=', '=']
  | [a, b] =>
    [sextet (a.toNat / 4), sextet (a.toNat % 4 * 16 + b.toNat / 16),
      sextet (b.toNat % 16 * 4), '=']
  | a :: b :: c :: rest =>
    sextet (a.toNat / 4) :: sextet (a.toNat % 4 * 16 + b.toNat / 16) ::
      sextet (b.toNat % 16 * 4 + c.toNat / 64) :: sextet (c.toNat % 64) :: b64encode rest

/-- `base64.b64decode(text, validate=True)`. -/
def b64decode : List Char → Option Bytes
  | [] => some []
  | first :: second :: third :: fourth :: rest => do
    let w ← sextetValue first
    let x ← sextetValue second
    let a := UInt8.ofNat (w * 4 + x / 16)
    if third = '=' then
      if fourth = '=' ∧ rest = [] then some [a] else none
    else
      let y ← sextetValue third
      let b := UInt8.ofNat (x % 16 * 16 + y / 4)
      if fourth = '=' then
        if rest = [] then some [a, b] else none
      else
        let z ← sextetValue fourth
        let c := UInt8.ofNat (y % 4 * 64 + z)
        (b64decode rest).map fun later => a :: b :: c :: later
  | _ => none

theorem sextetValue_sextet {value : Nat} (small : value < 64) :
    sextetValue (sextet value) = some value := by
  have all : ∀ digit : Fin 64, sextetValue (sextet digit) = some digit.val := by decide
  exact all ⟨value, small⟩

theorem sextet_ne_pad (value : Nat) (small : value < 64) : sextet value ≠ '=' := by
  have all : ∀ digit : Fin 64, sextet digit ≠ '=' := by decide
  exact all ⟨value, small⟩

theorem ofNat_toNat {value : Nat} (byte : UInt8) (same : value = byte.toNat) :
    UInt8.ofNat value = byte := by
  rw [same, UInt8.ofNat_toNat]

theorem b64decode_b64encode (blob : Bytes) : b64decode (b64encode blob) = some blob := by
  induction blob using b64encode.induct with
  | case1 => rfl
  | case2 a =>
    have boundA := a.toNat_lt
    simp only [b64encode, b64decode, bind, Option.bind]
    rw [sextetValue_sextet (by omega), sextetValue_sextet (by omega)]
    simp only [and_self, if_true]
    rw [ofNat_toNat a (by omega)]
  | case3 a b =>
    have boundA := a.toNat_lt
    have boundB := b.toNat_lt
    simp only [b64encode, b64decode, bind, Option.bind]
    rw [sextetValue_sextet (by omega), sextetValue_sextet (by omega),
      sextetValue_sextet (by omega)]
    simp only [if_neg (sextet_ne_pad (b.toNat % 16 * 4) (by omega)), if_true]
    rw [ofNat_toNat a (by omega), ofNat_toNat b (by omega)]
  | case4 a b c rest ih =>
    have boundA := a.toNat_lt
    have boundB := b.toNat_lt
    have boundC := c.toNat_lt
    simp only [b64encode, b64decode, bind, Option.bind, ih, Option.map_some]
    rw [sextetValue_sextet (by omega), sextetValue_sextet (by omega),
      sextetValue_sextet (by omega), sextetValue_sextet (by omega)]
    simp only [if_neg (sextet_ne_pad (b.toNat % 16 * 4 + c.toNat / 64) (by omega)),
      if_neg (sextet_ne_pad (c.toNat % 64) (by omega))]
    rw [ofNat_toNat a (by omega), ofNat_toNat b (by omega),
      ofNat_toNat c (by omega)]

theorem b64decode_length {text : List Char} {blob : Bytes} (decoded : b64decode text = some blob) :
    blob.length ≤ text.length := by
  match text, decoded with
  | [], decoded =>
    cases decoded
    exact Nat.le_refl 0
  | first :: second :: third :: fourth :: rest, decoded =>
    simp only [b64decode, Option.bind_eq_bind, Option.bind_eq_some_iff] at decoded
    obtain ⟨w, -, x, -, decoded⟩ := decoded
    split at decoded
    · split at decoded
      · cases decoded
        simp only [List.length_cons, List.length_nil]
        omega
      · cases decoded
    · obtain ⟨y, -, decoded⟩ := Option.bind_eq_some_iff.mp decoded
      split at decoded
      · split at decoded
        · cases decoded
          simp only [List.length_cons, List.length_nil]
          omega
        · cases decoded
      · obtain ⟨z, -, decoded⟩ := Option.bind_eq_some_iff.mp decoded
        obtain ⟨later, tail, rfl⟩ := Option.map_eq_some_iff.mp decoded
        have shorter := b64decode_length tail
        simp only [List.length_cons]
        omega

/-- `[A-Za-z0-9+/=]`. -/
def isBase64 (char : Char) : Bool :=
  (sextetValue char).isSome || char = '='

theorem isBase64_sextet {value : Nat} (small : value < 64) : isBase64 (sextet value) := by
  rw [isBase64, sextetValue_sextet small]
  rfl

theorem b64encode_isBase64 (blob : Bytes) : ∀ char ∈ b64encode blob, isBase64 char := by
  have pad : isBase64 '=' := by decide
  induction blob using b64encode.induct with
  | case1 => simp [b64encode]
  | case2 a =>
    have boundA := a.toNat_lt
    simp only [b64encode, List.forall_mem_cons]
    exact ⟨isBase64_sextet (by omega), isBase64_sextet (by omega), pad, pad,
      List.forall_mem_nil _⟩
  | case3 a b =>
    have boundA := a.toNat_lt
    have boundB := b.toNat_lt
    simp only [b64encode, List.forall_mem_cons]
    exact ⟨isBase64_sextet (by omega), isBase64_sextet (by omega), isBase64_sextet (by omega), pad,
      List.forall_mem_nil _⟩
  | case4 a b c rest ih =>
    have boundA := a.toNat_lt
    have boundB := b.toNat_lt
    have boundC := c.toNat_lt
    simp only [b64encode, List.forall_mem_cons]
    exact ⟨isBase64_sextet (by omega), isBase64_sextet (by omega), isBase64_sextet (by omega),
      isBase64_sextet (by omega), ih⟩

theorem b64encode_length (blob : Bytes) : blob.length ≤ (b64encode blob).length :=
  b64decode_length (b64decode_b64encode blob)

/-! ### Lines -/

def isLineBreak (char : Char) : Bool :=
  let code := char.toNat
  (10 ≤ code && code ≤ 13) || (28 ≤ code && code ≤ 30) || code == 133 || code == 8232 ||
    code == 8233

/-- `text.splitlines()`. -/
def splitLines : List Char → List (List Char)
  | [] => []
  | '\r' :: '\n' :: rest => [] :: splitLines rest
  | char :: rest =>
    if isLineBreak char then [] :: splitLines rest
    else
      match splitLines rest with
      | [] => [[char]]
      | line :: lines => (char :: line) :: lines

/-- `"\n".join(re.findall(".{1,width}", text))` of a text without line ends, from a place on at
which a line has room for some more characters. -/
def wrapFrom (width : Nat) : Nat → List Char → List Char
  | _, [] => []
  | 0, char :: rest => '\n' :: char :: wrapFrom width (width - 1) rest
  | room + 1, char :: rest => char :: wrapFrom width room rest

def wrapLines (width : Nat) (text : List Char) : List Char :=
  wrapFrom width width text

/-- The lines hold what is not a line end. -/
theorem splitLines_flatten (text : List Char) :
    (splitLines text).flatten = text.filter fun char => !isLineBreak char := by
  induction text using splitLines.induct with
  | case1 => rfl
  | case2 rest ih =>
    have carriageReturn : isLineBreak '\r' := by decide
    have lineFeed : isLineBreak '\n' := by decide
    simp [splitLines, ih, carriageReturn, lineFeed]
  | case3 char rest other breaks ih =>
    rw [splitLines, if_pos breaks]
    · simp [ih, breaks]
    · exact other
  | case4 char rest other breaks none ih =>
    rw [splitLines, if_neg breaks, none]
    · rw [none] at ih
      simp [← ih, breaks]
    · exact other
  | case5 char rest other breaks line lines some ih =>
    rw [splitLines, if_neg breaks, some]
    · rw [some] at ih
      simp [← ih, breaks]
    · exact other

theorem splitLines_length (text : List Char) : (splitLines text).flatten.length ≤ text.length := by
  rw [splitLines_flatten]
  exact List.length_filter_le _ text

theorem mem_of_mem_splitLines {text line : List Char} {char : Char} (member : line ∈ splitLines text)
    (inLine : char ∈ line) : char ∈ text ∧ isLineBreak char = false := by
  have joined : char ∈ (splitLines text).flatten := List.mem_flatten.mpr ⟨line, member, inLine⟩
  rw [splitLines_flatten, List.mem_filter] at joined
  exact ⟨joined.1, by simpa using joined.2⟩

theorem wrapFrom_filter (width room : Nat) (text : List Char) :
    (wrapFrom width room text).filter (fun char => !isLineBreak char) =
      text.filter fun char => !isLineBreak char := by
  induction text generalizing room with
  | nil => cases room <;> rfl
  | cons char rest ih =>
    have lineFeed : isLineBreak '\n' := by decide
    cases room with
    | zero => simp [wrapFrom, List.filter_cons, ih, lineFeed]
    | succ room => simp [wrapFrom, List.filter_cons, ih]

theorem mem_of_mem_wrapFrom {width room : Nat} {text : List Char} {char : Char}
    (member : char ∈ wrapFrom width room text) : char = '\n' ∨ char ∈ text := by
  induction text generalizing room with
  | nil => cases room <;> cases member
  | cons first rest ih =>
    cases room with
    | zero =>
      rw [wrapFrom, List.mem_cons, List.mem_cons] at member
      rcases member with lineFeed | same | later
      · exact .inl lineFeed
      · exact .inr (same ▸ List.mem_cons_self)
      · exact (ih later).imp_right (List.mem_cons_of_mem first)
    | succ room =>
      rw [wrapFrom, List.mem_cons] at member
      rcases member with same | later
      · exact .inr (same ▸ List.mem_cons_self)
      · exact (ih later).imp_right (List.mem_cons_of_mem first)

theorem wrapFrom_length (width room : Nat) (text : List Char) :
    text.length ≤ (wrapFrom width room text).length := by
  induction text generalizing room with
  | nil => exact Nat.zero_le _
  | cons char rest ih =>
    cases room with
    | zero =>
      have tail := ih (width - 1)
      simp only [wrapFrom, List.length_cons]
      omega
    | succ room =>
      have tail := ih room
      simp only [wrapFrom, List.length_cons]
      omega

theorem splitLines_cons {char : Char} (unbroken : isLineBreak char = false) {rest line : List Char}
    {lines : List (List Char)} (later : splitLines rest = line :: lines) :
    splitLines (char :: rest) = (char :: line) :: lines := by
  have other : ∀ next, char = '\r' → rest = '\n' :: next → False := by
    intro next carriageReturn _
    rw [carriageReturn] at unbroken
    exact absurd unbroken (by decide)
  rw [splitLines, if_neg (by simp [unbroken]), later]
  exact other

theorem splitLines_line {line : List Char} (rest : List Char)
    (unbroken : ∀ char ∈ line, isLineBreak char = false) :
    splitLines (line ++ '\n' :: rest) = line :: splitLines rest := by
  induction line with
  | nil =>
    have lineFeed : isLineBreak '\n' = true := by decide
    rw [List.nil_append, splitLines, if_pos lineFeed]
    simp
  | cons char line ih =>
    exact splitLines_cons (unbroken char List.mem_cons_self)
      (ih fun other member => unbroken other (List.mem_cons_of_mem char member))

/-- A wrapped text comes apart into lines that make it up. -/
theorem exists_lines_wrapFrom (width room : Nat) {text : List Char}
    (unbroken : ∀ char ∈ text, isLineBreak char = false) :
    ∃ line lines, (line :: lines).flatten = text ∧ ∀ rest,
      splitLines (wrapFrom width room text ++ '\n' :: rest) = line :: lines ++ splitLines rest := by
  have lineFeed : isLineBreak '\n' = true := by decide
  induction text generalizing room with
  | nil =>
    have blank : ∀ rest, splitLines ('\n' :: rest) = [] :: splitLines rest := fun rest =>
      splitLines_line rest (List.forall_mem_nil _)
    cases room <;> exact ⟨[], [], rfl, blank⟩
  | cons char text ih =>
    have plain := unbroken char List.mem_cons_self
    have tail := fun other member => unbroken other (List.mem_cons_of_mem char member)
    cases room with
    | zero =>
      obtain ⟨line, lines, joined, split⟩ := ih (width - 1) tail
      refine ⟨[], (char :: line) :: lines, by rw [← joined]; rfl, fun rest => ?_⟩
      calc
        splitLines ([] ++ '\n' :: (char :: wrapFrom width (width - 1) text ++ '\n' :: rest))
          = [] :: splitLines (char :: wrapFrom width (width - 1) text ++ '\n' :: rest) :=
            splitLines_line _ (List.forall_mem_nil _)
        _ = _ := congrArg _ (splitLines_cons plain (split rest))
    | succ room =>
      obtain ⟨line, lines, joined, split⟩ := ih room tail
      exact ⟨char :: line, lines, by rw [← joined]; rfl, fun rest =>
        splitLines_cons plain (split rest)⟩

/-! ### Padding to whole blocks -/

/-- PKCS #7: between one and a whole block of bytes, each of which says how many they are. -/
def pad (block : Nat) (text : Bytes) : Bytes :=
  let fill := block - text.length % block
  text ++ List.replicate fill (UInt8.ofNat fill)

def unpad (block : Nat) (padded : Bytes) : Option Bytes :=
  match padded.getLast? with
  | none => none
  | some last =>
    let rest := padded.length - last.toNat
    if padded.length % block = 0 ∧ 0 < last.toNat ∧ last.toNat ≤ block ∧
        (padded.drop rest).all (· = last) then
      some (padded.take rest)
    else none

theorem pad_length {block : Nat} (whole : 0 < block) (text : Bytes) :
    (pad block text).length % block = 0 := by
  have split := Nat.div_add_mod text.length block
  have short := Nat.mod_lt text.length whole
  have total : (pad block text).length = block * (text.length / block + 1) := by
    rw [pad, List.length_append, List.length_replicate, Nat.mul_succ]
    omega
  rw [total, Nat.mul_mod_right]

theorem lt_pad_length {block : Nat} (whole : 0 < block) (text : Bytes) :
    text.length < (pad block text).length := by
  have short := Nat.mod_lt text.length whole
  rw [pad, List.length_append, List.length_replicate]
  omega

theorem unpad_pad {block : Nat} (whole : 0 < block) (byte : block < 256) (text : Bytes) :
    unpad block (pad block text) = some text := by
  have aligned := pad_length whole text
  have short := Nat.mod_lt text.length whole
  generalize fill : block - text.length % block = count at *
  have positive : count ≠ 0 := by omega
  have small : (UInt8.ofNat count).toNat = count := by
    rw [UInt8.toNat_ofNat']
    omega
  have shape : pad block text = text ++ List.replicate count (UInt8.ofNat count) := by
    rw [pad, fill]
  have last : (pad block text).getLast? = some (UInt8.ofNat count) := by
    rw [shape, List.getLast?_append, List.getLast?_replicate, if_neg positive]
    rfl
  have front : (pad block text).length - count = text.length := by
    rw [shape, List.length_append, List.length_replicate]
    omega
  simp only [unpad, last, small, front]
  rw [if_pos, shape, List.take_left' rfl]
  refine ⟨aligned, by omega, by omega, List.all_eq_true.mpr fun other member => ?_⟩
  rw [shape, List.drop_left' rfl] at member
  exact decide_eq_true (List.eq_of_mem_replicate member)

theorem unpad_length {block : Nat} {padded text : Bytes} (stripped : unpad block padded = some text) :
    text.length < padded.length := by
  unfold unpad at stripped
  split at stripped
  · cases stripped
  case h_2 last found =>
    have filled : padded ≠ [] := by
      intro empty
      rw [empty] at found
      cases found
    have positive := List.length_pos_of_ne_nil filled
    dsimp only at stripped
    split at stripped
    case isTrue valid =>
      cases stripped
      rw [List.length_take]
      omega
    case isFalse =>
      cases stripped

end PfsenseBackups.Encodings

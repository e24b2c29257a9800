import PfsenseBackups.Encodings
import PfsenseBackups.Labels

/-! `pfsense_crypto.py`: the text wrapper around an encrypted configuration, made and opened. -/

namespace PfsenseBackups.PfsenseCrypto
open Encodings

/-! ### Primitives -/

/-- Eight random bytes. -/
abbrev Salt := { salt : Bytes // salt.length = 8 }

/-- The ciphers and digests that the wrapper rests on. A key comes with its initial vector. -/
structure Primitives where
  pbkdf2HmacSha256 : Bytes → Bytes → Nat → Bytes × Bytes
  md5 : Bytes → Bytes
  cbcEncrypt : Bytes × Bytes → Bytes → Bytes
  cbcDecrypt : Bytes × Bytes → Bytes → Bytes
  cbcEncrypt_length : ∀ key blocks, (cbcEncrypt key blocks).length = blocks.length
  cbcDecrypt_length : ∀ key blocks, (cbcDecrypt key blocks).length = blocks.length
  cbcDecrypt_cbcEncrypt : ∀ key blocks, blocks.length % 16 = 0 →
    cbcDecrypt key (cbcEncrypt key blocks) = blocks

variable (prims : Primitives)

/-! ### The wrapper's text -/

/-- `_BEGIN`: "---- BEGIN config.xml ----". -/
def beginMarker : List Char :=
  ['-', '-', '-', '-', ' ', 'B', 'E', 'G', 'I', 'N', ' ', 'c', 'o', 'n', 'f', 'i', 'g', '.', 'x',
    'm', 'l', ' ', '-', '-', '-', '-']

/-- `_END`: "---- END config.xml ----". -/
def endMarker : List Char :=
  ['-', '-', '-', '-', ' ', 'E', 'N', 'D', ' ', 'c', 'o', 'n', 'f', 'i', 'g', '.', 'x', 'm', 'l',
    ' ', '-', '-', '-', '-']

/-- `text.find(part)`. -/
def find (part : List Char) : List Char → Option Nat
  | [] => if part = [] then some 0 else none
  | char :: rest =>
    if part.isPrefixOf (char :: rest) then some 0 else (find part rest).map (· + 1)

/-- `text.strip()`. -/
def stripLine (line : List Char) : List Char :=
  ((line.dropWhile Labels.isSpace).reverse.dropWhile Labels.isSpace).reverse

structure Parsed where
  headers : List (List Char × List Char)
  bodyB64 : List Char

/-- The headers and the body lines; a blank line ends the headers once there is one. -/
def readLines (sawHeader : Bool) : List (List Char) → List (List Char × List Char) × List (List Char)
  | [] => ([], [])
  | line :: lines =>
    if line = [] then
      if sawHeader then ([], lines.filter (· ≠ [])) else readLines sawHeader lines
    else if ':' ∈ line ∧ ¬ line.all isBase64 then
      let later := readLines true lines
      let key := line.takeWhile (· ≠ ':')
      let value := (line.dropWhile (· ≠ ':')).drop 1
      (((stripLine key).map Char.toLower, stripLine value) :: later.1, later.2)
    else ([], line :: lines.filter (· ≠ []))

def parseWrapper (blob : Bytes) : Except String Parsed :=
  let text := (decodeUtf8 blob).dropWhile (· = Char.ofNat 0xFEFF)
  match find beginMarker text, find endMarker text with
  | some beginIdx, some endIdx =>
    if endIdx < beginIdx then .error "encrypted blob missing BEGIN/END markers"
    else
      let inner := (text.take endIdx).drop (beginIdx + beginMarker.length)
      let read := readLines false ((splitLines inner).map stripLine)
      if read.2.flatten = [] then .error "encrypted blob has no base64 body"
      else .ok ⟨read.1, read.2.flatten⟩
  | _, _ => .error "encrypted blob missing BEGIN/END markers"

/-- `_SALT_PREFIX`. -/
def saltPrefix : Bytes :=
  utf8 "Salted__".toList

def splitSalted (raw : Bytes) : Except String (Bytes × Bytes) :=
  if raw.length < 32 then .error "ciphertext too short to contain Salted__ header"
  else if !saltPrefix.isPrefixOf raw then .error "ciphertext missing Salted__ prefix"
  else if (raw.drop 16).length % 16 ≠ 0 then
    .error "ciphertext length not a multiple of AES block size"
  else .ok ((raw.drop 8).take 8, raw.drop 16)

/-! ### Keys -/

inductive Kdf where
  | pbkdf2Current | pbkdf2Legacy | md5
  deriving DecidableEq

def Kdf.name : Kdf → String
  | .pbkdf2Current => "pbkdf2-500k"
  | .pbkdf2Legacy => "pbkdf2-10k"
  | .md5 => "md5"

/-- Three digests of 16 bytes make up the key and the initial vector. -/
def deriveEvpBytestokeyMd5 (password salt : Bytes) : Bytes × Bytes :=
  let first := prims.md5 (password ++ salt)
  let second := prims.md5 (first ++ password ++ salt)
  let third := prims.md5 (second ++ password ++ salt)
  let derived := first ++ second ++ third
  (derived.take 32, (derived.drop 32).take 16)

def derive (password salt : Bytes) : Kdf → Bytes × Bytes
  | .pbkdf2Current => prims.pbkdf2HmacSha256 password salt 500000
  | .pbkdf2Legacy => prims.pbkdf2HmacSha256 password salt 10000
  | .md5 => deriveEvpBytestokeyMd5 prims password salt

def kdfAttemptOrder (headers : List (List Char × List Char)) : List Kdf :=
  -- A header that comes twice counts with its last value.
  let hint := ((headers.reverse.find? fun header => header.1 = "hash".toList).map Prod.snd).getD []
  if "md5".toList <:+: hint.map Char.toLower then [.md5, .pbkdf2Current, .pbkdf2Legacy]
  else [.pbkdf2Current, .pbkdf2Legacy, .md5]

/-! ### Encryption and decryption -/

def aesCbcDecrypt (key : Bytes × Bytes) (ciphertext : Bytes) : Option Bytes :=
  unpad 16 (prims.cbcDecrypt key ciphertext)

def aesCbcEncrypt (key : Bytes × Bytes) (plaintext : Bytes) : Bytes :=
  prims.cbcEncrypt key (pad 16 plaintext)

/-- The bytes that `bytes.lstrip` drops. -/
def isAsciiSpace (byte : UInt8) : Bool :=
  byte = 32 || (9 ≤ byte && byte ≤ 13)

def looksLikeXml (data : Bytes) : Bool :=
  let head := (data.take 256).dropWhile isAsciiSpace
  (utf8 "<?xml".toList).isPrefixOf head || (utf8 "<pfsense".toList).isPrefixOf head

/-- `looks_encrypted` of bytes. -/
def looksEncrypted (blob : Bytes) : Bool :=
  utf8 beginMarker <:+: blob.take 4096

/-- `looks_encrypted` of a text. -/
def textLooksEncrypted (text : List Char) : Bool :=
  beginMarker <:+: text.take 4096

/-- What the decryption takes for a right result. -/
def credible (plaintext : Bytes) : Bool :=
  looksLikeXml plaintext || looksEncrypted plaintext

/-- The attempts from one on, with the last one's failure. -/
def tryKdfs (password salt ciphertext : Bytes) : List Kdf → String → Except String Bytes
  | [], failure => .error failure
  | kdf :: later, _ =>
    match aesCbcDecrypt prims (derive prims password salt kdf) ciphertext with
    | none => tryKdfs password salt ciphertext later "decrypt failed: Invalid padding bytes."
    | some plaintext =>
      if credible plaintext then .ok plaintext
      else
        tryKdfs password salt ciphertext later
          (kdf.name ++ " decryption produced non-XML output (wrong password?)")

def decryptPfsenseBackup (blob : Bytes) (password : String) : Except String Bytes := do
  let parsed ← parseWrapper blob
  match b64decode parsed.bodyB64 with
  | none => .error "encrypted body is not valid base64" -- The library's own text follows.
  | some raw =>
    let (salt, ciphertext) ← splitSalted raw
    tryKdfs prims (utf8 password.toList) salt ciphertext (kdfAttemptOrder parsed.headers) ""

/-- The wrapper of a plaintext, as text. -/
def wrapperText (salt : Salt) (plaintext : Bytes) (password : String) : List Char :=
  let key := prims.pbkdf2HmacSha256 (utf8 password.toList) salt 500000
  let body := saltPrefix ++ salt ++ aesCbcEncrypt prims key plaintext
  beginMarker ++ '\n' :: wrapLines 64 (b64encode body) ++ '\n' :: endMarker ++ ['\n']

def encryptPfsenseBackup (salt : Salt) (plaintext : Bytes) (password : String) : Bytes :=
  utf8 (wrapperText prims salt plaintext password)

/-! ### Markers -/

theorem find_cons {part : List Char} {char : Char} (rest : List Char)
    (other : part.isPrefixOf (char :: rest) = false) :
    find part (char :: rest) = (find part rest).map (· + 1) := by
  rw [find, if_neg (by simp [other])]

theorem find_self {part rest : List Char} (filled : part ≠ []) : find part (part ++ rest) = some 0 := by
  cases part with
  | nil => exact absurd rfl filled
  | cons char part =>
    have starts : (char :: part).isPrefixOf (char :: (part ++ rest)) := by
      rw [List.isPrefixOf_iff_prefix]
      exact List.prefix_append (char :: part) rest
    rw [List.cons_append, find, if_pos starts]

/-- The end marker is not found where there is no dash. -/
theorem find_endMarker_append {front : List Char} (rest : List Char)
    (dashless : ∀ char ∈ front, char ≠ '-') :
    find endMarker (front ++ rest) = (find endMarker rest).map (· + front.length) := by
  induction front with
  | nil => simp
  | cons char front ih =>
    have other : endMarker.isPrefixOf (char :: (front ++ rest)) = false := by
      have differ : '-' ≠ char := (dashless char List.mem_cons_self).symm
      simp [endMarker, List.isPrefixOf, differ]
    rw [List.cons_append, find_cons _ other,
      ih fun next member => dashless next (List.mem_cons_of_mem char member), Option.map_map]
    rfl

theorem find_endMarker_beginMarker (rest : List Char) :
    find endMarker (beginMarker ++ '\n' :: rest) = (find endMarker rest).map (· + 27) := by
  simp only [beginMarker, endMarker, List.cons_append, List.nil_append, find, List.isPrefixOf,
    BEq.rfl, Char.reduceBEq, Bool.and_self, Bool.and_true, Bool.and_false, Bool.false_and,
    Bool.false_eq_true, ↓reduceIte, Option.map_map]
  rfl

/-! ### Reading the text of a wrapper -/

theorem stripLine_of_filled {line : List Char} (filled : ∀ char ∈ line, Labels.isSpace char = false) :
    stripLine line = line := by
  have kept : ∀ chars : List Char, (∀ char ∈ chars, Labels.isSpace char = false) →
      chars.dropWhile Labels.isSpace = chars := by
    intro chars plain
    cases chars with
    | nil => rfl
    | cons char rest =>
      rw [List.dropWhile_cons_of_neg]
      simp [plain char List.mem_cons_self]
  rw [stripLine, kept line filled, kept line.reverse, List.reverse_reverse]
  intro char member
  exact filled char (List.mem_reverse.mp member)

theorem stripLine_length (line : List Char) : (stripLine line).length ≤ line.length := by
  have front := (List.dropWhile_sublist Labels.isSpace (l := line)).length_le
  have back := (List.dropWhile_sublist Labels.isSpace
    (l := (line.dropWhile Labels.isSpace).reverse)).length_le
  rw [List.length_reverse] at back
  rw [stripLine, List.length_reverse]
  omega

theorem filled_flatten (lines : List (List Char)) :
    (lines.filter (· ≠ [])).flatten = lines.flatten := by
  induction lines with
  | nil => rfl
  | cons line lines ih =>
    cases line with
    | nil => simpa using ih
    | cons char rest => simpa using ih

/-- Without a colon there are no headers. -/
theorem readLines_of_plain {lines : List (List Char)} (plain : ∀ line ∈ lines, ':' ∉ line) :
    (readLines false lines).1 = [] ∧ (readLines false lines).2.flatten = lines.flatten := by
  induction lines with
  | nil => exact ⟨rfl, rfl⟩
  | cons line lines ih =>
    have tail := ih fun other member => plain other (List.mem_cons_of_mem line member)
    have noColon := plain line List.mem_cons_self
    by_cases blank : line = []
    · simpa [readLines, blank] using tail
    · simp only [readLines, if_neg blank, noColon, false_and, if_false, List.flatten_cons,
        filled_flatten, and_self]

theorem readLines_length (sawHeader : Bool) (lines : List (List Char)) :
    (readLines sawHeader lines).2.flatten.length ≤ lines.flatten.length := by
  induction lines generalizing sawHeader with
  | nil => exact Nat.le_refl 0
  | cons line lines ih =>
    have before := ih false
    have after := ih true
    rw [readLines]
    split_ifs
    · rw [filled_flatten]
      simp
    · simp only [List.flatten_cons, List.length_append]
      cases sawHeader with
      | true => exact absurd rfl ‹¬ _›
      | false => omega
    · simp only [List.flatten_cons, List.length_append]
      omega
    · simp only [List.flatten_cons, List.length_append, filled_flatten, Nat.le_refl]

theorem map_stripLine_length (lines : List (List Char)) :
    (lines.map stripLine).flatten.length ≤ lines.flatten.length := by
  induction lines with
  | nil => exact Nat.le_refl 0
  | cons line lines ih =>
    have head := stripLine_length line
    simp only [List.map_cons, List.flatten_cons, List.length_append]
    omega

/-- A body is shorter than the blob it is read from. -/
theorem parseWrapper_length {blob : Bytes} {parsed : Parsed}
    (read : parseWrapper blob = .ok parsed) : parsed.bodyB64.length ≤ blob.length := by
  unfold parseWrapper at read
  dsimp only at read
  split at read
  case h_1 =>
    split at read
    · cases read
    · split at read
      · cases read
      · cases read
        calc
          _ ≤ _ := readLines_length false _
          _ ≤ _ := map_stripLine_length _
          _ ≤ _ := splitLines_length _
          _ ≤ (decodeUtf8 blob).length := by
            have text := (List.dropWhile_sublist (· = Char.ofNat 0xFEFF)
              (l := decodeUtf8 blob)).length_le
            rw [List.length_drop, List.length_take]
            omega
          _ ≤ _ := decodeUtf8_length blob
  case h_2 =>
    cases read

/-! ### A wrapper is read back -/

/-- What the characters of a wrapped body are not. -/
structure Plain (char : Char) : Prop where
  ascii : char.toNat < 128
  dash : char ≠ '-'
  colon : char ≠ ':'
  space : Labels.isSpace char = false
  lineBreak : isLineBreak char = false

theorem plain_of_isBase64 {char : Char} (digit : isBase64 char) : Plain char := by
  have range : (65 ≤ char.toNat ∧ char.toNat ≤ 90) ∨ (97 ≤ char.toNat ∧ char.toNat ≤ 122) ∨
      (48 ≤ char.toNat ∧ char.toNat ≤ 57) ∨ char.toNat = 43 ∨ char.toNat = 47 ∨
      char.toNat = 61 := by
    simp only [isBase64, sextetValue, Bool.or_eq_true, decide_eq_true_eq] at digit
    split_ifs at digit with upper lower number plus slash
    · exact .inl upper
    · exact .inr (.inl lower)
    · exact .inr (.inr (.inl number))
    · exact .inr (.inr (.inr (.inl (congrArg Char.toNat plus))))
    · exact .inr (.inr (.inr (.inr (.inl (congrArg Char.toNat slash)))))
    · rcases digit with absent | equals
      · cases absent
      · exact .inr (.inr (.inr (.inr (.inr (congrArg Char.toNat equals)))))
  constructor
  · omega
  · rintro rfl
    revert range
    decide
  · rintro rfl
    revert range
    decide
  · simp only [Labels.isSpace, Bool.or_eq_false_iff, Bool.and_eq_false_iff, decide_eq_false_iff_not,
      beq_eq_false_iff_ne]
    omega
  · simp only [isLineBreak, Bool.or_eq_false_iff, Bool.and_eq_false_iff, decide_eq_false_iff_not,
      beq_eq_false_iff_ne]
    omega

/-- The text between the markers. -/
def innerText (body : Bytes) : List Char :=
  '\n' :: wrapLines 64 (b64encode body) ++ ['\n']

theorem mem_innerText {body : Bytes} {char : Char} (member : char ∈ innerText body) :
    char = '\n' ∨ isBase64 char := by
  rw [innerText, List.mem_append, List.mem_cons, List.mem_singleton] at member
  rcases member with (first | wrapped) | last
  · exact .inl first
  · exact (mem_of_mem_wrapFrom wrapped).imp_right (b64encode_isBase64 body char)
  · exact .inl last

theorem splitLines_innerText (body : Bytes) :
    ((splitLines (innerText body)).map stripLine).flatten = b64encode body ∧
      ∀ line ∈ (splitLines (innerText body)).map stripLine, ':' ∉ line := by
  have plain : ∀ line ∈ splitLines (innerText body), ∀ char ∈ line, Plain char := by
    intro line member char inLine
    obtain ⟨inText, unbroken⟩ := mem_of_mem_splitLines member inLine
    rcases mem_innerText inText with rfl | digit
    · exact absurd unbroken (by decide)
    · exact plain_of_isBase64 digit
  have stripped : (splitLines (innerText body)).map stripLine = splitLines (innerText body) := by
    conv_rhs => rw [← List.map_id (splitLines (innerText body))]
    exact List.map_congr_left fun line member =>
      stripLine_of_filled fun char inLine => (plain line member char inLine).space
  rw [stripped]
  constructor
  · have lineFeed : isLineBreak '\n' := by decide
    rw [splitLines_flatten, innerText, wrapLines, List.filter_append, List.filter_cons,
      wrapFrom_filter]
    simp only [lineFeed, Bool.not_true, Bool.false_eq_true, if_false, List.filter_cons,
      List.filter_nil, List.append_nil]
    rw [List.filter_eq_self]
    intro char member
    rw [(plain_of_isBase64 (b64encode_isBase64 body char member)).lineBreak]
    rfl
  · intro line member colon
    exact (plain line member ':' colon).colon rfl

/-- The text of a wrapper around a body. -/
def wrapBody (body : Bytes) : List Char :=
  beginMarker ++ innerText body ++ endMarker ++ ['\n']

theorem wrapBody_ascii (body : Bytes) : Ascii (wrapBody body) := by
  have small : ((beginMarker ++ endMarker).all fun char => char.toNat < 128) = true := by decide
  have markers : ∀ char ∈ beginMarker ++ endMarker, char.toNat < 128 := fun char member =>
    of_decide_eq_true (List.all_eq_true.mp small char member)
  intro char member
  simp only [wrapBody, List.mem_append, List.mem_singleton] at member
  rcases member with ((front | inner) | back) | rfl
  · exact markers char (List.mem_append_left _ front)
  · rcases mem_innerText inner with rfl | digit
    · decide
    · exact (plain_of_isBase64 digit).ascii
  · exact markers char (List.mem_append_right _ back)
  · decide

theorem find_endMarker_wrapBody (body : Bytes) :
    find endMarker (wrapBody body) = some (beginMarker.length + (innerText body).length) := by
  have dashless : ∀ char ∈ wrapLines 64 (b64encode body) ++ ['\n'], char ≠ '-' := by
    intro char member
    have inner : char ∈ innerText body := List.mem_cons_of_mem '\n' member
    rcases mem_innerText inner with rfl | digit
    · decide
    · exact (plain_of_isBase64 digit).dash
  have last : find endMarker (endMarker ++ ['\n']) = some 0 := find_self (by decide)
  calc
    find endMarker (wrapBody body)
      = find endMarker (beginMarker ++ '\n' :: ((wrapLines 64 (b64encode body) ++ ['\n']) ++
          (endMarker ++ ['\n']))) := by
        simp only [wrapBody, innerText, List.append_assoc, List.cons_append]
    _ = some (beginMarker.length + (innerText body).length) := by
        rw [find_endMarker_beginMarker, find_endMarker_append _ dashless, last]
        simp only [Option.map_some, innerText, List.length_append, List.length_cons,
          beginMarker, List.length_nil]
        congr 1
        omega

theorem parseWrapper_wrapBody {body : Bytes} (filled : b64encode body ≠ []) :
    parseWrapper (utf8 (wrapBody body)) = .ok ⟨[], b64encode body⟩ := by
  have decoded := decodeUtf8_utf8 (wrapBody body)
  have noBom : (wrapBody body).dropWhile (· = Char.ofNat 0xFEFF) = wrapBody body := by
    rw [wrapBody, List.append_assoc, List.append_assoc]
    rfl
  have first : find beginMarker (wrapBody body) = some 0 := by
    rw [wrapBody, List.append_assoc, List.append_assoc]
    exact find_self (by decide)
  have inner : ((wrapBody body).take (beginMarker.length + (innerText body).length)).drop
      (0 + beginMarker.length) = innerText body := by
    rw [wrapBody, List.append_assoc (beginMarker ++ innerText body), ← List.length_append,
      List.take_left' rfl, Nat.zero_add, List.drop_left' rfl]
  obtain ⟨joined, plain⟩ := splitLines_innerText body
  obtain ⟨headers, lines⟩ := readLines_of_plain plain
  simp only [parseWrapper, decoded, noBom, first, find_endMarker_wrapBody, inner]
  rw [if_neg (Nat.not_lt_zero _), lines, joined, headers, if_neg filled]

/-! ### Decryption -/

variable {prims}

theorem tryKdfs_ok {password salt ciphertext text : Bytes} {kdfs : List Kdf} {failure : String}
    (opened : tryKdfs prims password salt ciphertext kdfs failure = .ok text) :
    credible text ∧ text.length < ciphertext.length := by
  induction kdfs generalizing failure with
  | nil => cases opened
  | cons kdf later ih =>
    rw [tryKdfs] at opened
    split at opened
    · exact ih opened
    case h_2 plaintext unpadded =>
      split at opened
      case isTrue right =>
        cases opened
        have shorter := unpad_length unpadded
        rw [prims.cbcDecrypt_length] at shorter
        exact ⟨right, shorter⟩
      case isFalse => exact ih opened

theorem splitSalted_ok {raw salt ciphertext : Bytes}
    (split : splitSalted raw = .ok (salt, ciphertext)) : ciphertext.length ≤ raw.length := by
  unfold splitSalted at split
  split_ifs at split
  cases split
  rw [List.length_drop]
  exact Nat.sub_le _ _

/-- What a decryption comes to looks right, and is shorter than its wrapper. -/
theorem decrypt_ok {blob text : Bytes} {password : String}
    (opened : decryptPfsenseBackup prims blob password = .ok text) :
    credible text ∧ text.length < blob.length := by
  simp only [decryptPfsenseBackup, bind, Except.bind] at opened
  split at opened
  · cases opened
  case h_2 parsed read =>
    split at opened
    · cases opened
    case h_2 raw decoded =>
      split at opened
      · cases opened
      case h_2 parts split =>
        obtain ⟨right, shorter⟩ := tryKdfs_ok opened
        refine ⟨right, ?_⟩
        calc
          _ < _ := shorter
          _ ≤ _ := splitSalted_ok split
          _ ≤ _ := b64decode_length decoded
          _ ≤ _ := parseWrapper_length read

theorem parsed_of_decrypt {blob text : Bytes} {password : String}
    (opened : decryptPfsenseBackup prims blob password = .ok text) :
    ∃ parsed, parseWrapper blob = .ok parsed := by
  cases read : parseWrapper blob with
  | error failure =>
    rw [decryptPfsenseBackup, read] at opened
    cases opened
  | ok parsed => exact ⟨parsed, rfl⟩

theorem decrypt_ne_self (blob : Bytes) (password : String) :
    decryptPfsenseBackup prims blob password ≠ .ok blob :=
  fun opened => Nat.lt_irrefl _ (decrypt_ok opened).2

/-- The salted ciphertext that a wrapper carries. -/
def saltedBody (prims : Primitives) (salt : Salt) (plaintext : Bytes) (password : String) : Bytes :=
  saltPrefix ++ salt ++
    aesCbcEncrypt prims (prims.pbkdf2HmacSha256 (utf8 password.toList) salt 500000) plaintext

theorem encryptPfsenseBackup_eq (salt : Salt) (plaintext : Bytes) (password : String) :
    encryptPfsenseBackup prims salt plaintext password =
      utf8 (wrapBody (saltedBody prims salt plaintext password)) := by
  simp only [encryptPfsenseBackup, wrapperText, wrapBody, innerText, saltedBody, List.append_assoc,
    List.cons_append, List.nil_append]

theorem aesCbcEncrypt_length (key : Bytes × Bytes) (plaintext : Bytes) :
    (aesCbcEncrypt prims key plaintext).length % 16 = 0 ∧
      plaintext.length < (aesCbcEncrypt prims key plaintext).length := by
  rw [aesCbcEncrypt, prims.cbcEncrypt_length]
  exact ⟨pad_length (by decide) plaintext, lt_pad_length (by decide) plaintext⟩

theorem aesCbcDecrypt_aesCbcEncrypt (key : Bytes × Bytes) (plaintext : Bytes) :
    aesCbcDecrypt prims key (aesCbcEncrypt prims key plaintext) = some plaintext := by
  rw [aesCbcDecrypt, aesCbcEncrypt,
    prims.cbcDecrypt_cbcEncrypt key _ (pad_length (by decide) plaintext)]
  exact unpad_pad (by decide) (by decide) plaintext

theorem saltPrefix_eq : saltPrefix = [83, 97, 108, 116, 101, 100, 95, 95] := by
  decide

theorem splitSalted_saltedBody (salt : Salt) (plaintext : Bytes) (password : String) :
    splitSalted (saltedBody prims salt plaintext password) = .ok (salt.val,
      aesCbcEncrypt prims (prims.pbkdf2HmacSha256 (utf8 password.toList) salt 500000) plaintext) := by
  obtain ⟨blocks, longer⟩ := @aesCbcEncrypt_length prims
    (prims.pbkdf2HmacSha256 (utf8 password.toList) salt 500000) plaintext
  rw [saltedBody]
  generalize aesCbcEncrypt prims (prims.pbkdf2HmacSha256 (utf8 password.toList) salt 500000)
    plaintext = ciphertext at *
  have eight : saltPrefix.length = 8 := by rw [saltPrefix_eq]; rfl
  have salted : (saltPrefix ++ salt.val).length = 16 := by
    rw [List.length_append, eight, salt.property]
  have rest : (saltPrefix ++ salt.val ++ ciphertext).drop 16 = ciphertext := List.drop_left' salted
  have total : (saltPrefix ++ salt.val ++ ciphertext).length = 16 + ciphertext.length := by
    rw [List.length_append, salted]
  have front : ((saltPrefix ++ salt.val ++ ciphertext).drop 8).take 8 = salt.val := by
    rw [List.append_assoc, List.drop_left' eight]
    exact List.take_left' salt.property
  rw [splitSalted, if_neg (by omega), if_neg (by simp), rest, if_neg (by omega), front]

theorem b64encode_saltedBody_ne_nil (salt : Salt) (plaintext : Bytes) (password : String) :
    b64encode (saltedBody prims salt plaintext password) ≠ [] := by
  intro empty
  have short := b64encode_length (saltedBody prims salt plaintext password)
  rw [empty, saltedBody, List.length_append, List.length_append, salt.property] at short
  simp at short

/-- A wrapper is longer than what it holds. -/
theorem encrypt_length (salt : Salt) (plaintext : Bytes) (password : String) :
    plaintext.length < (encryptPfsenseBackup prims salt plaintext password).length := by
  have blocks := (@aesCbcEncrypt_length prims
    (prims.pbkdf2HmacSha256 (utf8 password.toList) salt 500000) plaintext).2
  have digits := b64encode_length (saltedBody prims salt plaintext password)
  have lines := wrapFrom_length 64 64 (b64encode (saltedBody prims salt plaintext password))
  rw [encryptPfsenseBackup_eq, utf8_length (wrapBody_ascii _)]
  simp only [wrapBody, innerText, wrapLines, List.length_append, List.length_cons]
  have body : (saltedBody prims salt plaintext password).length = (saltPrefix ++ salt.val).length +
      (aesCbcEncrypt prims (prims.pbkdf2HmacSha256 (utf8 password.toList) salt 500000)
        plaintext).length := by
    rw [saltedBody, List.length_append]
  omega

/-- A wrapper of a plaintext that looks right opens to it. -/
theorem decrypt_encrypt (salt : Salt) {plaintext : Bytes} (password : String)
    (right : credible plaintext) :
    decryptPfsenseBackup prims (encryptPfsenseBackup prims salt plaintext password) password =
      .ok plaintext := by
  have filled := @b64encode_saltedBody_ne_nil prims salt plaintext password
  have order : kdfAttemptOrder [] = [.pbkdf2Current, .pbkdf2Legacy, .md5] := by
    decide
  rw [encryptPfsenseBackup_eq]
  simp only [decryptPfsenseBackup, parseWrapper_wrapBody filled, b64decode_b64encode, bind,
    Except.bind, splitSalted_saltedBody, order, tryKdfs, derive, aesCbcDecrypt_aesCbcEncrypt]
  rw [if_pos right]

theorem decrypt_encrypt_iff (salt : Salt) (plaintext : Bytes) (password : String) :
    decryptPfsenseBackup prims (encryptPfsenseBackup prims salt plaintext password) password =
      .ok plaintext ↔ credible plaintext :=
  ⟨fun opened => (decrypt_ok opened).1, decrypt_encrypt salt password⟩

end PfsenseBackups.PfsenseCrypto

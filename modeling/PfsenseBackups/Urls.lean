import Mathlib.Data.List.TakeWhile

/-! The parts of a URL as `urllib.parse.urlsplit` finds them, in texts of the characters that header
lines have. -/

namespace PfsenseBackups.Urls

/-- The parts that callers look at. -/
structure SplitUrl where
  scheme : String
  netloc : String
  path : String
  deriving DecidableEq

/-- The characters that are taken out of a URL. -/
def removed (char : Char) : Bool :=
  char = '\t' || char = '\r' || char = '\n'

/-- `url.lstrip(_WHATWG_C0_CONTROL_OR_SPACE)`, less the characters that are taken out. -/
def stripped (url : List Char) : List Char :=
  (url.dropWhile fun char => char.toNat ≤ 32).filter fun char => !removed char

def isAlpha (char : Char) : Bool :=
  ('a' ≤ char && char ≤ 'z') || ('A' ≤ char && char ≤ 'Z')

def isDigit (char : Char) : Bool :=
  '0' ≤ char && char ≤ '9'

/-- `c in scheme_chars`. -/
def schemeChar (char : Char) : Bool :=
  isAlpha char || isDigit char || char = '+' || char = '-' || char = '.'

/-- `str.lower` on one character below U+0100. -/
def lowerChar (char : Char) : Char :=
  if ('A' ≤ char && char ≤ 'Z') || ('À' ≤ char && char ≤ 'Þ' && char ≠ '×') then
    Char.ofNat (char.toNat + 32)
  else char

/-- The scheme in front of the first colon, in lower case, and what follows. -/
def splitScheme (url : List Char) : List Char × List Char :=
  let front := url.takeWhile (· ≠ ':')
  match url.dropWhile (· ≠ ':') with
  | [] => ([], url)
  | _ :: back =>
    if front.head?.any isAlpha && front.all schemeChar then (front.map lowerChar, back)
    else ([], url)

def delimiter (char : Char) : Bool :=
  char = '/' || char = '?' || char = '#'

/-- `_splitnetloc`, after two slashes. -/
def splitNetloc : List Char → List Char × List Char
  | '/' :: '/' :: rest => (rest.takeWhile (!delimiter ·), rest.dropWhile (!delimiter ·))
  | url => ([], url)

/-- Brackets come in pairs, around what `_check_bracketed_netloc` accepts. -/
def bracketsRight (bracketed : String → Bool) (netloc : List Char) : Bool :=
  match netloc.contains '[', netloc.contains ']' with
  | true, true => bracketed (String.ofList netloc)
  | false, false => true
  | _, _ => false

/-- `urlsplit`, or nothing where it raises; `_checknetloc` has no objection to such texts. -/
def urlsplit (bracketed : String → Bool) (url : String) : Option SplitUrl :=
  let schemed := splitScheme (stripped url.toList)
  let located := splitNetloc schemed.2
  if bracketsRight bracketed located.1 then
    some
      { scheme := String.ofList schemed.1
        netloc := String.ofList located.1
        path := String.ofList (located.2.takeWhile fun char => char ≠ '#' && char ≠ '?') }
  else none

/-! ### The host -/

/-- `_hostinfo`: the host and the text of the port. -/
def hostInfo (netloc : List Char) : List Char × List Char :=
  let info := (netloc.reverse.takeWhile (· ≠ '@')).reverse
  match info.dropWhile (· ≠ '[') with
  | [] => (info.takeWhile (· ≠ ':'), (info.dropWhile (· ≠ ':')).drop 1)
  | _ :: inside =>
    (inside.takeWhile (· ≠ ']'),
      (((inside.dropWhile (· ≠ ']')).drop 1).dropWhile (· ≠ ':')).drop 1)

/-- `hostname`: in lower case up to a zone. -/
def SplitUrl.hostname (url : SplitUrl) : Option String :=
  let host := (hostInfo url.netloc.toList).1
  if host = [] then none
  else some (String.ofList ((host.takeWhile (· ≠ '%')).map lowerChar ++ host.dropWhile (· ≠ '%')))

/-- `int(text)` of decimal digits. -/
def number (digits : List Char) : Nat :=
  digits.foldl (fun total digit => 10 * total + (digit.toNat - '0'.toNat)) 0

/-- `port`, or nothing where it raises. -/
def SplitUrl.port (url : SplitUrl) : Option (Option Nat) :=
  let text := (hostInfo url.netloc.toList).2
  if text = [] then some none
  else if text.all isDigit && number text ≤ 65535 then some (some (number text))
  else none

/-! ### Plain texts -/

/-- A character that ends no part of a URL and is not taken out. -/
def plain (char : Char) : Bool :=
  !removed char && char ≠ '?' && char ≠ '#'

theorem takeWhile_append_cons {α : Type*} {test : α → Bool} {front back : List α} {last : α}
    (kept : ∀ item ∈ front, test item = true) (ends : test last = false) :
    (front ++ last :: back).takeWhile test = front ∧
      (front ++ last :: back).dropWhile test = last :: back := by
  constructor
  · rw [List.takeWhile_append_of_pos kept, List.takeWhile_cons_of_neg (by simp [ends]),
      List.append_nil]
  · rw [List.dropWhile_append_of_pos kept, List.dropWhile_cons_of_neg (by simp [ends])]

section Plain

variable {scheme host path : List Char}

theorem letter_spec {char : Char} (lower : 'a' ≤ char ∧ char ≤ 'z') :
    isAlpha char = true ∧ lowerChar char = char ∧ char ≠ ':' ∧ removed char = false ∧
      ¬ char.toNat ≤ 32 := by
  have low : 'a'.toNat ≤ char.toNat := lower.1
  have high : char.toNat ≤ 'z'.toNat := lower.2
  have other : ∀ mark : Char, mark.toNat < 'a'.toNat → char ≠ mark := by
    intro mark small same
    rw [same] at low
    omega
  refine ⟨by simp [isAlpha, lower], ?_, other _ (by decide), ?_, ?_⟩
  · have notUpper : ¬ char ≤ 'Z' := by
      intro upper
      have bound : char.toNat ≤ 'Z'.toNat := upper
      exact absurd (low.trans bound) (by decide)
    have notLatin : ¬ 'À' ≤ char := by
      intro latin
      have bound : 'À'.toNat ≤ char.toNat := latin
      exact absurd (bound.trans high) (by decide)
    simp [lowerChar, notUpper, notLatin]
  · simp [removed, other]
  · have bound : (32 : Nat) < 'a'.toNat := by decide
    omega

theorem stripped_plain (filled : scheme ≠ []) (lower : ∀ char ∈ scheme, 'a' ≤ char ∧ char ≤ 'z')
    {rest : List Char} (kept : ∀ char ∈ rest, removed char = false) :
    stripped (scheme ++ rest) = scheme ++ rest := by
  cases scheme with
  | nil => exact absurd rfl filled
  | cons first others =>
    have start := (letter_spec (lower first List.mem_cons_self)).2.2.2.2
    rw [stripped, List.cons_append, List.dropWhile_cons_of_neg (by simpa using start),
      List.filter_eq_self]
    intro char member
    rw [← List.cons_append] at member
    rcases List.mem_append.mp member with front | back
    · rw [(letter_spec (lower char front)).2.2.2.1]
      rfl
    · rw [kept char back]
      rfl

theorem splitScheme_plain (filled : scheme ≠ [])
    (lower : ∀ char ∈ scheme, 'a' ≤ char ∧ char ≤ 'z') (rest : List Char) :
    splitScheme (scheme ++ ':' :: rest) = (scheme, rest) := by
  have inside : ∀ char ∈ scheme, decide (char ≠ ':') = true := by
    intro char member
    exact decide_eq_true (letter_spec (lower char member)).2.2.1
  have ⟨front, back⟩ := @takeWhile_append_cons _ _ _ rest ':' inside (by decide)
  have letters : scheme.all schemeChar = true := by
    rw [List.all_eq_true]
    intro char member
    simp [schemeChar, (letter_spec (lower char member)).1]
  have started : scheme.head?.any isAlpha = true := by
    cases scheme with
    | nil => exact absurd rfl filled
    | cons first others => exact (letter_spec (lower first List.mem_cons_self)).1
  have same : scheme.map lowerChar = scheme := by
    calc scheme.map lowerChar = scheme.map id :=
          List.map_congr_left fun char member => (letter_spec (lower char member)).2.1
      _ = scheme := List.map_id scheme
  rw [splitScheme, back]
  simp only [front, started, letters, Bool.and_self, if_true, same]

/-- A URL of plain parts falls into them. -/
theorem urlsplit_plain (bracketed : String → Bool) (filled : scheme ≠ [])
    (lower : ∀ char ∈ scheme, 'a' ≤ char ∧ char ≤ 'z')
    (hostPlain : ∀ char ∈ host, plain char = true ∧ char ≠ '/' ∧ char ≠ '[' ∧ char ≠ ']')
    (pathPlain : ∀ char ∈ path, plain char = true) :
    urlsplit bracketed (String.ofList (scheme ++ ':' :: '/' :: '/' :: (host ++ '/' :: path))) =
      some ⟨String.ofList scheme, String.ofList host, String.ofList ('/' :: path)⟩ := by
  have kept : ∀ char ∈ ':' :: '/' :: '/' :: (host ++ '/' :: path), removed char = false := by
    intro char member
    simp only [List.mem_cons, List.mem_append] at member
    rcases member with rfl | rfl | rfl | inHost | rfl | inPath
    · decide
    · decide
    · decide
    · have spec := (hostPlain char inHost).1
      simp only [plain, Bool.and_eq_true, Bool.not_eq_true'] at spec
      exact spec.1.1
    · decide
    · have spec := pathPlain char inPath
      simp only [plain, Bool.and_eq_true, Bool.not_eq_true'] at spec
      exact spec.1.1
  have inside : ∀ char ∈ host, (!delimiter char) = true := by
    intro char member
    have ⟨spec, slash, _⟩ := hostPlain char member
    simp only [plain, Bool.and_eq_true, decide_eq_true_eq] at spec
    simp [delimiter, slash, spec.1.2, spec.2]
  have ⟨front, back⟩ := @takeWhile_append_cons _ _ _ path '/' inside (by decide)
  have brackets : bracketsRight bracketed host = true := by
    have opening : host.contains '[' = false := by
      simpa using fun member => (hostPlain '[' member).2.2.1 rfl
    have closing : host.contains ']' = false := by
      simpa using fun member => (hostPlain ']' member).2.2.2 rfl
    rw [bracketsRight, opening, closing]
  have whole : ('/' :: path).takeWhile (fun char => char ≠ '#' && char ≠ '?') = '/' :: path := by
    rw [List.takeWhile_eq_self_iff]
    intro char member
    rcases List.mem_cons.mp member with rfl | inPath
    · decide
    · have spec := pathPlain char inPath
      simp only [plain, Bool.and_eq_true] at spec
      rw [spec.1.2, spec.2]
      rfl
  rw [urlsplit, String.toList_ofList, stripped_plain filled lower kept,
    splitScheme_plain filled lower]
  simp only [splitNetloc, front, back, brackets, if_true, whole]

end Plain

end PfsenseBackups.Urls

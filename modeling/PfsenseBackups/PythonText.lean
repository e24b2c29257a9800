import PfsenseBackups.Labels
import Mathlib.Data.List.Infix

/-! The functions on texts that the section parsers use, as Python has them. -/

namespace PfsenseBackups.PythonText
open Labels

/-- The text, unless it is missing or empty. -/
def truthy (text : Option String) : Option String :=
  text.filter (· ≠ "")

@[simp] theorem truthy_none : truthy none = none := rfl

@[simp] theorem truthy_empty : truthy (some "") = none := rfl

theorem truthy_some {text : String} (filled : text ≠ "") : truthy (some text) = some text := by
  simp [truthy, filled]

/-- `text.split(sep)`. -/
def split (sep : Char) (text : String) : List String :=
  (text.toList.splitOn sep).map String.ofList

/-- `text.split(sep) if text else []`. -/
def parts (sep : Char) (text : Option String) : List String :=
  match truthy text with
  | none => []
  | some text => split sep text

/-- `[part for part in (text or "").split(sep) if part]`. -/
def filledParts (sep : Char) (text : Option String) : List String :=
  (split sep (text.getD "")).filter (· ≠ "")

/-- `[part.strip() for part in (text or "").split(sep) if part.strip()]`. -/
def strippedParts (sep : Char) (text : Option String) : List String :=
  ((split sep (text.getD "")).map strip).filter (· ≠ "")

/-- `text.split(sep, 1)`, where the separator is in the text. -/
def splitOnce (sep : Char) (text : String) : Option (String × String) :=
  match text.toList.span (· ≠ sep) with
  | (_, []) => none
  | (front, _ :: back) => some (String.ofList front, String.ofList back)

/-- `text.split()`. -/
def words (text : String) : List String :=
  ((text.toList.splitOnP isSpace).filter (· ≠ [])).map String.ofList

/-- The pieces between the double bars of a text. -/
def betweenBars : List Char → List (List Char)
  | [] => [[]]
  | '|' :: '|' :: rest => [] :: betweenBars rest
  | char :: rest =>
    match betweenBars rest with
    | [] => [[char]]
    | piece :: later => (char :: piece) :: later

/-- `text.split("||")`. -/
def splitBars (text : String) : List String :=
  (betweenBars text.toList).map String.ofList

/-- `text.replace(",", " ").split()`. -/
def commaWords (text : String) : List String :=
  words (String.ofList (text.toList.map fun char => if char = ',' then ' ' else char))

/-- `text[:count]`. -/
def take (count : Nat) (text : String) : String :=
  String.ofList (text.toList.take count)

/-- `text.startswith(start)`. -/
def startsWith (text start : String) : Bool :=
  start.toList.isPrefixOf text.toList

/-- `text.endswith(ending)`. -/
def endsWith (text ending : String) : Bool :=
  ending.toList.isSuffixOf text.toList

/-- `part in text`. -/
def includes (text part : String) : Bool :=
  decide (part.toList <:+: text.toList)

/-- `re.sub` from a position on, some characters after it being part of the last match. -/
def substituteFrom (found : List Char → Option (Nat × List Char)) : Nat → List Char → List Char
  | _, [] => []
  | skip + 1, _ :: rest => substituteFrom found skip rest
  | 0, char :: rest =>
    match found (char :: rest) with
    | some (length, put) => put ++ substituteFrom found (length - 1) rest
    | none => char :: substituteFrom found 0 rest

/-- `re.sub`, of a pattern given by the length it matches at a place and the replacement. -/
def substitute (found : List Char → Option (Nat × List Char)) (text : String) : String :=
  String.ofList (substituteFrom found 0 text.toList)

/-- The number in decimal digits, with zeros in front up to a width. -/
def padded (width number : Nat) : String :=
  let digits := Nat.toDigits 10 number
  String.ofList (List.replicate (width - digits.length) '0' ++ digits)

/-- `str(datetime.fromtimestamp(seconds, tz=UTC))`, up to the year 9999. -/
def fromTimestamp (seconds : Nat) : Option String :=
  if 253402300799 < seconds then none
  else
    -- Days are counted in eras of 400 years that start on 1 March, so that leap days come last.
    let days := seconds / 86400 + 719468
    let inEra := days % 146097
    let yearOfEra := (inEra - inEra / 1460 + inEra / 36524 - inEra / 146096) / 365
    let inYear := inEra - (365 * yearOfEra + yearOfEra / 4 - yearOfEra / 100)
    let fromMarch := (5 * inYear + 2) / 153
    let day := inYear - (153 * fromMarch + 2) / 5 + 1
    let month := if fromMarch < 10 then fromMarch + 3 else fromMarch - 9
    let year := yearOfEra + days / 146097 * 400 + if month ≤ 2 then 1 else 0
    let rest := seconds % 86400
    some (padded 4 year ++ "-" ++ padded 2 month ++ "-" ++ padded 2 day ++ " " ++
      padded 2 (rest / 3600) ++ ":" ++ padded 2 (rest / 60 % 60) ++ ":" ++ padded 2 (rest % 60) ++
      "+00:00")

end PfsenseBackups.PythonText

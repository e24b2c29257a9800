import PfsenseBackups.PythonText
import PfsenseBackups.Urls
import PfsenseBackups.Value
import PfsenseBackups.WallClock
import Mathlib.Data.List.Sort

/-! One cron text is read by two libraries: croniter previews it, APScheduler runs it. Their
dialects number the days of the week differently and join two restrictions on days differently. -/

namespace PfsenseBackups.CronDialects
open PythonText Urls Value WallClock

/-! ### Texts -/

/-- One entry of a field; names are given by their position in the field's list. -/
inductive Item where
  | every (step : Nat)
  | range (first last : Nat) (step : Option Nat)
  | named (first last : Nat)
  deriving DecidableEq

/-- A field is a star or a list of entries. -/
abbrev Field := Option (List Item)

/-- The numbers of a field, the largest one that may be written, and its names. -/
structure Kind where
  low : Nat
  high : Nat
  top : Nat
  names : List String := []

def minuteKind : Kind := { low := 0, high := 59, top := 59 }
def hourKind : Kind := { low := 0, high := 23, top := 23 }
def dayKind : Kind := { low := 1, high := 31, top := 31 }

def monthKind : Kind where
  low := 1
  high := 12
  top := 12
  names := ["jan", "feb", "mar", "apr", "may", "jun", "jul", "aug", "sep", "oct", "nov", "dec"]

def weekdayKind : Kind where
  low := 0
  high := 6
  top := 7
  names := ["sun", "mon", "tue", "wed", "thu", "fri", "sat"]

def number? (text : List Char) : Option Nat :=
  if text ≠ [] ∧ text.all isDigit then some (number text) else none

def name? (kind : Kind) (text : List Char) : Option Nat :=
  (kind.names.map String.toList).idxOf? (text.map lowerChar)

def parseRange (kind : Kind) (first last : List Char) : Option Item :=
  match number? first, number? last with
  | some first, some last => some (.range first last none)
  | _, _ => do return .named (← name? kind first) (← name? kind last)

def parseItem (kind : Kind) (text : List Char) : Option Item :=
  match text.splitOn '/' with
  | [range] =>
    match range.splitOn '-' with
    | [single] => parseRange kind single single
    | [first, last] => parseRange kind first last
    | _ => none
  | [range, step] =>
    if range = ['*'] then (number? step).map .every
    else
      match range.splitOn '-' with
      | [first, last] => do return .range (← number? first) (← number? last) (← number? step)
      | _ => none
  | _ => none

def parseField (kind : Kind) (text : String) : Option Field :=
  if text = "*" then some none
  else do
    let items ← (text.toList.splitOn ',').mapM (parseItem kind)
    return some items

/-- An entry selects a number. -/
def Item.has (low number : Nat) : Item → Bool
  | .every step => (number - low) % step = 0
  | .range first last step =>
    first ≤ number && number ≤ last && (number - first) % step.getD 1 = 0
  | .named first last => first ≤ number - low && number - low ≤ last

def Item.valid (kind : Kind) : Item → Bool
  | .every step => 1 ≤ step && step ≤ kind.high - kind.low
  | .range first last none => kind.low ≤ first && first ≤ last && last ≤ kind.top
  | .range first last (some step) =>
    kind.low ≤ first && first ≤ last && last ≤ kind.top && 1 ≤ step && step ≤ last - first
  | .named first last => first ≤ last && last < kind.names.length

def has (low number : Nat) (field : Field) : Bool :=
  field.all fun items => items.any (Item.has low number)

def valid (kind : Kind) (field : Field) : Bool :=
  field.all fun items => !items.isEmpty && items.all (Item.valid kind)

/-- Some number of the field is not selected. -/
def leavesOut (kind : Kind) (field : Field) : Bool :=
  (List.range' kind.low (kind.high + 1 - kind.low)).any fun number => !has kind.low number field

structure Fields where
  minute : Field
  hour : Field
  day : Field
  month : Field
  weekday : Field

/-- The entries are in range, and two fields of days both restrict something. -/
def Fields.wellFormed (fields : Fields) : Bool :=
  valid minuteKind fields.minute && valid hourKind fields.hour && valid dayKind fields.day &&
    valid monthKind fields.month && valid weekdayKind fields.weekday &&
    (fields.day.isNone || fields.weekday.isNone ||
      (leavesOut dayKind fields.day && leavesOut weekdayKind fields.weekday))

/-- A text in the grammar that both libraries describe. -/
structure Crontab extends Fields where
  fine : toFields.wellFormed = true

/-- The text in that grammar, if it is. -/
def parse (text : String) : Option Crontab :=
  match words text with
  | [minute, hour, day, month, weekday] => do
    let minute ← parseField minuteKind minute
    let hour ← parseField hourKind hour
    let day ← parseField dayKind day
    let month ← parseField monthKind month
    let weekday ← parseField weekdayKind weekday
    if fine : (Fields.mk minute hour day month weekday).wellFormed = true then some ⟨_, fine⟩
    else none
  | _ => none

def Fields.atTime (fields : Fields) (shown : Wall) : Bool :=
  has 0 shown.minute fields.minute && has 0 shown.hour fields.hour &&
    has 1 shown.month fields.month

/-- The weekday with Sunday as 0. -/
def sundayFirst (weekday : Nat) : Nat :=
  (weekday + 1) % 7

/-- Names counted from Monday. -/
def Item.mondayFirst : Item → Item
  | .named first last => .named ((first + 6) % 7) ((last + 6) % 7)
  | item => item

def Fields.croniterDay (fields : Fields) (weekday : Nat) : Bool :=
  has 0 (sundayFirst weekday) fields.weekday

def Fields.triggerDay (fields : Fields) (weekday : Nat) : Bool :=
  has 0 weekday (fields.weekday.map fun items => items.map Item.mondayFirst)

/-- croniter: two restrictions on days are joined by OR. -/
def Fields.croniterMinutes (fields : Fields) (time : Nat) : Bool :=
  let shown := wall time
  let onDay := has 1 shown.day fields.day
  fields.atTime shown &&
    if fields.day.isSome && fields.weekday.isSome then onDay || fields.croniterDay shown.weekday
    else onDay && fields.croniterDay shown.weekday

/-- `CronTrigger`: all fields are joined by AND. -/
def Fields.triggerMinutes (fields : Fields) (time : Nat) : Bool :=
  let shown := wall time
  fields.atTime shown && has 1 shown.day fields.day && fields.triggerDay shown.weekday

/-- `CronTrigger` has no day 7, and its weeks run from Monday to Sunday. -/
def Item.forTrigger : Item → Bool
  | .every _ => true
  | .range _ last _ => last ≤ 6
  | .named first last => (first + 6) % 7 ≤ (last + 6) % 7

def Fields.forTrigger (fields : Fields) : Bool :=
  fields.weekday.all fun items => items.all Item.forTrigger

/-- The first number that an entry selects. -/
def Item.start (low : Nat) : Item → Nat
  | .every _ => low
  | .range first _ _ => first
  | .named first _ => low + first

section
variable {kind : Kind} {item : Item} {field : Field} {fields : Fields}

/-- What a well-formed text says, part by part. -/
theorem Fields.wellFormed_iff : fields.wellFormed = true ↔
    valid minuteKind fields.minute = true ∧ valid hourKind fields.hour = true ∧
      valid dayKind fields.day = true ∧ valid monthKind fields.month = true ∧
      valid weekdayKind fields.weekday = true ∧
      (fields.day = none ∨ fields.weekday = none ∨
        leavesOut dayKind fields.day = true ∧ leavesOut weekdayKind fields.weekday = true) := by
  simp [Fields.wellFormed, and_assoc, or_assoc]

end

/-! ### The schedule form -/

inductive Preset where
  | daily
  | hourly
  | weekdays
  | weekly
  | monthly
  | advanced
  deriving DecidableEq

inductive DomDay where
  | day (number : Nat)
  | last
  deriving DecidableEq

structure FormState where
  preset : Preset := .daily
  hour : Nat := 2
  minute : Nat := 0
  everyHours : Nat := 1
  days : List Nat := [1, 2, 3, 4, 5]
  domDay : DomDay := .day 1
  raw : String := ""

/-- The days of the weekly preset in the order of the text; without any it is Monday. -/
def FormState.sortedDays (s : FormState) : List Nat :=
  if s.days = [] then [1] else s.days.insertionSort (· ≤ ·)

def toCron (s : FormState) : String :=
  let mm := toString s.minute
  let hh := toString s.hour
  match s.preset with
  | .daily => mm ++ " " ++ hh ++ " * * *"
  | .hourly =>
    if s.everyHours = 1 then mm ++ " * * * *"
    else mm ++ " */" ++ toString s.everyHours ++ " * * *"
  | .weekdays => mm ++ " " ++ hh ++ " * * 1-5"
  | .weekly => mm ++ " " ++ hh ++ " * * " ++ ",".intercalate (s.sortedDays.map toString)
  | .monthly =>
    mm ++ " " ++ hh ++ " " ++ (match s.domDay with | .last => "L" | .day day => toString day) ++
      " * *"
  | .advanced => s.raw

/-- The ranges that the form's controls have. -/
def FormState.inRange (s : FormState) : Bool :=
  s.minute ≤ 59 && s.hour ≤ 23 && 1 ≤ s.everyHours && s.everyHours ≤ 23 &&
    s.days.all (fun day => 1 ≤ day && day ≤ 7) &&
    match s.domDay with
    | .last => true
    | .day day => 1 ≤ day && day ≤ 31

def single (number : Nat) : Field :=
  some [.range number number none]

/-! The pieces of an emitted text, and the fields they stand for. -/

def FormState.hourText (s : FormState) : String :=
  if s.preset = .hourly then if s.everyHours = 1 then "*" else "*/" ++ toString s.everyHours
  else toString s.hour

def FormState.hourField (s : FormState) : Field :=
  if s.preset = .hourly then if s.everyHours = 1 then none else some [.every s.everyHours]
  else single s.hour

def FormState.dayText (s : FormState) : String :=
  match s.preset, s.domDay with
  | .monthly, .day day => toString day
  | .monthly, .last => "L"
  | _, _ => "*"

def FormState.dayField (s : FormState) : Field :=
  match s.preset, s.domDay with
  | .monthly, .day day => single day
  | _, _ => none

def FormState.weekdayText (s : FormState) : String :=
  match s.preset with
  | .weekdays => "1-5"
  | .weekly => ",".intercalate (s.sortedDays.map toString)
  | _ => "*"

def FormState.weekdayField (s : FormState) : Field :=
  match s.preset with
  | .weekdays => some [.range 1 5 none]
  | .weekly => some (s.sortedDays.map fun day => .range day day none)
  | _ => none

def FormState.fields (s : FormState) : Fields where
  minute := single s.minute
  hour := s.hourField
  day := s.dayField
  month := none
  weekday := s.weekdayField

/-- A piece of a text between blanks. -/
def Unbroken (piece : String) : Prop :=
  piece.toList ≠ [] ∧ ∀ char ∈ piece.toList, Labels.isSpace char = false

theorem digit_bounds {number : Nat} {char : Char} (member : char ∈ (toString number).toList) :
    48 ≤ char.toNat ∧ char.toNat ≤ 57 := by
  rw [Nat.toString_eq_repr, Nat.toList_repr] at member
  have digit := Nat.isDigit_of_mem_toDigits (by decide) (by decide) member
  simp only [Char.isDigit, Bool.and_eq_true, decide_eq_true_eq, ge_iff_le,
    UInt32.le_iff_toNat_le] at digit
  exact digit

theorem toString_filled (number : Nat) : (toString number).toList ≠ [] := by
  rw [Nat.toString_eq_repr, Nat.toList_repr]
  exact Nat.toDigits_ne_nil

theorem unbroken_of_all {piece : String} (filled : piece.toList ≠ [])
    (solid : piece.toList.all (fun char => !Labels.isSpace char) = true) : Unbroken piece := by
  refine ⟨filled, fun char member => ?_⟩
  simpa using List.all_eq_true.mp solid char member

theorem unbroken_toString (number : Nat) : Unbroken (toString number) := by
  refine ⟨toString_filled number, fun char member => ?_⟩
  have ⟨low, high⟩ := digit_bounds member
  unfold Labels.isSpace
  generalize char.toNat = code at low high
  interval_cases code <;> rfl

theorem number?_toString (number : Nat) : number? (toString number).toList = some number := by
  have digits : ∀ char ∈ (toString number).toList, isDigit char = true := by
    intro char member
    have ⟨low, high⟩ := digit_bounds member
    simp only [isDigit, Bool.and_eq_true, decide_eq_true_eq, Char.le_def, UInt32.le_iff_toNat_le]
    exact ⟨low, high⟩
  rw [number?, if_pos ⟨toString_filled number, List.all_eq_true.mpr digits⟩]
  rw [Nat.toString_eq_repr, Nat.toList_repr]
  exact congrArg some Nat.ofDigitChars_ten_toDigits

theorem not_digit {number : Nat} {char : Char} (sign : char.toNat < 48) :
    char ∉ (toString number).toList := by
  intro member
  have := digit_bounds member
  omega

theorem parseItem_toString (kind : Kind) (number : Nat) :
    parseItem kind (toString number).toList = some (.range number number none) := by
  rw [parseItem, List.splitOn_eq_singleton (not_digit (by decide))]
  simp only
  rw [List.splitOn_eq_singleton (not_digit (by decide))]
  simp only [parseRange, number?_toString]

theorem mapM_parsed {parse : List Char → Option Item} {item : Nat → Item} (days : List Nat)
    (parsed : ∀ day, parse (toString day).toList = some (item day)) :
    (days.map fun day => (toString day).toList).mapM parse = some (days.map item) := by
  induction days with
  | nil => rfl
  | cons day rest step =>
    rw [List.map_cons, List.mapM_cons, parsed, step]
    rfl

theorem splitOn_days {days : List Nat} (filled : days ≠ []) :
    (",".intercalate (days.map toString)).toList.splitOn ',' =
      days.map fun day => (toString day).toList := by
  have text : (",".intercalate (days.map toString)).toList =
      [','].intercalate (days.map fun day => (toString day).toList) := by
    rw [String.toList_intercalate, List.map_map]
    rfl
  rw [text, List.splitOn_intercalate]
  · intro piece member
    obtain ⟨day, _, same⟩ := List.mem_map.mp member
    rw [← same]
    exact not_digit (by decide)
  · simpa using filled

theorem parseField_days (kind : Kind) {days : List Nat} (filled : days ≠ []) :
    parseField kind (",".intercalate (days.map toString)) =
      some (some (days.map fun day => .range day day none)) := by
  have pieces := splitOn_days filled
  have notStar : ",".intercalate (days.map toString) ≠ "*" := by
    intro star
    rw [star, show "*".toList.splitOn ',' = [['*']] from rfl] at pieces
    have member : ['*'] ∈ days.map fun day => (toString day).toList :=
      pieces ▸ List.mem_singleton_self _
    have ⟨day, _, same⟩ := List.mem_map.mp member
    have sign : '*' ∈ (toString day).toList := same ▸ List.mem_singleton_self _
    exact not_digit (by decide) sign
  rw [parseField, if_neg notStar, pieces, mapM_parsed days (parseItem_toString kind)]
  rfl

theorem parseField_toString (kind : Kind) (number : Nat) :
    parseField kind (toString number) = some (single number) :=
  parseField_days kind (List.cons_ne_nil number [])

theorem parseField_step (kind : Kind) (step : Nat) :
    parseField kind ("*/" ++ toString step) = some (some [.every step]) := by
  have text : ("*/" ++ toString step).toList = '*' :: '/' :: (toString step).toList := by
    rw [String.toList_append]
    rfl
  have notStar : "*/" ++ toString step ≠ "*" := by
    intro star
    rw [star] at text
    simp at text
  have whole : ',' ∉ ("*/" ++ toString step).toList := by
    rw [text]
    simp only [List.mem_cons, not_or]
    exact ⟨by decide, by decide, not_digit (by decide)⟩
  have item : parseItem kind ("*/" ++ toString step).toList = some (.every step) := by
    have halves : ("*/" ++ toString step).toList.splitOn '/' = [['*'], (toString step).toList] := by
      have star : '/' ∉ ['*'] := by decide
      rw [text, ← List.splitOn_eq_singleton (@not_digit step '/' (by decide))]
      exact List.splitOn_append_cons_self_of_not_mem star _
    rw [parseItem, halves]
    simp only [if_true, number?_toString]
    rfl
  rw [parseField, if_neg notStar, List.splitOn_eq_singleton whole, List.mapM_cons, item]
  rfl

/-- `text.split()` of five pieces with blanks between them. -/
theorem words_five {a b c d e : String} (first : Unbroken a) (second : Unbroken b)
    (third : Unbroken c) (fourth : Unbroken d) (fifth : Unbroken e) :
    words (a ++ " " ++ b ++ " " ++ c ++ " " ++ d ++ " " ++ e) = [a, b, c, d, e] := by
  have text : (a ++ " " ++ b ++ " " ++ c ++ " " ++ d ++ " " ++ e).toList =
      a.toList ++ ' ' ::
        (b.toList ++ ' ' :: (c.toList ++ ' ' :: (d.toList ++ ' ' :: e.toList))) := by
    simp
  rw [words, text, List.splitOnP_append_cons_of_forall_mem first.2 ' ' (by decide),
    List.splitOnP_append_cons_of_forall_mem second.2 ' ' (by decide),
    List.splitOnP_append_cons_of_forall_mem third.2 ' ' (by decide),
    List.splitOnP_append_cons_of_forall_mem fourth.2 ' ' (by decide),
    List.splitOnP_eq_singleton fifth.2]
  simp [first.1, second.1, third.1, fourth.1, fifth.1]

theorem unbroken_days {days : List Nat} (filled : days ≠ []) :
    Unbroken (",".intercalate (days.map toString)) := by
  unfold Unbroken
  induction days with
  | nil => exact absurd rfl filled
  | cons day rest step =>
    by_cases last : rest = []
    · rw [last]
      exact unbroken_toString day
    · have ⟨_, unbroken⟩ := step last
      rw [String.toList_intercalate, List.map_cons, List.map_cons,
        List.intercalate_cons_of_ne_nil (by simpa using last), ← String.toList_intercalate]
      refine ⟨by simp, fun char member => ?_⟩
      rcases List.mem_append.mp member with front | back
      · rcases List.mem_append.mp front with digit | comma
        · exact (unbroken_toString day).2 char digit
        · rw [show char = ',' by simpa using comma]
          rfl
      · exact unbroken char back

theorem unbroken_step (step : Nat) : Unbroken ("*/" ++ toString step) := by
  refine ⟨by simp, fun char member => ?_⟩
  rw [String.toList_append] at member
  rcases List.mem_append.mp member with front | back
  · simp at front
    rcases front with rfl | rfl <;> rfl
  · exact (unbroken_toString step).2 char back

section
variable {s : FormState}

theorem sortedDays_filled : s.sortedDays ≠ [] := by
  unfold FormState.sortedDays
  split
  · exact List.cons_ne_nil 1 []
  · next filled =>
    intro sorted
    have none := (List.perm_insertionSort (· ≤ ·) s.days).length_eq
    rw [sorted] at none
    exact filled (List.eq_nil_of_length_eq_zero none.symm)

theorem sortedDays_bounds (fine : s.inRange = true) {day : Nat} (member : day ∈ s.sortedDays) :
    1 ≤ day ∧ day ≤ 7 := by
  unfold FormState.sortedDays at member
  split at member
  · rw [List.mem_singleton.mp member]
    decide
  · rw [List.mem_insertionSort] at member
    simp only [FormState.inRange, Bool.and_eq_true, List.all_eq_true, decide_eq_true_eq] at fine
    exact fine.1.2 day member

theorem valid_hourField (fine : s.inRange = true) : valid hourKind s.hourField = true := by
  simp only [FormState.inRange, Bool.and_eq_true, decide_eq_true_eq] at fine
  have ⟨⟨⟨⟨⟨_, hour⟩, low⟩, high⟩, _⟩, _⟩ := fine
  unfold FormState.hourField single
  split
  · split <;> simp [valid, Item.valid, hourKind, low, high]
  · simp [valid, Item.valid, hourKind, hour]

theorem valid_dayField (fine : s.inRange = true) : valid dayKind s.dayField = true := by
  simp only [FormState.inRange, Bool.and_eq_true] at fine
  have day := fine.2
  unfold FormState.dayField single
  split
  · next chosen =>
    rw [chosen] at day
    simpa [valid, Item.valid, dayKind] using day
  · rfl

theorem valid_weekdayField (fine : s.inRange = true) : valid weekdayKind s.weekdayField = true := by
  unfold FormState.weekdayField
  split
  · rfl
  · simp only [valid, Option.all_some, Bool.and_eq_true, List.all_eq_true, List.mem_map]
    refine ⟨by simpa using sortedDays_filled, ?_⟩
    rintro _ ⟨day, member, rfl⟩
    have bounds := sortedDays_bounds fine member
    simp [Item.valid, weekdayKind, bounds.2]
  · rfl

theorem one_restricted : s.dayField = none ∨ s.weekdayField = none := by
  unfold FormState.dayField FormState.weekdayField
  cases s.preset <;> simp

theorem wellFormed_fields (fine : s.inRange = true) : s.fields.wellFormed = true := by
  rw [Fields.wellFormed_iff]
  refine ⟨?_, valid_hourField fine, valid_dayField fine, rfl, valid_weekdayField fine,
    or_assoc.mp (.inl one_restricted)⟩
  simp only [FormState.inRange, Bool.and_eq_true, decide_eq_true_eq] at fine
  simp [FormState.fields, single, valid, Item.valid, minuteKind, fine.1.1.1.1.1]

theorem parse_hourText :
    Unbroken s.hourText ∧ parseField hourKind s.hourText = some s.hourField := by
  unfold FormState.hourText FormState.hourField
  split
  · split
    · exact ⟨unbroken_of_all (by decide) (by decide), rfl⟩
    · exact ⟨unbroken_step _, parseField_step _ _⟩
  · exact ⟨unbroken_toString _, parseField_toString _ _⟩

theorem unbroken_dayText : Unbroken s.dayText := by
  unfold FormState.dayText
  split
  · exact unbroken_toString _
  · exact unbroken_of_all (by decide) (by decide)
  · exact unbroken_of_all (by decide) (by decide)

theorem parse_dayText (numbered : s.preset = .monthly → s.domDay ≠ .last) :
    parseField dayKind s.dayText = some s.dayField := by
  unfold FormState.dayText FormState.dayField
  cases preset : s.preset <;> cases day : s.domDay <;> simp only [] <;>
    first | exact parseField_toString _ _ | exact absurd day (numbered preset) | rfl

theorem parse_weekdayText :
    Unbroken s.weekdayText ∧ parseField weekdayKind s.weekdayText = some s.weekdayField := by
  unfold FormState.weekdayText FormState.weekdayField
  split
  · exact ⟨unbroken_of_all (by decide) (by decide), rfl⟩
  · exact ⟨unbroken_days sortedDays_filled, parseField_days _ sortedDays_filled⟩
  · exact ⟨unbroken_of_all (by decide) (by decide), rfl⟩

/-- The emitted text, piece by piece. -/
theorem toCron_eq (plain : s.preset ≠ .advanced) : toCron s =
    toString s.minute ++ " " ++ s.hourText ++ " " ++ s.dayText ++ " " ++ "*" ++ " " ++
      s.weekdayText := by
  unfold toCron FormState.hourText FormState.dayText FormState.weekdayText
  apply String.toList_inj.mp
  cases preset : s.preset
  case hourly => by_cases once : s.everyHours = 1 <;> simp [once]
  case monthly => cases s.domDay <;> simp
  case advanced => exact absurd preset plain
  all_goals simp

theorem words_toCron (plain : s.preset ≠ .advanced) :
    words (toCron s) = [toString s.minute, s.hourText, s.dayText, "*", s.weekdayText] := by
  rw [toCron_eq plain]
  exact words_five (unbroken_toString _) parse_hourText.1 unbroken_dayText
    (unbroken_of_all (by decide) (by decide))
    parse_weekdayText.1

theorem has_days (days : List Nat) (number : Nat) :
    has 0 number (some (days.map fun day => .range day day none)) = true ↔ number ∈ days := by
  simp only [has, Option.all_some, List.any_map, List.any_eq_true, Function.comp, Item.has,
    Option.getD_none, Nat.mod_one, decide_true, Bool.and_true, Bool.and_eq_true, decide_eq_true_eq]
  refine ⟨?_, fun member => ⟨number, member, Nat.le_refl _, Nat.le_refl _⟩⟩
  rintro ⟨day, member, low, high⟩
  rwa [Nat.le_antisymm high low]

end

/-! ### The code -/

/-- What `ZoneInfo(key)` raises. -/
inductive ZoneError where
  | notFound
  | value (text : String)

/-- What the code takes from croniter, APScheduler and zoneinfo. Times are minutes on the wall clock
of a zone. -/
structure Libraries (Zone : Type) where
  isValid : String → Bool
  /-- `croniter(cron, base).get_next()`, or nothing for `CroniterBadDateError`. -/
  getNext : String → Zone → Nat → Option Nat
  /-- The next fire times of `CronTrigger.from_crontab(cron, timezone)`, unless that raises. -/
  fromCrontab : String → Zone → Option (Nat → Option Nat)
  zoneInfo : String → Except ZoneError Zone
  utc : Zone
  now : Zone → Nat
  /-- The minutes for which a text stands, to each of the two. -/
  croniterMinutes : String → Nat → Bool
  triggerMinutes : String → Nat → Bool

inductive CronError where
  | invalid (cron : String)
  | neverFires (cron : String)
  | unknownTimezone (tz : String)
  | zone (text : String)
  | badDate
  deriving DecidableEq

/-- The texts of the `ValueError`s. -/
def CronError.text : CronError → String
  | .invalid cron => "invalid cron expression: " ++ reprText cron
  | .neverFires cron =>
    "cron expression " ++ reprText cron ++ " is syntactically valid but can " ++
      "never fire (e.g. Feb 31). Pick a day-of-month that " ++
      "actually exists in the selected month(s)."
  | .unknownTimezone tz => "unknown timezone: " ++ reprText tz
  | .zone text => text
  | .badDate => ""

/-- Where a call of `_add_or_update` ends, by the line that it logs. -/
inductive Logged where
  | unscheduled
  | invalidCron
  | invalidTimezone
  | rejected
  | scheduled
  deriving DecidableEq

structure Job where
  instanceId : Nat
  nextFireTime : Nat → Option Nat

/-- The jobs of the scheduler, by id. -/
abbrev Jobs := String → Option Job

def jobId (instanceId : Nat) : String :=
  "instance-" ++ toString instanceId

section
variable {Zone : Type} (lib : Libraries Zone)

def validate (cron : String) : Except CronError Unit :=
  if lib.isValid cron = false then .error (.invalid cron)
  else
    match lib.getNext cron lib.utc (lib.now lib.utc) with
    | none => .error (.neverFires cron)
    | some _ => .ok ()

def validateTz (tz : String) : Except CronError Unit :=
  match lib.zoneInfo tz with
  | .error .notFound => .error (.unknownTimezone tz)
  | .error (.value text) => .error (.zone text)
  | .ok _ => .ok ()

/-- `_add_or_update`; a key that is no key at all makes `ZoneInfo` raise through it. -/
def addOrUpdate (jobs : Jobs) (instanceId : Nat) (cron : Option String) (tz : String) :
    Except ZoneError (Jobs × Logged) :=
  match truthy cron with
  | none => .ok (Function.update jobs (jobId instanceId) none, .unscheduled)
  | some cron =>
    if lib.isValid cron = false then .ok (jobs, .invalidCron)
    else
      match lib.zoneInfo tz with
      | .error .notFound => .ok (jobs, .invalidTimezone)
      | .error (.value text) => .error (.value text)
      | .ok zone =>
        match lib.fromCrontab cron zone with
        | none => .ok (jobs, .rejected)
        | some next => .ok (Function.update jobs (jobId instanceId) (some ⟨instanceId, next⟩),
            .scheduled)

variable {lib} {cron tz : String} {zone : Zone} {jobs : Jobs} {instanceId : Nat}

end

/-! ### The libraries on the common grammar alone -/

/-- Both libraries as they are documented, where only the common grammar is a text at all. -/
noncomputable def dialects : Libraries Unit where
  isValid text := (parse text).isSome
  getNext text _ base := firstAfter (fun time => (parse text).any (·.croniterMinutes time)) base
  fromCrontab text _ :=
    match parse text with
    | none => none
    | some expr => if expr.forTrigger then some (firstAfter expr.triggerMinutes) else none
  zoneInfo tz := if tz = "UTC" then .ok () else .error .notFound
  utc := ()
  now _ := 0
  croniterMinutes text time := (parse text).any (·.croniterMinutes time)
  triggerMinutes text time := (parse text).any (·.triggerMinutes time)

end PfsenseBackups.CronDialects

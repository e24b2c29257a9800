import Mathlib.Data.List.Dedup
import PfsenseBackups.CronDialects
import PfsenseBackups.Runs

/-! The schedule form recognises the cron texts that its presets stand for and prints them back. -/

namespace PfsenseBackups.ScheduleForms
open CronDialects Labels PythonText Urls WallClock

/-! ### What a cron text stands for -/

/-- The days of a month: a field, or `L` for the last of them. -/
inductive MonthDays where
  | listed (field : Field)
  | last

structure Schedule where
  minute : Field
  hour : Field
  day : MonthDays
  month : Field
  weekday : Field

def readField (kind : Kind) (text : String) : Option Field :=
  (parseField kind text).filter (valid kind)

def readDays (text : String) : Option MonthDays :=
  if text = "L" then some .last else (readField dayKind text).map .listed

/-- Five fields between white space. -/
def readSchedule (text : String) : Option Schedule :=
  match words text with
  | [minute, hour, day, month, weekday] => do
    let minute ← readField minuteKind minute
    let hour ← readField hourKind hour
    let day ← readDays day
    let month ← readField monthKind month
    let weekday ← readField weekdayKind weekday
    return { minute, hour, day, month, weekday }
  | _ => none

def MonthDays.restricts : MonthDays → Bool
  | .listed field => field.isSome
  | .last => true

/-- The last day of a month is the one before a first. -/
def MonthDays.has (time : Nat) : MonthDays → Bool
  | .listed field => CronDialects.has 1 (wall time).day field
  | .last => (wall (time + 1440)).day = 1

/-- Sunday is 0 and 7. -/
def hasWeekday (weekday : Nat) (field : Field) : Bool :=
  CronDialects.has 0 weekday field || (weekday = 0 && CronDialects.has 0 7 field)

/-- Two restrictions on days are joined by OR. -/
def Schedule.onDay (schedule : Schedule) (time : Nat) : Bool :=
  let onWeekday := hasWeekday (sundayFirst (wall time).weekday) schedule.weekday
  if schedule.day.restricts && schedule.weekday.isSome then schedule.day.has time || onWeekday
  else schedule.day.has time && onWeekday

def Schedule.fires (schedule : Schedule) (time : Nat) : Bool :=
  has 0 (wall time).minute schedule.minute && has 0 (wall time).hour schedule.hour &&
    has 1 (wall time).month schedule.month && schedule.onDay time

/-- Some program's reading of all texts that keeps to the standard wherever that says something. -/
def Standard (fires : String → Nat → Bool) : Prop :=
  ∀ text schedule, readSchedule text = some schedule → fires text = schedule.fires

/-! ### The form -/

/-- What `\s` matches in the browser. -/
def browserSpace (char : Char) : Bool :=
  let code := char.toNat
  (9 ≤ code && code ≤ 13) || code == 32 || code == 160 || code == 5760 ||
    (8192 ≤ code && code ≤ 8202) || code == 8232 || code == 8233 || code == 8239 ||
    code == 8287 || code == 12288 || code == 65279

/-- The pieces of a text between characters of a kind. -/
def pieces (space : Char → Bool) (text : String) : List String :=
  ((text.toList.splitOnP space).filter (· ≠ [])).map String.ofList

/-- `text.trim().split(/\s+/)`. -/
def browserSplit (text : String) : List String :=
  match pieces browserSpace text with
  | [] => [""]
  | found => found

/-- `Number(text)`, of digits for a number within bounds. -/
def within (low high : Nat) (text : List Char) : Option Nat :=
  (number? text).filter fun number => low ≤ number && number ≤ high

/-- `^\*\/(\d+)$`. -/
def stepOf (text : String) : Option Nat :=
  match text.toList with
  | '*' :: '/' :: digits => within 1 23 digits
  | _ => none

/-- The days in order, with Sunday as 7. -/
def parseDowCsv (csv : String) : Option (List Nat) := do
  let days ← (csv.toList.splitOn ',').mapM (within 0 7)
  return ((days.map fun day => if day = 0 then 7 else day).dedup).insertionSort (· ≤ ·)

/-- `[mm, hh, dom, mon, dow]`. -/
structure Parts where
  mm : String
  hh : String
  dom : String
  mon : String
  dow : String

namespace Parts
variable (parts : Parts)

def minute : Option Nat :=
  within 0 59 parts.mm.toList

def hour : Option Nat :=
  within 0 23 parts.hh.toList

/-- `MM HH * * *`. -/
def daily : Option FormState := do
  let minute ← parts.minute
  let hour ← parts.hour
  if parts.dom = "*" ∧ parts.mon = "*" ∧ parts.dow = "*" then
    some { preset := .daily, minute, hour }
  else none

/-- `MM * * * *` or `MM */N * * *`. -/
def hourly : Option FormState := do
  let minute ← parts.minute
  if parts.mon = "*" ∧ parts.dom = "*" ∧ parts.dow = "*" then
    if parts.hh = "*" then some { preset := .hourly, minute, everyHours := 1 }
    else (stepOf parts.hh).map fun everyHours => { preset := .hourly, minute, everyHours }
  else none

/-- `MM HH * * 1-5`. -/
def weekdays : Option FormState := do
  let minute ← parts.minute
  let hour ← parts.hour
  if parts.dom = "*" ∧ parts.mon = "*" ∧ parts.dow = "1-5" then
    some { preset := .weekdays, minute, hour }
  else none

/-- `MM HH * * <csv of single ints in 0..7>`. -/
def weekly : Option FormState := do
  let minute ← parts.minute
  let hour ← parts.hour
  if parts.dom = "*" ∧ parts.mon = "*" then
    (parseDowCsv parts.dow).map fun days => { preset := .weekly, minute, hour, days }
  else none

/-- `MM HH <D or L> * *`. -/
def monthly : Option FormState := do
  let minute ← parts.minute
  let hour ← parts.hour
  if parts.mon = "*" ∧ parts.dow = "*" then
    if parts.dom = "L" then some { preset := .monthly, minute, hour, domDay := .last }
    else (within 1 31 parts.dom.toList).map fun day =>
      { preset := .monthly, minute, hour, domDay := .day day }
  else none

/-- The first preset that a text fits. -/
def preset : Option FormState :=
  parts.daily <|> parts.hourly <|> parts.weekdays <|> parts.weekly <|> parts.monthly

end Parts

def classify (cron : Option String) : FormState :=
  match truthy cron with
  | none => {}
  | some cron =>
    match browserSplit cron with
    | [mm, hh, dom, mon, dow] =>
      (Parts.preset { mm, hh, dom, mon, dow }).getD { preset := .advanced, raw := cron }
    | _ => { preset := .advanced, raw := cron }

/-- What the form's controls change. -/
inductive Control where
  | preset (preset : Preset)
  | time (hour minute : Nat)
  | everyHours (hours : Nat)
  | minute (minute : Nat)
  | day (number : Nat)
  | domDay (day : DomDay)
  | raw (text : String)

def toggle (number : Nat) (days : List Nat) : List Nat :=
  if number ∈ days then days.filter (· ≠ number) else days ++ [number]

/-- A click that would leave no day is ignored. -/
def change (s : FormState) : Control → FormState
  | .preset preset => { s with preset }
  | .time h m => { s with hour := h, minute := m }
  | .everyHours everyHours => { s with everyHours }
  | .minute minute => { s with minute }
  | .day number =>
    if toggle number s.days = [] then s else { s with days := toggle number s.days }
  | .domDay domDay => { s with domDay }
  | .raw raw => { s with raw }

/-- The values that the controls offer. -/
def Control.offered : Control → Bool
  | .preset _ | .raw _ => true
  | .time h m => h ≤ 23 && m ≤ 59
  | .everyHours hours => [1, 2, 3, 4, 6, 8, 12].contains hours
  | .minute m => [0, 15, 30, 45].contains m
  | .day number => 1 ≤ number && number ≤ 7
  | .domDay .last => true
  | .domDay (.day number) => 1 ≤ number && number ≤ 31

/-- A setting of the controls: each in its range, and some days, each pressed once. -/
structure Settled (s : FormState) : Prop where
  ranged : s.inRange = true
  once : s.days.Nodup
  some : s.days ≠ []

/-- The controls that the preset of one state shows are as in the other. -/
def Restores (shown s : FormState) : Prop :=
  shown.preset = s.preset ∧
    match s.preset with
    | .daily | .weekdays => shown.hour = s.hour ∧ shown.minute = s.minute
    | .hourly => shown.everyHours = s.everyHours ∧ shown.minute = s.minute
    | .weekly => shown.days.Perm s.days ∧ shown.hour = s.hour ∧ shown.minute = s.minute
    | .monthly => shown.domDay = s.domDay ∧ shown.hour = s.hour ∧ shown.minute = s.minute
    | .advanced => shown.raw = s.raw

/-! ### Pieces of a text -/

section Pieces
variable {space other : Char → Bool} {char : Char} {text : String}

theorem splitOnP_congr {chars : List Char} (same : ∀ char ∈ chars, space char = other char) :
    chars.splitOnP space = chars.splitOnP other := by
  induction chars with
  | nil => rfl
  | cons first rest ih =>
    obtain ⟨first, others⟩ := List.forall_mem_cons.mp same
    rw [List.splitOnP_cons_eq_if_modifyHead, List.splitOnP_cons_eq_if_modifyHead, first, ih others]

theorem mem_of_splitOnP {chars : List Char} (member : char ∈ chars) (solid : space char = false) :
    ∃ piece ∈ chars.splitOnP space, char ∈ piece := by
  induction chars with
  | nil => exact absurd member List.not_mem_nil
  | cons first rest ih =>
    rw [List.splitOnP_cons_eq_if_modifyHead]
    rcases List.mem_cons.mp member with same | later
    · rw [← same, if_neg (by simp [solid])]
      cases pieces : rest.splitOnP space with
      | nil => exact absurd pieces (List.splitOnP_ne_nil space rest)
      | cons head tail => exact ⟨char :: head, List.mem_cons_self, List.mem_cons_self⟩
    · obtain ⟨piece, listed, inside⟩ := ih later
      split
      · exact ⟨piece, List.mem_cons_of_mem _ listed, inside⟩
      · cases pieces : rest.splitOnP space with
        | nil => exact absurd pieces (List.splitOnP_ne_nil space rest)
        | cons head tail =>
          rw [pieces] at listed
          rcases List.mem_cons.mp listed with same | back
          · rw [same] at inside
            exact ⟨first :: head, List.mem_cons_self, List.mem_cons_of_mem _ inside⟩
          · exact ⟨piece, List.mem_cons_of_mem _ back, inside⟩

/-- Every character between the white space is in some piece. -/
theorem mem_of_pieces (member : char ∈ text.toList) (solid : space char = false) :
    ∃ piece ∈ pieces space text, char ∈ piece.toList := by
  obtain ⟨piece, listed, inside⟩ := mem_of_splitOnP member solid
  refine ⟨String.ofList piece, List.mem_map_of_mem (List.mem_filter.mpr ⟨listed, ?_⟩), ?_⟩
  · simpa using List.ne_nil_of_mem inside
  · rwa [String.toList_ofList]

theorem pieces_congr (same : ∀ char ∈ text.toList, space char = other char) :
    pieces space text = pieces other text := by
  rw [pieces, pieces, splitOnP_congr same]

/-- Neither program takes a printed character for white space. -/
def printed (char : Char) : Bool :=
  33 ≤ char.toNat && char.toNat ≤ 126

theorem isSpace_printed (solid : printed char = true) : isSpace char = false := by
  simp only [printed, Bool.and_eq_true, decide_eq_true_eq] at solid
  simp only [isSpace, Bool.or_eq_false_iff, Bool.and_eq_false_iff, decide_eq_false_iff_not,
    beq_eq_false_iff_ne]
  omega

theorem browserSpace_printed (solid : printed char = true) : browserSpace char = false := by
  simp only [printed, Bool.and_eq_true, decide_eq_true_eq] at solid
  simp only [browserSpace, Bool.or_eq_false_iff, Bool.and_eq_false_iff, decide_eq_false_iff_not,
    beq_eq_false_iff_ne]
  omega

/-- The byte order mark is white space to the browser alone. -/
theorem isSpace_of_browser (blank : browserSpace char = true) (mark : char ≠ '\uFEFF') :
    isSpace char = true := by
  have code : char.toNat ≠ 65279 := by
    intro same
    exact mark (Char.toNat_inj.mp same)
  simp only [browserSpace, Bool.or_eq_true, Bool.and_eq_true, decide_eq_true_eq,
    beq_iff_eq] at blank
  simp only [isSpace, Bool.or_eq_true, Bool.and_eq_true, decide_eq_true_eq, beq_iff_eq]
  omega

/-- Where the browser finds printed characters between white space, both find the same pieces. -/
theorem words_eq_pieces (mark : '\uFEFF' ∉ text.toList)
    (solid : ∀ piece ∈ pieces browserSpace text, ∀ char ∈ piece.toList, printed char = true) :
    words text = pieces browserSpace text := by
  apply pieces_congr
  intro char member
  cases blank : browserSpace char with
  | true => exact isSpace_of_browser blank fun same => mark (same ▸ member)
  | false =>
    obtain ⟨piece, listed, inside⟩ := mem_of_pieces member blank
    exact isSpace_printed (solid piece listed char inside)

theorem pieces_eq_words (solid : ∀ char ∈ text.toList, char = ' ' ∨ printed char = true) :
    pieces browserSpace text = words text := by
  apply pieces_congr
  intro char member
  rcases solid char member with blank | solid
  · rw [blank]
    rfl
  · rw [browserSpace_printed solid, isSpace_printed solid]

end Pieces

/-! ### Fields of numbers -/

section Numbers
variable {kind : Kind} {number low high : Nat} {digits : List Char} {text : String}

theorem number?_digits (read : number? digits = some number) {char : Char}
    (member : char ∈ digits) : 48 ≤ char.toNat ∧ char.toNat ≤ 57 := by
  obtain ⟨shape, -⟩ := Option.ite_none_right_eq_some.mp read
  have digit := List.all_eq_true.mp shape.2 char member
  simp only [isDigit, Bool.and_eq_true, decide_eq_true_eq, Char.le_def,
    UInt32.le_iff_toNat_le] at digit
  exact digit

theorem within_spec (read : within low high digits = some number) :
    number? digits = some number ∧ low ≤ number ∧ number ≤ high := by
  obtain ⟨found, bounds⟩ := Option.filter_eq_some_iff.mp read
  simpa using And.intro found bounds

theorem within_toString (above : low ≤ number) (below : number ≤ high) :
    within low high (toString number).toList = some number := by
  rw [within, number?_toString, Option.filter_some, if_pos]
  simp [above, below]

theorem not_mem_digits (read : number? digits = some number) {char : Char}
    (sign : char.toNat < 48) : char ∉ digits := by
  intro member
  have := number?_digits read member
  omega

theorem parseItem_number (read : number? digits = some number) :
    parseItem kind digits = some (.range number number none) := by
  rw [parseItem, List.splitOn_eq_singleton (not_mem_digits read (by decide))]
  simp only
  rw [List.splitOn_eq_singleton (not_mem_digits read (by decide))]
  simp only [parseRange, read]

theorem mapM_of_mapM {α β γ : Type} {read : α → Option β} {other : α → Option γ} {made : β → γ}
    (each : ∀ item found, read item = some found → other item = some (made found))
    {items : List α} {found : List β} (all : items.mapM read = some found) :
    items.mapM other = some (found.map made) := by
  induction items generalizing found with
  | nil =>
    cases all
    rfl
  | cons item rest ih =>
    simp only [List.mapM_cons, Option.bind_eq_bind, Option.bind_eq_some_iff] at all
    obtain ⟨first, read, later, more, same⟩ := all
    cases same
    rw [List.mapM_cons, each item first read, ih more]
    rfl

/-- All items are read, and what is found is read from some of them. -/
theorem mapM_some {α β : Type} {read : α → Option β} {items : List α} {found : List β}
    (all : items.mapM read = some found) :
    (∀ item ∈ items, ∃ value, read item = some value) ∧
      ∀ value ∈ found, ∃ item, read item = some value := by
  induction items generalizing found with
  | nil =>
    cases all
    simp
  | cons item rest ih =>
    simp only [List.mapM_cons, Option.bind_eq_bind, Option.bind_eq_some_iff] at all
    obtain ⟨first, read, later, more, same⟩ := all
    cases same
    obtain ⟨items, values⟩ := ih more
    exact ⟨List.forall_mem_cons.mpr ⟨⟨first, read⟩, items⟩,
      List.forall_mem_cons.mpr ⟨⟨item, read⟩, values⟩⟩

/-- A list of numbers between commas. -/
theorem parseField_csv {days : List Nat}
    (read : (text.toList.splitOn ',').mapM (within low high) = some days) :
    parseField kind text = some (some (days.map fun day => .range day day none)) := by
  have notStar : text ≠ "*" := by
    intro star
    rw [star] at read
    cases read
  have parsed := mapM_of_mapM (fun part day found =>
    @parseItem_number kind day part (within_spec found).1) read
  rw [parseField, if_neg notStar, parsed]
  rfl

theorem parseField_number (read : number? text.toList = some number) :
    parseField kind text = some (single number) := by
  have alone : text.toList.splitOn ',' = [text.toList] :=
    List.splitOn_eq_singleton (not_mem_digits read (by decide))
  apply @parseField_csv kind 0 number text [number]
  rw [alone, List.mapM_cons, within, read, Option.filter_some, if_pos (by simp)]
  rfl

end Numbers

/-! ### What a recognised text stands for -/

/-- Printed characters only. -/
def Solid (piece : String) : Prop :=
  ∀ char ∈ piece.toList, printed char = true

theorem printed_digit {char : Char} (digit : 48 ≤ char.toNat ∧ char.toNat ≤ 57) :
    printed char = true := by
  simp only [printed, Bool.and_eq_true, decide_eq_true_eq]
  omega

theorem solid_of_all {piece : String} (all : piece.toList.all printed = true) : Solid piece :=
  fun _ member => List.all_eq_true.mp all _ member

theorem solid_star : Solid "*" :=
  solid_of_all (by decide)

theorem solid_number {number : Nat} {piece : String} (read : number? piece.toList = some number) :
    Solid piece :=
  fun _ member => printed_digit (number?_digits read member)

theorem solid_csv {low high : Nat} {piece : String} {days : List Nat}
    (read : (piece.toList.splitOn ',').mapM (within low high) = some days) : Solid piece := by
  intro char member
  cases comma : char == ',' with
  | true =>
    rw [beq_iff_eq.mp comma]
    decide
  | false =>
    obtain ⟨part, listed, inside⟩ := @mem_of_splitOnP (· == ',') _ _ member comma
    rw [← List.splitOn_eq_splitOnP] at listed
    obtain ⟨number, read⟩ := (mapM_some read).1 part listed
    exact printed_digit (number?_digits (within_spec read).1 inside)

/-- What a preset says of the pieces of a text that it is found in. -/
structure Means (parts : Parts) (s : FormState) : Prop where
  settled : Settled s
  plain : s.preset ≠ .advanced
  solid : Solid parts.mm ∧ Solid parts.hh ∧ Solid parts.dom ∧ Solid parts.mon ∧ Solid parts.dow
  minute : readField minuteKind parts.mm = some (single s.minute)
  hour : ∃ field, readField hourKind parts.hh = some field ∧
    ∀ number, has 0 number field = has 0 number s.hourField
  day : readDays parts.dom = readDays s.dayText
  month : parts.mon = "*"
  weekday : ∃ field, readField weekdayKind parts.dow = some field ∧
    field.isSome = s.weekdayField.isSome ∧
      ∀ weekday < 7, hasWeekday weekday field = hasWeekday weekday s.weekdayField

section
variable {parts : Parts} {s : FormState} {number minute hour : Nat} {piece : String}

theorem readField_number {kind : Kind} {low high : Nat}
    (read : within low high piece.toList = some number) (above : kind.low ≤ low)
    (below : high ≤ kind.top) : readField kind piece = some (single number) := by
  obtain ⟨read, low, high⟩ := within_spec read
  rw [readField, parseField_number read, Option.filter_some, if_pos]
  simp only [single, valid, Option.all_some, List.isEmpty_cons, Bool.not_false, Bool.true_and,
    List.all_cons, List.all_nil, Bool.and_true, Item.valid, decide_eq_true_eq, Bool.and_eq_true]
  omega

theorem Settled.of_default (ranged : s.inRange = true) (days : s.days = [1, 2, 3, 4, 5]) :
    Settled s where
  ranged := ranged
  once := by
    rw [days]
    decide
  some := by
    rw [days]
    decide

/-- The presets for one time of the day. -/
theorem means_at (minutes : parts.minute = some s.minute) (hours : parts.hour = some s.hour)
    (plain : s.preset ≠ .advanced) (timed : s.preset ≠ .hourly) (settled : Settled s)
    (solid : Solid parts.dom ∧ Solid parts.dow) (month : parts.mon = "*")
    (day : readDays parts.dom = readDays s.dayText)
    (weekday : ∃ field, readField weekdayKind parts.dow = some field ∧
      field.isSome = s.weekdayField.isSome ∧
        ∀ weekday < 7, hasWeekday weekday field = hasWeekday weekday s.weekdayField) :
    Means parts s where
  settled := settled
  plain := plain
  solid := by
    refine ⟨solid_number (within_spec minutes).1, solid_number (within_spec hours).1, solid.1, ?_,
      solid.2⟩
    rw [month]
    exact solid_star
  minute := readField_number minutes (by decide) (by decide)
  hour := by
    refine ⟨single s.hour, readField_number hours (by decide) (by decide), fun number => ?_⟩
    rw [FormState.hourField, if_neg timed]
  day := day
  month := month
  weekday := weekday

theorem star_weekday (free : s.weekdayField = none) :
    ∃ field, readField weekdayKind "*" = some field ∧ field.isSome = s.weekdayField.isSome ∧
      ∀ weekday < 7, hasWeekday weekday field = hasWeekday weekday s.weekdayField := by
  rw [free]
  exact ⟨none, rfl, rfl, fun _ _ => rfl⟩

theorem Parts.daily_means (found : parts.daily = some s) : Means parts s := by
  simp only [Parts.daily, Option.bind_eq_bind, Option.bind_eq_some_iff,
    Option.ite_none_right_eq_some, Option.some.injEq] at found
  obtain ⟨minute, minutes, hour, hours, ⟨dom, mon, dow⟩, rfl⟩ := found
  have small := (within_spec minutes).2.2
  have small' := (within_spec hours).2.2
  apply means_at minutes hours (by simp) (by simp)
  · exact .of_default (by simp [FormState.inRange, small, small']) rfl
  · rw [dom, dow]
    exact ⟨solid_star, solid_star⟩
  · exact mon
  · rw [dom]
    rfl
  · rw [dow]
    exact star_weekday rfl

theorem Parts.weekdays_means (found : parts.weekdays = some s) : Means parts s := by
  simp only [Parts.weekdays, Option.bind_eq_bind, Option.bind_eq_some_iff,
    Option.ite_none_right_eq_some, Option.some.injEq] at found
  obtain ⟨minute, minutes, hour, hours, ⟨dom, mon, dow⟩, rfl⟩ := found
  have small := (within_spec minutes).2.2
  have small' := (within_spec hours).2.2
  apply means_at minutes hours (by simp) (by simp)
  · exact .of_default (by simp [FormState.inRange, small, small']) rfl
  · rw [dom, dow]
    exact ⟨solid_star, solid_of_all (by decide)⟩
  · exact mon
  · rw [dom]
    rfl
  · rw [dow]
    exact ⟨some [.range 1 5 none], rfl, rfl, fun _ _ => rfl⟩

theorem readDays_number (read : within 1 31 piece.toList = some number) :
    readDays piece = some (.listed (single number)) := by
  have notLast : piece ≠ "L" := by
    intro last
    rw [last] at read
    cases read
  rw [readDays, if_neg notLast, readField_number read (by decide) (by decide)]
  rfl

theorem Parts.monthly_means (found : parts.monthly = some s) : Means parts s := by
  simp only [Parts.monthly, Option.bind_eq_bind, Option.bind_eq_some_iff,
    Option.ite_none_right_eq_some] at found
  obtain ⟨minute, minutes, hour, hours, ⟨mon, dow⟩, found⟩ := found
  have small := (within_spec minutes).2.2
  have small' := (within_spec hours).2.2
  by_cases last : parts.dom = "L"
  · rw [if_pos last, Option.some.injEq] at found
    subst found
    apply means_at minutes hours (by simp) (by simp)
    · exact .of_default (by simp [FormState.inRange, small, small']) rfl
    · rw [last, dow]
      exact ⟨solid_of_all (by decide), solid_star⟩
    · exact mon
    · rw [last]
      rfl
    · rw [dow]
      exact star_weekday rfl
  · rw [if_neg last] at found
    obtain ⟨day, days, rfl⟩ := Option.map_eq_some_iff.mp found
    have bounds := (within_spec days).2
    apply means_at minutes hours (by simp) (by simp)
    · exact .of_default (by simp [FormState.inRange, small, small', bounds]) rfl
    · rw [dow]
      exact ⟨solid_number (within_spec days).1, solid_star⟩
    · exact mon
    · change readDays parts.dom = readDays (toString day)
      rw [readDays_number days, readDays_number (within_toString bounds.1 bounds.2)]
    · rw [dow]
      exact star_weekday rfl

/-- Every so many hours. -/
theorem stepOf_spec (found : stepOf piece = some number) :
    Solid piece ∧ readField hourKind piece = some (some [.every number]) ∧
      1 ≤ number ∧ number ≤ 23 := by
  unfold stepOf at found
  split at found
  · next digits shape =>
    obtain ⟨read, low, high⟩ := within_spec found
    have notStar : piece ≠ "*" := by
      intro star
      rw [star] at shape
      cases shape
    have whole : ',' ∉ piece.toList := by
      simp only [shape, List.mem_cons, not_or]
      exact ⟨by decide, by decide, not_mem_digits read (by decide)⟩
    have item : parseItem hourKind piece.toList = some (.every number) := by
      have halves : piece.toList.splitOn '/' = [['*'], digits] := by
        have star : '/' ∉ ['*'] := by decide
        rw [shape, ← List.splitOn_eq_singleton (@not_mem_digits number digits read '/' (by decide))]
        exact List.splitOn_append_cons_self_of_not_mem star _
      rw [parseItem, halves]
      simp only [if_true, read]
      rfl
    refine ⟨?_, ?_, low, high⟩
    · unfold Solid
      rw [shape]
      simp only [List.forall_mem_cons]
      exact ⟨by decide, by decide, fun char member => printed_digit (number?_digits read member)⟩
    · rw [readField, parseField, if_neg notStar, List.splitOn_eq_singleton whole, List.mapM_cons,
        item]
      simp [valid, Item.valid, hourKind, low, high]
  · cases found

theorem means_hourly (minutes : parts.minute = some minute) (dom : parts.dom = "*")
    (month : parts.mon = "*") (dow : parts.dow = "*") (solid : Solid parts.hh)
    (low : 1 ≤ number) (high : number ≤ 23)
    (hours : ∃ field, readField hourKind parts.hh = some field ∧ ∀ hour,
      has 0 hour field = has 0 hour (if number = 1 then none else some [.every number])) :
    Means parts { preset := .hourly, minute, everyHours := number } where
  settled := by
    have small := (within_spec minutes).2.2
    exact .of_default (by simp [FormState.inRange, small, low, high]) rfl
  plain := by simp
  solid := by
    rw [dom, month, dow]
    exact ⟨solid_number (within_spec minutes).1, solid, solid_star, solid_star, solid_star⟩
  minute := readField_number minutes (by decide) (by decide)
  hour := hours
  day := by
    rw [dom]
    rfl
  month := month
  weekday := by
    rw [dow]
    exact star_weekday rfl

theorem Parts.hourly_means (found : parts.hourly = some s) : Means parts s := by
  simp only [Parts.hourly, Option.bind_eq_bind, Option.bind_eq_some_iff,
    Option.ite_none_right_eq_some] at found
  obtain ⟨minute, minutes, ⟨mon, dom, dow⟩, found⟩ := found
  by_cases every : parts.hh = "*"
  · rw [if_pos every, Option.some.injEq] at found
    subst found
    apply means_hourly minutes dom mon dow _ le_rfl (by decide)
    · rw [every]
      exact ⟨none, rfl, fun _ => rfl⟩
    · rw [every]
      exact solid_star
  · rw [if_neg every] at found
    obtain ⟨number, step, rfl⟩ := Option.map_eq_some_iff.mp found
    obtain ⟨solid, read, low, high⟩ := stepOf_spec step
    apply means_hourly minutes dom mon dow solid low high
    refine ⟨_, read, fun hour => ?_⟩
    by_cases one : number = 1
    · simp [one, has, Item.has, Nat.mod_one]
    · rw [if_neg one]

theorem mem_sortedDays (filled : s.days ≠ []) : number ∈ s.sortedDays ↔ number ∈ s.days := by
  rw [FormState.sortedDays, if_neg filled, List.mem_insertionSort]

/-- Days with 0 for Sunday select what the same days with 7 for Sunday do. -/
theorem hasWeekday_sunday {days sevens : List Nat} (same : ∀ day, day ∈ sevens ↔
      ∃ found ∈ days, day = if found = 0 then 7 else found) {weekday : Nat} (bound : weekday < 7) :
    hasWeekday weekday (some (days.map fun day => .range day day none)) =
      hasWeekday weekday (some (sevens.map fun day => .range day day none)) := by
  rw [Bool.eq_iff_iff]
  simp only [hasWeekday, Bool.or_eq_true, Bool.and_eq_true, decide_eq_true_eq, has_days, same]
  constructor
  · rintro (listed | ⟨sunday, listed⟩)
    · by_cases sunday : weekday = 0
      · exact .inr ⟨sunday, weekday, listed, by simp [sunday]⟩
      · exact .inl ⟨weekday, listed, by simp [sunday]⟩
    · exact .inr ⟨sunday, 7, listed, rfl⟩
  · rintro (⟨found, listed, shown⟩ | ⟨sunday, found, listed, shown⟩)
    · by_cases zero : found = 0
      · rw [if_pos zero] at shown
        omega
      · rw [if_neg zero] at shown
        exact .inl (shown ▸ listed)
    · by_cases zero : found = 0
      · exact .inl (by rw [sunday, ← zero]; exact listed)
      · rw [if_neg zero] at shown
        exact .inr ⟨sunday, shown ▸ listed⟩

theorem parseDowCsv_spec {days : List Nat} (found : parseDowCsv piece = some days) :
    ∃ numbers, (piece.toList.splitOn ',').mapM (within 0 7) = some numbers ∧ days.Nodup ∧
      days ≠ [] ∧ (∀ number ∈ numbers, number ≤ 7) ∧
      ∀ day, day ∈ days ↔ ∃ number ∈ numbers, day = if number = 0 then 7 else number := by
  simp only [parseDowCsv, Option.bind_eq_bind, Option.bind_eq_some_iff, Option.pure_def,
    Option.some.injEq] at found
  obtain ⟨numbers, read, rfl⟩ := found
  have members : ∀ day, day ∈ ((numbers.map fun day => if day = 0 then 7
      else day).dedup).insertionSort (· ≤ ·) ↔
        ∃ number ∈ numbers, day = if number = 0 then 7 else number := by
    intro day
    simp only [List.mem_insertionSort, List.mem_dedup, List.mem_map, eq_comm]
  refine ⟨numbers, read, ?_, ?_, ?_, members⟩
  · exact (List.perm_insertionSort _ _).nodup_iff.mpr (List.nodup_dedup _)
  · obtain ⟨first, listed⟩ : ∃ first, first ∈ numbers := by
      cases parts : piece.toList.splitOn ',' with
      | nil => exact absurd parts (List.splitOn_ne_nil ',' piece.toList)
      | cons part rest =>
        rw [parts] at read
        simp only [List.mapM_cons, Option.bind_eq_bind, Option.bind_eq_some_iff] at read
        obtain ⟨first, -, later, -, same⟩ := read
        cases same
        exact ⟨first, List.mem_cons_self⟩
    exact List.ne_nil_of_mem ((members _).mpr ⟨first, listed, rfl⟩)
  · intro number listed
    obtain ⟨part, read⟩ := (mapM_some read).2 number listed
    exact (within_spec read).2.2

theorem Parts.weekly_means (found : parts.weekly = some s) : Means parts s := by
  simp only [Parts.weekly, Option.bind_eq_bind, Option.bind_eq_some_iff,
    Option.ite_none_right_eq_some] at found
  obtain ⟨minute, minutes, hour, hours, ⟨dom, mon⟩, found⟩ := found
  obtain ⟨days, csv, rfl⟩ := Option.map_eq_some_iff.mp found
  obtain ⟨numbers, read, once, filled, bounds, members⟩ := parseDowCsv_spec csv
  have small := (within_spec minutes).2.2
  have small' := (within_spec hours).2.2
  apply means_at minutes hours (by simp) (by simp)
  · have ranged : ∀ day ∈ days, 1 ≤ day ∧ day ≤ 7 := by
      intro day listed
      obtain ⟨number, listed, shown⟩ := (members day).mp listed
      have bound := bounds number listed
      split at shown <;> omega
    exact ⟨by simpa [FormState.inRange, small, small'] using ranged, once, filled⟩
  · rw [dom]
    exact ⟨solid_star, solid_csv read⟩
  · exact mon
  · rw [dom]
    rfl
  · refine ⟨some (numbers.map fun day => .range day day none), ?_, rfl, ?_⟩
    · rw [readField, parseField_csv read, Option.filter_some, if_pos]
      have some : numbers ≠ [] := by
        intro none
        obtain ⟨day, listed⟩ := List.exists_mem_of_ne_nil days filled
        obtain ⟨number, listed, -⟩ := (members day).mp listed
        rw [none] at listed
        exact List.not_mem_nil listed
      simpa [valid, Item.valid, weekdayKind, some] using bounds
    · intro weekday bound
      apply hasWeekday_sunday _ bound
      intro day
      rw [← members]
      exact mem_sortedDays filled

theorem preset_means (found : parts.preset = some s) : Means parts s := by
  simp only [Parts.preset, Option.orElse_eq_orElse, Option.orElse_eq_or,
    Option.or_eq_some_iff] at found
  rcases found with found | ⟨-, found | ⟨-, found | ⟨-, found | ⟨-, found⟩⟩⟩⟩
  · exact Parts.daily_means found
  · exact Parts.hourly_means found
  · exact Parts.weekdays_means found
  · exact Parts.weekly_means found
  · exact Parts.monthly_means found

/-! ### What a preset prints -/

def monthDays (s : FormState) : MonthDays :=
  match s.preset, s.domDay with
  | .monthly, .last => .last
  | _, _ => .listed s.dayField

/-- The schedule of a preset. -/
def schedule (s : FormState) : Schedule where
  minute := single s.minute
  hour := s.hourField
  day := monthDays s
  month := none
  weekday := s.weekdayField

theorem readField_of_valid {kind : Kind} {field : Field} (read : parseField kind piece = some field)
    (fine : valid kind field = true) : readField kind piece = some field := by
  rw [readField, read, Option.filter_some, if_pos fine]

theorem readDays_dayText (ranged : s.inRange = true) :
    readDays s.dayText = some (monthDays s) := by
  by_cases last : s.preset = .monthly ∧ s.domDay = .last
  · simp [FormState.dayText, monthDays, last, readDays]
  · have numbered : s.preset = .monthly → s.domDay ≠ .last :=
      fun monthly same => last ⟨monthly, same⟩
    have notLast : s.dayText ≠ "L" := by
      intro same
      have parsed := parse_dayText numbered
      rw [same] at parsed
      cases parsed
    have listed : monthDays s = .listed s.dayField := by
      unfold monthDays
      split
      · next monthly same => exact absurd same (numbered monthly)
      · rfl
    rw [readDays, if_neg notLast, readField_of_valid (parse_dayText numbered)
      (valid_dayField ranged), listed]
    rfl

theorem readSchedule_eq {text minute hour day month weekday : String}
    {minutes hours months weekdays : Field} {days : MonthDays}
    (split : words text = [minute, hour, day, month, weekday])
    (isMinute : readField minuteKind minute = some minutes)
    (isHour : readField hourKind hour = some hours) (isDay : readDays day = some days)
    (isMonth : readField monthKind month = some months)
    (isWeekday : readField weekdayKind weekday = some weekdays) :
    readSchedule text = some ⟨minutes, hours, days, months, weekdays⟩ := by
  simp only [readSchedule, split, isMinute, isHour, isDay, isMonth, isWeekday]
  rfl

theorem readSchedule_toCron (ranged : s.inRange = true) (plain : s.preset ≠ .advanced) :
    readSchedule (toCron s) = some (schedule s) := by
  obtain ⟨minutes, hours, -, -, weekdays, -⟩ := Fields.wellFormed_iff.mp (wellFormed_fields ranged)
  exact readSchedule_eq (words_toCron plain)
    (readField_of_valid (parseField_toString _ _) minutes)
    (readField_of_valid parse_hourText.2 hours) (readDays_dayText ranged) rfl
    (readField_of_valid parse_weekdayText.2 weekdays)

/-- A text and the preset that it is found in fire at the same minutes. -/
theorem fires_of_means {text : String} (means : Means parts s)
    (split : words text = [parts.mm, parts.hh, parts.dom, parts.mon, parts.dow]) :
    ∃ found, readSchedule text = some found ∧ found.fires = (schedule s).fires := by
  obtain ⟨hours, isHour, sameHour⟩ := means.hour
  obtain ⟨weekdays, isWeekday, restricts, sameWeekday⟩ := means.weekday
  have isDay := means.day.trans (readDays_dayText means.settled.ranged)
  have isMonth : readField monthKind parts.mon = some none := by
    rw [means.month]
    rfl
  refine ⟨_, readSchedule_eq split means.minute isHour isDay isMonth isWeekday, ?_⟩
  funext time
  have onDay := sameWeekday (sundayFirst (wall time).weekday) (Nat.mod_lt _ (by decide))
  simp only [Schedule.fires, Schedule.onDay, schedule, sameHour, restricts, onDay]
  rfl

/-- Five fields between white space, and no byte order mark, which only the browser takes for white
space. -/
def FiveFields (text : String) : Prop :=
  (words text).length = 5 ∧ '\uFEFF' ∉ text.toList

theorem browserSplit_cons {text first second : String} {rest : List String}
    (split : browserSplit text = first :: second :: rest) :
    pieces browserSpace text = first :: second :: rest := by
  unfold browserSplit at split
  split at split
  · cases split
  · exact split

theorem fires_classify {fires : String → Nat → Bool} (standard : Standard fires) {cron : String}
    (five : FiveFields cron) : fires (toCron (classify (some cron))) = fires cron := by
  have filled : cron ≠ "" := by
    intro empty
    have count := five.1
    rw [empty] at count
    exact absurd count (by decide)
  unfold classify
  rw [truthy_some filled]
  simp only
  split
  · next mm hh dom mon dow split =>
    cases found : Parts.preset { mm, hh, dom, mon, dow } with
    | none => rfl
    | some s =>
      have means := preset_means found
      have pieces := browserSplit_cons split
      obtain ⟨minute, hour, day, month, weekday⟩ := means.solid
      have same := words_eq_pieces five.2 (by
        rw [pieces]
        simp only [List.forall_mem_cons]
        exact ⟨minute, hour, day, month, weekday, by simp⟩)
      obtain ⟨read, isRead, minutes⟩ := fires_of_means means (same.trans pieces)
      have printed := readSchedule_toCron means.settled.ranged means.plain
      rw [Option.getD_some, standard _ _ printed, standard _ _ isRead, minutes]
  · rfl

end

/-! ### What the form finds again -/

/-- The pieces that a preset prints. -/
def printedParts (s : FormState) : Parts where
  mm := toString s.minute
  hh := s.hourText
  dom := s.dayText
  mon := "*"
  dow := s.weekdayText

theorem mapM_within {days : List Nat} (bounds : ∀ day ∈ days, day ≤ 7) :
    (days.map fun day => (toString day).toList).mapM (within 0 7) = some days := by
  induction days with
  | nil => rfl
  | cons day rest ih =>
    obtain ⟨small, others⟩ := List.forall_mem_cons.mp bounds
    rw [List.map_cons, List.mapM_cons, within_toString (Nat.zero_le day) small, ih others]
    rfl

theorem csv_days {days : List Nat} (filled : days ≠ []) (bounds : ∀ day ∈ days, day ≤ 7) :
    ((",".intercalate (days.map toString)).toList.splitOn ',').mapM (within 0 7) = some days := by
  rw [splitOn_days filled, mapM_within bounds]

theorem ne_of_csv {csv other : String} {days : List Nat}
    (read : (csv.toList.splitOn ',').mapM (within 0 7) = some days)
    (foreign : (other.toList.splitOn ',').mapM (within 0 7) = none) : csv ≠ other := by
  intro same
  rw [same, foreign] at read
  cases read

theorem stepOf_toString {number : Nat} (low : 1 ≤ number) (high : number ≤ 23) :
    stepOf ("*/" ++ toString number) = some number := by
  have text : ("*/" ++ toString number).toList = '*' :: '/' :: (toString number).toList := by
    rw [String.toList_append]
    rfl
  unfold stepOf
  rw [text]
  exact within_toString low high

section
variable {s : FormState} {minute hour : Nat}

/-- What a state in range says of its numbers. -/
theorem inRange_iff : s.inRange = true ↔
    s.minute ≤ 59 ∧ s.hour ≤ 23 ∧ 1 ≤ s.everyHours ∧ s.everyHours ≤ 23 ∧
      (∀ day ∈ s.days, 1 ≤ day ∧ day ≤ 7) ∧
      ∀ day, s.domDay = .day day → 1 ≤ day ∧ day ≤ 31 := by
  simp only [FormState.inRange, Bool.and_eq_true, decide_eq_true_eq, List.all_eq_true, and_assoc]
  cases s.domDay with
  | last => simp
  | day number => simp

theorem solid_hourText (ranged : s.inRange = true) : Solid s.hourText := by
  obtain ⟨_, _, low, high, _, _⟩ := inRange_iff.mp ranged
  unfold FormState.hourText
  split
  · split
    · exact solid_star
    · exact (stepOf_spec (stepOf_toString low high)).1
  · exact solid_number (number?_toString _)

theorem solid_dayText : Solid s.dayText := by
  unfold FormState.dayText
  split
  · exact solid_number (number?_toString _)
  · exact solid_of_all (by decide)
  · exact solid_star

theorem csv_sortedDays (ranged : s.inRange = true) :
    ((",".intercalate (s.sortedDays.map toString)).toList.splitOn ',').mapM (within 0 7) =
      some s.sortedDays :=
  csv_days sortedDays_filled fun _ member => (sortedDays_bounds ranged member).2

theorem solid_weekdayText (ranged : s.inRange = true) : Solid s.weekdayText := by
  unfold FormState.weekdayText
  split
  · exact solid_of_all (by decide)
  · exact solid_csv (csv_sortedDays ranged)
  · exact solid_star

/-- The browser finds the pieces that it printed. -/
theorem browserSplit_toCron (ranged : s.inRange = true) (plain : s.preset ≠ .advanced) :
    browserSplit (toCron s) = [toString s.minute, s.hourText, s.dayText, "*", s.weekdayText] := by
  have solid : ∀ char ∈ (toCron s).toList, char = ' ' ∨ printed char = true := by
    intro char member
    have blank : " ".toList = [' '] := rfl
    simp only [toCron_eq plain, String.toList_append, List.mem_append, blank,
      List.mem_singleton] at member
    rcases member with (((((((minute | blank) | hour) | blank) | day) | blank) | month) | blank) |
      weekday
    · exact .inr (solid_number (number?_toString _) char minute)
    · exact .inl blank
    · exact .inr (solid_hourText ranged char hour)
    · exact .inl blank
    · exact .inr (solid_dayText char day)
    · exact .inl blank
    · exact .inr (solid_star char month)
    · exact .inl blank
    · exact .inr (solid_weekdayText ranged char weekday)
  unfold browserSplit
  rw [pieces_eq_words solid, words_toCron plain]

theorem classify_toCron_eq (ranged : s.inRange = true) (plain : s.preset ≠ .advanced) :
    classify (some (toCron s)) =
      (printedParts s).preset.getD { preset := .advanced, raw := toCron s } := by
  have filled : toCron s ≠ "" := by
    intro empty
    have split := words_toCron plain
    rw [empty] at split
    cases split
  unfold classify
  rw [truthy_some filled]
  simp only [browserSplit_toCron ranged plain]
  rfl

/-- What is printed falls into pieces that the presets look at in turn. -/
theorem Restores.of_preset {found : FormState} (ranged : s.inRange = true)
    (plain : s.preset ≠ .advanced) (fits : ∀ parts : Parts, parts.minute = some s.minute →
      (s.preset ≠ .hourly → parts.hour = some s.hour) → parts.hh = s.hourText →
      parts.dom = s.dayText → parts.mon = "*" → parts.dow = s.weekdayText →
      parts.preset = some found)
    (same : Restores found s) : Restores (classify (some (toCron s))) s := by
  have minutes : (printedParts s).minute = some s.minute :=
    within_toString (Nat.zero_le _) (inRange_iff.mp ranged).1
  have hours : s.preset ≠ .hourly → (printedParts s).hour = some s.hour := by
    intro timed
    unfold Parts.hour printedParts FormState.hourText
    rw [if_neg timed]
    exact within_toString (Nat.zero_le _) (inRange_iff.mp ranged).2.1
  rw [classify_toCron_eq ranged plain, fits _ minutes hours rfl rfl rfl rfl]
  exact same

theorem daily_restored (ranged : s.inRange = true) (daily : s.preset = .daily) :
    Restores (classify (some (toCron s))) s := by
  apply @Restores.of_preset s { preset := .daily, minute := s.minute, hour := s.hour } ranged
    (by simp [daily])
  · intro parts minutes hours _ dom mon dow
    simp only [FormState.dayText, FormState.weekdayText, daily] at dom dow
    simp [Parts.preset, Parts.daily, minutes, hours, dom, mon, dow, daily]
  · simp [Restores, daily]

theorem hourly_restored (ranged : s.inRange = true) (hourly : s.preset = .hourly) :
    Restores (classify (some (toCron s))) s := by
  obtain ⟨-, -, low, high, -, -⟩ := inRange_iff.mp ranged
  apply @Restores.of_preset s
    { preset := .hourly, minute := s.minute, everyHours := s.everyHours } ranged (by simp [hourly])
  · intro parts minutes _ hh dom mon dow
    simp only [FormState.hourText, FormState.dayText, FormState.weekdayText, hourly,
      if_true] at hh dom dow
    have untimed : parts.hour = none := by
      unfold Parts.hour
      rw [hh]
      split
      · rfl
      · have text : ("*/" ++ toString s.everyHours).toList =
            '*' :: '/' :: (toString s.everyHours).toList := by
          rw [String.toList_append]
          rfl
        rw [text]
        rfl
    have found : parts.hourly =
        some { preset := .hourly, minute := s.minute, everyHours := s.everyHours } := by
      simp only [Parts.hourly, minutes, Option.bind_eq_bind, Option.bind_some, mon, dom, dow, hh]
      by_cases one : s.everyHours = 1
      · simp [one]
      · have notStar : "*/" ++ toString s.everyHours ≠ "*" := by
          intro star
          have step := stepOf_toString low high
          rw [star] at step
          cases step
        simp only [one, notStar, stepOf_toString low high, and_self, if_true, if_false,
          Option.map_some]
    simp [Parts.preset, Parts.daily, minutes, untimed, found]
  · simp [Restores, hourly]

theorem weekdays_restored (ranged : s.inRange = true) (weekdays : s.preset = .weekdays) :
    Restores (classify (some (toCron s))) s := by
  apply @Restores.of_preset s { preset := .weekdays, minute := s.minute, hour := s.hour } ranged
    (by simp [weekdays])
  · intro parts minutes hours _ dom mon dow
    simp only [FormState.dayText, FormState.weekdayText, weekdays] at dom dow
    simp [Parts.preset, Parts.daily, Parts.hourly, Parts.weekdays, minutes, hours, dom, mon, dow,
      weekdays]
  · simp [Restores, weekdays]

theorem sortedDays_perm (settled : Settled s) : s.sortedDays.Perm s.days := by
  rw [FormState.sortedDays, if_neg settled.some]
  exact List.perm_insertionSort _ s.days

/-- The printed list of days is read back: it has no zero for Sunday, and no day twice. -/
theorem parseDowCsv_sortedDays (settled : Settled s) :
    parseDowCsv (",".intercalate (s.sortedDays.map toString)) =
      some (s.sortedDays.insertionSort (· ≤ ·)) := by
  have sevens : (s.sortedDays.map fun day => if day = 0 then 7 else day) = s.sortedDays := by
    calc _ = s.sortedDays.map id := by
          apply List.map_congr_left
          intro day member
          have positive := (sortedDays_bounds settled.ranged member).1
          exact if_neg (by omega)
      _ = s.sortedDays := List.map_id _
  have once : s.sortedDays.Nodup := (sortedDays_perm settled).nodup_iff.mpr settled.once
  simp only [parseDowCsv, csv_sortedDays settled.ranged, sevens, once.dedup, Option.bind_eq_bind,
    Option.bind_some]
  rfl

theorem weekly_restored (settled : Settled s) (weekly : s.preset = .weekly) :
    Restores (classify (some (toCron s))) s := by
  have ranged := settled.ranged
  have csv := csv_sortedDays ranged
  have found := parseDowCsv_sortedDays settled
  apply @Restores.of_preset s
    { preset := .weekly, minute := s.minute, hour := s.hour,
      days := s.sortedDays.insertionSort (· ≤ ·) } ranged (by simp [weekly])
  · intro parts minutes hours _ dom mon dow
    simp only [FormState.dayText, FormState.weekdayText, weekly] at dom dow
    have notStar : parts.dow ≠ "*" := by
      rw [dow]
      exact ne_of_csv csv (by decide)
    have notRange : parts.dow ≠ "1-5" := by
      rw [dow]
      exact ne_of_csv csv (by decide)
    rw [← dow] at found
    simp [Parts.preset, Parts.daily, Parts.hourly, Parts.weekdays, Parts.weekly, minutes, hours,
      dom, mon, notStar, notRange, found, weekly]
  · have same := (List.perm_insertionSort (· ≤ ·) s.sortedDays).trans (sortedDays_perm settled)
    simp [Restores, weekly, same]

theorem monthly_restored (ranged : s.inRange = true) (monthly : s.preset = .monthly) :
    Restores (classify (some (toCron s))) s := by
  apply @Restores.of_preset s
    { preset := .monthly, minute := s.minute, hour := s.hour, domDay := s.domDay } ranged
    (by simp [monthly])
  · intro parts minutes hours _ dom mon dow
    simp only [FormState.weekdayText, monthly] at dow
    cases chosen : s.domDay with
    | last =>
      simp only [FormState.dayText, monthly, chosen] at dom
      simp [Parts.preset, Parts.daily, Parts.hourly, Parts.weekdays, Parts.weekly, Parts.monthly,
        minutes, hours, dom, mon, dow, monthly]
    | day number =>
      obtain ⟨low, high⟩ := (inRange_iff.mp ranged).2.2.2.2.2 number chosen
      simp only [FormState.dayText, monthly, chosen] at dom
      have read := within_toString low high
      rw [← dom] at read
      have foreign : ∀ other : String, within 1 31 other.toList = none → parts.dom ≠ other := by
        intro other unread same
        rw [same, unread] at read
        cases read
      have notStar := foreign "*" (by decide)
      have notLast := foreign "L" (by decide)
      simp [Parts.preset, Parts.daily, Parts.hourly, Parts.weekdays, Parts.weekly, Parts.monthly,
        minutes, hours, notStar, notLast, read, mon, dow, monthly]
  · simp [Restores, monthly]

/-- Every setting of a preset comes back. -/
theorem restores_classify (settled : Settled s) (plain : s.preset ≠ .advanced) :
    Restores (classify (some (toCron s))) s := by
  cases preset : s.preset with
  | daily => exact daily_restored settled.ranged preset
  | hourly => exact hourly_restored settled.ranged preset
  | weekdays => exact weekdays_restored settled.ranged preset
  | weekly => exact weekly_restored settled preset
  | monthly => exact monthly_restored settled.ranged preset
  | advanced => exact absurd preset plain

end

/-! ### The form in use -/

theorem settled_classify (cron : Option String) : Settled (classify cron) := by
  have plain : ∀ raw : String, Settled { preset := .advanced, raw } := by
    intro raw
    exact .of_default rfl rfl
  unfold classify
  split
  · exact .of_default rfl rfl
  · split
    · next mm hh dom mon dow _ =>
      cases found : Parts.preset { mm, hh, dom, mon, dow } with
      | none => exact plain _
      | some s => exact (preset_means found).settled
    · exact plain _

theorem mem_toggle {number day : Nat} {days : List Nat} (member : day ∈ toggle number days) :
    day ∈ days ∨ day = number := by
  unfold toggle at member
  split at member
  · exact .inl (List.mem_filter.mp member).1
  · rcases List.mem_append.mp member with old | new
    · exact .inl old
    · exact .inr (List.mem_singleton.mp new)

theorem toggle_nodup {number : Nat} {days : List Nat} (once : days.Nodup) :
    (toggle number days).Nodup := by
  unfold toggle
  split
  · exact once.filter _
  · next fresh =>
    apply once.append (List.nodup_singleton number)
    intro day old new
    exact fresh (List.mem_singleton.mp new ▸ old)

theorem Settled.change {s : FormState} {control : Control} (settled : Settled s)
    (offered : control.offered = true) : Settled (change s control) := by
  obtain ⟨minute, hour, low, high, days, domDay⟩ := inRange_iff.mp settled.ranged
  cases control with
  | preset | raw => exact ⟨settled.ranged, settled.once, settled.some⟩
  | time h m =>
    simp only [Control.offered, Bool.and_eq_true, decide_eq_true_eq] at offered
    exact ⟨inRange_iff.mpr ⟨offered.2, offered.1, low, high, days, domDay⟩, settled.once,
      settled.some⟩
  | everyHours hours =>
    have bounds : 1 ≤ hours ∧ hours ≤ 23 := by
      simp only [Control.offered, List.contains_eq_mem, decide_eq_true_eq, List.mem_cons,
        List.not_mem_nil, or_false] at offered
      omega
    exact ⟨inRange_iff.mpr ⟨minute, hour, bounds.1, bounds.2, days, domDay⟩, settled.once,
      settled.some⟩
  | minute m =>
    have bound : m ≤ 59 := by
      simp only [Control.offered, List.contains_eq_mem, decide_eq_true_eq, List.mem_cons,
        List.not_mem_nil, or_false] at offered
      omega
    exact ⟨inRange_iff.mpr ⟨bound, hour, low, high, days, domDay⟩, settled.once, settled.some⟩
  | domDay day =>
    refine ⟨inRange_iff.mpr ⟨minute, hour, low, high, days, ?_⟩, settled.once, settled.some⟩
    rintro number rfl
    simpa [Control.offered] using offered
  | day number =>
    simp only [Control.offered, Bool.and_eq_true, decide_eq_true_eq] at offered
    unfold ScheduleForms.change
    simp only
    by_cases empty : toggle number s.days = []
    · rw [if_pos empty]
      exact settled
    · rw [if_neg empty]
      refine ⟨inRange_iff.mpr ⟨minute, hour, low, high, ?_, domDay⟩, toggle_nodup settled.once,
        empty⟩
      intro day member
      rcases mem_toggle member with old | new
      · exact days day old
      · rw [new]
        exact offered

/-- Whatever the form is opened with, its controls stay in their ranges. -/
theorem settled_of_reach {cron : Option String} {s : FormState}
    (reached : Runs.Reach (fun s control next => next = change s control)
      (fun _ control => control.offered = true) (classify cron) s) : Settled s := by
  refine @Runs.Reach.invariant _ _ _ _ _ Settled (settled_classify cron) ?_ _ reached
  intro before control after settled offered changed
  rw [changed]
  exact settled.change offered

/-- The form keeps the schedule of every text of five fields, and finds every setting of its presets
in the text that it printed. -/
theorem form_keeps_schedule {fires : String → Nat → Bool} (standard : Standard fires) :
    (∀ cron, FiveFields cron → fires (toCron (classify (some cron))) = fires cron) ∧
      ∀ s, Settled s → s.preset ≠ .advanced → Restores (classify (some (toCron s))) s :=
  ⟨fun _ five => fires_classify standard five,
    fun _ settled plain => restores_classify settled plain⟩

/-- The standard's own minutes. -/
def standardMinutes (text : String) (time : Nat) : Bool :=
  (readSchedule text).any (·.fires time)

theorem standard_minutes : Standard standardMinutes := by
  intro text schedule read
  funext time
  rw [standardMinutes, read, Option.any_some]

/-- Sundays and Wednesdays, in a text and in the form. -/
theorem form_keeps_sundays :
    standardMinutes (toCron (classify (some "05 2 * * 0,3"))) = standardMinutes "05 2 * * 0,3" ∧
      Restores (classify (some (toCron { preset := .weekly, days := [7, 3] })))
        { preset := .weekly, days := [7, 3] } :=
  ⟨(form_keeps_schedule standard_minutes).1 _ ⟨by decide, by decide⟩,
    (form_keeps_schedule standard_minutes).2 _ ⟨by decide, by decide, by decide⟩ (by decide)⟩

end PfsenseBackups.ScheduleForms

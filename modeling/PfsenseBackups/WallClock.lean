import Mathlib.Data.Nat.Find
import Mathlib.Order.MinMax
import Mathlib.Tactic.IntervalCases
import Mathlib.Tactic.NormNum

/-! Wall-clock minutes since 1970, their dates, and the times at which a rule over them fires. -/

namespace PfsenseBackups.WallClock

/-! ### Dates -/

/-- What a clock and a calendar show; Monday is weekday 0. -/
structure Wall where
  minute : Nat
  hour : Nat
  day : Nat
  month : Nat
  weekday : Nat
  deriving DecidableEq

/-- The day of a year that begins on 1 March, by days since a March of year 0. -/
def dayOfYear (days : Nat) : Nat :=
  -- Leap days end the years, the groups of four and the eras, and are missing at most centuries.
  let inEra := days % 146097
  let inCentury := inEra - 36524 * min (inEra / 36524) 3
  let inGroup := inCentury % 1461
  inGroup - 365 * min (inGroup / 365) 3

/-- The month and the day in it. -/
def monthDay (dayOfYear : Nat) : Nat × Nat :=
  let fromMarch := (5 * dayOfYear + 2) / 153
  (if fromMarch < 10 then fromMarch + 3 else fromMarch - 9,
    dayOfYear - (153 * fromMarch + 2) / 5 + 1)

/-- The days from 1 March of year 0 to 1 January 1970, which was a Thursday. -/
def epoch : Nat :=
  719468

def wall (time : Nat) : Wall where
  minute := time % 60
  hour := time / 60 % 24
  day := (monthDay (dayOfYear (time / 1440 + epoch))).2
  month := (monthDay (dayOfYear (time / 1440 + epoch))).1
  weekday := (time / 1440 + 3) % 7

/-- The first minute after `base` that a rule selects, if it selects any. -/
def IsNext (selects : Nat → Bool) (base : Nat) : Option Nat → Prop
  | some time => base < time ∧ selects time = true ∧
      ∀ earlier, base < earlier → earlier < time → selects earlier = false
  | none => ∀ later, base < later → selects later = false

section
variable {left right : Nat → Bool} {nextLeft nextRight : Nat → Option Nat} {base : Nat}

theorem IsNext.unique {first second : Option Nat} (one : IsNext left base first)
    (other : IsNext left base second) : first = second := by
  cases first with
  | none =>
    cases second with
    | none => rfl
    | some time => exact absurd (one time other.1) (by simp [other.2.1])
  | some time =>
    cases second with
    | none => exact absurd (other time one.1) (by simp [one.2.1])
    | some time' =>
      have ⟨after, selected, before⟩ := one
      have ⟨after', selected', before'⟩ := other
      rcases Nat.lt_trichotomy time time' with less | same | more
      · simp [before' time after less] at selected
      · rw [same]
      · simp [before time' after' more] at selected'

theorem IsNext.congr {next : Option Nat} (same : ∀ time, base < time → left time = right time)
    (isNext : IsNext left base next) : IsNext right base next := by
  cases next with
  | none => exact fun later after => (same later after).symm.trans (isNext later after)
  | some time =>
    have ⟨after, selected, before⟩ := isNext
    exact ⟨after, (same time after).symm.trans selected, fun earlier after' less =>
      (same earlier after').symm.trans (before earlier after' less)⟩

end

open Classical in
/-- A next minute, found without a bound. -/
noncomputable def firstAfter (selects : Nat → Bool) (base : Nat) : Option Nat :=
  if selected : ∃ time, base < time ∧ selects time = true then some (Nat.find selected) else none

end PfsenseBackups.WallClock

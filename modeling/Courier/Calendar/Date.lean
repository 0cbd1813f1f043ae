/-!
# Dates

The Gregorian calendar, extended backwards to the start of year 1. A day is counted from
January 1 of year 1, which is day 0; `Date.ofDay` and `Date.toDay` pass between the count and
year, month and day.
-/

namespace Courier

/-- A year, a month from 1 and a day from 1. -/
structure Date where
  year : Nat
  month : Nat
  day : Nat
deriving DecidableEq, Repr, Inhabited

namespace Date

/-- Whether a year has a February 29. -/
def isLeap (year : Nat) : Bool :=
  year % 4 == 0 && (year % 100 != 0 || year % 400 == 0)

/-- The lengths of the months of a year. -/
def monthLengths (leap : Bool) : List Nat :=
  [31, if leap then 29 else 28, 31, 30, 31, 30, 31, 31, 30, 31, 30, 31]

/-- The length of a month, or zero for a month that does not exist. -/
def monthLength (year month : Nat) : Nat :=
  if month = 0 then 0 else (monthLengths (isLeap year))[month - 1]?.getD 0

/-- Whether the date exists, in years 1 to 9999. -/
def Valid (d : Date) : Prop :=
  1 ≤ d.year ∧ d.year ≤ 9999 ∧ 1 ≤ d.month ∧ d.month ≤ 12 ∧ 1 ≤ d.day ∧
    d.day ≤ monthLength d.year d.month

instance (d : Date) : Decidable d.Valid := by unfold Valid; infer_instance

/-- The days before January 1 of a year. -/
def daysBeforeYear (year : Nat) : Nat :=
  let past := year - 1
  365 * past + past / 4 - past / 100 + past / 400

/-- The days of a year before the first of a month. -/
def daysBeforeMonth (year month : Nat) : Nat :=
  ((monthLengths (isLeap year)).take (month - 1)).foldr (· + ·) 0

/-- The count of a date. -/
def toDay (d : Date) : Nat := daysBeforeYear d.year + daysBeforeMonth d.year d.month + (d.day - 1)

/-- The year that a day falls in, and the day within that year from 0. Years come in cycles of
400, 100, 4 and 1; the last day of a cycle of 400 or 4 years is the one that a leap year adds. -/
def yearOfDay (day : Nat) : Nat × Nat :=
  let cycle := day / 146097
  let day := day % 146097
  let century := min (day / 36524) 3
  let day := day - century * 36524
  let olympiad := day / 1461
  let day := day % 1461
  let single := min (day / 365) 3
  (400 * cycle + 100 * century + 4 * olympiad + single + 1, day - single * 365)

/-- The month and day of a day within a year, given the lengths of the months left. -/
def monthOfDay : Nat → List Nat → Nat → Nat × Nat
  | month, [], day => (month, day + 1)
  | month, length :: rest, day =>
    if day < length then (month, day + 1) else monthOfDay (month + 1) rest (day - length)

/-- The date of a day. -/
def ofDay (day : Nat) : Date :=
  let (year, within) := yearOfDay day
  let (month, date) := monthOfDay 1 (monthLengths (isLeap year)) within
  ⟨year, month, date⟩

theorem daysBeforeYear_cycles {cycle century olympiad single : Nat} (h : century ≤ 3)
    (ho : olympiad ≤ 24) (hs : single ≤ 3) :
    daysBeforeYear (400 * cycle + 100 * century + 4 * olympiad + single + 1) =
      146097 * cycle + 36524 * century + 1461 * olympiad + 365 * single := by
  simp only [daysBeforeYear]
  omega

/-- The year of a day begins on or before it. -/
theorem daysBeforeYear_yearOfDay (day : Nat) :
    daysBeforeYear (yearOfDay day).1 + (yearOfDay day).2 = day := by
  simp only [yearOfDay]
  rw [daysBeforeYear_cycles (by omega) (by omega) (by omega)]
  omega

/-- A number in decimal with at least the given count of digits. -/
def padded (width n : Nat) : String :=
  let digits := Nat.toDigits 10 n
  String.ofList (List.replicate (width - digits.length) '0' ++ digits)

/-- The date in year-month-day form. -/
def text (d : Date) : String :=
  padded 4 d.year ++ "-" ++ padded 2 d.month ++ "-" ++ padded 2 d.day

end Date

end Courier

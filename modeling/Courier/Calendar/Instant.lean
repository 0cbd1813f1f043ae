import Courier.Calendar.Date

/-!
# Instants

An instant is a moment of universal time, counted in microseconds from the start of year 1. The
count ends with year 9999, and the bound is part of the type, so that shifting an instant has to
say what happens beyond the calendar.

Instants are ordered by their count. The parts of the clock face are read off with `Instant.date`
and the functions beside it.
-/

namespace Courier

/-- The microseconds of a day. -/
def microsPerDay : Nat := 86400000000

/-- A moment from the start of year 1 to the end of year 9999. -/
structure Instant where
  /-- Microseconds from the start of year 1. -/
  micros : Nat
  micros_lt : micros < 315537897600000000 := by decide
deriving DecidableEq, Repr

namespace Instant

/-- The count just beyond the last instant: 3652059 days. -/
def limit : Nat := 315537897600000000

instance : LT Instant := ⟨fun a b => a.micros < b.micros⟩

instance : LE Instant := ⟨fun a b => a.micros ≤ b.micros⟩

instance (a b : Instant) : Decidable (a < b) := inferInstanceAs (Decidable (a.micros < b.micros))

instance (a b : Instant) : Decidable (a ≤ b) := inferInstanceAs (Decidable (a.micros ≤ b.micros))

instance : Inhabited Instant := ⟨⟨0, by decide⟩⟩

theorem lt_iff {a b : Instant} : a < b ↔ a.micros < b.micros := Iff.rfl

theorem le_iff {a b : Instant} : a ≤ b ↔ a.micros ≤ b.micros := Iff.rfl

theorem ext_micros {a b : Instant} (h : a.micros = b.micros) : a = b := by
  cases a; cases b; simp_all

theorem le_of_lt {a b : Instant} (h : a < b) : a ≤ b := Nat.le_of_lt h

theorem not_lt_iff {a b : Instant} : ¬a < b ↔ b ≤ a := Nat.not_lt

theorem eq_of_le_of_not_lt {a b : Instant} (h : a ≤ b) (h' : ¬a < b) : a = b :=
  ext_micros (Nat.le_antisymm h (not_lt_iff.mp h'))

/-- The later of two instants. -/
def latest (a b : Instant) : Instant := if a ≤ b then b else a

theorem le_latest_right (a b : Instant) : b ≤ latest a b := by
  unfold latest
  split <;> simp_all [le_iff]
  omega

/-- The later of two instants comes before a third exactly if both do. -/
theorem latest_lt_iff {a b c : Instant} : latest a b < c ↔ a < c ∧ b < c := by
  unfold latest
  split <;> simp_all only [le_iff, lt_iff] <;> omega

/-- The instant with a given count, if the calendar has it. -/
def ofMicros? (n : Int) : Option Instant :=
  if h : 0 ≤ n ∧ n < 315537897600000000 then some ⟨n.toNat, by omega⟩ else none

theorem ofMicros?_micros (a : Instant) : ofMicros? a.micros = some a := by
  have := a.micros_lt
  simp [ofMicros?]
  omega

theorem micros_of_ofMicros? {n : Int} {a : Instant} (h : ofMicros? n = some a) :
    (a.micros : Int) = n := by
  unfold ofMicros? at h
  split at h
  · obtain rfl := Option.some.inj h
    simp
    omega
  · simp at h

theorem ofMicros?_eq_some_iff {n : Int} {a : Instant} :
    ofMicros? n = some a ↔ (a.micros : Int) = n :=
  ⟨micros_of_ofMicros?, fun h => h ▸ ofMicros?_micros a⟩

/-- The instant a number of microseconds later, if the calendar has it. -/
def shift? (a : Instant) (delta : Int) : Option Instant := ofMicros? (a.micros + delta)

theorem shift?_eq_some_iff {a b : Instant} {delta : Int} :
    a.shift? delta = some b ↔ (b.micros : Int) = a.micros + delta := ofMicros?_eq_some_iff

/-- The date on the clock face. -/
def date (a : Instant) : Date := Date.ofDay (a.micros / microsPerDay)

/-- The microseconds since midnight. -/
def sinceMidnight (a : Instant) : Nat := a.micros % microsPerDay

/-- The hour, from 0 to 23. -/
def hour (a : Instant) : Nat := a.sinceMidnight / 3600000000

/-- The minute, from 0 to 59. -/
def minute (a : Instant) : Nat := a.sinceMidnight / 60000000 % 60

/-- The second, from 0 to 59. -/
def second (a : Instant) : Nat := a.sinceMidnight / 1000000 % 60

/-- The microsecond within the second. -/
def microsecond (a : Instant) : Nat := a.sinceMidnight % 1000000

/-- The instant of a date and a time of day, if both exist. -/
def ofParts? (d : Date) (hour minute second microsecond : Nat) : Option Instant :=
  if d.Valid ∧ hour < 24 ∧ minute < 60 ∧ second < 60 ∧ microsecond < 1000000 then
    ofMicros? (d.toDay * microsPerDay +
      (((hour * 60 + minute) * 60 + second) * 1000000 + microsecond : Nat))
  else none

/-- The microseconds between the start of year 1 and the start of 1970. -/
def epoch : Nat := 62135596800000000

/-- The microseconds since the start of 1970. -/
def sinceEpoch (a : Instant) : Int := (a.micros : Int) - epoch

/-- The time of day with seconds. -/
def clockText (a : Instant) : String :=
  Date.padded 2 a.hour ++ ":" ++ Date.padded 2 a.minute ++ ":" ++ Date.padded 2 a.second

/-- The fraction of the second, six digits, left out when it is zero. -/
def fractionText (a : Instant) : String :=
  if a.microsecond = 0 then "" else "." ++ Date.padded 6 a.microsecond

/-- The instant as a record shows it. -/
def text (a : Instant) : String :=
  a.date.text ++ "T" ++ a.clockText ++ a.fractionText ++ "Z"

end Instant

end Courier

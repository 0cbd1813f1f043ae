import Courier.Calendar.Instant
import Mathlib.Algebra.GroupWithZero.Nat

/-!
# Days and dates

`Date.ofDay` and `Date.toDay` undo each other on the days of the calendar
(`Date.toDay_ofDay`), every day of the calendar has a valid date (`Date.valid_ofDay`), and a
later day has a date that is later by year, month and day (`Date.before_of_lt`).
-/

namespace Courier.Date

/-! ## Years -/

/-- The length of a year. -/
def yearLength (year : Nat) : Nat := if isLeap year then 366 else 365

theorem isLeap_iff {year : Nat} :
    isLeap year = true ↔ year % 4 = 0 ∧ (year % 100 ≠ 0 ∨ year % 400 = 0) := by
  simp [isLeap]

/-- The length of a year by the rule for leap years. -/
theorem yearLength_cases (year : Nat) :
    yearLength year = 366 ∧ year % 4 = 0 ∧ (year % 100 ≠ 0 ∨ year % 400 = 0) ∨
      yearLength year = 365 ∧ ¬(year % 4 = 0 ∧ (year % 100 ≠ 0 ∨ year % 400 = 0)) := by
  by_cases h : isLeap year = true
  · exact .inl ⟨if_pos h, isLeap_iff.mp h⟩
  · exact .inr ⟨if_neg h, mt isLeap_iff.mpr h⟩

theorem daysBeforeYear_succ {year : Nat} (h : 1 ≤ year) :
    daysBeforeYear (year + 1) = daysBeforeYear year + yearLength year := by
  obtain ⟨past, rfl⟩ : ∃ past, year = past + 1 := ⟨year - 1, by omega⟩
  have by4 : (past + 1) / 4 = past / 4 + if (past + 1) % 4 = 0 then 1 else 0 := by
    split <;> omega
  have by100 : (past + 1) / 100 = past / 100 + if (past + 1) % 100 = 0 then 1 else 0 := by
    split <;> omega
  have by400 : (past + 1) / 400 = past / 400 + if (past + 1) % 400 = 0 then 1 else 0 := by
    split <;> omega
  have le : past / 100 ≤ past := by omega
  have := yearLength_cases (past + 1)
  simp only [daysBeforeYear, Nat.add_sub_cancel, by4, by100, by400]
  split <;> split <;> split <;> omega

theorem daysBeforeYear_mono {y z : Nat} (hy : 1 ≤ y) (h : y ≤ z) :
    daysBeforeYear y ≤ daysBeforeYear z := by
  induction h with
  | refl => exact Nat.le_refl _
  | @step z h ih =>
    rw [Nat.succ_eq_add_one, daysBeforeYear_succ (Nat.le_trans hy h)]
    omega

theorem one_le_yearOfDay (day : Nat) : 1 ≤ (yearOfDay day).1 := by
  simp [yearOfDay]

/-- The last day of a cycle is the one that its leap year adds. -/
theorem yearOfDay_lt_yearLength (day : Nat) :
    (yearOfDay day).2 < yearLength (yearOfDay day).1 := by
  have := yearLength_cases (yearOfDay day).1
  simp only [yearOfDay] at this ⊢
  omega

theorem yearOfDay_le {day : Nat} (h : day < 3652059) : (yearOfDay day).1 ≤ 9999 := by
  simp only [yearOfDay]
  omega

/-! ## Months -/

theorem sum_monthLengths (leap : Bool) :
    (monthLengths leap).sum = if leap then 366 else 365 := by
  cases leap <;> rfl

theorem daysBeforeMonth_eq_sum (year month : Nat) :
    daysBeforeMonth year month = ((monthLengths (isLeap year)).take (month - 1)).sum := rfl

/-- A day falls into the month whose predecessors are over by then. -/
theorem monthOfDay_eq (lengths : List Nat) :
    ∀ (month day : Nat), day < lengths.sum →
      ∃ i, ∃ hi : i < lengths.length, monthOfDay month lengths day =
        (month + i, day - (lengths.take i).sum + 1) ∧ (lengths.take i).sum ≤ day ∧
          day < (lengths.take i).sum + lengths[i] := by
  induction lengths with
  | nil => intro month day h; simp at h
  | cons length rest ih =>
    intro month day h
    by_cases hd : day < length
    · exact ⟨0, by simp, by simp [monthOfDay, hd], by simp, by simpa using hd⟩
    · simp only [List.sum_cons] at h
      obtain ⟨i, hi, he, hle, hlt⟩ := ih (month + 1) (day - length) (by omega)
      refine ⟨i + 1, by simpa using hi, ?_, ?_, ?_⟩
      · simp only [monthOfDay, hd, if_false, he, List.take_succ_cons, List.sum_cons]
        congr 1 <;> omega
      · simp only [List.take_succ_cons, List.sum_cons]
        omega
      · simp only [List.take_succ_cons, List.sum_cons, List.getElem_cons_succ]
        omega

theorem length_monthLengths (leap : Bool) : (monthLengths leap).length = 12 := rfl

theorem monthLength_eq_getElem {year i : Nat} (hi : i < (monthLengths (isLeap year)).length) :
    monthLength year (1 + i) = (monthLengths (isLeap year))[i] := by
  have hm : 1 + i - 1 = i := by omega
  simp [monthLength, hm, List.getElem?_eq_getElem hi]

theorem monthLength_le (year month : Nat) : monthLength year month ≤ 31 := by
  have all : ∀ leap : Bool, ∀ length ∈ monthLengths leap, length ≤ 31 := by decide
  unfold monthLength
  split
  · omega
  · cases h : (monthLengths (isLeap year))[month - 1]? with
    | none => simp
    | some length => exact all _ _ (List.mem_of_getElem? h)

/-- A month begins when all months before it are over. -/
theorem daysBeforeMonth_add_monthLength_le {year month later : Nat} (h : 1 ≤ month)
    (hl : month < later) (h' : later ≤ 12) :
    daysBeforeMonth year month + monthLength year month ≤ daysBeforeMonth year later := by
  have all : ∀ leap : Bool, ∀ m < 13, ∀ n < 13, 1 ≤ m → m < n →
      ((monthLengths leap).take (m - 1)).sum + (monthLengths leap)[m - 1]?.getD 0 ≤
        ((monthLengths leap).take (n - 1)).sum := by
    decide
  have hm : month ≠ 0 := by omega
  simpa [daysBeforeMonth_eq_sum, monthLength, hm] using
    all (isLeap year) month (by omega) later (by omega) h hl

theorem daysBeforeMonth_add_monthLength_le_yearLength {year month : Nat} (h : 1 ≤ month)
    (h' : month ≤ 12) : daysBeforeMonth year month + monthLength year month ≤ yearLength year := by
  have all : ∀ leap : Bool, ∀ m < 13, 1 ≤ m →
      ((monthLengths leap).take (m - 1)).sum + (monthLengths leap)[m - 1]?.getD 0 ≤
        if leap then 366 else 365 := by
    decide
  have hm : month ≠ 0 := by omega
  simpa [daysBeforeMonth_eq_sum, monthLength, yearLength, hm] using
    all (isLeap year) month (by omega) h

/-! ## Dates -/

/-- What `Date.ofDay` finds, in terms of the days before the year and the month. -/
theorem ofDay_spec {day : Nat} (h : day < 3652059) :
    (ofDay day).Valid ∧ toDay (ofDay day) = day := by
  have hyear := daysBeforeYear_yearOfDay day
  have hlen := yearOfDay_lt_yearLength day
  have hone := one_le_yearOfDay day
  have hle := yearOfDay_le h
  generalize hy : (yearOfDay day).1 = year at *
  generalize hw : (yearOfDay day).2 = within at *
  have hsum : within < (monthLengths (isLeap year)).sum := by
    rwa [sum_monthLengths]
  obtain ⟨i, hi, he, hfrom, hto⟩ := monthOfDay_eq (monthLengths (isLeap year)) 1 within hsum
  have hdate : ofDay day =
      ⟨year, 1 + i, within - ((monthLengths (isLeap year)).take i).sum + 1⟩ := by
    simp [ofDay, hy, hw, he]
  have hmonth : 1 + i - 1 = i := by omega
  have hlength := monthLength_eq_getElem hi
  rw [length_monthLengths] at hi
  rw [hdate]
  refine ⟨⟨hone, hle, ?_, ?_, ?_, ?_⟩, ?_⟩
  · show 1 ≤ 1 + i
    omega
  · show 1 + i ≤ 12
    omega
  · show 1 ≤ _ + 1
    omega
  · show within - _ + 1 ≤ monthLength year (1 + i)
    rw [hlength]
    omega
  · simp only [toDay, daysBeforeMonth_eq_sum, hmonth]
    omega

theorem valid_ofDay {day : Nat} (h : day < 3652059) : (ofDay day).Valid := (ofDay_spec h).1

theorem toDay_ofDay {day : Nat} (h : day < 3652059) : toDay (ofDay day) = day := (ofDay_spec h).2

/-- One date comes before another: by year, then by month, then by day. -/
def Before (d e : Date) : Prop :=
  d.year < e.year ∨ d.year = e.year ∧ (d.month < e.month ∨ d.month = e.month ∧ d.day < e.day)

theorem daysBeforeYear_le_toDay (d : Date) : daysBeforeYear d.year ≤ toDay d := by
  unfold toDay
  omega

theorem Valid.toDay_lt_daysBeforeYear_succ {d : Date} (v : d.Valid) :
    toDay d < daysBeforeYear (d.year + 1) := by
  obtain ⟨hy, -, hm, hm', hd, hd'⟩ := v
  have : daysBeforeMonth d.year d.month + monthLength d.year d.month ≤ yearLength d.year :=
    daysBeforeMonth_add_monthLength_le_yearLength hm hm'
  rw [daysBeforeYear_succ hy]
  unfold toDay
  omega

/-- An earlier date has an earlier day. -/
theorem Before.toDay_lt {d e : Date} (v : d.Valid) (w : e.Valid) (h : d.Before e) :
    toDay d < toDay e := by
  rcases h with hy | ⟨hy, hm | ⟨hm, hd⟩⟩
  · calc toDay d < daysBeforeYear (d.year + 1) := v.toDay_lt_daysBeforeYear_succ
      _ ≤ daysBeforeYear e.year := daysBeforeYear_mono (by omega) hy
      _ ≤ toDay e := daysBeforeYear_le_toDay e
  · have : daysBeforeMonth d.year d.month + monthLength d.year d.month ≤
        daysBeforeMonth d.year e.month :=
      daysBeforeMonth_add_monthLength_le v.2.2.1 hm w.2.2.2.1
    have hd := v.2.2.2.2.1
    have hd' := v.2.2.2.2.2
    simp only [toDay, hy] at *
    omega
  · have := v.2.2.2.2.1
    simp only [toDay, hy, hm]
    omega

theorem before_trichotomy (d e : Date) : d.Before e ∨ d = e ∨ e.Before d := by
  obtain ⟨y, m, n⟩ := d
  obtain ⟨y', m', n'⟩ := e
  simp only [Before, Date.mk.injEq]
  omega

/-- A later day has a later date. -/
theorem before_of_lt {a b : Nat} (hb : b < 3652059) (h : a < b) : (ofDay a).Before (ofDay b) := by
  have ha : a < 3652059 := by omega
  rcases before_trichotomy (ofDay a) (ofDay b) with hab | heq | hba
  · exact hab
  · have := toDay_ofDay ha
    rw [heq, toDay_ofDay hb] at this
    omega
  · have := hba.toDay_lt (valid_ofDay hb) (valid_ofDay ha)
    rw [toDay_ofDay ha, toDay_ofDay hb] at this
    omega

theorem year_ofDay_mono {a b : Nat} (hb : b < 3652059) (h : a ≤ b) :
    (ofDay a).year ≤ (ofDay b).year := by
  rcases Nat.lt_or_eq_of_le h with hlt | rfl
  · rcases before_of_lt hb hlt with hy | ⟨hy, -⟩ <;> omega
  · exact Nat.le_refl _

end Courier.Date

namespace Courier.Instant

/-! ## Instants -/

theorem day_lt (a : Instant) : a.micros / microsPerDay < 3652059 := by
  have := a.micros_lt
  simp only [microsPerDay]
  omega

theorem valid_date (a : Instant) : a.date.Valid := Date.valid_ofDay a.day_lt

theorem toDay_date (a : Instant) : a.date.toDay = a.micros / microsPerDay :=
  Date.toDay_ofDay a.day_lt

theorem year_mono {a b : Instant} (h : a ≤ b) : a.date.year ≤ b.date.year :=
  Date.year_ofDay_mono b.day_lt (Nat.div_le_div_right h)

theorem not_lt_of_year_lt {a b : Instant} (h : a.date.year < b.date.year) : ¬b < a := fun hlt =>
  Nat.not_le_of_lt h (year_mono (Nat.le_of_lt hlt))

theorem hour_lt (a : Instant) : a.hour < 24 := by
  simp only [hour, sinceMidnight, microsPerDay]
  omega

theorem minute_lt (a : Instant) : a.minute < 60 := by
  simp only [minute]
  omega

theorem second_lt (a : Instant) : a.second < 60 := by
  simp only [second]
  omega

theorem microsecond_lt (a : Instant) : a.microsecond < 1000000 := by
  simp only [microsecond]
  omega

/-- The parts of an instant make it up. -/
theorem ofParts?_parts (a : Instant) :
    ofParts? a.date a.hour a.minute a.second a.microsecond = some a := by
  have whole : (a.date.toDay * microsPerDay + (((a.hour * 60 + a.minute) * 60 + a.second) *
      1000000 + a.microsecond : Nat) : Int) = (a.micros : Int) := by
    rw [a.toDay_date]
    simp only [hour, minute, second, microsecond, sinceMidnight, microsPerDay]
    omega
  rw [ofParts?, if_pos ⟨a.valid_date, a.hour_lt, a.minute_lt, a.second_lt, a.microsecond_lt⟩,
    whole, ofMicros?_micros]

/-- The start of the second that an instant falls in. -/
def wholeSecond (a : Instant) : Instant :=
  ⟨a.micros - a.micros % 1000000, by have := a.micros_lt; omega⟩

theorem date_wholeSecond (a : Instant) : a.wholeSecond.date = a.date := by
  have day : (a.micros - a.micros % 1000000) / microsPerDay = a.micros / microsPerDay := by
    simp only [microsPerDay]
    omega
  rw [date, wholeSecond, day, date]

/-- Midnight is the start of a second. -/
theorem sinceMidnight_wholeSecond (a : Instant) :
    a.wholeSecond.sinceMidnight = a.sinceMidnight - a.sinceMidnight % 1000000 := by
  simp only [wholeSecond, sinceMidnight, microsPerDay]
  omega

theorem hour_wholeSecond (a : Instant) : a.wholeSecond.hour = a.hour := by
  rw [hour, sinceMidnight_wholeSecond, hour]
  omega

theorem minute_wholeSecond (a : Instant) : a.wholeSecond.minute = a.minute := by
  rw [minute, sinceMidnight_wholeSecond, minute]
  omega

theorem second_wholeSecond (a : Instant) : a.wholeSecond.second = a.second := by
  rw [second, sinceMidnight_wholeSecond, second]
  omega

theorem microsecond_wholeSecond (a : Instant) : a.wholeSecond.microsecond = 0 := by
  rw [microsecond, sinceMidnight_wholeSecond]
  omega

/-- Of two instants of one day the earlier shows an earlier time on the clock. -/
theorem clock_of_lt {a b : Instant} (hd : a.micros / microsPerDay = b.micros / microsPerDay)
    (h : a < b) : a.hour < b.hour ∨ a.hour = b.hour ∧ (a.minute < b.minute ∨
      a.minute = b.minute ∧ (a.second < b.second ∨
        a.second = b.second ∧ a.microsecond < b.microsecond)) := by
  rw [lt_iff] at h
  have within : a.sinceMidnight < b.sinceMidnight := by
    simp only [sinceMidnight, microsPerDay] at hd ⊢
    omega
  simp only [hour, minute, second, microsecond]
  generalize a.sinceMidnight = m at within ⊢
  generalize b.sinceMidnight = n at within ⊢
  omega

/-- The earlier of two instants has an earlier date, or an earlier time on the same date. -/
theorem date_of_lt {a b : Instant} (h : a < b) : a.date.Before b.date ∨
    a.date = b.date ∧ a.micros / microsPerDay = b.micros / microsPerDay := by
  have hle : a.micros / microsPerDay ≤ b.micros / microsPerDay :=
    Nat.div_le_div_right (Nat.le_of_lt h)
  rcases Nat.lt_or_eq_of_le hle with hlt | heq
  · exact .inl (Date.before_of_lt b.day_lt hlt)
  · exact .inr ⟨congrArg Date.ofDay heq, heq⟩

end Courier.Instant

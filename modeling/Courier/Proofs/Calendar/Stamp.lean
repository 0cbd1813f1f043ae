import Courier.Calendar.Stamp
import Courier.Failure
import Courier.Proofs.Calendar.Day
import Courier.Proofs.Text.Decimal
import Courier.Proofs.Text.Cut

/-!
# Stamps of fixed width

From year 1000 on the year of a stamp has four digits. Such a stamp is read back as the instant it
was written for (`Stamp.read_writeMicros`), or as the start of the second if it was written to the
second (`Stamp.read_write`), and such stamps sort as their instants do (`Stamp.writeMicros_lt_iff`,
`Stamp.writeMicros_le_iff`). A stamp of an earlier year is never read back at all
(`Stamp.read_of_lt`), and comes after stamps of later years whose first digits are smaller
(`Stamp.writeMicros_lt_iff_of_lt`).

So the stamps of what clocks show tell the instants apart and put them in order, and none of them is
read back as another instant (`Stamp.stamps_reread`).
-/

namespace Courier.Stamp

open Courier.Text Courier.Date

/-! ## The characters of a stamp -/

/-- The digits of a number of at least the given width. -/
abbrev digits (width n : Nat) : List Char := (padded width n).toList

/-- The characters of a stamp, with those from the seconds on given. -/
def upToMinute (a : Instant) (tail : List Char) : List Char :=
  digits 1 a.date.year ++ '-' :: (digits 2 a.date.month ++ '-' :: (digits 2 a.date.day ++ 'T' ::
    (digits 2 a.hour ++ ':' :: (digits 2 a.minute ++ ':' :: tail))))

/-- The characters of a stamp to the second, without its closing mark. -/
def wholeChars (a : Instant) : List Char := upToMinute a (digits 2 a.second)

/-- The characters of a stamp to the microsecond, without its closing mark. -/
def bareChars (a : Instant) : List Char :=
  digits 1 a.date.year ++ '-' :: (digits 2 a.date.month ++ '-' :: (digits 2 a.date.day ++ 'T' ::
    (digits 2 a.hour ++ ':' :: (digits 2 a.minute ++ ':' :: (digits 2 a.second ++ '.' ::
      digits 6 a.microsecond)))))

theorem bareChars_eq (a : Instant) :
    bareChars a = upToMinute a (digits 2 a.second ++ '.' :: digits 6 a.microsecond) := rfl

theorem upToMinute_append (a : Instant) (tail more : List Char) :
    upToMinute a tail ++ more = upToMinute a (tail ++ more) := by
  simp only [upToMinute, List.append_assoc, List.cons_append]

theorem toList_body (a : Instant) : (body a).toList = wholeChars a := by
  have parts : ∀ year month day hour minute second : Nat,
      (padded 1 year ++ "-" ++ padded 2 month ++ "-" ++ padded 2 day ++ "T" ++
        (padded 2 hour ++ ":" ++ padded 2 minute ++ ":" ++ padded 2 second)).toList =
      digits 1 year ++ '-' :: (digits 2 month ++ '-' :: (digits 2 day ++ 'T' ::
        (digits 2 hour ++ ':' :: (digits 2 minute ++ ':' :: digits 2 second)))) := by
    intros
    simp
  rw [body, Instant.clockText, wholeChars, upToMinute]
  exact parts ..

theorem toList_write (a : Instant) : (write a).toList = wholeChars a ++ ['Z'] := by
  rw [write, String.toList_append, toList_body]
  rfl

theorem toList_writeMicros (a : Instant) : (writeMicros a).toList = bareChars a ++ ['Z'] := by
  have fraction : bareChars a = wholeChars a ++ '.' :: digits 6 a.microsecond := by
    rw [wholeChars, upToMinute_append, bareChars_eq]
  rw [fraction, writeMicros, String.toList_append, String.toList_append, String.toList_append,
    toList_body, List.append_assoc (wholeChars a)]
  rfl

/-- Whether a character may stand in a stamp before its closing mark. -/
def IsInner (c : Char) : Prop := c.isDigit ∨ c = '-' ∨ c = 'T' ∨ c = ':' ∨ c = '.'

theorem isInner_of_mem_digits {width n : Nat} {c : Char} (h : c ∈ digits width n) : IsInner c :=
  .inl (isDigit_of_mem_padded h)

/-- Digits, a mark and what follows it may stand in a stamp if the mark and what follows it may. -/
theorem isInner_of_mem_field {width n : Nat} {mark : Char} {rest : List Char}
    (hmark : IsInner mark) (h : ∀ c ∈ rest, IsInner c) :
    ∀ c ∈ digits width n ++ mark :: rest, IsInner c :=
  List.forall_mem_append.mpr ⟨fun _ => isInner_of_mem_digits, List.forall_mem_cons.mpr ⟨hmark, h⟩⟩

theorem isInner_of_mem_upToMinute {a : Instant} {tail : List Char} (h : ∀ c ∈ tail, IsInner c) :
    ∀ c ∈ upToMinute a tail, IsInner c := by
  have dash : IsInner '-' := by simp [IsInner]
  have letter : IsInner 'T' := by simp [IsInner]
  have colon : IsInner ':' := by simp [IsInner]
  have clock : ∀ c ∈ digits 2 a.hour ++ ':' :: (digits 2 a.minute ++ ':' :: tail), IsInner c :=
    isInner_of_mem_field colon (isInner_of_mem_field colon h)
  exact isInner_of_mem_field dash (isInner_of_mem_field dash (isInner_of_mem_field letter clock))

theorem isInner_of_mem_wholeChars {a : Instant} : ∀ c ∈ wholeChars a, IsInner c :=
  isInner_of_mem_upToMinute fun _ => isInner_of_mem_digits

theorem isInner_of_mem_bareChars {a : Instant} : ∀ c ∈ bareChars a, IsInner c := by
  have point : IsInner '.' := by simp [IsInner]
  rw [bareChars_eq]
  exact isInner_of_mem_upToMinute (isInner_of_mem_field point fun _ => isInner_of_mem_digits)

theorem isBlank_of_isDigit {c : Char} (h : c.isDigit) : isBlank c = false := by
  have := toNat_bounds h
  simp only [isBlank, Bool.or_eq_false_iff, Bool.and_eq_false_iff, decide_eq_false_iff_not,
    beq_eq_false_iff_ne]
  omega

theorem IsInner.isBlank {c : Char} (h : IsInner c) : isBlank c = false := by
  rcases h with digit | rfl | rfl | rfl | rfl
  · exact isBlank_of_isDigit digit
  all_goals decide

theorem IsInner.ne_closing {c : Char} (h : IsInner c) : (c == 'Z') = false := by
  rw [beq_eq_false_iff_ne]
  rintro rfl
  simp [IsInner] at h

/-- What is left of a stamp without its closing mark. -/
theorem bare_closed {s : String} {cs : List Char} (hs : s.toList = cs ++ ['Z'])
    (inner : ∀ c ∈ cs, IsInner c) :
    ((trim s).toList.reverse.dropWhile (· == 'Z')).reverse = cs := by
  have solid : ∀ c ∈ s.toList, isBlank c = false := by
    intro c hc
    rw [hs, List.mem_append, List.mem_singleton] at hc
    rcases hc with hc | rfl
    · exact (inner c hc).isBlank
    · decide
  have whole : trim s = s := trim_eq_self (fun c hc => solid c (List.mem_of_mem_head? hc))
    fun c hc => solid c (List.mem_of_getLast? hc)
  have kept : cs.reverse.dropWhile (· == 'Z') = cs.reverse := by
    cases hcs : cs.reverse with
    | nil => rfl
    | cons c rest =>
      have member : c ∈ cs := List.mem_reverse.mp (hcs ▸ List.mem_cons_self)
      rw [List.dropWhile_cons, (inner c member).ne_closing, if_neg Bool.false_ne_true]
  rw [whole, hs, List.reverse_append, List.reverse_singleton, List.singleton_append,
    List.dropWhile_cons, beq_self_eq_true, if_pos rfl, kept, List.reverse_reverse]

theorem digits_ne_nil (width n : Nat) : digits width n ≠ [] := by
  intro h
  have := @Nat.length_toDigits_pos 10 n
  rw [digits, toList_padded, List.append_eq_nil_iff] at h
  simp [h.2] at this

/-! ## Reading -/

theorem upTo?_append {isMark : Char → Bool} {run rest : List Char} {mark : Char}
    (hrun : ∀ c ∈ run, isMark c = false) (hm : isMark mark = true) :
    upTo? isMark (run ++ mark :: rest) = some (run, rest) := by
  induction run with
  | nil => simp [upTo?, hm]
  | cons c run ih =>
    have := ih fun d hd => hrun d (List.mem_cons_of_mem c hd)
    simp [upTo?, hrun c List.mem_cons_self, this]

/-- No digit is a mark that ends a run of digits. -/
theorem upTo?_digits {isMark : Char → Bool} {width n : Nat} {rest : List Char} {mark : Char}
    (hd : ∀ c : Char, c.isDigit → isMark c = false) (hm : isMark mark = true) :
    upTo? isMark (digits width n ++ mark :: rest) = some (digits width n, rest) :=
  upTo?_append (fun c hc => hd c (isDigit_of_mem_padded hc)) hm

theorem ne_of_isDigit {c mark : Char} (hm : mark.isDigit = false) (h : c.isDigit) :
    (c == mark) = false := by
  rw [beq_eq_false_iff_ne]
  rintro rfl
  simp [h] at hm

/-- No digit begins the time of day. -/
theorem ne_t_of_isDigit {c : Char} (h : c.isDigit) : (c == 'T' || c == 't') = false := by
  have upper : (c == 'T') = false := ne_of_isDigit rfl h
  have lower : (c == 't') = false := ne_of_isDigit rfl h
  rw [upper, lower, Bool.or_false]

theorem isDigit_digitChar {n : Nat} (h : n < 10) : (Nat.digitChar n).isDigit = true := by
  have all : ∀ m < 10, (Nat.digitChar m).isDigit = true := by decide
  exact all n h

theorem toNat_digitChar {n : Nat} (h : n < 10) : (Nat.digitChar n).toNat - 48 = n := by
  have all : ∀ m < 10, (Nat.digitChar m).toNat - 48 = m := by decide
  exact all n h

theorem field?_digits {greatest n : Nat} (hn : n < 100) (h : n ≤ greatest) :
    field? greatest (digits 2 n) = some n := by
  have high : n / 10 < 10 := by omega
  have low : n % 10 < 10 := by omega
  have value : 10 * (n / 10) + n % 10 = n := by omega
  simp [field?, toList_padded_two hn, isDigit_digitChar high, toNat_digitChar high,
    digitValue?_eq_some_of_isDigit (isDigit_digitChar low), toNat_digitChar low, value, h]

theorem positiveField?_digits {greatest n : Nat} (hn : n < 100) (h : n ≤ greatest) (hp : n ≠ 0) :
    positiveField? greatest (digits 2 n) = some n := by
  have all : (digits 2 n).all Char.isDigit = true :=
    List.all_eq_true.mpr fun c hc => isDigit_of_mem_padded hc
  simp [positiveField?, all, field?_digits hn h, hp]

theorem day?_digits {n : Nat} (hp : n ≠ 0) (h : n ≤ 31) : day? (digits 2 n) = some n := by
  have one : ∀ m < 32, m ≠ 0 → day? (digits 2 m) = some m := by decide
  exact one n (by omega) hp

theorem hour?_digits {n : Nat} (h : n < 24) : hour? (digits 2 n) = some n := by
  have one : ∀ m < 24, hour? (digits 2 m) = some m := by decide
  exact one n h

theorem secondRun?_digits {n : Nat} (h : n < 60) : secondRun? (digits 2 n) = some (n, []) := by
  have one : ∀ m < 60, secondRun? (digits 2 m) = some (m, []) := by decide
  exact one n h

theorem isDigit_of_mem_digits {width n : Nat} : ∀ c ∈ digits width n, isDigit c = true := by
  intro c hc
  simp [isDigit, digitValue?_eq_some_of_isDigit (isDigit_of_mem_padded hc)]

theorem length_year (n : Nat) : (digits 1 n).length = 4 ↔ 1000 ≤ n ∧ n ≤ 9999 := by
  have upper := @Nat.length_toDigits_le_iff 10 n 4 (by decide) (by decide)
  have lower := @Nat.length_toDigits_le_iff 10 n 3 (by decide) (by decide)
  rw [length_padded_one]
  omega

theorem year?_digits {n : Nat} (h : 1000 ≤ n) (h' : n ≤ 9999) : year? (digits 1 n) = some n := by
  have hl := (length_year n).mpr ⟨h, h'⟩
  have all : (digits 1 n).all isDigit = true := List.all_eq_true.mpr isDigit_of_mem_digits
  simp [year?, hl, all, digitsValue_padded]

theorem year?_digits_of_lt {n : Nat} (h : n < 1000) : year? (digits 1 n) = none := by
  have hl : (digits 1 n).length ≠ 4 := fun e => by
    have := (length_year n).mp e
    omega
  simp [year?, hl]

/-! ## Stamps that are read back -/

/-- The first half of a stamp, up to the seconds, is taken apart at its marks. -/
theorem head?_upToMinute (a : Instant) (tail : List Char) : head? (upToMinute a tail) =
    (year? (digits 1 a.date.year)).bind fun year =>
      (positiveField? 12 (digits 2 a.date.month)).bind fun month =>
        (day? (digits 2 a.date.day)).bind fun day =>
          (hour? (digits 2 a.hour)).bind fun hour =>
            (field? 59 (digits 2 a.minute)).bind fun minute =>
              some ((year, month, day), hour, minute, tail) := by
  simp only [head?, upToMinute, bind, Option.bind]
  rw [upTo?_digits (fun c => ne_of_isDigit rfl) rfl]
  simp only
  rw [upTo?_digits (fun c => ne_of_isDigit rfl) rfl]
  simp only
  rw [upTo?_digits (fun c => ne_t_of_isDigit) rfl]
  simp only
  rw [upTo?_digits (fun c => ne_of_isDigit rfl) rfl]
  simp only
  rw [upTo?_digits (fun c => ne_of_isDigit rfl) rfl]

theorem head?_of_le {a : Instant} (h : 1000 ≤ a.date.year) (tail : List Char) :
    head? (upToMinute a tail) =
      some ((a.date.year, a.date.month, a.date.day), a.hour, a.minute, tail) := by
  obtain ⟨-, hy, hm, hm', hd, hd'⟩ := a.valid_date
  have year := year?_digits h hy
  have month : positiveField? 12 (digits 2 a.date.month) = some a.date.month :=
    positiveField?_digits (by omega) hm' (by omega)
  have day : day? (digits 2 a.date.day) = some a.date.day :=
    day?_digits (by omega) (Nat.le_trans hd' (monthLength_le _ _))
  have minute : field? 59 (digits 2 a.minute) = some a.minute := by
    have := a.minute_lt
    exact field?_digits (by omega) (by omega)
  rw [head?_upToMinute, year, month, day, hour?_digits a.hour_lt, minute]
  rfl

theorem head?_of_lt {a : Instant} (h : a.date.year < 1000) (tail : List Char) :
    head? (upToMinute a tail) = none := by
  rw [head?_upToMinute, year?_digits_of_lt h]
  rfl

theorem assemble_parts (a : Instant) : assemble (a.date.year, a.date.month, a.date.day) a.hour
    a.minute a.second a.microsecond = .ok a := by
  have parts : ∀ {d : Date} {hour minute second micro : Nat}, d.Valid →
      Instant.ofParts? d hour minute second micro = some a →
        assemble (d.year, d.month, d.day) hour minute second micro = .ok a := by
    rintro d hour minute second micro ⟨hy, -, -, -, -, hd⟩ hparts
    have hy' : d.year ≠ 0 := by omega
    have hd' : ¬monthLength d.year d.month < d.day := by omega
    simp [assemble, hy', hd', hparts]
  exact parts a.valid_date a.ofParts?_parts

/-- A stamp of a year from 1000 on is read back. -/
theorem read_writeMicros {a : Instant} (h : 1000 ≤ a.date.year) : read (writeMicros a) = .ok a := by
  have full : (digits 6 a.microsecond).length = 6 := length_padded (by decide) a.microsecond_lt
  have all : (digits 6 a.microsecond).all Char.isDigit = true :=
    List.all_eq_true.mpr fun c hc => isDigit_of_mem_padded hc
  have some : readFraction? (String.ofList (bareChars a)) = some a := by
    simp only [readFraction?, String.toList_ofList, bareChars_eq, head?_of_le h, bind,
      Option.bind]
    rw [upTo?_digits (fun c => ne_of_isDigit rfl) rfl]
    simp only [secondRun?_digits a.second_lt]
    rw [if_neg (by simp [full, all, List.isEmpty_iff, digits_ne_nil, -String.toList_eq_nil_iff]),
      List.take_append_of_le_length (by omega), List.take_of_length_le (by omega),
      digitsValue_padded, assemble_parts]
    rfl
  simp only [read, bare_closed (toList_writeMicros a) isInner_of_mem_bareChars, some]

/-- A stamp of a year from 1000 on, to the second, is read back as the start of the second. -/
theorem read_write {a : Instant} (h : 1000 ≤ a.date.year) : read (write a) = .ok a.wholeSecond := by
  have unmarked : ∀ cs : List Char, (∀ c ∈ cs, c.isDigit) → upTo? (· == '.') cs = none := by
    intro cs hcs
    induction cs with
    | nil => rfl
    | cons c cs ih =>
      have hc : (c == '.') = false := ne_of_isDigit rfl (hcs c List.mem_cons_self)
      simp [upTo?, hc, ih fun d hd => hcs d (List.mem_cons_of_mem c hd)]
  have none : readFraction? (String.ofList (wholeChars a)) = none := by
    simp only [readFraction?, String.toList_ofList, wholeChars, head?_of_le h, bind, Option.bind]
    rw [unmarked _ fun c hc => isDigit_of_mem_padded hc]
  have some : readSeconds (String.ofList (wholeChars a)) = .ok a.wholeSecond := by
    have parts := assemble_parts a.wholeSecond
    rw [a.date_wholeSecond, a.hour_wholeSecond, a.minute_wholeSecond, a.second_wholeSecond,
      a.microsecond_wholeSecond] at parts
    simp only [readSeconds, String.toList_ofList, wholeChars, head?_of_le h,
      secondRun?_digits a.second_lt, parts]
  simp only [read, bare_closed (toList_write a) isInner_of_mem_wholeChars, none, some]

/-- A stamp of a year before 1000 is never read back. -/
theorem read_of_lt {a : Instant} (h : a.date.year < 1000) {s : String} {tail : List Char}
    (hs : s.toList = upToMinute a tail ++ ['Z']) (inner : ∀ c ∈ upToMinute a tail, IsInner c) :
    read s = .error (.unlikeStamp (String.ofList (upToMinute a tail))) := by
  simp [read, bare_closed hs inner, readFraction?, readSeconds, head?_of_lt h]

theorem read_writeMicros_of_lt {a : Instant} (h : a.date.year < 1000) :
    read (writeMicros a) = .error (.unlikeStamp (String.ofList (bareChars a))) :=
  read_of_lt h (toList_writeMicros a) isInner_of_mem_bareChars

theorem read_write_of_lt {a : Instant} (h : a.date.year < 1000) :
    read (write a) = .error (.unlikeStamp (String.ofList (wholeChars a))) :=
  read_of_lt h (toList_write a) isInner_of_mem_wholeChars

/-! ## The order of stamps -/

theorem append_lt_append {cs ds rest more : List Char} (hl : cs.length = ds.length)
    (h : cs < ds) : cs ++ rest < ds ++ more := by
  induction cs generalizing ds with
  | nil =>
    obtain rfl := List.length_eq_zero_iff.mp hl.symm
    simp at h
  | cons c cs ih =>
    cases ds with
    | nil => simp at hl
    | cons d ds =>
      rw [List.cons_lt_cons_iff] at h
      rw [List.cons_append, List.cons_append, List.cons_lt_cons_iff]
      exact h.imp_right fun hcd => ⟨hcd.1, ih (by simpa using hl) hcd.2⟩

/-- A smaller number in a field decides, whatever follows. -/
theorem digits_lt {width m n : Nat} {rest more : List Char} (hw : 0 < width)
    (hm : m < 10 ^ width) (hn : n < 10 ^ width) (h : m < n) :
    digits width m ++ rest < digits width n ++ more := by
  have hl : (digits width m).length = (digits width n).length := by
    rw [digits, digits, length_padded hw hm, length_padded hw hn]
  exact append_lt_append hl (padded_lt hl h)

theorem two_digits_lt {m n : Nat} {rest more : List Char} (hm : m < 100) (hn : n < 100)
    (h : m < n) : digits 2 m ++ rest < digits 2 n ++ more :=
  digits_lt (by decide) hm hn h

/-- Equal fields leave the decision to what follows. -/
theorem append_cons_lt {cs rest more : List Char} {mark : Char} (h : rest < more) :
    cs ++ mark :: rest < cs ++ mark :: more :=
  List.append_left_lt (List.cons_lt_cons_iff.mpr (.inr ⟨rfl, h⟩))

theorem writeMicros_lt_of_lt {a b : Instant} (ha : 1000 ≤ a.date.year) (h : a < b) :
    writeMicros a < writeMicros b := by
  obtain ⟨-, hya, -, hma, -, hda⟩ := a.valid_date
  obtain ⟨-, hyb, -, hmb, -, hdb⟩ := b.valid_date
  have := monthLength_le a.date.year a.date.month
  have := monthLength_le b.date.year b.date.month
  have hb := Nat.le_trans ha (Instant.year_mono (Nat.le_of_lt h))
  have hour := And.intro a.hour_lt b.hour_lt
  have minute := And.intro a.minute_lt b.minute_lt
  have second := And.intro a.second_lt b.second_lt
  rw [String.lt_iff, toList_writeMicros, toList_writeMicros]
  simp only [bareChars, List.append_assoc, List.cons_append]
  rcases Instant.date_of_lt h with (hy | ⟨hy, hm | ⟨hm, hd⟩⟩) | ⟨hdate, hday⟩
  · have hl : (digits 1 a.date.year).length = (digits 1 b.date.year).length := by
      rw [(length_year _).mpr ⟨ha, hya⟩, (length_year _).mpr ⟨hb, hyb⟩]
    exact append_lt_append hl (padded_lt hl hy)
  · rw [hy]
    exact append_cons_lt (two_digits_lt (by omega) (by omega) hm)
  · rw [hy, hm]
    exact append_cons_lt (append_cons_lt (two_digits_lt (by omega) (by omega) hd))
  · rw [hdate]
    refine append_cons_lt (append_cons_lt (append_cons_lt ?_))
    rcases Instant.clock_of_lt hday h with hh | ⟨hh, hi | ⟨hi, hs | ⟨hs, hu⟩⟩⟩
    · exact two_digits_lt (by omega) (by omega) hh
    · rw [hh]
      exact append_cons_lt (two_digits_lt (by omega) (by omega) hi)
    · rw [hh, hi]
      exact append_cons_lt (append_cons_lt (two_digits_lt (by omega) (by omega) hs))
    · rw [hh, hi, hs]
      exact append_cons_lt (append_cons_lt (append_cons_lt
        (digits_lt (by decide) a.microsecond_lt b.microsecond_lt hu)))

/-- From year 1000 on stamps sort as their instants do. -/
theorem writeMicros_lt_iff {a b : Instant} (ha : 1000 ≤ a.date.year) (hb : 1000 ≤ b.date.year) :
    writeMicros a < writeMicros b ↔ a < b := by
  refine ⟨fun h => ?_, writeMicros_lt_of_lt ha⟩
  rcases Nat.lt_trichotomy a.micros b.micros with hlt | heq | hgt
  · exact hlt
  · rw [Instant.ext_micros heq] at h
    exact absurd h (String.lt_irrefl _)
  · exact absurd (writeMicros_lt_of_lt hb hgt) (String.lt_asymm h)

theorem writeMicros_le_iff {a b : Instant} (ha : 1000 ≤ a.date.year) (hb : 1000 ≤ b.date.year) :
    writeMicros a ≤ writeMicros b ↔ a ≤ b := by
  rw [← String.not_lt, writeMicros_lt_iff hb ha, Instant.lt_iff, Instant.le_iff, Nat.not_lt]

/-! ## Stamps of unlike width -/

/-- The year of a stamp, cut off to as many digits as the year of another has. -/
def leadingYear (a b : Instant) : Nat := leading (digits 1 b.date.year).length a.date.year

/-- A year of four digits begins with as many digits as a shorter year has, and more follow. -/
theorem digits_leadingYear {a b : Instant} (ha : 1000 ≤ a.date.year) (hb : b.date.year < 1000) :
    ∃ c rest, digits 1 a.date.year = digits 1 (leadingYear a b) ++ c :: rest ∧
      (digits 1 (leadingYear a b)).length = (digits 1 b.date.year).length ∧ c.isDigit := by
  have four := (length_year a.date.year).mpr ⟨ha, a.valid_date.2.1⟩
  have short : (digits 1 b.date.year).length < 4 := by
    have := (Nat.length_toDigits_le_iff (by decide) (by decide)).mpr
      (show b.date.year < 10 ^ 3 from hb)
    rw [length_padded_one]
    omega
  have some : 0 < (digits 1 b.date.year).length := List.length_pos_iff.mpr (digits_ne_nil _ _)
  have long : (digits 1 b.date.year).length < (Nat.toDigits 10 a.date.year).length := by
    rw [← length_padded_one, four]
    exact short
  obtain ⟨c, rest, happend, hlength⟩ := toDigits_leading some long
  rw [← toList_padded_one, ← toList_padded_one] at happend
  have member : c ∈ digits 1 a.date.year := by
    rw [digits, happend]
    exact List.mem_append_right _ List.mem_cons_self
  exact ⟨c, rest, happend, by rw [leadingYear, length_padded_one, hlength],
    isDigit_of_mem_padded member⟩

/-- Where one number goes on with a digit and the other is followed by a mark, the numbers decide:
the mark comes before every digit. -/
theorem digits_append_lt_iff {m n : Nat} {c : Char} {rest more : List Char} (digit : c.isDigit)
    (hl : (digits 1 m).length = (digits 1 n).length) :
    digits 1 m ++ c :: rest < digits 1 n ++ '-' :: more ↔ m < n := by
  have mark : '-' < c := by
    have := toNat_bounds digit
    rw [Char.lt_def, UInt32.lt_iff_toNat_lt]
    exact Nat.lt_of_lt_of_le (by decide) this.1
  refine ⟨fun h => ?_, fun h => append_lt_append hl (padded_lt hl h)⟩
  by_contra hle
  refine absurd h (List.lt_asymm ?_)
  rcases Nat.lt_or_eq_of_le (Nat.not_lt.mp hle) with hlt | rfl
  · exact append_lt_append hl.symm (padded_lt hl.symm hlt)
  · exact List.append_left_lt (List.cons_lt_cons_iff.mpr (.inl mark))

/-- A stamp begins with its year, and no zeros before it. -/
theorem exists_eq_year_append (a : Instant) {s : String} (h : s = write a ∨ s = writeMicros a) :
    ∃ rest, s.toList = digits 1 a.date.year ++ '-' :: rest := by
  rcases h with rfl | rfl
  · rw [toList_write, wholeChars, upToMinute_append]
    exact ⟨_, rfl⟩
  · rw [toList_writeMicros, bareChars_eq, upToMinute_append]
    exact ⟨_, rfl⟩

/-- Between a stamp with a year of four digits and one with a shorter year, the first digits of the
longer year decide. -/
theorem writeMicros_lt_iff_of_lt {a b : Instant} (ha : 1000 ≤ a.date.year)
    (hb : b.date.year < 1000) : writeMicros a < writeMicros b ↔ leadingYear a b < b.date.year := by
  obtain ⟨c, rest, hyear, hlength, digit⟩ := digits_leadingYear ha hb
  obtain ⟨more, hmore⟩ := exists_eq_year_append a (.inr rfl)
  obtain ⟨more', hmore'⟩ := exists_eq_year_append b (.inr rfl)
  rw [String.lt_iff, hmore, hmore', hyear, List.append_assoc, List.cons_append]
  exact digits_append_lt_iff digit hlength

/-! ## Stamps of readings -/

/-- What a reader is told of a stamp that cannot be read is that its form is wrong. -/
def IsRefused (s : String) : Prop :=
  ∃ fault, read s = .error fault ∧ (Failure.unreadableStamp fault).label = "ValueError"

theorem ofReading?_of_toInstant? {r : Reading} {a : Instant} (h : r.toInstant? = some a) :
    ofReading? true r = some (writeMicros a) ∧ ofReading? false r = some (write a) := by
  simp [ofReading?, h]

/-- Stamps are read back, and put the instants that clocks show in order, from year 1000 on. A stamp
of an earlier year has a shorter year and is refused. -/
theorem stamps_reread {r q : Reading} {a b : Instant} (hr : r.toInstant? = some a)
    (hq : q.toInstant? = some b) :
    ∃ s t second, ofReading? true r = some s ∧ ofReading? true q = some t ∧
      ofReading? false r = some second ∧
      (1000 ≤ a.date.year → read s = .ok a ∧ read second = .ok a.wholeSecond) ∧
      (1000 ≤ a.date.year → 1000 ≤ b.date.year → (s < t ↔ a < b) ∧ (s = t ↔ a = b)) ∧
      (a.date.year < 1000 → ∀ stamp ∈ [s, second], IsRefused stamp ∧
        ∃ rest, stamp.toList = Nat.toDigits 10 a.date.year ++ '-' :: rest) := by
  obtain ⟨micros, second⟩ := ofReading?_of_toInstant? hr
  refine ⟨_, _, _, micros, (ofReading?_of_toInstant? hq).1, second,
    fun ha => ⟨read_writeMicros ha, read_write ha⟩, fun ha hb => ⟨writeMicros_lt_iff ha hb, ?_⟩,
    fun ha stamp hs => ?_⟩
  · refine ⟨fun h => ?_, congrArg writeMicros⟩
    have back := read_writeMicros ha
    rw [h, read_writeMicros hb] at back
    exact (Except.ok.inj back).symm
  · have either : stamp = write a ∨ stamp = writeMicros a := by
      simpa [or_comm] using hs
    obtain ⟨rest, hrest⟩ := exists_eq_year_append a either
    refine ⟨?_, rest, by rw [hrest, digits, toList_padded_one]⟩
    rcases either with rfl | rfl
    · exact ⟨_, read_write_of_lt ha, rfl⟩
    · exact ⟨_, read_writeMicros_of_lt ha, rfl⟩

/-- Half a second before the end of a year on a clock five and a half hours ahead, the same moment
of universal time half a second later, and the last instant of year 999. -/
theorem stamps_reread_at_year_ends :
    ∃ r q early : Reading, ∃ a b c : Instant, r.toInstant? = some a ∧ q.toInstant? = some b ∧
      early.toInstant? = some c ∧ 1000 ≤ a.date.year ∧ 1000 ≤ b.date.year ∧ c.date.year < 1000 ∧
      ∃ s t second, ofReading? true r = some s ∧ ofReading? true q = some t ∧
        ofReading? false r = some second ∧ read s = .ok a ∧ read second = .ok a.wholeSecond ∧
        s < t ∧ ∃ stamp, ofReading? true early = some stamp ∧ IsRefused stamp := by
  let a : Instant := ⟨63902802599500000, by decide⟩
  let b : Instant := ⟨63902802600000000, by decide⟩
  let c : Instant := ⟨31525372799999999, by decide⟩
  let r : Reading := ⟨⟨63902822399500000, by decide⟩, some 19800000000⟩
  have hr : r.toInstant? = some a := by decide
  have hq : (Reading.ofInstant b).toInstant? = some b := Reading.toInstant?_ofInstant b
  have hc : (⟨c, none⟩ : Reading).toInstant? = some c := Reading.toInstant?_naive c
  have ha : 1000 ≤ a.date.year := by decide
  have hb : 1000 ≤ b.date.year := by decide
  have early : c.date.year < 1000 := by decide
  obtain ⟨s, t, second, hs, ht, hsecond, back, order, -⟩ := stamps_reread hr hq
  obtain ⟨stamp, _, _, hstamp, -, -, -, -, refused⟩ := stamps_reread hc hq
  exact ⟨r, .ofInstant b, ⟨c, none⟩, a, b, c, hr, hq, hc, ha, hb, early, s, t, second, hs, ht,
    hsecond, (back ha).1, (back ha).2, (order ha hb).1.mpr (by decide), stamp, hstamp,
    (refused early stamp (by simp)).1⟩

end Courier.Stamp

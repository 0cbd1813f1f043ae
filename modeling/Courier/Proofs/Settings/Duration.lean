import Courier.Proofs.Text.Decimal
import Courier.Settings.Duration
import Mathlib.Data.List.Basic
import Mathlib.Data.List.TakeWhile
import Mathlib.Data.Nat.Digits.Defs

/-!
# What durations are made of

A duration names amounts of days, hours, minutes and seconds (`Amounts`), of which any may be left
out. There are two ways to spell it in a text without blanks and capitals (`Amounts.Spells`): the
amounts with their units one after the other, or after a `p`, with a `t` before what is less than a
day. A spelling is read as the amounts that it spells (`parts?_of_spells`), and nothing else is read
at all (`exists_spells_of_parts?`).

Main statement: a text of ASCII characters is read as so many seconds exactly if it spells amounts
that come to them, which are not zero; the two ways to spell are read alike; and every number of
seconds has a duration that is read as it (`seconds_eq_ok_iff_spells`).
-/

namespace Courier.Duration

open Courier.Text

/-! ## Spelling -/

/-- A run of decimal digits. -/
structure Numeral where
  digits : List Char
  ne_nil : digits ≠ []
  isDigit : ∀ c ∈ digits, c.isDigit = true

namespace Numeral

/-- The number that a numeral writes. -/
def value (n : Numeral) : ℕ :=
  Nat.ofDigits 10 (n.digits.reverse.map fun c => c.toNat - '0'.toNat)

/-- The numeral of a number, without leading zeros. -/
def ofNat (n : ℕ) : Numeral where
  digits := Nat.toDigits 10 n
  ne_nil := Nat.toDigits_ne_nil
  isDigit _ := Nat.isDigit_of_mem_toDigits (by decide) (by decide)

end Numeral

/-- The digits of an amount, none if it is left out. -/
def digitsOf : Option Numeral → List Char
  | none => []
  | some n => n.digits

/-- The number that an amount stands for. -/
def numberOf : Option Numeral → ℕ
  | none => 0
  | some n => n.value

/-- An amount with its unit, or nothing if it is left out. -/
def part (unit : Char) : Option Numeral → List Char
  | none => []
  | some n => n.digits ++ [unit]

/-- Amounts with their units, one after the other. -/
def written (parts : List (Char × Option Numeral)) : List Char :=
  parts.flatMap fun p => part p.1 p.2

/-- The amounts of a duration. -/
structure Amounts where
  days : Option Numeral
  hours : Option Numeral
  minutes : Option Numeral
  seconds : Option Numeral

namespace Amounts

/-- The amounts below a day with their units. -/
def times (a : Amounts) : List (Char × Option Numeral) :=
  [('h', a.hours), ('m', a.minutes), ('s', a.seconds)]

/-- The spelling in which every amount has its unit behind it. -/
def suffixed (a : Amounts) : List Char := written (('d', a.days) :: a.times)

/-- The spellings that begin with a `p`, for text without capitals. -/
inductive Designates (a : Amounts) : List Char → Prop
  | days (hours : a.hours = none) (minutes : a.minutes = none) (seconds : a.seconds = none) :
    Designates a ('p' :: part 'd' a.days)
  | times : Designates a ('p' :: (part 'd' a.days ++ 't' :: written a.times))

/-- Whether a text without blanks and capitals spells the amounts. -/
def Spells (a : Amounts) (t : List Char) : Prop := t = a.suffixed ∨ a.Designates t

/-- The seconds that the amounts come to. -/
def total (a : Amounts) : ℕ :=
  86400 * numberOf a.days + 3600 * numberOf a.hours + 60 * numberOf a.minutes + numberOf a.seconds

/-- The digits of the amounts, from days to seconds. -/
def digits (a : Amounts) : List (List Char) :=
  [digitsOf a.days, digitsOf a.hours, digitsOf a.minutes, digitsOf a.seconds]

end Amounts

/-! ## Texts -/

/-- The blanks among the ASCII characters: line ends, tabs, the space and four separators. -/
def asciiBlanks : List Char :=
  ['\t', '\n', '\x0b', '\x0c', '\r', '\x1c', '\x1d', '\x1e', '\x1f', ' ']

/-- A text without blanks and capitals, for ASCII characters. -/
def bare (s : String) : List Char :=
  (s.toList.filter fun c => !asciiBlanks.contains c).map Char.toLower

/-- Whether a text has ASCII characters only. -/
def IsAscii (s : String) : Prop := ∀ c ∈ s.toList, c.toNat < 128

theorem isBlank_eq_of_ascii {c : Char} (h : c.toNat < 128) :
    isBlank c = asciiBlanks.contains c :=
  of_ascii (p := fun c => isBlank c = asciiBlanks.contains c) (by decide) h

theorem toLower_ascii {c : Char} (h : c.toNat < 128) : c.toLower.toNat < 128 :=
  of_ascii (p := fun c => c.toLower.toNat < 128) (by decide) h

variable {s : String}

theorem normal_eq_bare (ascii : IsAscii s) : normal s = bare s := by
  unfold normal bare withoutBlanks
  rw [List.filter_congr fun c hc => by rw [isBlank_eq_of_ascii (ascii c hc)]]

theorem ascii_of_mem_bare (ascii : IsAscii s) {c : Char} (h : c ∈ bare s) : c.toNat < 128 := by
  obtain ⟨d, hd, rfl⟩ := List.mem_map.mp h
  exact toLower_ascii (ascii d (List.mem_filter.mp hd).1)

/-! ## Reading one amount -/

/-- What follows the digits that a text begins with does not begin with a digit. -/
theorem not_isDigit_of_head?_dropWhile {cs : List Char} {c : Char}
    (h : (cs.dropWhile isDigit).head? = some c) : isDigit c = false := by
  have := List.head?_dropWhile_not isDigit cs
  rw [h] at this
  exact this

theorem dropWhile_digits {ds : List Char} (digits : ∀ c ∈ ds, isDigit c = true)
    {unit : Char} (letter : isDigit unit = false) (rest : List Char) :
    (ds ++ unit :: rest).dropWhile isDigit = unit :: rest := by
  rw [List.dropWhile_append_of_pos digits, List.dropWhile_cons_of_neg (by simp [letter])]

/-- An amount is there if the digits that a text begins with have the unit behind them. -/
theorem component_digits {ds : List Char} (ne : ds ≠ []) (digits : ∀ c ∈ ds, isDigit c = true)
    {unit : Char} (letter : isDigit unit = false) (rest : List Char) :
    component unit (ds ++ unit :: rest) = (ds, rest) := by
  have taken : (ds ++ unit :: rest).takeWhile isDigit = ds := by
    rw [List.takeWhile_append_of_pos digits, List.takeWhile_cons_of_neg (by simp [letter]),
      List.append_nil]
  obtain ⟨d, ds', rfl⟩ := List.exists_cons_of_ne_nil ne
  simp only [component, taken, dropWhile_digits digits letter, beq_self_eq_true, if_true]

/-- It is not there if anything else stands behind them. -/
theorem component_of_head?_ne {unit : Char} {cs : List Char}
    (other : (cs.dropWhile isDigit).head? ≠ some unit) : component unit cs = ([], cs) := by
  unfold component
  split
  · rename_i d ds c rest htake hdrop
    have hc : c ≠ unit := by
      rintro rfl
      simp [hdrop] at other
    simp [hc]
  · rfl

/-- Either an amount is read or nothing is. -/
theorem component_cases (unit : Char) (cs : List Char) : component unit cs = ([], cs) ∨
    ∃ ds rest, ds ≠ [] ∧ (∀ c ∈ ds, isDigit c = true) ∧ cs = ds ++ unit :: rest ∧
      component unit cs = (ds, rest) := by
  by_cases h : (cs.dropWhile isDigit).head? = some unit
  · obtain ⟨rest, hrest⟩ : ∃ rest, cs.dropWhile isDigit = unit :: rest :=
      List.head?_eq_some_iff.mp h
    have digits : ∀ c ∈ cs.takeWhile isDigit, isDigit c = true :=
      fun c hc => List.mem_takeWhile_imp hc
    have hcs : cs = cs.takeWhile isDigit ++ unit :: rest := by
      rw [← hrest, List.takeWhile_append_dropWhile]
    by_cases ne : cs.takeWhile isDigit = []
    · left
      simp [component, ne]
    · refine .inr ⟨_, rest, ne, digits, hcs, ?_⟩
      conv_lhs => rw [hcs]
      exact component_digits ne digits (not_isDigit_of_head?_dropWhile h) rest
  · exact .inl (component_of_head?_ne h)

theorem isDigit_of_mem_digits (n : Numeral) : ∀ c ∈ n.digits, isDigit c = true :=
  fun c hc => isDigit_of_ascii_digit (n.isDigit c hc)

/-- An amount is read as its digits, unless it is left out and something follows that could be
taken for it. -/
theorem component_part {unit : Char} (letter : isDigit unit = false) {o : Option Numeral}
    {rest : List Char} (other : (rest.dropWhile isDigit).head? ≠ some unit) :
    component unit (part unit o ++ rest) = (digitsOf o, rest) := by
  cases o with
  | none => exact component_of_head?_ne other
  | some n =>
    rw [part, List.append_assoc, List.singleton_append]
    exact component_digits n.ne_nil (isDigit_of_mem_digits n) letter rest

/-! ## Reading amounts -/

variable {parts : List (Char × Option Numeral)} {rest : List Char}

/-- Behind the first digits of written amounts there is one of their units, or what follows them. -/
theorem head?_dropWhile_written {rest : List Char}
    (follows : ∀ c, rest.head? = some c → isDigit c = false) {c : Char} :
    ∀ {parts : List (Char × Option Numeral)}, (∀ p ∈ parts, isDigit p.1 = false) →
      ((written parts ++ rest).dropWhile isDigit).head? = some c →
        c ∈ parts.map Prod.fst ∨ rest.head? = some c
  | [], _, h => by
    right
    cases rest with
    | nil => simp [written] at h
    | cons d rest => simpa [written, follows d rfl] using h
  | (unit, none) :: parts, letters, h => by
    have := head?_dropWhile_written follows (List.forall_mem_cons.mp letters).2 h
    exact this.imp_left (List.mem_cons_of_mem unit)
  | (unit, some n) :: parts, letters, h => by
    left
    have hw : written ((unit, some n) :: parts) ++ rest =
        n.digits ++ unit :: (written parts ++ rest) := by
      simp [written, part]
    rw [hw, dropWhile_digits (isDigit_of_mem_digits n) (letters _ List.mem_cons_self)] at h
    obtain rfl : unit = c := by simpa using h
    exact List.mem_cons_self

/-- Written amounts are read as their digits, up to what follows them. -/
theorem components_written (rest : List Char)
    (follows : ∀ c, rest.head? = some c → isDigit c = false) :
    ∀ parts : List (Char × Option Numeral), (∀ p ∈ parts, isDigit p.1 = false) →
      (parts.map Prod.fst).Nodup → (∀ c, rest.head? = some c → c ∉ parts.map Prod.fst) →
      components (parts.map Prod.fst) (written parts ++ rest) =
        (parts.map fun p => digitsOf p.2, rest)
  | [], _, _, _ => rfl
  | (unit, o) :: parts, letters, distinct, apart => by
    obtain ⟨letter, letters⟩ := List.forall_mem_cons.mp letters
    obtain ⟨fresh, distinct⟩ := List.nodup_cons.mp distinct
    have other : ((written parts ++ rest).dropWhile isDigit).head? ≠ some unit := by
      intro h
      rcases head?_dropWhile_written follows letters h with hmem | hrest
      · exact fresh hmem
      · exact apart unit hrest List.mem_cons_self
    have more := components_written rest follows parts letters distinct fun c hc hmem =>
      apart c hc (List.mem_cons_of_mem unit hmem)
    have hw : written ((unit, o) :: parts) ++ rest = part unit o ++ (written parts ++ rest) := by
      simp [written]
    rw [hw]
    simp only [List.map_cons, components, component_part letter other, more]

/-- They are read to the end if nothing follows them. -/
theorem components_written_nil (parts : List (Char × Option Numeral))
    (letters : ∀ p ∈ parts, isDigit p.1 = false)
    (distinct : (parts.map Prod.fst).Nodup) :
    components (parts.map Prod.fst) (written parts) = (parts.map fun p => digitsOf p.2, []) := by
  have read := components_written [] (by simp) parts letters distinct (by simp)
  rwa [List.append_nil] at read

/-- What is read from an ASCII text are written amounts. -/
theorem exists_written_of_components : ∀ units cs : List Char, (∀ c ∈ cs, c.toNat < 128) →
    ∃ parts rest, parts.map Prod.fst = units ∧ cs = written parts ++ rest ∧
      components units cs = (parts.map fun p => digitsOf p.2, rest)
  | [], cs, _ => ⟨[], cs, rfl, rfl, rfl⟩
  | unit :: units, cs, ascii => by
    rcases component_cases unit cs with h | ⟨ds, rest, ne, digits, rfl, h⟩
    · obtain ⟨parts, rest, rfl, hcs, hparts⟩ := exists_written_of_components units cs ascii
      refine ⟨(unit, none) :: parts, rest, rfl, hcs, ?_⟩
      simp only [components, h, hparts]
      rfl
    · have asciiRest : ∀ c ∈ rest, c.toNat < 128 := fun c hc => ascii c (by simp [hc])
      obtain ⟨parts, rest, rfl, rfl, hparts⟩ := exists_written_of_components units rest asciiRest
      have numeral : ∀ c ∈ ds, c.isDigit = true := fun c hc => by
        rw [← isDigit_eq_of_ascii (ascii c (by simp [hc]))]
        exact digits c hc
      refine ⟨(unit, some ⟨ds, ne, numeral⟩) :: parts, rest, rfl, by simp [written, part], ?_⟩
      simp only [components, h, hparts]
      rfl

/-! ## Reading durations -/

variable {a : Amounts} {t : List Char}

theorem mem_written {c : Char} (h : c ∈ written parts) :
    c.isDigit = true ∨ c ∈ parts.map Prod.fst := by
  obtain ⟨⟨unit, o⟩, hp, hc⟩ := List.mem_flatMap.mp h
  cases o with
  | none => cases hc
  | some n =>
    rcases List.mem_append.mp hc with hd | hu
    · exact .inl (n.isDigit c hd)
    · right
      rw [List.mem_singleton.mp hu]
      exact List.mem_map_of_mem hp

theorem mem_suffixed {c : Char} (h : c ∈ a.suffixed) :
    c.isDigit = true ∨ c ∈ ['d', 'h', 'm', 's'] := mem_written h

theorem components_suffixed (a : Amounts) :
    components ['d', 'h', 'm', 's'] a.suffixed = (a.digits, []) :=
  components_written_nil (('d', a.days) :: a.times)
    (by simpa [Amounts.times] using ⟨rfl, rfl, rfl, rfl⟩) (by simp [Amounts.times])

theorem components_times (a : Amounts) : components ['h', 'm', 's'] (written a.times) =
    ([digitsOf a.hours, digitsOf a.minutes, digitsOf a.seconds], []) :=
  components_written_nil a.times (by simpa [Amounts.times] using ⟨rfl, rfl, rfl⟩)
    (by simp [Amounts.times])

theorem components_days (o : Option Numeral) (rest : List Char)
    (follows : rest.head? = none ∨ rest.head? = some 't') :
    components ['d'] (part 'd' o ++ rest) = ([digitsOf o], rest) := by
  have apart : ∀ c, rest.head? = some c → isDigit c = false ∧ c ∉ ['d'] := by
    intro c hc
    rcases follows with h | h <;> rw [h] at hc
    · cases hc
    · cases hc
      decide
  have read := components_written rest (fun c hc => (apart c hc).1) [('d', o)]
    (by simp; rfl) (by simp) (fun c hc => (apart c hc).2)
  simpa [written] using read

/-- A text that is not empty and does not begin with a `p` is read as amounts with units. -/
theorem parts?_of_head? {t : List Char} (ne : t ≠ []) (other : t.head? ≠ some 'p') :
    parts? t = if (components ['d', 'h', 'm', 's'] t).2.isEmpty
      then some (components ['d', 'h', 'm', 's'] t).1 else none := by
  unfold parts?
  split
  · exact absurd rfl ne
  · exact absurd rfl other
  · rfl

/-- A spelling is read as the amounts that it spells. -/
theorem parts?_of_spells (ne : t ≠ []) (h : a.Spells t) : parts? t = some a.digits := by
  rcases h with rfl | h
  · have other : a.suffixed.head? ≠ some 'p' := fun h =>
      absurd (mem_suffixed (List.mem_of_head? h)) (by decide)
    rw [parts?_of_head? ne other, components_suffixed]
    rfl
  · cases h with
    | days hours minutes seconds =>
      have read := components_days a.days [] (.inl rfl)
      rw [List.append_nil] at read
      simp [parts?, read, Amounts.digits, hours, minutes, seconds, digitsOf]
    | times =>
      have read := components_days a.days ('t' :: written a.times) (.inr rfl)
      simp [parts?, read, components_times, Amounts.digits]

theorem exists_cons {unit : Char} {units : List Char}
    (h : parts.map Prod.fst = unit :: units) :
    ∃ o more, parts = (unit, o) :: more ∧ more.map Prod.fst = units := by
  obtain ⟨⟨_, o⟩, more, rfl, rfl, hmore⟩ := List.map_eq_cons_iff.mp h
  exact ⟨o, more, rfl, hmore⟩

/-- Amounts with the units of hours, minutes and seconds. -/
theorem exists_times (units : parts.map Prod.fst = ['h', 'm', 's']) (days : Option Numeral) :
    ∃ a : Amounts, a.days = days ∧ parts = a.times := by
  obtain ⟨hours, _, rfl, below⟩ := exists_cons units
  obtain ⟨minutes, _, rfl, lowest⟩ := exists_cons below
  obtain ⟨seconds, _, rfl, last⟩ := exists_cons lowest
  obtain rfl := List.map_eq_nil_iff.mp last
  exact ⟨⟨days, hours, minutes, seconds⟩, rfl, rfl⟩

/-- What is read from an ASCII text behind a `p` are amounts that it designates. -/
theorem exists_designates {t : List Char} (ascii : ∀ c ∈ t, c.toNat < 128)
    {ps : List (List Char)} (h : parts? ('p' :: t) = some ps) :
    ∃ a : Amounts, a.Designates ('p' :: t) ∧ ps = a.digits := by
  obtain ⟨parts, rest, units, rfl, hread⟩ := exists_written_of_components ['d'] t ascii
  obtain ⟨days, _, rfl, last⟩ := exists_cons units
  obtain rfl := List.map_eq_nil_iff.mp last
  simp only [parts?, hread] at h
  -- Behind the days the text is over, goes on with a `t`, or is refused.
  split at h
  · obtain rfl := Option.some.inj h
    refine ⟨⟨days, none, none, none⟩, ?_, rfl⟩
    simpa [written] using Amounts.Designates.days (a := ⟨days, none, none, none⟩) rfl rfl rfl
  · rename_i rest
    obtain ⟨parts, more, units, rfl, htimes⟩ := exists_written_of_components ['h', 'm', 's'] rest
      fun c hc => ascii c (by simp [hc])
    obtain ⟨a, rfl, rfl⟩ := exists_times units days
    rw [htimes] at h
    obtain ⟨hmore, hps⟩ := Option.ite_none_right_eq_some.mp h
    obtain rfl := List.isEmpty_iff.mp hmore
    obtain rfl := Option.some.inj hps
    refine ⟨a, ?_, rfl⟩
    simpa [written] using Amounts.Designates.times (a := a)
  · cases h

/-- What is read from an ASCII text are amounts that it spells. -/
theorem exists_spells_of_parts? {t : List Char} (ascii : ∀ c ∈ t, c.toNat < 128)
    {ps : List (List Char)} (h : parts? t = some ps) :
    ∃ a : Amounts, a.Spells t ∧ ps = a.digits := by
  by_cases ne : t = []
  · subst ne
    cases h
  by_cases designator : t.head? = some 'p'
  · obtain ⟨t, rfl⟩ := List.head?_eq_some_iff.mp designator
    obtain ⟨a, ha, hps⟩ := exists_designates (fun c hc => ascii c (List.mem_cons_of_mem _ hc)) h
    exact ⟨a, .inr ha, hps⟩
  · obtain ⟨parts, rest, units, rfl, hread⟩ :=
      exists_written_of_components ['d', 'h', 'm', 's'] t ascii
    obtain ⟨days, _, rfl, below⟩ := exists_cons units
    obtain ⟨a, rfl, rfl⟩ := exists_times below days
    rw [parts?_of_head? ne designator, hread] at h
    obtain ⟨hrest, hps⟩ := Option.ite_none_right_eq_some.mp h
    obtain rfl := List.isEmpty_iff.mp hrest
    obtain rfl := Option.some.inj hps
    exact ⟨a, .inl (List.append_nil _), rfl⟩

/-! ## Seconds -/

theorem digitsValue_eq_ofDigits {ds : List Char} (digits : ∀ c ∈ ds, c.isDigit = true) :
    digitsValue ds = Nat.ofDigits 10 (ds.reverse.map fun c => c.toNat - '0'.toNat) := by
  induction ds using List.reverseRecOn with
  | nil => rfl
  | append_singleton ds c ih =>
    have hc : c.isDigit = true := digits c (by simp)
    rw [digitsValue_concat, ih fun d hd => digits d (by simp [hd]), digitValue?_getD hc,
      List.reverse_append, List.reverse_singleton, List.singleton_append, List.map_cons,
      Nat.ofDigits_cons]
    exact Nat.add_comm _ _

theorem digitsValue_digitsOf (o : Option Numeral) : digitsValue (digitsOf o) = numberOf o := by
  cases o with
  | none => rfl
  | some n => exact digitsValue_eq_ofDigits n.isDigit

/-- The digits of the amounts add up to the seconds that they come to. -/
theorem total_digits (a : Amounts) : total a.digits = a.total := by
  simp only [total, weights, Amounts.digits, List.zip_cons_cons, List.zip_nil_right,
    List.foldr_cons, List.foldr_nil, digitsValue_digitsOf, Amounts.total]
  omega

theorem infix_part (unit : Char) (o : Option Numeral) : digitsOf o <:+: part unit o := by
  cases o with
  | none => exact List.infix_rfl
  | some n => exact (List.prefix_append n.digits [unit]).isInfix

theorem infix_written {p : Char × Option Numeral} (h : p ∈ parts) :
    digitsOf p.2 <:+: written parts :=
  (infix_part p.1 p.2).trans (List.infix_of_mem_flatten (List.mem_map_of_mem h))

/-- The digits of an amount stand in every spelling. -/
theorem infix_of_spells (h : a.Spells t) {ds : List Char} (hds : ds ∈ a.digits) : ds <:+: t := by
  have below : ∀ ds ∈ a.times.map fun p => digitsOf p.2, ds <:+: written a.times := by
    intro ds hds
    obtain ⟨p, hp, rfl⟩ := List.mem_map.mp hds
    exact infix_written hp
  rcases List.mem_cons.mp hds with rfl | hds
  · have first := infix_part 'd' a.days
    rcases h with rfl | h
    · exact first.trans (List.prefix_append _ _).isInfix
    · cases h with
      | days => exact first.trans (List.suffix_cons _ _).isInfix
      | times => exact first.trans ⟨['p'], 't' :: written a.times, by simp⟩
  · rcases h with rfl | h
    · exact (below ds hds).trans (List.suffix_append _ _).isInfix
    · cases h with
      | days hours minutes seconds =>
        obtain rfl : ds = [] := by simpa [hours, minutes, seconds, digitsOf] using hds
        exact List.nil_infix
      | times => exact (below ds hds).trans ⟨'p' :: part 'd' a.days ++ ['t'], [], by simp⟩

/-- The empty text spells amounts that are all left out. -/
theorem digits_of_spells_nil (h : a.Spells []) : a.digits = [[], [], [], []] := by
  have none : ∀ ds ∈ a.digits, ds = [] := fun ds hds => List.infix_nil.mp (infix_of_spells h hds)
  simp only [Amounts.digits, List.forall_mem_cons] at none ⊢
  obtain ⟨days, hours, minutes, seconds, -⟩ := none
  rw [days, hours, minutes, seconds]

theorem ne_nil_of_spells (h : a.Spells t) (pos : 0 < a.total) : t ≠ [] := by
  rintro rfl
  rw [← total_digits, digits_of_spells_nil h] at pos
  exact absurd pos (by decide)

/-! ## Answers -/

/-- Whether no run of digits in a text is longer than an integer may be. -/
def Fits (t : List Char) : Prop :=
  ∀ run, run <:+: t → (∀ c ∈ run, c.isDigit = true) → run.length ≤ digitLimit

/-- What is answered to amounts. -/
theorem seconds_of_spells (ne : normal s ≠ []) (h : a.Spells (normal s)) :
    seconds s = match a.digits.find? fun p => digitLimit < p.length with
      | some long => .error (.tooManyDigits long.length)
      | none => if a.total = 0 then .error (.zero s) else .ok a.total := by
  unfold seconds
  rw [parts?_of_spells ne h]
  dsimp only
  cases a.digits.find? fun p => digitLimit < p.length with
  | some long => rfl
  | none => rw [total_digits]

theorem seconds_of_fitting (ne : normal s ≠ []) (h : a.Spells (normal s))
    (fits : ∀ ds ∈ a.digits, ds.length ≤ digitLimit) :
    seconds s = if a.total = 0 then .error (.zero s) else .ok a.total := by
  have none : (a.digits.find? fun p => digitLimit < p.length) = none := by
    rw [List.find?_eq_none]
    intro ds hds
    simpa using fits ds hds
  rw [seconds_of_spells ne h, none]

theorem isDigit_of_mem_mem_digits {ds : List Char} (h : ds ∈ a.digits) :
    ∀ c ∈ ds, c.isDigit = true := by
  have all : ∀ o, ∀ c ∈ digitsOf o, c.isDigit = true := by
    intro o c hc
    cases o with
    | none => cases hc
    | some n => exact n.isDigit c hc
  simp only [Amounts.digits, List.mem_cons, List.not_mem_nil, or_false] at h
  rcases h with rfl | rfl | rfl | rfl <;> exact all _

/-- A text that spells no amounts is no duration. -/
theorem seconds_of_not_spells (ascii : IsAscii s)
    (h : ∀ a : Amounts, normal s ≠ [] → ¬a.Spells (normal s)) : seconds s = .error (.malformed s) := by
  have none : parts? (normal s) = none := by
    rw [Option.eq_none_iff_forall_ne_some]
    intro ps hps
    have ne : normal s ≠ [] := by
      intro hnil
      rw [hnil] at hps
      cases hps
    obtain ⟨a, ha, -⟩ := exists_spells_of_parts?
      (fun c hc => ascii_of_mem_bare ascii (normal_eq_bare ascii ▸ hc)) hps
    exact h a ne ha
  unfold seconds
  rw [none]

/-! ## Durations of numbers -/

/-- A number as an amount, left out if it is zero. -/
def amountOf (n : ℕ) : Option Numeral := if n = 0 then none else some (.ofNat n)

/-- The days, hours, minutes and seconds in a number of seconds. -/
def Amounts.ofSeconds (n : ℕ) : Amounts where
  days := amountOf (n / 86400)
  hours := amountOf (n % 86400 / 3600)
  minutes := amountOf (n % 3600 / 60)
  seconds := amountOf (n % 60)

/-- The duration of a number of seconds. -/
def canonical (n : ℕ) : String := String.ofList (Amounts.ofSeconds n).suffixed

theorem numberOf_amountOf (n : ℕ) : numberOf (amountOf n) = n := by
  unfold amountOf
  split
  · rename_i h
    exact h.symm
  · rw [numberOf, Numeral.value, ← digitsValue_eq_ofDigits (Numeral.ofNat n).isDigit]
    exact Date.digitsValue_toDigits n

theorem total_ofSeconds (n : ℕ) : (Amounts.ofSeconds n).total = n := by
  simp only [Amounts.total, Amounts.ofSeconds, numberOf_amountOf]
  omega

theorem length_digitsOf_amountOf {n : ℕ} (h : n < 10 ^ digitLimit) :
    (digitsOf (amountOf n)).length ≤ digitLimit := by
  unfold amountOf
  split
  · exact Nat.zero_le _
  · exact (Nat.length_toDigits_le_iff (by decide) (by decide)).mpr h

theorem length_digits_ofSeconds {n : ℕ} (h : n < 10 ^ digitLimit) :
    ∀ ds ∈ (Amounts.ofSeconds n).digits, ds.length ≤ digitLimit := by
  have below : ∀ k ≤ n, (digitsOf (amountOf k)).length ≤ digitLimit :=
    fun k hk => length_digitsOf_amountOf (Nat.lt_of_le_of_lt hk h)
  simp only [Amounts.digits, Amounts.ofSeconds, List.forall_mem_cons]
  exact ⟨below _ (Nat.div_le_self ..), below _ (by omega), below _ (by omega), below _ (by omega),
    by simp⟩

theorem bare_canonical (n : ℕ) : bare (canonical n) = (Amounts.ofSeconds n).suffixed := by
  have plain : ∀ c ∈ (Amounts.ofSeconds n).suffixed,
      asciiBlanks.contains c = false ∧ c.toLower = c := by
    intro c hc
    rcases mem_suffixed hc with h | h
    · refine of_ascii (p := fun c => c.isDigit = true → asciiBlanks.contains c = false ∧
        c.toLower = c) (by decide) ?_ h
      have := toNat_bounds h
      omega
    · have all : ∀ u ∈ ['d', 'h', 'm', 's'], asciiBlanks.contains u = false ∧ u.toLower = u := by
        simp [asciiBlanks]
      exact all c h
  rw [bare, canonical, String.toList_ofList, List.filter_eq_self.mpr fun c hc => by
    rw [(plain c hc).1, Bool.not_false]]
  exact (List.map_congr_left fun c hc => (plain c hc).2).trans (List.map_id _)

theorem isAscii_canonical (n : ℕ) : IsAscii (canonical n) := by
  intro c hc
  rw [canonical, String.toList_ofList] at hc
  rcases mem_suffixed hc with h | h
  · have := toNat_bounds h
    omega
  · have all : ∀ u ∈ ['d', 'h', 'm', 's'], u.toNat < 128 := by simp
    exact all c h

/-- The amounts of a text that fits the limit fit it. -/
theorem length_digits_of_fits (h : a.Spells t) (fits : Fits t) :
    ∀ ds ∈ a.digits, ds.length ≤ digitLimit :=
  fun ds hds => fits ds (infix_of_spells h hds) (isDigit_of_mem_mem_digits hds)

theorem seconds_eq_ok_iff (ascii : IsAscii s) (fits : Fits (bare s)) (n : ℕ) :
    seconds s = .ok n ↔ bare s ≠ [] ∧ ∃ a : Amounts, a.Spells (bare s) ∧ a.total = n ∧ 0 < n := by
  have same := normal_eq_bare ascii
  rw [← same] at fits ⊢
  constructor
  · intro h
    by_cases spelled : ∃ a : Amounts, normal s ≠ [] ∧ a.Spells (normal s)
    · obtain ⟨a, ne, ha⟩ := spelled
      have pos := seconds_pos h
      rw [seconds_of_fitting ne ha (length_digits_of_fits ha fits)] at h
      split at h
      · cases h
      · exact ⟨ne, a, ha, Except.ok.inj h, pos⟩
    · have refused := seconds_of_not_spells ascii fun a ne ha => spelled ⟨a, ne, ha⟩
      rw [refused] at h
      cases h
  · rintro ⟨ne, a, ha, rfl, pos⟩
    rw [seconds_of_fitting ne ha (length_digits_of_fits ha fits), if_neg pos.ne']

theorem label_of_seconds (ascii : IsAscii s) (fits : Fits (bare s))
    (other : ¬∃ a : Amounts, bare s ≠ [] ∧ a.Spells (bare s) ∧ 0 < a.total) :
    ∃ fault, seconds s = .error fault ∧ fault.label = "DurationParseError" := by
  have same := normal_eq_bare ascii
  rw [← same] at fits other
  by_cases spelled : ∃ a : Amounts, normal s ≠ [] ∧ a.Spells (normal s)
  · obtain ⟨a, ne, ha⟩ := spelled
    have zero : a.total = 0 := by
      by_contra h
      exact other ⟨a, ne, ha, Nat.pos_of_ne_zero h⟩
    rw [seconds_of_fitting ne ha (length_digits_of_fits ha fits), if_pos zero]
    exact ⟨_, rfl, rfl⟩
  · exact ⟨_, seconds_of_not_spells ascii fun a ne ha => spelled ⟨a, ne, ha⟩, rfl⟩

/-- What is answered to amounts depends on them alone, but for what a refusal says. -/
theorem mapError_seconds (h : a.Spells (normal s)) : (seconds s).mapError Fault.label =
    match a.digits.find? fun p => digitLimit < p.length with
      | some _ => .error "ValueError"
      | none => if a.total = 0 then .error "DurationParseError" else .ok a.total := by
  by_cases ne : normal s = []
  · rw [ne] at h
    have refused : seconds s = .error (.malformed s) := by
      rw [seconds, ne]
      rfl
    rw [refused, ← total_digits, digits_of_spells_nil h]
    rfl
  · rw [seconds_of_spells ne h]
    cases a.digits.find? fun p => digitLimit < p.length with
    | some long => rfl
    | none =>
      dsimp only
      by_cases zero : a.total = 0
      · rw [if_pos zero, if_pos zero]
        rfl
      · rw [if_neg zero, if_neg zero]
        rfl

/-- A text of ASCII characters whose runs of digits are not too long is read as `n` seconds exactly
if it spells, blanks and case aside, amounts that come to `n`, which is not zero; any other is
refused for not being a duration. Amounts are read alike, with units behind them or after a `P`. And
every number of seconds that is not too large has a duration that is read as it. -/
theorem seconds_eq_ok_iff_spells :
    (∀ s, IsAscii s → Fits (bare s) →
      (∀ n, seconds s = .ok n ↔
        bare s ≠ [] ∧ ∃ a : Amounts, a.Spells (bare s) ∧ a.total = n ∧ 0 < n) ∧
      ((¬∃ a : Amounts, bare s ≠ [] ∧ a.Spells (bare s) ∧ 0 < a.total) →
        ∃ fault, seconds s = .error fault ∧ fault.label = "DurationParseError")) ∧
    (∀ (a : Amounts) (s s' : String), IsAscii s → IsAscii s' → bare s = a.suffixed →
      a.Designates (bare s') →
        (seconds s).mapError Fault.label = (seconds s').mapError Fault.label) ∧
    ∀ n, 1 ≤ n → n < 10 ^ digitLimit → seconds (canonical n) = .ok n := by
  refine ⟨fun s ascii fits => ⟨seconds_eq_ok_iff ascii fits, label_of_seconds ascii fits⟩,
    fun a s s' ascii ascii' h h' => ?_, fun n pos short => ?_⟩
  · have suffixed : a.Spells (normal s) := .inl (by rw [normal_eq_bare ascii, h])
    have designated : a.Spells (normal s') := .inr (by rwa [normal_eq_bare ascii'])
    rw [mapError_seconds suffixed, mapError_seconds designated]
  · have spelled : (Amounts.ofSeconds n).Spells (normal (canonical n)) := by
      rw [normal_eq_bare (isAscii_canonical n)]
      exact .inl (bare_canonical n)
    have ne := ne_nil_of_spells spelled (by rwa [total_ofSeconds])
    rw [seconds_of_fitting ne spelled (length_digits_ofSeconds short), total_ofSeconds,
      if_neg (by omega)]

/-- Blanks stand between the digits of thirty minutes. The same hour and a half is read after a `P`,
and in its own duration, while minutes before hours are refused. -/
theorem seconds_eq_ok_iff_spells_ninety_minutes :
    seconds "1 H 3\t0m" = .ok 5400 ∧
      (seconds "1 H 3\t0m").mapError Fault.label = (seconds "PT1h30M").mapError Fault.label ∧
      (∃ fault, seconds "30m1h" = .error fault ∧ fault.label = "DurationParseError") ∧
      seconds (canonical 5400) = .ok 5400 := by
  let a : Amounts := ⟨none, amountOf 1, amountOf 30, none⟩
  have ascii : IsAscii "1 H 3\t0m" := by simp [IsAscii]
  have ascii' : IsAscii "PT1h30M" := by simp [IsAscii]
  have reversed : IsAscii "30m1h" := by simp [IsAscii]
  have fits : ∀ s, (bare s).length ≤ digitLimit → Fits (bare s) :=
    fun s short run h _ => h.length_le.trans short
  have spelled : bare "1 H 3\t0m" = a.suffixed := by decide
  have designated : a.Designates (bare "PT1h30M") := .times
  have other : ¬∃ a : Amounts, bare "30m1h" ≠ [] ∧ a.Spells (bare "30m1h") ∧ 0 < a.total := by
    rintro ⟨a, ne, h, -⟩
    cases parts?_of_spells ne h
  refine ⟨?_, ?_, ?_, ?_⟩
  · exact ((seconds_eq_ok_iff_spells.1 _ ascii (fits _ (by decide))).1 5400).mpr
      ⟨by decide, a, .inl spelled, by decide, by decide⟩
  · exact seconds_eq_ok_iff_spells.2.1 a _ _ ascii ascii' spelled designated
  · exact (seconds_eq_ok_iff_spells.1 _ reversed (fits _ (by decide))).2 other
  · have short : 10 ^ 4 ≤ 10 ^ digitLimit := Nat.pow_le_pow_right (by decide) (by decide)
    exact seconds_eq_ok_iff_spells.2.2 5400 (by decide) (Nat.lt_of_lt_of_le (by decide) short)

end Courier.Duration

import Courier.Proofs.Double.Rounding
import Courier.Stats.Rate
import Mathlib.Data.Rat.Floor

/-!
# The exact delivery rate

The quotient behind a rate is rounded twice by different rules: to 28 significant digits, and then
to one decimal. A percentage with a total of at most 25 digits is too far from the next place where
the second rounding changes its mind for the first one to lead there (`Rate.tenths_quotient`).

Main statement: a rate is the number nearest to the percentage with one decimal, a half being
rounded up in exact arithmetic; it is at least 0 and at most 100, and it does not decrease as more
attempts reach the transport (`Rate.percent?_exact`).
-/

namespace Courier.Rate

variable {reached total : ℕ}

/-! ## The digits of a quotient -/

theorem lt_pow_digitCount (n : ℕ) : n < 10 ^ digitCount n :=
  (Nat.length_toDigits_le_iff (by decide) Nat.length_toDigits_pos).mp (Nat.le_refl _)

theorem digitCount_le {n k : ℕ} (pos : 0 < k) (h : n < 10 ^ k) : digitCount n ≤ k :=
  (Nat.length_toDigits_le_iff (by decide) pos).mpr h

/-- The digits of a percentage below a hundred reach to the 26th decimal at least. -/
theorem exponentOf_le {num den : ℕ} (h : num < 100 * den) : exponentOf num den ≤ -26 := by
  have bound : num < 10 ^ (digitCount den + 2) := by
    have := lt_pow_digitCount den
    rw [Nat.pow_add]
    omega
  have count := digitCount_le (by omega) bound
  unfold exponentOf
  dsimp only
  set low : ℤ := (digitCount num : ℤ) - digitCount den - precision with hlow
  rw [precision] at hlow
  split
  · rename_i full
    by_contra above
    obtain hlow' : low = -26 := by omega
    have power : (-(-26 : ℤ)).toNat = 26 := rfl
    rw [hlow', scaled, if_neg (by decide), power] at full
    simp only [precision, Nat.pow_eq] at full
    omega
  · omega

/-- A hundred itself has one decimal less. -/
theorem exponentOf_hundred (den : ℕ) : exponentOf (100 * den) den ≤ -25 := by
  have bound : 100 * den < 10 ^ (digitCount den + 2) := by
    have := lt_pow_digitCount den
    rw [Nat.pow_add]
    omega
  have count := digitCount_le (by omega) bound
  unfold exponentOf
  dsimp only
  have hp : (precision : ℤ) = 28 := rfl
  split <;> omega

theorem scaled_of_neg (num den j : ℕ) :
    scaled num den (-(j + 1 : ℤ)) = (num * 10 ^ (j + 1), den) := by
  have power : (-(-(j + 1 : ℤ))).toNat = j + 1 := by omega
  unfold scaled
  rw [if_neg (by omega), power, Nat.pow_eq]

/-- The quotient of a percentage is rounded at some decimal behind the first. -/
theorem quotient_eq (h : reached ≤ total) : ∃ j : ℕ, 24 ≤ j ∧
    (reached < total → 25 ≤ j) ∧ quotient (100 * reached) total =
      (Double.nearest (1000 * reached * 10 ^ j) total, -(j + 1 : ℤ)) := by
  have exponent : exponentOf (100 * reached) total ≤ -25 ∧
      (reached < total → exponentOf (100 * reached) total ≤ -26) := by
    refine ⟨?_, fun hlt => exponentOf_le (by omega)⟩
    rcases h.lt_or_eq with hlt | rfl
    · have := exponentOf_le (show 100 * reached < 100 * total by omega)
      omega
    · exact exponentOf_hundred reached
  unfold quotient
  generalize exponentOf (100 * reached) total = e at exponent ⊢
  obtain ⟨j, rfl⟩ : ∃ j : ℕ, e = -(j + 1 : ℤ) := ⟨(-(e + 1)).toNat, by omega⟩
  have whole : 100 * reached * 10 ^ (j + 1) = 1000 * reached * 10 ^ j := by ring
  refine ⟨j, by omega, by omega, ?_⟩
  simp only [scaled_of_neg, whole]

/-! ## Tenths -/

/-- Tenths are taken from digits behind the first decimal by rounding half up. -/
theorem tenths_eq {j : ℕ} (pos : 0 < j) (digits : ℕ) :
    tenths digits (-(j + 1 : ℤ)) = (2 * digits + 10 ^ j) / (2 * 10 ^ j) := by
  unfold tenths
  rw [if_neg (by omega)]
  dsimp only
  have power : (-(-(j + 1 : ℤ) + 1)).toNat = j := by omega
  rw [power, Nat.pow_eq]

/-- The tenths of a percentage never exceed a thousand. -/
theorem tenths_quotient_le (h : reached ≤ total) (pos : 0 < total) :
    tenths (quotient (100 * reached) total).1 (quotient (100 * reached) total).2 ≤ 1000 := by
  obtain ⟨j, hj, -, hquotient⟩ := quotient_eq h
  have below : Double.nearest (1000 * reached * 10 ^ j) total ≤ 1000 * 10 ^ j := by
    refine Double.nearest_le pos ?_
    calc 1000 * reached * 10 ^ j ≤ 1000 * total * 10 ^ j := by gcongr
      _ = 1000 * 10 ^ j * total := by ring
  rw [hquotient, tenths_eq (by omega)]
  have unit : 0 < 10 ^ j := by positivity
  refine Nat.lt_succ_iff.mp ((Nat.div_lt_iff_lt_mul (by omega)).mpr ?_)
  omega

/-- An integral number of halves that a percentage reaches is reached by its digits, too. -/
theorem le_of_halves {j k : ℕ} (hj : 0 < j) (pos : 0 < total)
    (h : k * (2 * total) ≤ 2000 * reached + total) :
    k * (2 * 10 ^ j) ≤ 2 * Double.nearest (1000 * reached * 10 ^ j) total + 10 ^ j := by
  obtain ⟨i, rfl⟩ : ∃ i, j = i + 1 := ⟨j - 1, by omega⟩
  cases k with
  | zero => simp
  | succ k =>
    have halves : (2 * k + 1) * total ≤ 2000 * reached := by
      have : (k + 1) * (2 * total) = (2 * k + 1) * total + total := by ring
      omega
    have exact : (2 * k + 1) * (5 * 10 ^ i) * total ≤ 1000 * reached * 10 ^ (i + 1) := by
      calc (2 * k + 1) * (5 * 10 ^ i) * total = (2 * k + 1) * total * (5 * 10 ^ i) := by ring
        _ ≤ 2000 * reached * (5 * 10 ^ i) := Nat.mul_le_mul_right _ halves
        _ = 1000 * reached * 10 ^ (i + 1) := by ring
    have := Double.le_nearest pos exact
    calc (k + 1) * (2 * 10 ^ (i + 1)) = 2 * ((2 * k + 1) * (5 * 10 ^ i)) + 10 ^ (i + 1) := by ring
      _ ≤ 2 * Double.nearest (1000 * reached * 10 ^ (i + 1)) total + 10 ^ (i + 1) := by omega

/-- One that it stays below is not reached by its digits either, if the total is smaller than the
power of ten that the digits go to: the percentage stays below it by more than half a digit. -/
theorem lt_of_halves {j k : ℕ} (fine : total < 10 ^ j)
    (h : 2000 * reached < (2 * k + 1) * total) :
    2 * Double.nearest (1000 * reached * 10 ^ j) total < (2 * k + 1) * 10 ^ j := by
  refine Nat.lt_of_mul_lt_mul_right (a := total) ?_
  have rounded := Double.two_mul_nearest_le (1000 * reached * 10 ^ j) total
  calc 2 * Double.nearest (1000 * reached * 10 ^ j) total * total
      = 2 * (Double.nearest (1000 * reached * 10 ^ j) total * total) := Nat.mul_assoc ..
    _ ≤ 2 * (1000 * reached * 10 ^ j) + total := rounded
    _ < 2 * (1000 * reached * 10 ^ j) + 10 ^ j := Nat.add_lt_add_left fine _
    _ = (2000 * reached + 1) * 10 ^ j := by ring
    _ ≤ (2 * k + 1) * total * 10 ^ j := Nat.mul_le_mul_right _ h
    _ = (2 * k + 1) * 10 ^ j * total := by ring

/-- Rounding to 28 digits first does not change which tenths a percentage is rounded to. -/
theorem tenths_quotient (h : reached ≤ total) (pos : 0 < total) (bound : total < 10 ^ 25) :
    tenths (quotient (100 * reached) total).1 (quotient (100 * reached) total).2 =
      (2000 * reached + total) / (2 * total) := by
  obtain ⟨j, hj, fine, hquotient⟩ := quotient_eq h
  rw [hquotient, tenths_eq (by omega)]
  have unit : 0 < 10 ^ j := by positivity
  rcases h.lt_or_eq with hlt | rfl
  · set k := (2000 * reached + total) / (2 * total) with hk
    have low : k * (2 * total) ≤ 2000 * reached + total := Nat.div_mul_le_self _ _
    have high : 2000 * reached < (2 * k + 1) * total := by
      have : 2000 * reached + total < 2 * total * (k + 1) := Nat.lt_mul_div_succ _ (by omega)
      have : 2 * total * (k + 1) = (2 * k + 1) * total + total := by ring
      omega
    have small : total < 10 ^ j := bound.trans_le (Nat.pow_le_pow_right (by decide) (fine hlt))
    refine Nat.div_eq_of_lt_le (le_of_halves (by omega) pos low) ?_
    have := lt_of_halves small high
    calc 2 * Double.nearest (1000 * reached * 10 ^ j) total + 10 ^ j
        < (2 * k + 1) * 10 ^ j + 10 ^ j := Nat.add_lt_add_right this _
      _ = (k + 1) * (2 * 10 ^ j) := by ring
  · -- The whole is a hundred percent, which every number of digits holds exactly.
    have exact : Double.nearest (1000 * reached * 10 ^ j) reached = 1000 * 10 ^ j :=
      le_antisymm (Double.nearest_le pos (by linarith)) (Double.le_nearest pos (by linarith))
    rw [exact, Nat.div_eq_of_lt_le (k := 1000) (by omega) (by omega),
      Nat.div_eq_of_lt_le (k := 1000) (by omega) (by omega)]

/-! ## Percentages -/

/-- The tenths of a percentage in exact arithmetic, a half being rounded up. -/
def exactTenths (reached total : ℤ) : ℤ := ⌊(1000 * reached / total + 1 / 2 : ℚ)⌋

theorem exactTenths_natCast (pos : 0 < total) : exactTenths reached total =
    ((2000 * reached + total) / (2 * total) : ℕ) := by
  have pos' : (0 : ℚ) < total := by exact_mod_cast pos
  have same : (1000 * (reached : ℤ) / (total : ℤ) + 1 / 2 : ℚ) =
      ((2000 * reached + total : ℕ) : ℚ) / ((2 * total : ℕ) : ℚ) := by
    push_cast
    field_simp
    ring
  rw [exactTenths, same, Rat.floor_natCast_div_natCast]
  rfl

theorem exactTenths_mono {reached reached' total : ℤ} (pos : 0 < total) (h : reached ≤ reached') :
    exactTenths reached total ≤ exactTenths reached' total := by
  have pos' : (0 : ℚ) < total := by exact_mod_cast pos
  have h' : (reached : ℚ) ≤ reached' := by exact_mod_cast h
  refine Int.floor_le_floor ?_
  gcongr

/-- A percentage is made of the tenths of its quotient. -/
theorem percent?_natCast (h : reached ≤ total) (pos : 0 < total) : ∃ t ≤ 1000,
    percent? reached total = some (Double.ofRatio false t 10) ∧
      (total < 10 ^ 25 → t = (2000 * reached + total) / (2 * total)) := by
  have within := tenths_quotient_le h pos
  have exact := tenths_quotient h pos
  have sign : (decide ((reached : ℤ) < 0) != decide ((total : ℤ) < 0)) = false := by
    rw [decide_eq_false (by omega), decide_eq_false (by omega)]
    rfl
  unfold percent?
  rw [if_neg (by omega)]
  dsimp only
  rw [sign, Int.natAbs_natCast, Int.natAbs_natCast]
  generalize quotient (100 * reached) total = q at within exact ⊢
  split
  · rename_i none
    obtain rfl : reached = 0 := by omega
    refine ⟨0, by omega, rfl, fun _ => ?_⟩
    rw [Nat.div_eq_of_lt (by omega)]
  · have fits : ¬Nat.pow 10 precision ≤ tenths q.1 q.2 := by
      have : Nat.pow 10 precision = 10 ^ 28 := rfl
      omega
    exact ⟨_, within, if_neg fits, exact⟩

/-- Of the first records of a total, a percentage always exists, whatever their number. -/
theorem exists_percent? (h : reached ≤ total) : ∃ rate, percent? reached total = some rate := by
  rcases Nat.eq_zero_or_pos total with rfl | pos
  · exact ⟨_, rfl⟩
  · obtain ⟨t, -, hpercent, -⟩ := percent?_natCast h pos
    exact ⟨_, hpercent⟩

theorem tenths_fit {t : ℕ} (h : t ≤ 1000) : (t : ℚ) / (10 : ℕ) < 2 ^ 1023 := by
  have : (t : ℚ) ≤ 1000 := by exact_mod_cast h
  calc (t : ℚ) / (10 : ℕ) ≤ 100 := by
        push_cast
        linarith
    _ < 2 ^ 7 := by norm_num
    _ ≤ 2 ^ 1023 := pow_le_pow_right₀ (by norm_num) (by norm_num)

/-- What is known of a rate whose tenths are exact. -/
theorem exists_exact {reached total : ℤ} (nonneg : 0 ≤ reached) (h : reached ≤ total)
    (pos : 0 < total) (bound : total < 10 ^ 25) : ∃ t : ℕ, t ≤ 1000 ∧
      exactTenths reached total = t ∧
      percent? reached total = some (Double.ofRatio false t 10) := by
  lift reached to ℕ using nonneg
  lift total to ℕ using pos.le
  have pos' : 0 < total := by exact_mod_cast pos
  obtain ⟨t, within, hpercent, exact⟩ := percent?_natCast (by exact_mod_cast h) pos'
  refine ⟨t, within, ?_, hpercent⟩
  rw [exactTenths_natCast pos', exact (by exact_mod_cast bound)]

/-- With a total of at most 25 digits a rate is the number nearest to the percentage with one
decimal, a half being rounded up in exact arithmetic. It lies between 0 and 100, and it does not
decrease as more attempts reach the transport. Of no attempts it is 0. -/
theorem percent?_exact :
    (∀ reached total : ℤ, 0 ≤ reached → reached ≤ total → 0 < total → total < 10 ^ 25 →
      0 ≤ exactTenths reached total ∧ exactTenths reached total ≤ 1000 ∧
      ∃ rate, percent? reached total = some rate ∧
        rate.IsNearest (exactTenths reached total / 10) ∧
        Double.zero.le rate = true ∧ rate.le (.ofInt 100) = true) ∧
    (∀ reached reached' total : ℤ, 0 ≤ reached → reached ≤ reached' → reached' ≤ total →
      0 < total → total < 10 ^ 25 →
        exactTenths reached total ≤ exactTenths reached' total ∧
        ∃ rate rate', percent? reached total = some rate ∧ percent? reached' total = some rate' ∧
          rate.le rate' = true) ∧
    ∀ reached : ℤ, percent? reached 0 = some .zero := by
  have ten : 0 < 10 := by decide
  refine ⟨fun reached total nonneg h pos bound => ?_,
    fun reached reached' total nonneg h h' pos bound => ?_, fun _ => rfl⟩
  · obtain ⟨t, within, exact, hpercent⟩ := exists_exact nonneg h pos bound
    have least : Double.zero.le (Double.ofRatio false t 10) = true :=
      Double.ofRatio_mono ten (Nat.zero_le t) (tenths_fit within)
    have hundred : Double.ofRatio false 1000 10 = Double.ofInt 100 := by decide
    have greatest : (Double.ofRatio false t 10).le (Double.ofInt 100) = true := by
      rw [← hundred]
      exact Double.ofRatio_mono ten within (tenths_fit (Nat.le_refl _))
    have nearest := Double.isNearest_ofRatio ten (tenths_fit within)
    rw [Nat.cast_ofNat, ← Int.cast_natCast, ← exact] at nearest
    exact ⟨by omega, by omega, _, hpercent, nearest, least, greatest⟩
  · obtain ⟨t, _, exact, hpercent⟩ := exists_exact nonneg (h.trans h') pos bound
    obtain ⟨t', within', exact', hpercent'⟩ := exists_exact (nonneg.trans h) h' pos bound
    have mono := exactTenths_mono pos h
    have tenths : t ≤ t' := by
      rw [exact, exact'] at mono
      exact_mod_cast mono
    exact ⟨mono, _, _, hpercent, hpercent', Double.ofRatio_mono ten tenths (tenths_fit within')⟩

/-- Of the largest total of 25 digits, the one number of attempts stays below 99.95 percent by less
than the last of 28 digits tells, and the next one exceeds them. -/
theorem percent?_exact_at_half :
    exactTenths (9995 * 10 ^ 21 - 1) (10 ^ 25 - 1) = 999 ∧
    exactTenths (9995 * 10 ^ 21) (10 ^ 25 - 1) = 1000 ∧
    (∃ rate, percent? (9995 * 10 ^ 21 - 1) (10 ^ 25 - 1) = some rate ∧
      rate.IsNearest (exactTenths (9995 * 10 ^ 21 - 1) (10 ^ 25 - 1) / 10)) ∧
    ∃ rate rate', percent? (9995 * 10 ^ 21 - 1) (10 ^ 25 - 1) = some rate ∧
      percent? (9995 * 10 ^ 21) (10 ^ 25 - 1) = some rate' ∧ rate.le rate' = true := by
  obtain ⟨-, -, rate, hrate, nearest, -, -⟩ := percent?_exact.1 (9995 * 10 ^ 21 - 1) (10 ^ 25 - 1)
    (by norm_num) (by norm_num) (by norm_num) (by norm_num)
  have mono := percent?_exact.2.1 (9995 * 10 ^ 21 - 1) (9995 * 10 ^ 21) (10 ^ 25 - 1)
    (by norm_num) (by norm_num) (by norm_num) (by norm_num) (by norm_num)
  refine ⟨?_, ?_, ⟨rate, hrate, nearest⟩, mono.2⟩
  · norm_num [exactTenths]
  · norm_num [exactTenths]

end Courier.Rate

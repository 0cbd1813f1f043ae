import Courier.Double.Digits
import Courier.Proofs.Double.Rounding

/-!
# The shortest digits of a number

Seventeen decimal digits tell a number of the format from its neighbours: they leave an error of
one part in `2 * 10 ^ 16` at most, and a quotient that close to a number is rounded to it
(`Double.ofRatio_of_near`). So the search of `Double.shortest` for digits that read back ends
with some (`Double.shortest_spec`).
-/

namespace Courier.Double

variable {num den num' den' m : ℕ} {e : ℤ}

/-! ## Equal quotients -/

theorem nearest_mul_right {k : ℕ} (pos : 0 < k) (num den : ℕ) :
    nearest (num * k) (den * k) = nearest num den := by
  unfold nearest
  dsimp only
  rw [Nat.mul_div_mul_right _ _ pos, Nat.mul_mod_mul_right, ← Nat.mul_assoc]
  simp only [Nat.mul_lt_mul_right pos]

theorem nearest_congr (hden : 0 < den) (hden' : 0 < den') (h : (num : ℚ) / den = num' / den') :
    nearest num den = nearest num' den' := by
  have cross : num * den' = num' * den := by
    have := (div_eq_div_iff (Nat.cast_ne_zero.mpr hden.ne') (Nat.cast_ne_zero.mpr hden'.ne')).mp h
    exact_mod_cast this
  rw [← nearest_mul_right hden' num den, cross, Nat.mul_comm den den', nearest_mul_right hden]

/-- The conditions under which a grid is that of a quotient. -/
theorem exponentOf_eq (hnum : 0 < num) (hden : 0 < den) (fine : leastExponent ≤ e)
    (below : (num : ℚ) / den < 2 ^ (e + 53))
    (full : e = leastExponent ∨ (2 : ℚ) ^ (e + 52) ≤ num / den) : exponentOf num den = e := by
  have fine' : leastExponent ≤ exponentOf num den := le_max_right _ _
  obtain ⟨below', full'⟩ := exponentOf_spec hnum hden
  have least : ∀ {a b : ℤ}, (2 : ℚ) ^ (a + 52) ≤ num / den → (num : ℚ) / den < 2 ^ (b + 53) →
      a ≤ b := by
    intro a b ha hb
    have := (zpow_lt_zpow_iff_right₀ (by norm_num : (1 : ℚ) < 2)).mp (ha.trans_lt hb)
    omega
  refine le_antisymm ?_ ?_
  · rcases full' with h | h
    · omega
    · exact least h below
  · rcases full with h | h
    · omega
    · exact least h below'

/-- The same conditions, for the quotient counted in steps of the grid. -/
theorem exponentOf_eq_of_steps (hnum : 0 < num) (hden : 0 < den) (fine : leastExponent ≤ e)
    (below : (num : ℚ) / den / 2 ^ e < 2 ^ 53)
    (full : e = leastExponent ∨ (2 : ℚ) ^ 52 ≤ num / den / 2 ^ e) : exponentOf num den = e := by
  have unit := two_zpow_pos e
  have steps : ∀ k : ℕ, (2 : ℚ) ^ (e + k) = 2 ^ k * 2 ^ e := fun k => by
    rw [add_comm, zpow_add₀ (by norm_num), zpow_natCast]
  refine exponentOf_eq hnum hden fine ?_ (full.imp_right fun h => ?_)
  · exact ((div_lt_iff₀ unit).mp below).trans_eq (steps 53).symm
  · exact (steps 52).trans_le ((le_div_iff₀ unit).mp h)

theorem exponentOf_congr (hnum : 0 < num) (hnum' : 0 < num') (hden : 0 < den) (hden' : 0 < den')
    (h : (num : ℚ) / den = num' / den') : exponentOf num den = exponentOf num' den' := by
  obtain ⟨below, full⟩ := exponentOf_spec hnum' hden'
  exact exponentOf_eq hnum hden (le_max_right _ _) (h ▸ below) (h ▸ full)

theorem nearestScaled_congr (hden : 0 < den) (hden' : 0 < den')
    (h : (num : ℚ) / den = num' / den') (e : ℤ) :
    nearestScaled num den e = nearestScaled num' den' e := by
  obtain ⟨n, d, hd, hn, ratio⟩ := exists_nearestScaled hden num e
  obtain ⟨n', d', hd', hn', ratio'⟩ := exists_nearestScaled hden' num' e
  rw [hn, hn']
  exact nearest_congr hd hd' (by rw [ratio, ratio', h])

/-- Equal quotients are rounded to the same number. -/
theorem ofRatio_congr (hden : 0 < den) (hden' : 0 < den') (h : (num : ℚ) / den = num' / den')
    (negative : Bool) : ofRatio negative num den = ofRatio negative num' den' := by
  have zero : num = 0 ↔ num' = 0 := by
    have pos : (den : ℚ) ≠ 0 := Nat.cast_ne_zero.mpr hden.ne'
    have pos' : (den' : ℚ) ≠ 0 := Nat.cast_ne_zero.mpr hden'.ne'
    rw [← Nat.cast_eq_zero (R := ℚ), ← div_eq_zero_iff.trans (or_iff_left pos), h,
      div_eq_zero_iff.trans (or_iff_left pos'), Nat.cast_eq_zero]
  by_cases hnum : num = 0
  · rw [ofRatio, ofRatio, if_pos hnum, if_pos (zero.mp hnum)]
  · have hnum' : num' ≠ 0 := fun h' => hnum (zero.mpr h')
    rw [ofRatio, ofRatio, if_neg hnum, if_neg hnum',
      exponentOf_congr (Nat.pos_of_ne_zero hnum) (Nat.pos_of_ne_zero hnum') hden hden' h]
    dsimp only
    rw [nearestScaled_congr hden hden' h]

/-- The sign has no part in the rounding. -/
theorem ofRatio_eq_finite (h : ofRatio false num den = finite false m e) (negative : Bool) :
    ofRatio negative num den = finite negative m e := by
  by_cases zero : num = 0
  · rw [ofRatio, if_pos zero] at h ⊢
    cases h
    rfl
  · rw [ofRatio, if_neg zero] at h ⊢
    dsimp only at h ⊢
    split at h <;> rename_i bits
    · rw [if_pos bits]
      split at h <;> rename_i range <;> cases h
      rw [if_neg range]
    · rw [if_neg bits]
      split at h <;> rename_i range <;> cases h
      rw [if_neg range]

/-! ## Quotients close to a number -/

/-- Whether a mantissa and an exponent are those of a number of the format: what the format can
hold, with no fewer bits than it can. -/
structure IsNormal (m : ℕ) (e : ℤ) : Prop where
  small : m < 2 ^ 53
  fine : leastExponent ≤ e
  coarse : e ≤ greatestExponent
  full : e = leastExponent ∨ 2 ^ 52 ≤ m

theorem nearestScaled_eq (hden : 0 < den) (near : |(m : ℚ) - num / den / 2 ^ e| < 1 / 2) :
    nearestScaled num den e = m := by
  obtain ⟨n, d, hd, hn, ratio⟩ := exists_nearestScaled hden num e
  rw [← ratio] at near
  have nearer := (abs_nearest_sub_le hd n m).trans_lt near
  have apart : |(nearest n d : ℚ) - m| < 1 := by
    have := abs_sub_le (nearest n d : ℚ) (n / d) m
    rw [abs_sub_comm ((n : ℚ) / d)] at this
    linarith
  have close : |(nearest n d : ℤ) - m| < 1 := by exact_mod_cast apart
  rw [hn]
  have := abs_lt.mp close
  omega

/-- A quotient is rounded to a number of its own exponent that is less than half a step away. -/
theorem ofRatio_of_exponentOf (hnum : 0 < num) (hden : 0 < den) (small : m < 2 ^ 53)
    (coarse : e ≤ greatestExponent) (hE : exponentOf num den = e)
    (near : |(m : ℚ) - num / den / 2 ^ e| < 1 / 2) :
    ofRatio false num den = finite false m e := by
  have hN := nearestScaled_eq hden near
  rw [ofRatio, if_neg hnum.ne', hE]
  dsimp only
  rw [hN, if_neg (show m ≠ Nat.pow 2 53 from small.ne), if_neg (by omega)]

/-- Just below a power of two the grid is finer, and a quotient may be rounded up to that power. -/
theorem ofRatio_of_exponentOf_pred (hnum : 0 < num) (hden : 0 < den)
    (coarse : e ≤ greatestExponent) (hE : exponentOf num den = e - 1)
    (near : |((2 ^ 53 : ℕ) : ℚ) - num / den / 2 ^ (e - 1)| < 1 / 2) :
    ofRatio false num den = finite false (2 ^ 52) e := by
  have hN := nearestScaled_eq hden near
  rw [ofRatio, if_neg hnum.ne', hE]
  dsimp only
  rw [hN, if_pos (show 2 ^ 53 = Nat.pow 2 53 from rfl)]
  dsimp only
  rw [show e - 1 + 1 = e by omega, if_neg (by omega)]
  rfl

/-- A quotient that is within one part in `2 * 10 ^ 16` of a number is rounded to it. -/
theorem ofRatio_of_near (hnum : 0 < num) (hden : 0 < den) (normal : IsNormal m e)
    (near : |(m : ℚ) - num / den / 2 ^ e| * (2 * 10 ^ 16) ≤ m) :
    ofRatio false num den = finite false m e := by
  obtain ⟨small, fine, coarse, full⟩ := normal
  have doubled : (num : ℚ) / den / 2 ^ (e - 1) = 2 * (num / den / 2 ^ e) := by
    rw [zpow_sub_one₀ (by norm_num), ← div_div, div_inv_eq_mul, mul_comm]
  have small' : (m : ℚ) ≤ 9007199254740991 := by
    have : m ≤ 9007199254740991 := by omega
    exact_mod_cast this
  rw [← le_div_iff₀ (by norm_num), abs_le] at near
  obtain ⟨above, beneath⟩ := near
  by_cases wide : e = leastExponent ∨ (2 : ℚ) ^ 52 ≤ num / den / 2 ^ e
  · refine ofRatio_of_exponentOf hnum hden small coarse ?_ ?_
    · refine exponentOf_eq_of_steps hnum hden fine ?_ wide
      norm_num at above ⊢
      linarith
    · rw [abs_lt]
      norm_num at above beneath ⊢
      constructor <;> linarith
  · -- The quotient lies below the power of two that the number is.
    rw [not_or, not_le] at wide
    obtain ⟨coarser, less⟩ := wide
    have least : 2 ^ 52 ≤ m := full.resolve_left coarser
    obtain rfl : m = 2 ^ 52 := by
      by_contra more
      have next : 2 ^ 52 + 1 ≤ m := by omega
      have next' : (4503599627370497 : ℚ) ≤ m := by exact_mod_cast next
      norm_num at beneath less
      linarith only [beneath, next', less]
    refine ofRatio_of_exponentOf_pred hnum hden coarse ?_ ?_
    · refine exponentOf_eq_of_steps hnum hden (by omega) ?_ (.inr ?_) <;> rw [doubled]
      · norm_num at less ⊢
        linarith
      · norm_num at beneath ⊢
        linarith
    · rw [doubled, abs_lt]
      norm_num at above beneath ⊢
      constructor <;> linarith

/-! ## Decimals -/

theorem cast_pow_toNat {b : ℕ} {e : ℤ} (h : 0 ≤ e) :
    ((Nat.pow b e.toNat : ℕ) : ℚ) = (b : ℚ) ^ e := by
  rw [Nat.pow_eq, Nat.cast_pow, ← zpow_natCast, Int.toNat_of_nonneg h]

theorem cast_pow_neg_toNat {b : ℕ} {e : ℤ} (h : ¬0 ≤ e) :
    ((Nat.pow b (-e).toNat : ℕ) : ℚ) = ((b : ℚ) ^ e)⁻¹ := by
  rw [cast_pow_toNat (by omega), zpow_neg]

/-- A decimal that is not cut off is rounded as a quotient. -/
theorem exists_ofDecimal {digits : ℕ} {scale : ℤ} (nonzero : digits ≠ 0) (low : -400 ≤ scale)
    (high : scale ≤ 400) : ∃ num den : ℕ, 0 < num ∧ 0 < den ∧
      (num : ℚ) / den = digits * 10 ^ scale ∧
      ∀ negative, ofDecimal negative digits scale = ofRatio negative num den := by
  have cut : ∀ negative, ofDecimal negative digits scale =
      if 0 ≤ scale then ofRatio negative (digits * Nat.pow 10 scale.toNat) 1
      else ofRatio negative digits (Nat.pow 10 (-scale).toNat) := by
    intro negative
    rw [ofDecimal, if_neg nonzero, if_neg (by omega), if_neg (by omega)]
  by_cases whole : 0 ≤ scale
  · refine ⟨digits * Nat.pow 10 scale.toNat, 1, ?_, Nat.one_pos, ?_, fun negative => ?_⟩
    · exact Nat.mul_pos (Nat.pos_of_ne_zero nonzero) (Nat.pow_pos (by decide))
    · rw [Nat.cast_mul, cast_pow_toNat whole, Nat.cast_one, div_one, Nat.cast_ofNat]
    · rw [cut, if_pos whole]
  · refine ⟨digits, Nat.pow 10 (-scale).toNat, Nat.pos_of_ne_zero nonzero,
      Nat.pow_pos (by decide), ?_, fun negative => ?_⟩
    · rw [cast_pow_neg_toNat whole, div_inv_eq_mul, Nat.cast_ofNat]
    · rw [cut, if_neg whole]

/-- Equal decimals are rounded to the same number. -/
theorem ofDecimal_congr {digits digits' : ℕ} {scale scale' : ℤ} (nonzero : digits ≠ 0)
    (nonzero' : digits' ≠ 0) (low : -400 ≤ scale) (high : scale ≤ 400) (low' : -400 ≤ scale')
    (high' : scale' ≤ 400) (h : (digits : ℚ) * 10 ^ scale = digits' * 10 ^ scale')
    (negative : Bool) :
    ofDecimal negative digits scale = ofDecimal negative digits' scale' := by
  obtain ⟨num, den, -, hden, ratio, rounded⟩ := exists_ofDecimal nonzero low high
  obtain ⟨num', den', -, hden', ratio', rounded'⟩ := exists_ofDecimal nonzero' low' high'
  rw [rounded, rounded']
  exact ofRatio_congr hden hden' (by rw [ratio, ratio', h]) negative

theorem fraction_spec (m : ℕ) (e : ℤ) : 0 < (fraction m e).2 ∧
    ((fraction m e).1 : ℚ) / (fraction m e).2 = m * 2 ^ e := by
  unfold fraction
  split
  · rename_i whole
    refine ⟨Nat.one_pos, ?_⟩
    rw [Nat.cast_mul, cast_pow_toNat whole, Nat.cast_one, div_one, Nat.cast_ofNat]
  · rename_i whole
    refine ⟨Nat.pow_pos (by decide), ?_⟩
    rw [cast_pow_neg_toNat whole, div_inv_eq_mul, Nat.cast_ofNat]

theorem overPowerOfTen_spec (hden : 0 < den) (num : ℕ) (scale : ℤ) :
    0 < (overPowerOfTen num den scale).2 ∧
      ((overPowerOfTen num den scale).1 : ℚ) / (overPowerOfTen num den scale).2 =
        num / den / 10 ^ scale := by
  unfold overPowerOfTen
  split
  · rename_i whole
    refine ⟨Nat.mul_pos hden (Nat.pow_pos (by decide)), ?_⟩
    rw [Nat.cast_mul, cast_pow_toNat whole, div_div, Nat.cast_ofNat]
  · rename_i whole
    refine ⟨hden, ?_⟩
    rw [Nat.cast_mul, cast_pow_neg_toNat whole, ← div_eq_mul_inv, div_right_comm, Nat.cast_ofNat]

theorem ten_zpow_pos (k : ℤ) : (0 : ℚ) < 10 ^ k := zpow_pos (by norm_num) k

theorem lt_pow_digitCount (n : ℕ) : n < 10 ^ digitCount n :=
  (Nat.length_toDigits_le_iff (by decide) Nat.length_toDigits_pos).mp (Nat.le_refl _)

theorem digitCount_pos (n : ℕ) : 0 < digitCount n := Nat.length_toDigits_pos

theorem pow_digitCount_le {n : ℕ} (pos : 0 < n) : 10 ^ (digitCount n - 1) ≤ n := by
  rcases Nat.eq_zero_or_pos (digitCount n - 1) with one | more
  · rw [one]
    exact pos
  · by_contra less
    have := (Nat.length_toDigits_le_iff (by decide) more).mpr (not_le.mp less)
    have := digitCount_pos n
    unfold digitCount at *
    omega

/-- The integer just below the reciprocal of a quotient that is less than one. -/
theorem reciprocal_bounds {c : ℕ} (hnum : 0 < num) (part : num < den)
    (hc : c = (den + num - 1) / num - 1) : 0 < c ∧ num * c < den ∧ den ≤ num * (c + 1) := by
  have positive : 2 ≤ (den + num - 1) / num := (Nat.le_div_iff_mul_le hnum).mpr (by omega)
  have parts := Nat.div_add_mod (den + num - 1) num
  have rest := Nat.mod_lt (den + num - 1) hnum
  rw [show (den + num - 1) / num = c + 1 by omega, Nat.mul_succ] at parts
  rw [Nat.mul_succ]
  omega

/-- A positive quotient lies just below the power of ten that its magnitude tells. -/
theorem magnitude_spec (hnum : 0 < num) (hden : 0 < den) :
    (10 : ℚ) ^ (magnitude num den - 1) ≤ num / den ∧ (num : ℚ) / den < 10 ^ magnitude num den := by
  have pos : (0 : ℚ) < den := by exact_mod_cast hden
  unfold magnitude
  split
  · rename_i whole
    have count := digitCount_pos (num / den)
    have low := pow_digitCount_le (Nat.div_pos whole hden)
    have high := lt_pow_digitCount (num / den)
    rw [Nat.le_div_iff_mul_le hden] at low
    rw [Nat.div_lt_iff_lt_mul hden] at high
    rw [le_div_iff₀ pos, div_lt_iff₀ pos, ← Nat.cast_one, ← Nat.cast_sub count, zpow_natCast,
      zpow_natCast]
    exact ⟨by exact_mod_cast low, by exact_mod_cast high⟩
  · -- The digits that are counted are those of the integer just below the reciprocal.
    rename_i part
    obtain ⟨positive, less, most⟩ := reciprocal_bounds hnum (Nat.not_le.mp part) rfl
    set c := (den + num - 1) / num - 1
    have count := digitCount_pos c
    have low : num * 10 ^ (digitCount c - 1) < den :=
      (Nat.mul_le_mul_left _ (pow_digitCount_le positive)).trans_lt less
    have high : den ≤ num * 10 ^ digitCount c :=
      most.trans (Nat.mul_le_mul_left _ (lt_pow_digitCount c))
    rw [show (1 : ℤ) - digitCount c - 1 = -(digitCount c : ℤ) by omega,
      show (1 : ℤ) - digitCount c = -((digitCount c - 1 : ℕ) : ℤ) by omega, zpow_neg, zpow_neg,
      zpow_natCast, zpow_natCast, inv_le_iff_one_le_mul₀ (by positivity), div_lt_iff₀ pos,
      ← div_eq_inv_mul, lt_div_iff₀ (by positivity), ← mul_div_right_comm, one_le_div₀ pos]
    exact ⟨by exact_mod_cast high, by exact_mod_cast low⟩

/-- On a fine grid of decimals, one that is at most half a step from a number is rounded to it. -/
theorem ofDecimal_of_near {scale : ℤ} (normal : IsNormal m e) (low : -400 ≤ scale)
    (high : scale ≤ 400) (grid : (10 : ℚ) ^ scale * 10 ^ 16 ≤ m * 2 ^ e) {c : ℕ} (nonzero : c ≠ 0)
    (half : |(m : ℚ) * 2 ^ e / 10 ^ scale - c| ≤ 1 / 2) :
    ofDecimal false c scale = finite false m e := by
  obtain ⟨num, den, hnum, hden, value, rounded⟩ := exists_ofDecimal nonzero low high
  rw [rounded]
  refine ofRatio_of_near hnum hden normal ?_
  have unit := ten_zpow_pos scale
  have unit' := two_zpow_pos e
  have error : (m : ℚ) - num / den / 2 ^ e =
      (m * 2 ^ e / 10 ^ scale - c) * (10 ^ scale / 2 ^ e) := by
    rw [value]
    field_simp
  calc |(m : ℚ) - num / den / 2 ^ e| * (2 * 10 ^ 16)
      = |(m : ℚ) * 2 ^ e / 10 ^ scale - c| * (10 ^ scale / 2 ^ e * (2 * 10 ^ 16)) := by
        rw [error, abs_mul, abs_of_pos (div_pos unit unit'), mul_assoc]
    _ ≤ 1 / 2 * (10 ^ scale / 2 ^ e * (2 * 10 ^ 16)) :=
        mul_le_mul_of_nonneg_right half (by positivity)
    _ = 10 ^ scale * 10 ^ 16 / 2 ^ e := by ring
    _ ≤ m := (div_le_iff₀ unit').mpr grid

/-- The same for a number that is counted in steps of the grid as a quotient of integers. -/
theorem ofDecimal_of_steps {scale : ℤ} (normal : IsNormal m e) (low : -400 ≤ scale)
    (high : scale ≤ 400) (grid : (10 : ℚ) ^ scale * 10 ^ 16 ≤ m * 2 ^ e) (hden : 0 < den)
    (steps : (num : ℚ) / den = m * 2 ^ e / 10 ^ scale) {c : ℕ} (nonzero : c ≠ 0)
    (above : 2 * (c * den) ≤ 2 * num + den) (below : 2 * num ≤ 2 * (c * den) + den) :
    ofDecimal false c scale = finite false m e := by
  refine ofDecimal_of_near normal low high grid nonzero ?_
  have pos : (0 : ℚ) < den := by exact_mod_cast hden
  have above' : (2 : ℚ) * (c * den) ≤ 2 * num + den := by exact_mod_cast above
  have below' : (2 : ℚ) * num ≤ 2 * (c * den) + den := by exact_mod_cast below
  rw [← steps, abs_le, neg_le_sub_iff_le_add, sub_le_iff_le_add, div_le_iff₀ pos,
    ← sub_le_iff_le_add, le_div_iff₀ pos]
  constructor <;> linarith

/-! ## The search -/

/-- Of the two decimals around a number, the first one tried reads back if the grid is fine. -/
theorem exists_onGrid? {scale : ℤ} (normal : IsNormal m e) (low : -400 ≤ scale)
    (high : scale ≤ 400) (grid : (10 : ℚ) ^ scale * 10 ^ 16 ≤ m * 2 ^ e) :
    ∃ digits, onGrid? m e scale = some digits := by
  obtain ⟨hden, ratio⟩ := fraction_spec m e
  obtain ⟨hd, steps⟩ := overPowerOfTen_spec hden (fraction m e).1 scale
  rw [ratio] at steps
  unfold onGrid?
  dsimp only
  set n := (overPowerOfTen (fraction m e).1 (fraction m e).2 scale).1
  set d := (overPowerOfTen (fraction m e).1 (fraction m e).2 scale).2
  have floor : 10 ^ 16 ≤ n / d := by
    have large : (10 : ℚ) ^ 16 ≤ n / d := by
      rw [steps, le_div_iff₀ (ten_zpow_pos scale), mul_comm]
      exact grid
    rw [Nat.le_div_iff_mul_le hd]
    rw [le_div_iff₀ (by exact_mod_cast hd)] at large
    exact_mod_cast large
  have reads := @ofDecimal_of_steps n d m e scale normal low high grid hd steps
  have parts := Nat.div_add_mod' n d
  have rest := Nat.mod_lt n hd
  by_cases first : (2 * (n % d) < d || (2 * (n % d) == d && n / d % 2 == 0)) = true
  · rw [if_pos first]
    have down : 2 * (n % d) ≤ d := by
      simp only [Bool.or_eq_true, Bool.and_eq_true, decide_eq_true_eq, beq_iff_eq] at first
      omega
    refine ⟨n / d, List.find?_cons_of_pos ?_⟩
    rw [reads (by omega) (by omega) (by omega), beq_self_eq_true]
  · rw [if_neg first]
    have up : d ≤ 2 * (n % d) := by
      simp only [Bool.or_eq_true, decide_eq_true_eq, not_or] at first
      omega
    refine ⟨n / d + 1, List.find?_cons_of_pos ?_⟩
    have next : (n / d + 1) * d = n / d * d + d := Nat.succ_mul _ _
    rw [reads (by omega) (by omega) (by omega), beq_self_eq_true]

theorem ofDecimal_of_onGrid? {scale : ℤ} {digits : ℕ} (h : onGrid? m e scale = some digits) :
    ofDecimal false digits scale = finite false m e := by
  unfold onGrid? at h
  dsimp only at h
  exact beq_iff_eq.mp (List.find?_some h :)

/-- The search ends on the first grid that has digits that read back. -/
theorem shortestFrom_spec {top : ℤ} : ∀ {fuel count i : ℕ}, count ≤ i → i < count + fuel →
    (∃ digits, onGrid? m e (top - i) = some digits) → ∃ (c digits : ℕ), count ≤ c ∧
      c < count + fuel ∧ shortestFrom m e top fuel count = (digits, top - c) ∧
      onGrid? m e (top - c) = some digits
  | 0, _, _, _, _, _ => by omega
  | fuel + 1, count, i, low, high, h => by
    rw [shortestFrom]
    cases here : onGrid? m e (top - count) with
    | some digits => exact ⟨count, digits, le_rfl, by omega, rfl, here⟩
    | none =>
      have later : count ≠ i := by
        rintro rfl
        obtain ⟨digits, hdigits⟩ := h
        rw [here] at hdigits
        cases hdigits
      have low' : count + 1 ≤ i := by omega
      have high' : i < count + 1 + fuel := by omega
      obtain ⟨c, digits, hc, hc', found⟩ := shortestFrom_spec low' high' h
      exact ⟨c, digits, by omega, by omega, found⟩

/-- A decimal without its last zeros is the same. -/
theorem stripZeros_spec : ∀ (fuel : ℕ) {digits : ℕ} (scale : ℤ), digits ≠ 0 →
    (stripZeros fuel digits scale).1 ≠ 0 ∧ scale ≤ (stripZeros fuel digits scale).2 ∧
      (stripZeros fuel digits scale).2 ≤ scale + fuel ∧
      ((stripZeros fuel digits scale).1 : ℚ) * 10 ^ (stripZeros fuel digits scale).2 =
        digits * 10 ^ scale
  | 0, _, scale, h => ⟨h, le_rfl, by simp [stripZeros], rfl⟩
  | fuel + 1, digits, scale, h => by
    rw [stripZeros]
    split
    · rename_i zero
      obtain ⟨nonzero, low, high, value⟩ :=
        stripZeros_spec fuel (scale + 1) (show digits / 10 ≠ 0 by omega)
      refine ⟨nonzero, by omega, by omega, value.trans ?_⟩
      have split : (digits : ℚ) = (digits / 10 : ℕ) * 10 := by
        have : digits = digits / 10 * 10 := by omega
        exact_mod_cast this
      rw [split, zpow_add_one₀ (by norm_num)]
      ring
    · exact ⟨h, le_rfl, by omega, rfl⟩

/-- Three bits are less than a decimal digit. -/
theorem two_pow_lt_ten_pow {k : ℕ} (h : k ≠ 0) : (2 : ℚ) ^ (3 * k) < 10 ^ k := by
  rw [pow_mul]
  exact pow_lt_pow_left₀ (by norm_num) (by norm_num) h

/-- The magnitude of a number of the format is far from where decimals are cut off. -/
theorem magnitude_bounds (normal : IsNormal m e) (pos : 0 < m) {top : ℤ}
    (low : (10 : ℚ) ^ (top - 1) ≤ m * 2 ^ e) (high : (m : ℚ) * 2 ^ e < 10 ^ top) :
    -358 < top ∧ top ≤ 342 := by
  constructor
  · have least : (10 : ℚ) ^ (-358 : ℤ) < 10 ^ top := by
      calc (10 : ℚ) ^ (-358 : ℤ) = (10 ^ 358)⁻¹ := by rw [zpow_neg, zpow_ofNat]
        _ < (2 ^ (3 * 358))⁻¹ := inv_strictAnti₀ (by positivity) (two_pow_lt_ten_pow (by decide))
        _ = 1 * 2 ^ leastExponent := by rw [one_mul, leastExponent, zpow_neg, zpow_ofNat]
        _ ≤ m * 2 ^ e := by
            refine mul_le_mul (by exact_mod_cast pos) ?_ (two_zpow_pos _).le (Nat.cast_nonneg m)
            exact zpow_le_zpow_right₀ (by norm_num) normal.fine
        _ < 10 ^ top := high
    exact (zpow_lt_zpow_iff_right₀ (by norm_num)).mp least
  · have greatest : (10 : ℚ) ^ (top - 1) < 10 ^ (342 : ℤ) := by
      calc (10 : ℚ) ^ (top - 1) ≤ m * 2 ^ e := low
        _ ≤ 2 ^ (53 : ℤ) * 2 ^ greatestExponent := by
            refine mul_le_mul (by exact_mod_cast normal.small.le) ?_ (two_zpow_pos _).le
              (two_zpow_pos _).le
            exact zpow_le_zpow_right₀ (by norm_num) normal.coarse
        _ ≤ 2 ^ (3 * 342) := by
            rw [← zpow_add₀ (by norm_num), ← zpow_natCast]
            exact zpow_le_zpow_right₀ (by norm_num) (by decide)
        _ < 10 ^ 342 := two_pow_lt_ten_pow (by decide)
        _ = 10 ^ (342 : ℤ) := (zpow_natCast 10 342).symm
    have := (zpow_lt_zpow_iff_right₀ (by norm_num)).mp greatest
    omega

/-- The shortest digits of a number read back as the number. -/
theorem shortest_spec (normal : IsNormal m e) (pos : 0 < m) :
    (shortest m e).1 ≠ 0 ∧ -400 ≤ (shortest m e).2 ∧ (shortest m e).2 ≤ 400 ∧
      ∀ negative, ofDecimal negative (shortest m e).1 (shortest m e).2 = finite negative m e := by
  obtain ⟨hden, ratio⟩ := fraction_spec m e
  have hnum : 0 < (fraction m e).1 := by
    have pos' : (0 : ℚ) < (fraction m e).2 := by exact_mod_cast hden
    have : (0 : ℚ) < (fraction m e).1 := by
      rw [← div_pos_iff_of_pos_right pos', ratio]
      exact mul_pos (by exact_mod_cast pos) (two_zpow_pos e)
    exact_mod_cast this
  obtain ⟨below, above⟩ := magnitude_spec hnum hden
  have result : shortest m e = stripZeros 18
      (shortestFrom m e (magnitude (fraction m e).1 (fraction m e).2) 17 1).1
      (shortestFrom m e (magnitude (fraction m e).1 (fraction m e).2) 17 1).2 := rfl
  set top := magnitude (fraction m e).1 (fraction m e).2
  rw [ratio] at below above
  obtain ⟨low, high⟩ := magnitude_bounds normal pos below above
  have last : ∃ digits, onGrid? m e (top - (17 : ℕ)) = some digits := by
    refine exists_onGrid? normal (by omega) (by omega) ?_
    rw [← zpow_natCast, ← zpow_add₀ (by norm_num),
      show top - (17 : ℕ) + (16 : ℕ) = top - 1 by omega]
    exact below
  obtain ⟨c, digits, hc, hc', found, grid⟩ := shortestFrom_spec (show 1 ≤ 17 by omega)
    (show 17 < 1 + 17 by omega) last
  have reads := ofDecimal_of_onGrid? grid
  have nonzero : digits ≠ 0 := by
    rintro rfl
    rw [ofDecimal, if_pos rfl] at reads
    cases reads
    exact pos.ne rfl
  obtain ⟨nonzero', low', high', value⟩ := stripZeros_spec 18 (top - c) nonzero
  rw [result, found]
  dsimp only
  refine ⟨nonzero', by omega, by omega, fun negative => ?_⟩
  rw [ofDecimal_congr nonzero' nonzero (by omega) (by omega) (by omega) (by omega) value]
  obtain ⟨num, den, -, -, -, rounded⟩ :=
    exists_ofDecimal nonzero (show -400 ≤ top - c by omega) (by omega)
  rw [rounded] at reads ⊢
  exact ofRatio_eq_finite reads negative

end Courier.Double

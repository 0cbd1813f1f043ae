import Courier.Proofs.Double.Value
import Mathlib.Algebra.Order.Archimedean.Real.Basic
import Mathlib.Tactic.FieldSimp

/-!
# Rounding to floating point numbers

`Double.nearest` takes a quotient to the nearest integer, and `Double.exponentOf` finds the grid on
which a quotient has a mantissa of 53 bits (`Double.exponentOf_spec`). So no number of the format is
nearer to a quotient than the one that it is rounded to (`Double.isNearest_ofRatio`), and a greater
quotient is not rounded to a smaller number (`Double.ofRatio_mono`).
-/

namespace Courier.Double

/-! ## The nearest integer -/

theorem nearest_cases (num den : ℕ) :
    (nearest num den = num / den ∧ 2 * (num % den) ≤ den) ∨
      (nearest num den = num / den + 1 ∧ den ≤ 2 * (num % den)) := by
  unfold nearest
  dsimp only
  split
  · exact .inl ⟨rfl, by omega⟩
  · split
    · exact .inr ⟨rfl, by omega⟩
    · split
      · exact .inl ⟨rfl, by omega⟩
      · exact .inr ⟨rfl, by omega⟩

variable {num den : ℕ}

/-- The nearest integer is above the quotient by one half at most. -/
theorem two_mul_nearest_le (num den : ℕ) : 2 * (nearest num den * den) ≤ 2 * num + den := by
  have parts := Nat.div_add_mod' num den
  rcases nearest_cases num den with ⟨h, _⟩ | ⟨h, _⟩ <;> rw [h]
  · omega
  · rw [Nat.succ_mul (num / den)]
    omega

/-- It is below the quotient by one half at most. -/
theorem le_two_mul_nearest (pos : 0 < den) (num : ℕ) :
    2 * num ≤ 2 * (nearest num den * den) + den := by
  have parts := Nat.div_add_mod' num den
  have := Nat.mod_lt num pos
  rcases nearest_cases num den with ⟨h, _⟩ | ⟨h, _⟩ <;> rw [h]
  · omega
  · rw [Nat.succ_mul (num / den)]
    omega

theorem le_nearest {k : ℕ} (pos : 0 < den) (h : k * den ≤ num) : k ≤ nearest num den := by
  have floor : k ≤ num / den := (Nat.le_div_iff_mul_le pos).mpr h
  rcases nearest_cases num den with ⟨h, _⟩ | ⟨h, _⟩ <;> omega

theorem nearest_le {k : ℕ} (pos : 0 < den) (h : num ≤ k * den) : nearest num den ≤ k := by
  have bound := two_mul_nearest_le num den
  by_contra above
  have : (k + 1) * den ≤ nearest num den * den := Nat.mul_le_mul_right _ (by omega)
  rw [Nat.succ_mul] at this
  omega

/-- Greater quotients have no smaller nearest integers. -/
theorem nearest_mono {num' : ℕ} (den : ℕ) (h : num ≤ num') :
    nearest num den ≤ nearest num' den := by
  have floor : num / den ≤ num' / den := Nat.div_le_div_right h
  rcases floor.lt_or_eq with hlt | heq
  · rcases nearest_cases num den with ⟨hn, _⟩ | ⟨hn, _⟩ <;>
      rcases nearest_cases num' den with ⟨hn', _⟩ | ⟨hn', _⟩ <;> omega
  · -- With equal floors the remainders decide, unless both are ties and the quotients are equal.
    have parts := Nat.div_add_mod' num den
    have parts' := Nat.div_add_mod' num' den
    rw [heq] at parts
    rcases nearest_cases num den with ⟨hn, _⟩ | ⟨hn, up⟩
    · rcases nearest_cases num' den with ⟨hn', _⟩ | ⟨hn', _⟩ <;> omega
    · rcases nearest_cases num' den with ⟨hn', down⟩ | ⟨hn', _⟩
      · obtain rfl : num = num' := by omega
        exact Nat.le_refl _
      · omega

/-- No integer is nearer to a quotient. -/
theorem abs_nearest_sub_le (pos : 0 < den) (num : ℕ) (k : ℤ) :
    |(nearest num den : ℚ) - num / den| ≤ |(k : ℚ) - num / den| := by
  have hden : (0 : ℚ) < den := by exact_mod_cast pos
  have above : (2 : ℚ) * (nearest num den * den) ≤ 2 * num + den := by
    exact_mod_cast two_mul_nearest_le num den
  have below : (2 : ℚ) * num ≤ 2 * (nearest num den * den) + den := by
    exact_mod_cast le_two_mul_nearest pos num
  have above' : (nearest num den : ℚ) - num / den ≤ 1 / 2 := by
    rw [sub_le_iff_le_add, ← sub_le_iff_le_add', le_div_iff₀ hden]
    linarith
  have below' : -(1 / 2) ≤ (nearest num den : ℚ) - num / den := by
    rw [neg_le_sub_iff_le_add, div_le_iff₀ hden]
    linarith
  by_cases same : (nearest num den : ℤ) = k
  · rw [← same]
    exact le_rfl
  · have apart : (1 : ℚ) ≤ |(nearest num den : ℚ) - k| := by
      exact_mod_cast Int.one_le_abs (sub_ne_zero.mpr same)
    have close : |(nearest num den : ℚ) - num / den| ≤ 1 / 2 := abs_le.mpr ⟨below', above'⟩
    have split := abs_sub_le (nearest num den : ℚ) (num / den) k
    rw [abs_sub_comm ((num : ℚ) / den) k] at split
    linarith

/-! ## The grid of a quotient -/

theorem two_zpow_log2_le {n : ℕ} (pos : 0 < n) : (2 : ℚ) ^ (n.log2 : ℤ) ≤ n := by
  have : 2 ^ n.log2 ≤ n := Nat.log2_self_le pos.ne'
  exact_mod_cast this

theorem lt_two_zpow_log2 (n : ℕ) : (n : ℚ) < 2 ^ ((n.log2 : ℤ) + 1) := by
  have : n < 2 ^ (n.log2 + 1) := Nat.lt_log2_self
  exact_mod_cast this

/-- A quotient lies within two powers of two, which its parts tell. -/
theorem div_bounds (hnum : 0 < num) (hden : 0 < den) :
    (2 : ℚ) ^ ((num.log2 : ℤ) - den.log2 - 1) < num / den ∧
      (num : ℚ) / den < 2 ^ ((num.log2 : ℤ) - den.log2 + 1) := by
  have pos : (0 : ℚ) < den := by exact_mod_cast hden
  constructor
  · rw [lt_div_iff₀ pos]
    calc (2 : ℚ) ^ ((num.log2 : ℤ) - den.log2 - 1) * den
        < 2 ^ ((num.log2 : ℤ) - den.log2 - 1) * 2 ^ ((den.log2 : ℤ) + 1) :=
          mul_lt_mul_of_pos_left (lt_two_zpow_log2 den) (two_zpow_pos _)
      _ = 2 ^ (num.log2 : ℤ) := by
          rw [← zpow_add₀ (by norm_num)]
          congr 1
          omega
      _ ≤ num := two_zpow_log2_le hnum
  · rw [div_lt_iff₀ pos]
    calc (num : ℚ) < 2 ^ ((num.log2 : ℤ) + 1) := lt_two_zpow_log2 num
      _ = 2 ^ ((num.log2 : ℤ) - den.log2 + 1) * 2 ^ (den.log2 : ℤ) := by
          rw [← zpow_add₀ (by norm_num)]
          congr 1
          omega
      _ ≤ 2 ^ ((num.log2 : ℤ) - den.log2 + 1) * den :=
          mul_le_mul_of_nonneg_left (two_zpow_log2_le hden) (two_zpow_pos _).le

/-- Whether a quotient fills a mantissa of 53 bits on a grid. -/
theorem full_iff (hden : 0 < den) (low : ℤ) :
    (if 0 ≤ low then den * Nat.pow 2 (53 + low.toNat) ≤ num
      else den * Nat.pow 2 53 ≤ num * Nat.pow 2 (-low).toNat) ↔
        (2 : ℚ) ^ (low + 53) ≤ num / den := by
  have pos : (0 : ℚ) < den := by exact_mod_cast hden
  rw [le_div_iff₀ pos]
  split
  · rename_i h
    have power : (2 : ℚ) ^ (low + 53) = ((2 ^ (53 + low.toNat) : ℕ) : ℚ) := by
      rw [Nat.cast_pow, ← zpow_natCast]
      congr 1
      omega
    rw [power, mul_comm, Nat.pow_eq]
    exact_mod_cast Iff.rfl
  · rename_i h
    have power : (2 : ℚ) ^ (low + 53) * 2 ^ (-low).toNat = 2 ^ 53 := by
      rw [← zpow_natCast, ← zpow_add₀ (by norm_num), ← zpow_natCast]
      congr 1
      omega
    rw [← mul_le_mul_iff_of_pos_right (show (0 : ℚ) < 2 ^ (-low).toNat by positivity),
      mul_right_comm, power, mul_comm ((2 : ℚ) ^ 53), Nat.pow_eq, Nat.pow_eq]
    exact_mod_cast Iff.rfl

/-- A quotient has a mantissa of at most 53 bits on its grid, and of no fewer unless the grid is the
finest one. -/
theorem exponentOf_spec (hnum : 0 < num) (hden : 0 < den) :
    (num : ℚ) / den < 2 ^ (exponentOf num den + 53) ∧ (exponentOf num den = leastExponent ∨
      (2 : ℚ) ^ (exponentOf num den + 52) ≤ num / den) := by
  obtain ⟨above, below⟩ := div_bounds hnum hden
  set low : ℤ := (num.log2 : ℤ) - den.log2 - 53 with hlow
  have exact : ∃ e : ℤ, exponentOf num den = max e leastExponent ∧
      (2 : ℚ) ^ (e + 52) ≤ num / den ∧ (num : ℚ) / den < 2 ^ (e + 53) := by
    unfold exponentOf
    dsimp only
    rw [← hlow]
    by_cases full : (2 : ℚ) ^ (low + 53) ≤ num / den
    · refine ⟨low + 1, ?_, ?_, ?_⟩
      · rw [if_pos ((full_iff hden low).mpr full)]
      · rwa [show low + 1 + 52 = low + 53 by omega]
      · rwa [show low + 1 + 53 = (num.log2 : ℤ) - den.log2 + 1 by omega]
    · refine ⟨low, ?_, ?_, not_le.mp full⟩
      · rw [if_neg fun h => full ((full_iff hden low).mp h)]
      · rw [show low + 52 = (num.log2 : ℤ) - den.log2 - 1 by omega]
        exact above.le
  obtain ⟨e, he, hle, hlt⟩ := exact
  rw [he]
  rcases le_total e leastExponent with h | h
  · rw [max_eq_right h]
    refine ⟨hlt.trans_le ?_, .inl rfl⟩
    exact zpow_le_zpow_right₀ (by norm_num) (by omega)
  · rw [max_eq_left h]
    exact ⟨hlt, .inr hle⟩

/-! ## The number that a quotient is rounded to -/

/-- A quotient is scaled exactly before it is rounded. -/
theorem exists_nearestScaled (hden : 0 < den) (num : ℕ) (e : ℤ) : ∃ n d : ℕ, 0 < d ∧
    nearestScaled num den e = nearest n d ∧ (n : ℚ) / d = num / den / 2 ^ e := by
  unfold nearestScaled
  split
  · rename_i h
    refine ⟨num, den * Nat.pow 2 e.toNat, Nat.mul_pos hden (Nat.two_pow_pos _), rfl, ?_⟩
    have power : ((Nat.pow 2 e.toNat : ℕ) : ℚ) = 2 ^ e := by
      rw [Nat.pow_eq, Nat.cast_pow, ← zpow_natCast, Int.toNat_of_nonneg h]
      rfl
    rw [Nat.cast_mul, power, div_div]
  · rename_i h
    refine ⟨num * Nat.pow 2 (-e).toNat, den, hden, rfl, ?_⟩
    have power : ((Nat.pow 2 (-e).toNat : ℕ) : ℚ) = (2 ^ e)⁻¹ := by
      rw [Nat.pow_eq, Nat.cast_pow, ← zpow_natCast, Int.toNat_of_nonneg (by omega), zpow_neg]
      rfl
    rw [Nat.cast_mul, power, ← div_eq_mul_inv, div_right_comm]

/-- No multiple of a grid's unit is nearer to a quotient. -/
theorem abs_nearestScaled_sub_le (hden : 0 < den) (num : ℕ) (e k : ℤ) :
    |(nearestScaled num den e : ℚ) * 2 ^ e - num / den| ≤ |(k : ℚ) * 2 ^ e - num / den| := by
  obtain ⟨n, d, hd, hnearest, hratio⟩ := exists_nearestScaled hden num e
  have unit := two_zpow_pos e
  have scaled : ∀ x : ℚ, |x * 2 ^ e - num / den| = |x - n / d| * 2 ^ e := by
    intro x
    rw [hratio, ← abs_of_pos unit, ← abs_mul, sub_mul, abs_of_pos unit,
      div_mul_cancel₀ _ unit.ne']
  rw [scaled, scaled, hnearest]
  exact mul_le_mul_of_nonneg_right (abs_nearest_sub_le hd n k) unit.le

/-- A mantissa has at most 53 bits, unless it is rounded up to the next power of two. -/
theorem nearestScaled_le (hnum : 0 < num) (hden : 0 < den) :
    nearestScaled num den (exponentOf num den) ≤ 2 ^ 53 := by
  obtain ⟨n, d, hd, hnearest, hratio⟩ := exists_nearestScaled hden num (exponentOf num den)
  have hd' : (0 : ℚ) < d := by exact_mod_cast hd
  have bound : (n : ℚ) / d ≤ 2 ^ 53 := by
    rw [hratio, div_le_iff₀ (two_zpow_pos _), ← zpow_natCast, ← zpow_add₀ (by norm_num), add_comm]
    exact (exponentOf_spec hnum hden).1.le
  rw [hnearest]
  refine nearest_le hd ?_
  rw [div_le_iff₀ hd'] at bound
  exact_mod_cast bound

/-- It has no fewer bits, unless the grid is the finest one. -/
theorem le_nearestScaled (hnum : 0 < num) (hden : 0 < den)
    (coarse : exponentOf num den ≠ leastExponent) :
    2 ^ 52 ≤ nearestScaled num den (exponentOf num den) := by
  obtain ⟨n, d, hd, hnearest, hratio⟩ := exists_nearestScaled hden num (exponentOf num den)
  have hd' : (0 : ℚ) < d := by exact_mod_cast hd
  have bound : (2 : ℚ) ^ 52 ≤ n / d := by
    rw [hratio, le_div_iff₀ (two_zpow_pos _), ← zpow_natCast, ← zpow_add₀ (by norm_num), add_comm]
    exact (exponentOf_spec hnum hden).2.resolve_left coarse
  rw [hnearest]
  refine le_nearest hd ?_
  rw [le_div_iff₀ hd'] at bound
  exact_mod_cast bound

theorem exponentOf_lt (hnum : 0 < num) (hden : 0 < den) (fits : (num : ℚ) / den < 2 ^ 1023) :
    exponentOf num den < greatestExponent := by
  rcases (exponentOf_spec hnum hden).2 with least | full
  · rw [least]
    decide
  · have : (2 : ℚ) ^ (exponentOf num den + 52) < 2 ^ (1023 : ℤ) := full.trans_lt fits
    have := (zpow_lt_zpow_iff_right₀ (by norm_num : (1 : ℚ) < 2)).mp this
    rw [greatestExponent]
    omega

/-- Quotients that are not too large are rounded to finite numbers. -/
theorem value?_ofRatio (hnum : 0 < num) (hden : 0 < den) (fits : (num : ℚ) / den < 2 ^ 1023)
    (negative : Bool) : (ofRatio negative num den).value? =
      some (signed negative (nearestScaled num den (exponentOf num den)) *
        2 ^ exponentOf num den) := by
  have small := exponentOf_lt hnum hden fits
  unfold ofRatio
  rw [if_neg hnum.ne']
  dsimp only
  split
  · rename_i full
    have carried : signed negative (Nat.pow 2 52) * 2 ^ (exponentOf num den + 1) =
        signed negative (Nat.pow 2 53) * 2 ^ exponentOf num den := by
      rw [zpow_add_one₀ (by norm_num)]
      cases negative <;> simp only [signed, Nat.pow_eq] <;> push_cast <;> ring
    rw [full, if_neg (by omega), ← carried]
    rfl
  · rw [if_neg (by omega)]
    rfl

/-- Whether a rational number is one of the format. -/
def Representable (w : ℚ) : Prop := ∃ (negative : Bool) (m : ℕ) (e : ℤ), m < 2 ^ 53 ∧
  leastExponent ≤ e ∧ e ≤ greatestExponent ∧ w = signed negative m * 2 ^ e

/-- Whether a number is one of the format that is nearest to a rational number. -/
def IsNearest (x : Double) (q : ℚ) : Prop :=
  ∃ v, x.value? = some v ∧ Representable v ∧ ∀ w, Representable w → |v - q| ≤ |w - q|

@[simp] theorem signed_false (m : ℕ) : signed false m = m := rfl

theorem signed_mul_two_pow (negative : Bool) (m j : ℕ) :
    signed negative m * 2 ^ j = ((if negative then -(m * 2 ^ j : ℤ) else (m * 2 ^ j : ℤ) : ℤ) : ℚ) := by
  cases negative <;> simp [signed]

/-- A number of the format lies on the grid of a quotient, or below the quotient and all that has a
full mantissa there. -/
theorem on_grid_or_below (e : ℤ) {w : ℚ} (h : Representable w) :
    (∃ k : ℤ, w = k * 2 ^ e) ∨ (e ≠ leastExponent ∧ w ≤ ((2 ^ 52 : ℤ) : ℚ) * 2 ^ e) := by
  obtain ⟨negative, m, f, hm, least, -, rfl⟩ := h
  rcases le_or_gt e f with hef | hfe
  · left
    refine ⟨if negative then -(m * 2 ^ (f - e).toNat : ℤ) else (m * 2 ^ (f - e).toNat : ℤ), ?_⟩
    rw [← signed_mul_two_pow, mul_assoc, ← zpow_natCast, ← zpow_add₀ (by norm_num)]
    congr 2
    omega
  · right
    refine ⟨by omega, ?_⟩
    have mantissa : signed negative m ≤ 2 ^ 53 := by
      have : (m : ℚ) < 2 ^ 53 := by exact_mod_cast hm
      cases negative <;> simp only [signed] <;> norm_num <;> linarith
    calc signed negative m * 2 ^ f ≤ 2 ^ 53 * 2 ^ f :=
          mul_le_mul_of_nonneg_right mantissa (two_zpow_pos f).le
      _ = ((2 ^ 52 : ℤ) : ℚ) * 2 ^ (f + 1) := by
          rw [zpow_add_one₀ (by norm_num)]
          push_cast
          ring
      _ ≤ ((2 ^ 52 : ℤ) : ℚ) * 2 ^ e :=
          mul_le_mul_of_nonneg_left (zpow_le_zpow_right₀ (by norm_num) (by omega)) (by norm_num)

theorem representable_nearestScaled (hnum : 0 < num) (hden : 0 < den)
    (fits : (num : ℚ) / den < 2 ^ 1023) :
    Representable (nearestScaled num den (exponentOf num den) * 2 ^ exponentOf num den) := by
  have small := exponentOf_lt hnum hden fits
  have fine : leastExponent ≤ exponentOf num den := le_max_right _ _
  rcases (nearestScaled_le hnum hden).lt_or_eq with below | full
  · exact ⟨false, _, _, below, fine, small.le, rfl⟩
  · refine ⟨false, 2 ^ 52, exponentOf num den + 1, by norm_num, by omega, by omega, ?_⟩
    rw [full, zpow_add_one₀ (by norm_num), signed]
    push_cast
    ring

/-- No number of the format is nearer to a quotient than the one that it is rounded to. -/
theorem isNearest_ofRatio (hden : 0 < den) (fits : (num : ℚ) / den < 2 ^ 1023) :
    (ofRatio false num den).IsNearest (num / den) := by
  rcases Nat.eq_zero_or_pos num with rfl | hnum
  · refine ⟨0, by simp [ofRatio, value?, signed], ?_, ?_⟩
    · exact ⟨false, 0, 0, by norm_num, by decide, by decide, by simp [signed]⟩
    · intro w _
      simp
  · refine ⟨_, value?_ofRatio hnum hden fits false, ?_, ?_⟩
    · exact representable_nearestScaled hnum hden fits
    · intro w hw
      rcases on_grid_or_below (exponentOf num den) hw with ⟨k, rfl⟩ | ⟨coarse, below⟩
      · exact abs_nearestScaled_sub_le hden num _ k
      · have full : ((2 ^ 52 : ℤ) : ℚ) * 2 ^ exponentOf num den ≤ num / den := by
          have := (exponentOf_spec hnum hden).2.resolve_left coarse
          rw [add_comm, zpow_add₀ (by norm_num)] at this
          exact_mod_cast this
        have grid := abs_nearestScaled_sub_le hden num (exponentOf num den) (2 ^ 52)
        rw [abs_of_nonpos (sub_nonpos.mpr full)] at grid
        rw [abs_of_nonpos (sub_nonpos.mpr (below.trans full))]
        exact grid.trans (neg_le_neg (sub_le_sub_right below _))

/-- The grid of a greater quotient is no finer. -/
theorem exponentOf_mono {num' : ℕ} (hnum : 0 < num) (hden : 0 < den) (h : num ≤ num') :
    exponentOf num den ≤ exponentOf num' den := by
  have hden' : (0 : ℚ) < den := by exact_mod_cast hden
  have fine : leastExponent ≤ exponentOf num' den := le_max_right _ _
  rcases (exponentOf_spec hnum hden).2 with least | full
  · rwa [least]
  · have ratio : (num : ℚ) / den ≤ num' / den :=
      div_le_div_of_nonneg_right (by exact_mod_cast h) hden'.le
    have above := (exponentOf_spec (hnum.trans_le h) hden).1
    have := (zpow_lt_zpow_iff_right₀ (by norm_num : (1 : ℚ) < 2)).mp
      (full.trans_lt (ratio.trans_lt above))
    omega

theorem nearestScaled_mono {num' : ℕ} (den : ℕ) (e : ℤ) (h : num ≤ num') :
    nearestScaled num den e ≤ nearestScaled num' den e := by
  unfold nearestScaled
  split
  · exact nearest_mono _ h
  · exact nearest_mono _ (Nat.mul_le_mul_right _ h)

/-- A greater quotient is not rounded to a smaller number. -/
theorem ofRatio_mono {num' : ℕ} (hden : 0 < den) (h : num ≤ num')
    (fits : (num' : ℚ) / den < 2 ^ 1023) :
    (ofRatio false num den).le (ofRatio false num' den) = true := by
  have hden' : (0 : ℚ) < den := by exact_mod_cast hden
  have ratio : (num : ℚ) / den ≤ num' / den :=
    div_le_div_of_nonneg_right (by exact_mod_cast h) hden'.le
  rcases Nat.eq_zero_or_pos num' with rfl | hnum'
  · obtain rfl : num = 0 := by omega
    rfl
  have value' := value?_ofRatio hnum' hden fits false
  rcases Nat.eq_zero_or_pos num with rfl | hnum
  · have zero : (ofRatio false 0 den).value? = some 0 := by simp [ofRatio, value?, signed]
    refine (le_iff zero value').mpr ?_
    rw [signed_false]
    exact mul_nonneg (Nat.cast_nonneg _) (two_zpow_pos _).le
  refine (le_iff (value?_ofRatio hnum hden (ratio.trans_lt fits) false) value').mpr ?_
  rw [signed_false, signed_false]
  rcases (exponentOf_mono hnum hden h).lt_or_eq with coarser | same
  · -- Every mantissa of the finer grid lies below every full mantissa of the coarser one.
    have fine : leastExponent ≤ exponentOf num den := le_max_right _ _
    have mantissa : (nearestScaled num den (exponentOf num den) : ℚ) ≤ 2 ^ 53 := by
      exact_mod_cast nearestScaled_le hnum hden
    have mantissa' : (2 : ℚ) ^ 52 ≤ nearestScaled num' den (exponentOf num' den) := by
      exact_mod_cast le_nearestScaled hnum' hden (by omega)
    calc (nearestScaled num den (exponentOf num den) : ℚ) * 2 ^ exponentOf num den
        ≤ 2 ^ 53 * 2 ^ exponentOf num den :=
          mul_le_mul_of_nonneg_right mantissa (two_zpow_pos _).le
      _ = 2 ^ 52 * 2 ^ (exponentOf num den + 1) := by
          rw [zpow_add_one₀ (by norm_num)]
          ring
      _ ≤ 2 ^ 52 * 2 ^ exponentOf num' den :=
          mul_le_mul_of_nonneg_left (zpow_le_zpow_right₀ (by norm_num) (by omega)) (by norm_num)
      _ ≤ nearestScaled num' den (exponentOf num' den) * 2 ^ exponentOf num' den :=
          mul_le_mul_of_nonneg_right mantissa' (two_zpow_pos _).le
  · rw [same]
    have := nearestScaled_mono den (exponentOf num' den) h
    exact mul_le_mul_of_nonneg_right (by exact_mod_cast this) (two_zpow_pos _).le

end Courier.Double

import Courier.Double.Basic
import Mathlib.Algebra.Order.Field.Power
import Mathlib.Data.Rat.Cast.Order
import Mathlib.Tactic.Linarith
import Mathlib.Tactic.NormNum
import Mathlib.Tactic.Positivity
import Mathlib.Tactic.Ring

/-!
# The values of floating point numbers

Every finite `Double` has an exact value (`Double.value?`), a rational number. The comparisons go by
it (`Double.lt_iff`, `Double.le_iff`), integers of at most 53 bits are represented exactly
(`Double.value?_ofInt`), and what lies between two finite numbers is finite
(`Double.exists_value?_between`).
-/

namespace Courier.Double

/-- A natural number with a sign. -/
def signed (negative : Bool) (m : ℕ) : ℚ := if negative then -m else m

/-- The exact value of a finite number. -/
def value? : Double → Option ℚ
  | finite negative m e => some (signed negative m * 2 ^ e)
  | infinite _ | nan => none

theorem two_zpow_pos (e : ℤ) : (0 : ℚ) < 2 ^ e := zpow_pos (by norm_num) e

/-! ## Order -/

/-- Scaling keeps the value. -/
theorem scaledTo_mul {least e : ℤ} (h : least ≤ e) (negative : Bool) (m : ℕ) :
    (scaledTo least negative m e : ℚ) * 2 ^ least = signed negative m * 2 ^ e := by
  have hpow : (2 : ℚ) ^ (e - least).toNat * 2 ^ least = 2 ^ e := by
    rw [← zpow_natCast, ← zpow_add₀ (by norm_num), Int.toNat_of_nonneg (by omega)]
    congr 1
    omega
  have hpos : ((m * Nat.pow 2 (e - least).toNat : ℕ) : ℚ) * 2 ^ least = m * 2 ^ e := by
    rw [Nat.pow_eq, Nat.cast_mul, Nat.cast_pow, Nat.cast_ofNat, mul_assoc, hpow]
  unfold scaledTo signed
  cases negative with
  | false => simpa using hpos
  | true => simpa [neg_mul] using hpos

variable {x y lo hi : Double} {v w : ℚ}

/-- Finite numbers are in the order of their values. -/
theorem compare?_eq (hx : x.value? = some v) (hy : y.value? = some w) :
    compare? x y = some (compare v w) := by
  obtain ⟨s, m, e, rfl⟩ : ∃ s m e, x = finite s m e := by
    cases x with
    | finite s m e => exact ⟨s, m, e, rfl⟩
    | infinite _ => cases hx
    | nan => cases hx
  obtain ⟨t, n, f, rfl⟩ : ∃ t n f, y = finite t n f := by
    cases y with
    | finite t n f => exact ⟨t, n, f, rfl⟩
    | infinite _ => cases hy
    | nan => cases hy
  obtain rfl := Option.some.inj hx
  obtain rfl := Option.some.inj hy
  have hscale := two_zpow_pos (min e f)
  rw [← scaledTo_mul (min_le_left e f) s m, ← scaledTo_mul (min_le_right e f) t n]
  have hcompare : compare (scaledTo (min e f) s m e) (scaledTo (min e f) t n f) =
      compare ((scaledTo (min e f) s m e : ℚ) * 2 ^ min e f)
        ((scaledTo (min e f) t n f : ℚ) * 2 ^ min e f) := by
    generalize scaledTo (min e f) s m e = a
    generalize scaledTo (min e f) t n f = b
    rcases lt_trichotomy a b with h | h | h
    · have h' : (a : ℚ) * 2 ^ min e f < b * 2 ^ min e f := by
        have : (a : ℚ) < b := by exact_mod_cast h
        exact mul_lt_mul_of_pos_right this hscale
      rw [compare_lt_iff_lt.mpr h, compare_lt_iff_lt.mpr h']
    · rw [h, compare_eq_iff_eq.mpr rfl, compare_eq_iff_eq.mpr rfl]
    · have h' : (b : ℚ) * 2 ^ min e f < a * 2 ^ min e f := by
        have : (b : ℚ) < a := by exact_mod_cast h
        exact mul_lt_mul_of_pos_right this hscale
      rw [compare_gt_iff_gt.mpr h, compare_gt_iff_gt.mpr h']
  exact congrArg some hcompare

theorem lt_iff (hx : x.value? = some v) (hy : y.value? = some w) : x.lt y = true ↔ v < w := by
  rw [lt, compare?_eq hx hy, ← compare_lt_iff_lt]
  simp

theorem le_iff (hx : x.value? = some v) (hy : y.value? = some w) : x.le y = true ↔ v ≤ w := by
  rw [le, compare?_eq hx hy, le_iff_lt_or_eq, ← compare_lt_iff_lt, ← compare_eq_iff_eq]
  simp

theorem le_of_lt (h : x.lt y = true) : x.le y = true := by
  rw [lt] at h
  rw [le, h, Bool.true_or]

/-- What lies between two finite numbers is finite. -/
theorem exists_value?_between (hlo : lo.value? = some v) (hhi : hi.value? = some w)
    (above : lo.le x = true) (below : x.le hi = true) :
    ∃ u, x.value? = some u ∧ v ≤ u ∧ u ≤ w := by
  cases x with
  | finite s m e => exact ⟨_, rfl, (le_iff hlo rfl).mp above, (le_iff rfl hhi).mp below⟩
  | nan => simp at above
  | infinite negative =>
    cases lo with
    | nan => cases hlo
    | infinite _ => cases hlo
    | finite s m e =>
      cases hi with
      | nan => cases hhi
      | infinite _ => cases hhi
      | finite t n f => cases negative <;> simp [le, compare?] at above below

/-! ## Integers -/

theorem nearest_one (n : ℕ) : nearest n 1 = n := by
  simp [nearest, Nat.mod_one]

/-- A positive number of at most 53 bits has the exponent that fills its mantissa. -/
theorem exponentOf_of_lt {n : ℕ} (pos : 0 < n) (h : n < 2 ^ 53) :
    exponentOf n 1 = (n.log2 : ℤ) - 52 := by
  have hlog : n.log2 < 53 := (Nat.log2_lt (by omega)).mpr h
  have hself : 2 ^ n.log2 ≤ n := Nat.log2_self_le (by omega)
  have hlow : ¬0 ≤ (n.log2 : ℤ) - 53 := by omega
  have hfull : 1 * Nat.pow 2 53 ≤ n * Nat.pow 2 (-((n.log2 : ℤ) - 53)).toNat := by
    have hexp : (-((n.log2 : ℤ) - 53)).toNat = 53 - n.log2 := by omega
    calc 1 * Nat.pow 2 53 = 2 ^ n.log2 * 2 ^ (53 - n.log2) := by
          rw [one_mul, Nat.pow_eq, ← pow_add]
          congr 1
          omega
      _ ≤ n * 2 ^ (53 - n.log2) := Nat.mul_le_mul_right _ hself
      _ = n * Nat.pow 2 (-((n.log2 : ℤ) - 53)).toNat := by rw [hexp, Nat.pow_eq]
  have hexponent : exponentOf n 1 = max ((n.log2 : ℤ) - 53 + 1) leastExponent := by
    simp only [exponentOf, show Nat.log2 1 = 0 from rfl, Nat.cast_zero, sub_zero, if_neg hlow,
      if_pos hfull]
  rw [hexponent, leastExponent]
  omega

/-- Scaling a positive number of at most 53 bits to its exponent is exact. -/
theorem nearestScaled_exponentOf {n : ℕ} (pos : 0 < n) (h : n < 2 ^ 53) :
    nearestScaled n 1 (exponentOf n 1) = n * 2 ^ (52 - n.log2) := by
  have hlog : n.log2 < 53 := (Nat.log2_lt (by omega)).mpr h
  rw [exponentOf_of_lt pos h]
  unfold nearestScaled
  split
  · have hfull : n.log2 = 52 := by omega
    simp [hfull, nearest_one]
  · have hexp : (-((n.log2 : ℤ) - 52)).toNat = 52 - n.log2 := by omega
    rw [nearest_one, hexp, Nat.pow_eq]

/-- An integer of at most 53 bits is shifted to have just as many. -/
theorem shifted_lt {n : ℕ} (h : n.log2 < 53) : n * 2 ^ (52 - n.log2) < 2 ^ 53 :=
  calc n * 2 ^ (52 - n.log2)
      < 2 ^ (n.log2 + 1) * 2 ^ (52 - n.log2) :=
        Nat.mul_lt_mul_of_pos_right Nat.lt_log2_self (by positivity)
    _ = 2 ^ 53 := by
        rw [← pow_add]
        congr 1
        omega

theorem shifted_back {n : ℕ} (h : n.log2 < 53) :
    ((n * 2 ^ (52 - n.log2) : ℕ) : ℚ) * 2 ^ ((n.log2 : ℤ) - 52) = n := by
  rw [Nat.cast_mul, Nat.cast_pow, Nat.cast_ofNat, mul_assoc, ← zpow_natCast,
    ← zpow_add₀ (by norm_num), Nat.cast_sub (by omega)]
  simp

/-- Integers of at most 53 bits are represented exactly. -/
theorem value?_ofInt {n : ℤ} (h : n.natAbs < 2 ^ 53) : (ofInt n).value? = some (n : ℚ) := by
  unfold ofInt ofRatio
  split
  · rename_i hzero
    obtain rfl : n = 0 := by omega
    simp [value?, signed]
  · rename_i hzero
    have pos : 0 < n.natAbs := by omega
    have hlog : n.natAbs.log2 < 53 := (Nat.log2_lt hzero).mpr h
    have hmantissa : n.natAbs * 2 ^ (52 - n.natAbs.log2) ≠ Nat.pow 2 53 := (shifted_lt hlog).ne
    dsimp only
    rw [nearestScaled_exponentOf pos h, if_neg hmantissa, exponentOf_of_lt pos h]
    dsimp only
    rw [if_neg (by unfold greatestExponent; omega)]
    have hsigned : ∀ m : ℕ, signed (decide (n < 0)) m = if n < 0 then -(m : ℚ) else m := by
      intro m
      simp [signed]
    rw [value?, hsigned]
    split
    · rename_i negative
      rw [neg_mul, shifted_back hlog, Nat.cast_natAbs, abs_of_neg negative, Int.cast_neg, neg_neg]
    · rename_i nonnegative
      rw [shifted_back hlog, Nat.cast_natAbs, abs_of_nonneg (by omega)]

end Courier.Double

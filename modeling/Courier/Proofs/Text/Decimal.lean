import Courier.Calendar.Date
import Courier.Text.Digit
import Mathlib.Algebra.Group.Nat.Defs
import Mathlib.Data.List.Basic
import Mathlib.Data.List.Induction

/-!
# Padded decimals

A padded decimal that does not outgrow its width has exactly that width
(`Date.length_padded`), is read back as the number it writes (`Date.digitsValue_padded`), and
comes before another of the same width exactly as its number does (`Date.padded_lt`). The digits of
a number begin with those of what is left after cutting off the last ones (`Date.toDigits_leading`).
-/

namespace Courier.Text

/-- The number that one more digit in front of a run makes. -/
theorem digitsValue_cons (c : Char) (cs : List Char) :
    digitsValue (c :: cs) = 10 ^ cs.length * (digitValue? c).getD 0 + digitsValue cs := by
  have shifted : ∀ (ds : List Char) (n : Nat),
      ds.foldl (fun n c => 10 * n + (digitValue? c).getD 0) n =
        10 ^ ds.length * n + digitsValue ds := by
    intro ds
    induction ds using List.reverseRecOn with
    | nil => simp
    | append_singleton ds d ih =>
      intro n
      rw [List.foldl_append, ih, digitsValue_concat]
      simp only [List.foldl_cons, List.foldl_nil, List.length_append, List.length_singleton,
        Nat.pow_succ]
      rw [Nat.mul_add, ← Nat.mul_assoc, Nat.mul_comm 10 (10 ^ ds.length), Nat.add_assoc]
  simpa [digitsValue] using shifted cs ((digitValue? c).getD 0)

theorem digitValue?_getD {c : Char} (h : c.isDigit) : (digitValue? c).getD 0 = c.toNat - 48 := by
  rw [digitValue?_eq_some_of_isDigit h, Option.getD_some]

theorem toNat_bounds {c : Char} (h : c.isDigit) : 48 ≤ c.toNat ∧ c.toNat ≤ 57 := by
  simpa [Char.isDigit, Char.le_def, UInt32.le_iff_toNat_le] using h

theorem isDigit_of_toNat_bounds {c : Char} (low : 48 ≤ c.toNat) (high : c.toNat ≤ 57) :
    c.isDigit = true := by
  simpa [Char.isDigit, UInt32.le_iff_toNat_le] using ⟨low, high⟩

/-- What holds of 128 characters holds of every ASCII character. -/
theorem of_ascii {p : Char → Prop} (all : ∀ n < 128, p (Char.ofNat n)) {c : Char}
    (h : c.toNat < 128) : p c := by
  have := all c.toNat h
  rwa [Char.ofNat_toNat] at this

theorem isDigit_eq_of_ascii {c : Char} (h : c.toNat < 128) : isDigit c = c.isDigit := by
  unfold isDigit digitValue?
  rw [if_pos h]
  cases c.isDigit <;> rfl

theorem isDigit_of_ascii_digit {c : Char} (h : c.isDigit = true) : isDigit c = true := by
  rw [isDigit, digitValue?_eq_some_of_isDigit h]
  rfl

/-- A digit of any script stands for a number below ten. -/
theorem lt_ten_of_digitValue? {c : Char} {n : Nat} (h : digitValue? c = some n) : n < 10 := by
  unfold digitValue? at h
  split at h
  · split at h
    · rename_i digit
      have := toNat_bounds digit
      cases h
      omega
    · cases h
  · obtain ⟨z, hz, rfl⟩ := Option.map_eq_some_iff.mp h
    have := List.find?_some hz
    simp only [Bool.and_eq_true, decide_eq_true_eq] at this
    omega

theorem digitsValue_lt {cs : List Char} (h : ∀ c ∈ cs, c.isDigit) :
    digitsValue cs < 10 ^ cs.length := by
  induction cs with
  | nil => simp
  | cons c cs ih =>
    have hc := h c List.mem_cons_self
    have := ih fun d hd => h d (List.mem_cons_of_mem c hd)
    have hmul : 10 ^ cs.length * (c.toNat - 48) ≤ 10 ^ cs.length * 9 :=
      Nat.mul_le_mul_left _ (by have := toNat_bounds hc; omega)
    rw [digitsValue_cons, digitValue?_getD hc, List.length_cons, Nat.pow_succ]
    omega

theorem digitValue?_getD_lt (c : Char) : (digitValue? c).getD 0 < 10 := by
  cases h : digitValue? c with
  | none => decide
  | some n => exact lt_ten_of_digitValue? h

theorem digitsValue_pair {a : Char} (h : a.isDigit) (b : Char) :
    digitsValue [a, b] = 10 * (a.toNat - 48) + (digitValue? b).getD 0 := by
  rw [digitsValue_cons, digitValue?_getD h, digitsValue_cons]
  simp

theorem digitChar_toNat {c : Char} (h : c.isDigit) : Nat.digitChar (c.toNat - 48) = c := by
  have := toNat_bounds h
  rw [← Char.toNat_inj, Nat.toNat_digitChar_of_lt_ten (by omega)]
  omega

/-- Of two runs of as many digits, the one of the smaller number comes first. -/
theorem lt_of_digitsValue_lt : ∀ {cs ds : List Char}, (∀ c ∈ cs, c.isDigit) →
    (∀ d ∈ ds, d.isDigit) → cs.length = ds.length → digitsValue cs < digitsValue ds → cs < ds
  | [], [], _, _, _, h => by simp at h
  | [], _ :: _, _, _, hl, _ => by simp at hl
  | _ :: _, [], _, _, hl, _ => by simp at hl
  | c :: cs, d :: ds, hc, hd, hl, h => by
    have hl' : cs.length = ds.length := by simpa using hl
    have hcd := hc c List.mem_cons_self
    have hdd := hd d List.mem_cons_self
    have hcs := fun e he => hc e (List.mem_cons_of_mem c he)
    have hds := fun e he => hd e (List.mem_cons_of_mem d he)
    have hcb := toNat_bounds hcd
    have hdb := toNat_bounds hdd
    rw [digitsValue_cons, digitsValue_cons, digitValue?_getD hcd, digitValue?_getD hdd, hl'] at h
    rw [List.cons_lt_cons_iff]
    rcases Nat.lt_trichotomy c.toNat d.toNat with hlt | heq | hgt
    · exact .inl hlt
    · obtain rfl := Char.toNat_inj.mp heq
      exact .inr ⟨rfl, lt_of_digitsValue_lt hcs hds hl' (by omega)⟩
    · have := digitsValue_lt hds
      have : 10 ^ ds.length * (d.toNat - 48 + 1) ≤ 10 ^ ds.length * (c.toNat - 48) :=
        Nat.mul_le_mul_left _ (by omega)
      rw [Nat.mul_succ] at this
      omega

end Courier.Text

namespace Courier.Date

open Courier.Text

theorem toList_padded (width n : Nat) : (padded width n).toList =
    List.replicate (width - (Nat.toDigits 10 n).length) '0' ++ Nat.toDigits 10 n := by
  simp [padded]

theorem isDigit_of_mem_padded {width n : Nat} {c : Char} (h : c ∈ (padded width n).toList) :
    c.isDigit := by
  rw [toList_padded, List.mem_append] at h
  rcases h with h | h
  · rw [(List.mem_replicate.mp h).2]
    rfl
  · exact Nat.isDigit_of_mem_toDigits (by decide) (by decide) h

theorem digitsValue_toDigits (n : Nat) : digitsValue (Nat.toDigits 10 n) = n := by
  induction n using Nat.strongRecOn with
  | ind n ih =>
    rcases Nat.lt_or_ge n 10 with h | h
    · have all : ∀ m < 10, digitsValue [Nat.digitChar m] = m := by decide
      rw [Nat.toDigits_of_lt_base h, all n h]
    · have all : ∀ m < 10, (digitValue? (Nat.digitChar m)).getD 0 = m := by decide
      rw [Nat.toDigits_of_base_le (by decide) h, digitsValue_concat, ih (n / 10) (by omega),
        all _ (Nat.mod_lt n (by decide))]
      omega

theorem digitsValue_padded (width n : Nat) : digitsValue (padded width n).toList = n := by
  have leading : ∀ (k : Nat) (cs : List Char),
      digitsValue (List.replicate k '0' ++ cs) = digitsValue cs := by
    intro k cs
    induction k with
    | zero => rfl
    | succ k ih =>
      have zero : (digitValue? '0').getD 0 = 0 := by decide
      rw [List.replicate_succ, List.cons_append, digitsValue_cons, ih, zero]
      omega
  rw [toList_padded, leading, digitsValue_toDigits]

theorem length_padded {width n : Nat} (hw : 0 < width) (h : n < 10 ^ width) :
    (padded width n).toList.length = width := by
  have := (Nat.length_toDigits_le_iff (by decide) hw).mpr h
  rw [toList_padded, List.length_append, List.length_replicate]
  omega

theorem toList_padded_one (n : Nat) : (padded 1 n).toList = Nat.toDigits 10 n := by
  have := @Nat.length_toDigits_pos 10 n
  rw [toList_padded, Nat.sub_eq_zero_of_le this, List.replicate_zero, List.nil_append]

theorem length_padded_one {n : Nat} : (padded 1 n).toList.length = (Nat.toDigits 10 n).length := by
  rw [toList_padded_one]

/-- The digits of a number are those of what is left after cutting off the last ones, and these. -/
theorem toDigits_eq_append : ∀ {j n : Nat}, 10 ^ j ≤ n → ∃ low,
    Nat.toDigits 10 n = Nat.toDigits 10 (n / 10 ^ j) ++ low ∧ low.length = j
  | 0, n, _ => ⟨[], by simp, rfl⟩
  | j + 1, n, h => by
    rw [Nat.pow_succ] at h
    have hj : 10 ^ j ≤ n / 10 := (Nat.le_div_iff_mul_le (by decide)).mpr h
    have hn : 10 ≤ n := by
      have := Nat.one_le_pow j 10 (by decide)
      omega
    obtain ⟨low, hlow, hlength⟩ := toDigits_eq_append hj
    refine ⟨low ++ [Nat.digitChar (n % 10)], ?_, by simp [hlength]⟩
    rw [Nat.toDigits_of_base_le (by decide) hn, hlow, Nat.div_div_eq_div_mul, Nat.pow_succ,
      Nat.mul_comm 10, List.append_assoc]

/-- The number that the first digits of a number write, `count` of them. -/
def leading (count n : Nat) : Nat := n / 10 ^ ((Nat.toDigits 10 n).length - count)

/-- A number of more than `count` digits begins with so many digits, and more of them follow. -/
theorem toDigits_leading {count n : Nat} (hc : 0 < count)
    (h : count < (Nat.toDigits 10 n).length) : ∃ c rest,
    Nat.toDigits 10 n = Nat.toDigits 10 (leading count n) ++ c :: rest ∧
      (Nat.toDigits 10 (leading count n)).length = count := by
  have long : ¬(Nat.toDigits 10 n).length ≤ (Nat.toDigits 10 n).length - count := by omega
  rw [Nat.length_toDigits_le_iff (by decide) (by omega), Nat.not_lt] at long
  obtain ⟨low, hlow, hlength⟩ := toDigits_eq_append long
  cases low with
  | nil =>
    rw [List.length_nil] at hlength
    omega
  | cons c rest =>
    refine ⟨c, rest, hlow, ?_⟩
    have both := congrArg List.length hlow
    rw [List.length_append, hlength] at both
    rw [leading]
    omega

/-- Padded decimals of one width are ordered as their numbers. -/
theorem padded_lt {width m n : Nat} (hl : (padded width m).toList.length =
    (padded width n).toList.length) (h : m < n) :
    (padded width m).toList < (padded width n).toList := by
  refine lt_of_digitsValue_lt (fun c => isDigit_of_mem_padded) (fun c => isDigit_of_mem_padded)
    hl ?_
  rwa [digitsValue_padded, digitsValue_padded]

/-- A decimal of two digits. -/
theorem toList_padded_two {n : Nat} (h : n < 100) :
    (padded 2 n).toList = [Nat.digitChar (n / 10), Nat.digitChar (n % 10)] := by
  rw [toList_padded]
  rcases Nat.lt_or_ge n 10 with hn | hn
  · rw [Nat.toDigits_of_lt_base hn, Nat.div_eq_of_lt hn, Nat.mod_eq_of_lt hn]
    rfl
  · rw [Nat.toDigits_of_base_le (by decide) hn, Nat.toDigits_of_lt_base (by omega)]
    rfl

/-- Two digits are the text of the number they write. -/
theorem toList_padded_digitsValue {a b : Char} (first : a.isDigit) (second : b.isDigit) :
    (padded 2 (digitsValue [a, b])).toList = [a, b] := by
  have bounds := toNat_bounds first
  have bounds' := toNat_bounds second
  have value : digitsValue [a, b] = 10 * (a.toNat - 48) + (b.toNat - 48) := by
    rw [digitsValue_pair first, digitValue?_getD second]
  have tens : digitsValue [a, b] / 10 = a.toNat - 48 := by omega
  have ones : digitsValue [a, b] % 10 = b.toNat - 48 := by omega
  rw [toList_padded_two (by omega), tens, ones, digitChar_toNat first, digitChar_toNat second]

/-- A number below a hundred is written in two digits, and read back from them. -/
theorem exists_padded_two {n : Nat} (h : n < 100) : ∃ a b, (padded 2 n).toList = [a, b] ∧
    a.isDigit = true ∧ b.isDigit = true ∧ digitsValue [a, b] = n := by
  obtain ⟨a, b, pair⟩ := List.length_eq_two.mp (@length_padded 2 n (by decide) h)
  have digit : ∀ c ∈ [a, b], c.isDigit = true := fun c hc => isDigit_of_mem_padded (pair ▸ hc)
  exact ⟨a, b, pair, digit a (by simp), digit b (by simp), pair ▸ digitsValue_padded 2 n⟩

end Courier.Date

import Courier.Double.Text
import Courier.Proofs.Double.Shortest
import Courier.Proofs.Text.Cut
import Courier.Proofs.Text.Decimal

/-!
# Numbers read back from their text

The text of a finite number is a `Double.Numeral`: digits with a point among them or an exponent
after them (`Double.exists_numeral`). Its digits are the shortest ones that stand for the number,
so the number is read back from it (`Double.read?_text`).
-/

namespace Courier.Double

open Courier.Text (span_append digitsValue digitValue?_getD)

/-! ## Digits -/

theorem naturalOf_eq_digitsValue {cs : List Char} (h : ∀ c ∈ cs, c.isDigit) :
    naturalOf cs = digitsValue cs := by
  have fold : ∀ n, cs.foldl (fun n c => 10 * n + (c.toNat - 48)) n =
      cs.foldl (fun n c => 10 * n + (Text.digitValue? c).getD 0) n := by
    induction cs with
    | nil => exact fun n => rfl
    | cons c cs ih =>
      intro n
      rw [List.foldl_cons, List.foldl_cons, digitValue?_getD (h c List.mem_cons_self),
        ih fun d hd => h d (List.mem_cons_of_mem c hd)]
  exact fold 0

theorem isDigit_of_mem_toDigits {n : ℕ} {c : Char} (h : c ∈ Nat.toDigits 10 n) : c.isDigit :=
  Nat.isDigit_of_mem_toDigits (by decide) (by decide) h

theorem naturalOf_toDigits (n : ℕ) : naturalOf (Nat.toDigits 10 n) = n := by
  rw [naturalOf_eq_digitsValue fun _ => isDigit_of_mem_toDigits, Date.digitsValue_toDigits]

theorem naturalOf_zeros_append (k : ℕ) (cs : List Char) :
    naturalOf (List.replicate k '0' ++ cs) = naturalOf cs := by
  induction k with
  | zero => rfl
  | succ k ih => exact ih

theorem naturalOf_append_zeros (cs : List Char) (k : ℕ) :
    naturalOf (cs ++ List.replicate k '0') = naturalOf cs * 10 ^ k := by
  induction k with
  | zero => simp
  | succ k ih =>
    rw [List.replicate_succ', ← List.append_assoc, naturalOf, List.foldl_append]
    have last : naturalOf (cs ++ List.replicate k '0') * 10 = naturalOf cs * 10 ^ (k + 1) := by
      rw [ih, pow_succ, mul_assoc]
    rw [← last, mul_comm]
    rfl

theorem head_toDigits_ne_zero {n : ℕ} (pos : 0 < n) :
    ∃ c cs, Nat.toDigits 10 n = c :: cs ∧ c ≠ '0' := by
  induction n using Nat.strongRecOn with
  | ind n ih =>
    rcases Nat.lt_or_ge n 10 with h | h
    · have all : ∀ k < 10, 0 < k → Nat.digitChar k ≠ '0' := by decide
      exact ⟨_, [], Nat.toDigits_of_lt_base h, all n h pos⟩
    · obtain ⟨c, cs, hcs, hc⟩ := ih (n / 10) (by omega) (by omega)
      refine ⟨c, cs ++ [Nat.digitChar (n % 10)], ?_, hc⟩
      rw [Nat.toDigits_of_base_le (by decide) h, hcs, List.cons_append]

/-! ## Numerals -/

/-- Digits before and after a point, and an exponent. -/
structure Numeral where
  whole : List Char
  part : List Char := []
  exponent : List Char := []

namespace Numeral

/-- The point and the digits after it, if there are any. -/
def pointed (part : List Char) : List Char := if part.isEmpty then [] else '.' :: part

/-- A numeral as it is written. -/
def chars (n : Numeral) : List Char := n.whole ++ (pointed n.part ++ n.exponent)

/-- The digits before the point begin with a zero only if they are that zero. -/
def IsWhole (cs : List Char) : Prop :=
  cs = ['0'] ∨ ∃ c rest, cs = c :: rest ∧ c ≠ '0' ∧ ∀ d ∈ c :: rest, d.isDigit

/-- An exponent is absent, or a letter, an optional sign and digits. -/
def IsExponent (cs : List Char) : Prop :=
  cs = [] ∨ ∃ e sign digits, cs = e :: (sign ++ digits) ∧ (e = 'e' ∨ e = 'E') ∧
    (sign = [] ∨ sign = ['+'] ∨ sign = ['-']) ∧ digits ≠ [] ∧ ∀ d ∈ digits, d.isDigit

/-- Whether a numeral is of the usual form. -/
structure IsUsual (n : Numeral) : Prop where
  whole : IsWhole n.whole
  part : ∀ c ∈ n.part, c.isDigit
  exponent : IsExponent n.exponent

theorem IsWhole.isDigit {cs : List Char} (h : IsWhole cs) {c : Char} (hc : c ∈ cs) : c.isDigit := by
  rcases h with rfl | ⟨_, _, rfl, -, h⟩
  · obtain rfl := List.mem_singleton.mp hc
    rfl
  · exact h c hc

theorem IsWhole.ne_nil {cs : List Char} (h : IsWhole cs) : cs ≠ [] := by
  rcases h with rfl | ⟨_, _, rfl, -, -⟩ <;> exact List.cons_ne_nil _ _

/-- A usual numeral begins with a digit. -/
theorem IsUsual.exists_cons {n : Numeral} (usual : n.IsUsual) :
    ∃ c rest, n.chars = c :: rest ∧ c.isDigit := by
  obtain ⟨c, rest, h⟩ := List.exists_cons_of_ne_nil usual.whole.ne_nil
  exact ⟨c, _, by rw [chars, h, List.cons_append], usual.whole.isDigit (h ▸ List.mem_cons_self)⟩

/-- A numeral with digits after a point or with an exponent shows it. -/
theorem IsUsual.exists_mark {n : Numeral} (usual : n.IsUsual) (h : n.part ≠ [] ∨ n.exponent ≠ []) :
    ∃ c ∈ n.chars, c = '.' ∨ c = 'e' ∨ c = 'E' := by
  rcases h with h | h
  · refine ⟨'.', List.mem_append_right _ (List.mem_append_left _ ?_), .inl rfl⟩
    simp [pointed, h]
  · obtain ⟨e, sign, digits, he, letter, -⟩ := usual.exponent.resolve_left h
    refine ⟨e, List.mem_append_right _ (List.mem_append_right _ ?_), .inr letter⟩
    rw [he]
    exact List.mem_cons_self

theorem mem_chars {n : Numeral} (usual : n.IsUsual) {c : Char} (h : c ∈ n.chars) :
    c.isDigit ∨ c ∈ ['.', 'e', 'E', '+', '-'] := by
  rcases List.mem_append.mp h with h | h
  · exact .inl (usual.whole.isDigit h)
  rcases List.mem_append.mp h with h | h
  · unfold pointed at h
    split at h
    · cases h
    · rcases List.mem_cons.mp h with rfl | h
      · exact .inr (by simp)
      · exact .inl (usual.part c h)
  · rcases usual.exponent with none | ⟨e, sign, digits, he, letter, hsign, -, hdigits⟩
    · rw [none] at h
      cases h
    · rw [he, List.mem_cons, List.mem_append] at h
      rcases h with rfl | h | h
      · exact .inr (by rcases letter with rfl | rfl <;> simp)
      · exact .inr (by rcases hsign with rfl | rfl | rfl <;> simp at h <;> simp [h])
      · exact .inl (hdigits c h)

/-- What a usual numeral is read as. -/
theorem readUnsigned?_chars {n : Numeral} (usual : n.IsUsual) {x : ℤ}
    (hx : exponentOf? n.exponent = some x) (negative : Bool) :
    readUnsigned? negative n.chars =
      some (ofDecimal negative (naturalOf (n.whole ++ n.part)) (x - n.part.length)) := by
  obtain ⟨hwhole, hpart, hexponent⟩ := usual
  have letter : ∀ c ∈ n.exponent.head?, c = 'e' ∨ c = 'E' := by
    rcases hexponent with h | ⟨e, sign, digits, h, he, -⟩ <;> rw [h]
    · simp
    · simpa using he
  have stop : ∀ c ∈ n.exponent.head?, c.isDigit = false := fun c hc => by
    rcases letter c hc with rfl | rfl <;> rfl
  have whole : n.whole.isEmpty = false := by simpa using hwhole.ne_nil
  have first : (n.chars.takeWhile Char.isDigit) = n.whole ∧
      n.chars.dropWhile Char.isDigit = pointed n.part ++ n.exponent := by
    refine span_append (fun c => hwhole.isDigit) ?_
    unfold pointed
    split
    · exact stop
    · simp [Char.isDigit]
  unfold readUnsigned?
  rw [first.1, first.2]
  dsimp only
  rw [whole, Bool.false_and, if_neg Bool.false_ne_true]
  cases part : n.part with
  | nil =>
    have last : pointed [] ++ n.exponent = n.exponent := rfl
    rw [last]
    split
    · rename_i more h
      rcases letter '.' (by rw [h]; rfl) with h | h <;> cases h
    · rw [hx]
      rfl
  | cons c cs =>
    rw [part] at hpart
    obtain ⟨run, rest⟩ := span_append hpart stop
    have first : pointed (c :: cs) ++ n.exponent = '.' :: (c :: cs ++ n.exponent) := rfl
    simp only [first, run, rest, hx, Option.map_some]

end Numeral

/-! ## The text of a number -/

theorem exponentOf?_plus {ds : List Char} (nonempty : ds ≠ []) (digits : ∀ c ∈ ds, c.isDigit) :
    exponentOf? ('e' :: '+' :: ds) = some (naturalOf ds : ℤ) := by
  have all : ds.all Char.isDigit = true := List.all_eq_true.mpr digits
  simp [exponentOf?, signOf, all, nonempty]

theorem exponentOf?_minus {ds : List Char} (nonempty : ds ≠ []) (digits : ∀ c ∈ ds, c.isDigit) :
    exponentOf? ('e' :: '-' :: ds) = some (-(naturalOf ds : ℤ)) := by
  have all : ds.all Char.isDigit = true := List.all_eq_true.mpr digits
  simp [exponentOf?, signOf, all, nonempty]

/-- An exponent is written with a sign and at least two digits. -/
theorem exists_exponentText (e : ℤ) : ∃ ds : List Char,
    (exponentText e).toList = 'e' :: (if e < 0 then '-' else '+') :: ds ∧ ds ≠ [] ∧
      (∀ c ∈ ds, c.isDigit) ∧ naturalOf ds = e.natAbs := by
  have written : (toString e.natAbs).toList = Nat.toDigits 10 e.natAbs := Nat.toList_repr
  have some' : Nat.toDigits 10 e.natAbs ≠ [] :=
    List.ne_nil_of_length_pos (digitCount_pos e.natAbs)
  unfold exponentText
  dsimp only
  by_cases short : (toString e.natAbs).length < 2
  · refine ⟨'0' :: Nat.toDigits 10 e.natAbs, ?_, List.cons_ne_nil _ _, ?_, ?_⟩
    · rw [if_pos short, String.toList_append, String.toList_append, written]
      split <;> rfl
    · exact List.forall_mem_cons.mpr ⟨rfl, fun _ => isDigit_of_mem_toDigits⟩
    · exact (naturalOf_zeros_append 1 _).trans (naturalOf_toDigits _)
  · refine ⟨Nat.toDigits 10 e.natAbs, ?_, some', fun _ => isDigit_of_mem_toDigits,
      naturalOf_toDigits _⟩
    rw [if_neg short, String.toList_append, written]
    split <;> rfl

/-- The text of an exponent is read back. -/
theorem exponentText_spec (e : ℤ) : Numeral.IsExponent (exponentText e).toList ∧
    (exponentText e).toList ≠ [] ∧ exponentOf? (exponentText e).toList = some e := by
  obtain ⟨ds, hds, nonempty, digits, value⟩ := exists_exponentText e
  rw [hds]
  refine ⟨.inr ⟨'e', [if e < 0 then '-' else '+'], ds, rfl, .inl rfl, ?_, nonempty, digits⟩,
    List.cons_ne_nil _ _, ?_⟩
  · split <;> simp
  · by_cases negative : e < 0
    · rw [if_pos negative, exponentOf?_minus nonempty digits, value]
      congr 1
      omega
    · rw [if_neg negative, exponentOf?_plus nonempty digits, value]
      congr 1
      omega

/-- How the shortest digits are laid out. -/
abbrev usualLayout : Layout := ⟨16, true⟩

/-- Whether a text is a numeral that is read as a whole number times a power of ten, and is no whole
number by its form. -/
def Spells (text : List Char) (d : ℕ) (scale : ℤ) : Prop := ∃ n : Numeral, n.IsUsual ∧
  text = n.chars ∧ (n.part ≠ [] ∨ n.exponent ≠ []) ∧
  ∀ negative, readUnsigned? negative n.chars = some (ofDecimal negative d scale)

/-- A numeral with the digits of a number and the point in the right place is read as the number. -/
theorem Numeral.IsUsual.spells {n : Numeral} (usual : n.IsUsual) {x : ℤ}
    (hx : exponentOf? n.exponent = some x) (marked : n.part ≠ [] ∨ n.exponent ≠ []) :
    Spells n.chars (naturalOf (n.whole ++ n.part)) (x - n.part.length) :=
  ⟨n, usual, rfl, marked, Numeral.readUnsigned?_chars usual hx⟩

section layout

variable {c : Char} {cs : List Char} (digits : ∀ e ∈ c :: cs, e.isDigit)

include digits

/-- All digits stand after the point. -/
theorem spells_fraction (zeros : ℕ) :
    Spells ('0' :: '.' :: (List.replicate zeros '0' ++ c :: cs)) (naturalOf (c :: cs))
      (-(zeros + (cs.length + 1) : ℕ)) := by
  have usual : Numeral.IsUsual ⟨['0'], List.replicate zeros '0' ++ c :: cs, []⟩ := by
    refine ⟨.inl rfl, fun e he => ?_, .inl rfl⟩
    rcases List.mem_append.mp he with he | he
    · rw [(List.mem_replicate.mp he).2]
      rfl
    · exact digits e he
  have value : naturalOf (['0'] ++ (List.replicate zeros '0' ++ c :: cs)) = naturalOf (c :: cs) :=
    (naturalOf_zeros_append 1 _).trans (naturalOf_zeros_append _ _)
  have h := usual.spells rfl (.inl (by simp))
  rw [value] at h
  simpa [Numeral.chars, Numeral.pointed] using h

/-- All digits stand before the point, and zeros after them. -/
theorem spells_whole (hc : c ≠ '0') {d zeros : ℕ} (value : naturalOf (c :: cs) = d) (pos : 0 < d)
    (high : (zeros : ℤ) ≤ 400) :
    Spells (c :: cs ++ List.replicate zeros '0' ++ ['.', '0']) d zeros := by
  have usual : Numeral.IsUsual ⟨c :: cs ++ List.replicate zeros '0', ['0'], []⟩ := by
    refine ⟨.inr ⟨c, _, rfl, hc, fun e he => ?_⟩, by simp [Char.isDigit], .inl rfl⟩
    rcases List.mem_append.mp (show e ∈ c :: cs ++ _ from he) with he | he
    · exact digits e he
    · rw [(List.mem_replicate.mp he).2]
      rfl
  have all : naturalOf (c :: cs ++ List.replicate zeros '0' ++ ['0']) = d * 10 ^ (zeros + 1) := by
    rw [List.append_assoc, ← List.replicate_succ', naturalOf_append_zeros, value]
  refine ⟨_, usual, rfl, .inl (List.cons_ne_nil _ _), fun negative => ?_⟩
  rw [Numeral.readUnsigned?_chars usual rfl, all]
  refine congrArg some (ofDecimal_congr ?_ pos.ne' ?_ ?_ ?_ high ?_ negative)
  · positivity
  · simp
  · simp
  · omega
  · have place : (0 : ℤ) - ['0'].length = -1 := rfl
    rw [place, zpow_neg_one, zpow_natCast]
    push_cast
    ring

/-- The point stands among the digits. -/
theorem spells_between (hc : c ≠ '0') {k : ℕ} (more : k < cs.length) :
    Spells (c :: cs.take k ++ '.' :: cs.drop k) (naturalOf (c :: cs)) (-(cs.length - k : ℕ)) := by
  have some' : cs.drop k ≠ [] := by
    rw [ne_eq, List.drop_eq_nil_iff]
    omega
  have usual : Numeral.IsUsual ⟨c :: cs.take k, cs.drop k, []⟩ := by
    refine ⟨.inr ⟨c, _, rfl, hc, fun e he => digits e ?_⟩, fun e he => digits e ?_, .inl rfl⟩
    · exact List.mem_of_mem_take (show e ∈ (c :: cs).take (k + 1) from he)
    · exact List.mem_cons_of_mem c (List.mem_of_mem_drop he)
  have h := usual.spells rfl (.inl some')
  rw [List.cons_append, List.take_append_drop] at h
  simpa [Numeral.chars, Numeral.pointed, some'] using h

/-- One digit stands before the point, and an exponent after the others. -/
theorem spells_scientific (hc : c ≠ '0') (x : ℤ) :
    Spells (c :: (Numeral.pointed cs ++ (exponentText x).toList)) (naturalOf (c :: cs))
      (x - cs.length) := by
  obtain ⟨exponent, some', hx⟩ := exponentText_spec x
  have usual : Numeral.IsUsual ⟨[c], cs, (exponentText x).toList⟩ :=
    ⟨.inr ⟨c, [], rfl, hc, by simpa using digits c List.mem_cons_self⟩,
      fun e he => digits e (List.mem_cons_of_mem c he), exponent⟩
  exact usual.spells hx (.inr some')

end layout

/-- What the digits of a number are laid out to stands for the number. -/
theorem spells_write {d : ℕ} (pos : 0 < d) {scale : ℤ} (high : scale ≤ 400) :
    Spells (usualLayout.write (toString d) ((toString d).length + scale)).toList d scale := by
  have written : (toString d).toList = Nat.toDigits 10 d := Nat.toList_repr
  obtain ⟨c, cs, hcs, hc⟩ := head_toDigits_ne_zero pos
  have digits : ∀ e ∈ c :: cs, e.isDigit := hcs ▸ fun _ => isDigit_of_mem_toDigits
  have value : naturalOf (c :: cs) = d := hcs ▸ naturalOf_toDigits d
  rw [hcs] at written
  generalize toString d = text at written ⊢
  have count : text.length = cs.length + 1 := by
    rw [← String.length_toList, written, List.length_cons]
  unfold Layout.write
  dsimp only
  rw [count]
  generalize hpoint : ((cs.length + 1 : ℕ) : ℤ) + scale = point
  split
  · split
    · rename_i small
      have place : scale = -(((-point).toNat + (cs.length + 1) : ℕ) : ℤ) := by omega
      have h := spells_fraction digits (-point).toNat
      rw [value, ← place] at h
      simpa [zerosText, written] using h
    · split
      · rename_i large
        obtain ⟨zeros, rfl⟩ : ∃ zeros : ℕ, scale = zeros := ⟨scale.toNat, by omega⟩
        have h := spells_whole digits hc value pos high
        have same : (point - ((cs.length + 1 : ℕ) : ℤ)).toNat = zeros := by omega
        rw [same]
        simpa [zerosText, written] using h
      · rename_i inner
        obtain ⟨k, hk⟩ : ∃ k : ℕ, point.toNat = k + 1 := ⟨point.toNat - 1, by omega⟩
        have place : scale = -((cs.length - k : ℕ) : ℤ) := by omega
        have h := spells_between digits hc (show k < cs.length by omega)
        rw [value, ← place] at h
        simpa [written, hk] using h
  · have place : scale = point - 1 - cs.length := by omega
    have h := spells_scientific digits hc (point - 1)
    have lead : (text.take 1).toString = String.ofList [c] := by
      apply String.toList_inj.mp
      simp [written]
    have rest : (text.drop 1).toString = String.ofList cs := by
      apply String.toList_inj.mp
      simp [written]
    rw [value, ← place] at h
    rw [lead, rest]
    cases cs <;> simpa [Numeral.pointed] using h

/-- A number in its one form. -/
def IsProper : Double → Prop
  | finite _ m e => IsNormal m e
  | infinite _ | nan => True

/-- The text of a finite number is a numeral with a point or an exponent, and its sign. -/
theorem exists_numeral {m : ℕ} {e : ℤ} (normal : IsNormal m e) (negative : Bool) :
    ∃ n : Numeral, n.IsUsual ∧
      (finite negative m e).text.toList = (if negative then '-' :: n.chars else n.chars) ∧
      (n.part ≠ [] ∨ n.exponent ≠ []) ∧
      readUnsigned? negative n.chars = some (finite negative m e) := by
  have signedText : ∀ (body : String) (n : Numeral), body.toList = n.chars →
      (if negative then "-" ++ body else body).toList =
        if negative then '-' :: n.chars else n.chars := by
    rintro body n h
    cases negative <;> simp [h]
  rcases Nat.eq_zero_or_pos m with rfl | pos
  · have zero : usualLayout.write "0" 1 = "0.0" := by decide +kernel
    obtain rfl : e = leastExponent := normal.full.resolve_right (by decide)
    have usual : Numeral.IsUsual ⟨['0'], ['0'], []⟩ :=
      ⟨.inl rfl, by simp [Char.isDigit], .inl rfl⟩
    refine ⟨_, usual, signedText _ _ ?_, .inl (List.cons_ne_nil _ _), ?_⟩
    · rw [if_pos rfl]
      exact congrArg String.toList zero
    · rw [Numeral.readUnsigned?_chars usual rfl]
      rfl
  · obtain ⟨nonzero, -, high, reads⟩ := shortest_spec normal pos
    obtain ⟨n, usual, written, distinct, hread⟩ := spells_write (Nat.pos_of_ne_zero nonzero) high
    refine ⟨n, usual, signedText _ _ ?_, distinct, ?_⟩
    · rw [if_neg pos.ne']
      exact written
    · rw [hread, reads]

theorem toLower_eq_of_isDigit {c : Char} (h : c.isDigit) : c.toLower = c := by
  have below := (Text.toNat_bounds h).2
  refine dif_neg ?_
  rintro ⟨capital, -⟩
  have : 65 ≤ c.toNat := UInt32.le_iff_toNat_le.mp capital
  omega

/-- The text of a finite number is read back as the number. -/
theorem read?_text {m : ℕ} {e : ℤ} (normal : IsNormal m e) (negative : Bool) :
    read? (finite negative m e).text.toList = some (finite negative m e) := by
  obtain ⟨n, usual, written, -, reads⟩ := exists_numeral normal negative
  obtain ⟨c, rest, hchars, hc⟩ := usual.exists_cons
  have sign : signOf (if negative then '-' :: n.chars else n.chars) = (negative, n.chars) := by
    cases negative
    · rw [if_neg Bool.false_ne_true, hchars]
      unfold signOf
      split
      · rename_i h
        cases (List.cons.inj h).1
        cases hc
      · rename_i h
        cases (List.cons.inj h).1
        cases hc
      · rfl
    · rfl
  -- A numeral begins with a digit, and the names of other numbers begin with a letter.
  have name : ∀ word : String, (∀ d ∈ word.toList.head?, d.isDigit = false) →
      (String.ofList (n.chars.map Char.toLower) == word) = false := by
    intro word hword
    rw [beq_eq_false_iff_ne, hchars, List.map_cons, toLower_eq_of_isDigit hc]
    rintro rfl
    rw [String.toList_ofList] at hword
    exact Bool.false_ne_true ((hword c rfl).symm.trans hc)
  unfold read?
  rw [written, sign]
  dsimp only
  rw [name "inf" (by simp [Char.isDigit]), name "infinity" (by simp [Char.isDigit]),
    name "nan" (by simp [Char.isDigit])]
  exact reads

end Courier.Double

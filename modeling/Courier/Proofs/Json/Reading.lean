import Courier.Json.Reader
import Courier.Proofs.Json.Line

/-!
# Documents read back from their lines

A document is read back from its line (`Json.read?_line`), the names of infinities included. Only
integers with more digits than are read stand in the way.

The parts of a document are read one after the other: a text up to its last quote, a number or a
name up to where no such character follows, and the parts of a list or an object up to the
character that closes it.
-/

namespace Courier.Json

open Double (Numeral)
open Text (span_append)

/-! ## Reading a text back -/

/-- An escape is read as the character that it stands for. -/
theorem escaped?_shortEscapes (rest : List Char) :
    ∀ e ∈ shortEscapes, escaped? (e.1 :: rest) = some (e.2, rest) := by
  simp [shortEscapes, escaped?]

theorem escaped?_unit {n : ℕ} (h : n < 32) (rest : List Char) :
    escaped? ('u' :: ((Text.hex 4 n).toList ++ rest)) = some (Char.ofNat n, rest) := by
  obtain ⟨count, hex, value⟩ := hex_spec n h
  have reads : unit? ((Text.hex 4 n).toList ++ rest) = some (n, rest) := by
    generalize (Text.hex 4 n).toList = ds at *
    obtain ⟨a, b, c, d, rfl⟩ : ∃ a b c d, ds = [a, b, c, d] := by
      match ds, count with
      | [a, b, c, d], _ => exact ⟨a, b, c, d, rfl⟩
    simp only [List.cons_append, List.nil_append, unit?]
    rw [if_pos hex, value]
  have low : ¬0xd800 ≤ n := by omega
  simp only [escaped?, reads]
  split
  · split
    · rw [if_neg (by simp [low])]
    · rfl
  · rfl

/-- A text is read back from between its quotes. -/
theorem textFrom_quotedChars (s rest : List Char) : ∀ {fuel : ℕ}, s.length < fuel →
    textFrom fuel (quotedChars s ++ rest) = some (s, rest) := by
  induction s with
  | nil =>
    intro fuel h
    obtain ⟨fuel, rfl⟩ : ∃ k, fuel = k + 1 := ⟨fuel - 1, by omega⟩
    rfl
  | cons c s ih =>
    intro fuel h
    obtain ⟨fuel, rfl⟩ : ∃ k, fuel = k + 1 := ⟨fuel - 1, by simp at h; omega⟩
    have hs := ih (Nat.lt_of_succ_lt_succ h)
    have split : quotedChars (c :: s) ++ rest =
        (charText false c).toList ++ (quotedChars s ++ rest) := by simp [quotedChars]
    rw [split]
    rcases charText_cases c with ⟨letter, hmem, he⟩ | ⟨control, he⟩ | ⟨-, quote, back, he⟩ <;>
      rw [he]
    · have hletter := escaped?_shortEscapes (quotedChars s ++ rest) _ hmem
      simp only [List.cons_append, List.nil_append, textFrom, hletter, hs, Option.bind_eq_bind,
        Option.bind_some, Option.pure_def]
    · have hunit := escaped?_unit control (quotedChars s ++ rest)
      simp only [List.cons_append, textFrom, hunit, hs, Option.bind_eq_bind, Option.bind_some,
        Option.pure_def, Char.ofNat_toNat]
    · rw [List.singleton_append, textFrom]
      · rw [hs]
        rfl
      · exact quote
      · exact back

/-! ## Reading a number back -/

/-- What begins with a digit, after a sign perhaps, is no name. -/
theorem bare?_of_digit {cs rest : List Char} {c : Char} {negative : Prop} [Decidable negative]
    (digit : c.isDigit = true) (h : cs = if negative then '-' :: c :: rest else c :: rest) :
    bare? cs = if (cs.any fun c => c == '.' || c == 'e' || c == 'E') = true
      then (Double.read? cs).map float else (Text.whole? (String.ofList cs)).toOption.map int := by
  have other : ∀ word : String, (∀ d ∈ word.toList.head?, d ≠ '-' ∧ d.isDigit = false) →
      String.ofList cs ≠ word := by
    rintro word hword rfl
    rw [String.toList_ofList, h] at hword
    split at hword
    · exact (hword '-' rfl).1 rfl
    · exact Bool.false_ne_true ((hword c rfl).2.symm.trans digit)
  have minus : String.ofList cs ≠ "-Infinity" := by
    intro name
    have hcs := congrArg String.toList name
    rw [String.toList_ofList, h] at hcs
    split at hcs
    · cases (List.cons.inj (List.cons.inj hcs).2).1
      cases digit
    · cases (List.cons.inj hcs).1
      cases digit
  unfold bare?
  split
  · exact absurd ‹_› (other "null" (by simp [Char.isDigit]))
  · exact absurd ‹_› (other "true" (by simp [Char.isDigit]))
  · exact absurd ‹_› (other "false" (by simp [Char.isDigit]))
  · exact absurd ‹_› (other "NaN" (by simp [Char.isDigit]))
  · exact absurd ‹_› (other "Infinity" (by simp [Char.isDigit]))
  · exact absurd ‹_› minus
  · rfl

theorem bare?_float {x : Double} (proper : x.IsProper) :
    bare? (lineChars (float x)) = some (float x) := by
  cases x with
  | nan => rfl
  | infinite s => cases s <;> rfl
  | finite s m e =>
    obtain ⟨n, usual, distinct, written⟩ := lineChars_float proper s
    obtain ⟨c, rest, hchars, digit⟩ := usual.exists_cons
    have marked : (lineChars (float (.finite s m e))).any
        (fun c => c == '.' || c == 'e' || c == 'E') = true := by
      obtain ⟨mark, hmem, hmark⟩ := usual.exists_mark distinct
      have within : mark ∈ lineChars (float (.finite s m e)) := by
        rw [written]
        split
        · exact List.mem_cons_of_mem _ hmem
        · exact hmem
      exact List.any_eq_true.mpr ⟨mark, within, by simpa [or_assoc] using hmark⟩
    have reads : Double.read? (lineChars (float (.finite s m e))) = some (.finite s m e) :=
      Double.read?_text proper s
    rw [bare?_of_digit digit (hchars ▸ written), if_pos marked, reads]
    rfl

theorem isMargin_of_isDigit {c : Char} (h : c.isDigit = true) : Text.isMargin c = false := by
  have bounds := Text.toNat_bounds h
  have blank : Text.isBlank c = false := by
    simp only [Text.isBlank, Bool.or_eq_false_iff, Bool.and_eq_false_iff, decide_eq_false_iff_not,
      beq_eq_false_iff_ne]
    omega
  rw [Text.isMargin, blank, Bool.false_and]

theorem withinMargins_eq {cs : List Char} (h : ∀ c ∈ cs, Text.isMargin c = false) :
    Text.withinMargins cs = cs := by
  have kept : ∀ ds : List Char, (∀ c ∈ ds, Text.isMargin c = false) →
      ds.dropWhile Text.isMargin = ds := by
    intro ds hds
    cases ds with
    | nil => rfl
    | cons c ds => simp [hds c List.mem_cons_self]
  rw [Text.withinMargins, kept cs h, kept cs.reverse fun c hc => h c (List.mem_reverse.mp hc),
    List.reverse_reverse]

theorem isGrouped_of_not_mem {cs : List Char} (h : '_' ∉ cs) : Text.isGrouped cs = true := by
  induction cs with
  | nil => rfl
  | cons c cs ih =>
    rw [List.mem_cons, not_or] at h
    unfold Text.isGrouped
    split
    · rfl
    · rename_i heq
      exact absurd (List.cons.inj heq).1.symm h.1
    · rename_i heq
      exact absurd (List.cons.inj heq).1.symm h.1
    · rename_i heq
      obtain ⟨-, rfl⟩ := List.cons.inj heq
      exact ih h.2

theorem unsign_of_digits {ds : List Char} (digits : ∀ c ∈ ds, c.isDigit = true)
    (negative : Bool) : Text.unsign (if negative then '-' :: ds else ds) = (negative, ds) := by
  cases negative with
  | true => rfl
  | false =>
    rw [if_neg Bool.false_ne_true]
    unfold Text.unsign
    split
    · cases digits '-' List.mem_cons_self
    · cases digits '+' List.mem_cons_self
    · rfl

theorem takeWhile_isNumeral_of_digits {ds : List Char} (digits : ∀ c ∈ ds, c.isDigit = true) :
    ds.takeWhile Text.isNumeral = ds := by
  have all : ∀ c ∈ ds, Text.isNumeral c = true := by
    intro c hc
    rw [Text.isNumeral, Text.isDigit, Text.digitValue?_eq_some_of_isDigit (digits c hc)]
    rfl
  simpa using @List.takeWhile_append_of_pos _ _ ds [] all

/-- A run of digits after a sign, not too long, is read as a whole number. -/
theorem whole?_of_digits {ds : List Char} (some' : ds ≠ []) (digits : ∀ c ∈ ds, c.isDigit = true)
    (short : ds.length ≤ digitLimit) (negative : Bool) :
    Text.whole? (String.ofList (if negative then '-' :: ds else ds)) =
      .ok (if negative then -(Text.digitsValue ds : ℤ) else Text.digitsValue ds) := by
  have low : '_' ∉ ds := fun h => by cases digits _ h
  have margins : Text.withinMargins (if negative then '-' :: ds else ds) =
      if negative then '-' :: ds else ds :=
    withinMargins_eq (forall_mem_signed (by decide) fun c hc => isMargin_of_isDigit (digits c hc))
  have kept : ds.filter (· != '_') = ds := by
    rw [List.filter_eq_self]
    intro c hc
    rw [bne_iff_ne]
    rintro rfl
    exact low hc
  have head : (ds.head? == some '_') = false := by
    rw [beq_eq_false_iff_ne]
    exact fun h => low (List.mem_of_head? h)
  have empty : ds.isEmpty = false := by simpa using some'
  unfold Text.whole?
  rw [String.toList_ofList, margins, unsign_of_digits digits]
  dsimp only
  rw [takeWhile_isNumeral_of_digits digits, kept, empty, head, isGrouped_of_not_mem low,
    if_neg (by simp), if_neg (Nat.not_lt.mpr short), if_neg (by simp)]

theorem bare?_int {n : ℤ} (small : n.natAbs < 10 ^ digitLimit) :
    bare? (lineChars (int n)) = some (int n) := by
  have digits : ∀ c ∈ Nat.toDigits 10 n.natAbs, c.isDigit = true :=
    fun _ => Double.isDigit_of_mem_toDigits
  have some' : Nat.toDigits 10 n.natAbs ≠ [] := List.ne_nil_of_length_pos Nat.length_toDigits_pos
  have short : (Nat.toDigits 10 n.natAbs).length ≤ digitLimit :=
    (Nat.length_toDigits_le_iff (by decide) (by decide)).mpr small
  have whole := whole?_of_digits some' digits short (decide (n < 0))
  simp only [decide_eq_true_eq] at whole
  rw [Date.digitsValue_toDigits, ← lineChars_int] at whole
  obtain ⟨c, rest, hcs⟩ := List.exists_cons_of_ne_nil some'
  have written := lineChars_int n
  have unmarked : ¬(lineChars (int n)).any (fun c => c == '.' || c == 'e' || c == 'E') = true := by
    have plain : ∀ c ∈ lineChars (int n), c = '-' ∨ c.isDigit = true := by
      rw [written]
      exact forall_mem_signed (.inl rfl) fun c hc => .inr (digits c hc)
    rw [List.any_eq_true]
    rintro ⟨d, hd, mark⟩
    simp only [Bool.or_eq_true, beq_iff_eq] at mark
    rcases mark with (rfl | rfl) | rfl <;> rcases plain _ hd with h | h <;> cases h
  rw [hcs] at written
  rw [bare?_of_digit (digits c (hcs ▸ List.mem_cons_self)) written, if_neg unmarked, whole]
  have value : (if n < 0 then -(n.natAbs : ℤ) else n.natAbs) = n := by
    split <;> omega
  rw [value]
  rfl

/-! ## Reading a document back -/

theorem skipBlanks_cons {c : Char} (h : (c == ' ' || c == '\n' || c == '\r' || c == '\t') = false)
    (cs : List Char) : skipBlanks (c :: cs) = c :: cs :=
  List.dropWhile_cons_of_neg (by simp [h])

theorem plain_of_isBare {c : Char} (h : isBare c = true) :
    (c == ' ' || c == '\n' || c == '\r' || c == '\t') = false ∧ c ≠ '"' ∧ c ≠ '[' ∧ c ≠ '\x7b' ∧
      c ≠ ']' ∧ c ≠ '\x7d' := by
  refine ⟨?_, ?_, ?_, ?_, ?_, ?_⟩
  · simp only [Bool.or_eq_false_iff, beq_eq_false_iff_ne]
    refine ⟨⟨⟨?_, ?_⟩, ?_⟩, ?_⟩ <;> rintro rfl <;> cases h
  all_goals
    rintro rfl
    cases h

theorem isBare_of_isDigit {c : Char} (h : c.isDigit = true) : isBare c = true := by
  simp [isBare, Char.isAlphanum, h]

/-- Whether no number and no name goes on in what follows. -/
def Stops (rest : List Char) : Prop := ∀ c ∈ rest.head?, isBare c = false

theorem documentFrom_blank (fuel : ℕ) (cs : List Char) :
    documentFrom fuel (' ' :: cs) = documentFrom fuel cs := by
  cases fuel <;> rfl

/-- A number or a name is read up to where it ends. -/
theorem documentFrom_bare {cs rest : List Char} {j : Json} (some' : cs ≠ [])
    (bare : ∀ c ∈ cs, isBare c = true) (reads : bare? cs = some j) (stops : Stops rest)
    (fuel : ℕ) : documentFrom (fuel + 1) (cs ++ rest) = some (j, rest) := by
  obtain ⟨run, after⟩ := span_append bare stops
  obtain ⟨c, cs, rfl⟩ := List.exists_cons_of_ne_nil some'
  obtain ⟨solid, quote, bracket, brace, -, -⟩ := plain_of_isBare (bare c List.mem_cons_self)
  rw [documentFrom, List.cons_append, skipBlanks_cons solid]
  split
  · exact absurd (List.cons.inj ‹_›).1 quote
  · exact absurd (List.cons.inj ‹_›).1 bracket
  · exact absurd (List.cons.inj ‹_›).1 brace
  · rw [← List.cons_append, run, after, reads]
    rfl

/-- A text is read up to its last quote. -/
theorem documentFrom_text (s rest : List Char) (fuel : ℕ) :
    documentFrom (fuel + 1) ('"' :: quotedChars s ++ rest) = some (text (String.ofList s), rest) := by
  have enough : s.length < (quotedChars s ++ rest).length + 1 := by
    have : s.length ≤ (s.flatMap fun c => (charText false c).toList).length := by
      induction s with
      | nil => simp
      | cons c s ih =>
        have : 1 ≤ (charText false c).toList.length := by
          rcases charText_cases c with ⟨letter, -, h⟩ | ⟨-, h⟩ | ⟨-, -, -, h⟩ <;> rw [h] <;> simp
        rw [List.flatMap_cons, List.length_append, List.length_cons]
        omega
    rw [quotedChars, List.length_append, List.length_append]
    omega
  rw [documentFrom, List.cons_append, skipBlanks_cons (by decide)]
  simp only [textFrom_quotedChars s rest enough]
  rfl

/-- Whether a document is a number or a name that is read back. -/
structure IsBareLine (j : Json) : Prop where
  some' : lineChars j ≠ []
  bare : ∀ c ∈ lineChars j, isBare c = true
  reads : bare? (lineChars j) = some j

theorem isBareLine_int {n : ℤ} (small : n.natAbs < 10 ^ digitLimit) : IsBareLine (int n) := by
  have some' : Nat.toDigits 10 n.natAbs ≠ [] := List.ne_nil_of_length_pos Nat.length_toDigits_pos
  refine ⟨?_, ?_, bare?_int small⟩
  · rw [lineChars_int]
    split
    · exact List.cons_ne_nil _ _
    · exact some'
  · rw [lineChars_int]
    exact forall_mem_signed rfl fun c hc => isBare_of_isDigit (Double.isDigit_of_mem_toDigits hc)

theorem isBareLine_float {x : Double} (proper : x.IsProper) : IsBareLine (float x) := by
  cases x with
  | nan => exact ⟨List.cons_ne_nil _ _, forall_mem_of_all rfl, rfl⟩
  | infinite s => cases s <;> exact ⟨List.cons_ne_nil _ _, forall_mem_of_all rfl, rfl⟩
  | finite s m e =>
    obtain ⟨n, usual, -, written⟩ := lineChars_float proper s
    have others : ∀ c ∈ ['.', 'e', 'E', '+', '-'], isBare c = true := forall_mem_of_all rfl
    obtain ⟨c, rest, hchars, -⟩ := usual.exists_cons
    refine ⟨?_, ?_, bare?_float proper⟩
    · rw [written, hchars]
      split <;> exact List.cons_ne_nil _ _
    · rw [written]
      exact forall_mem_signed rfl fun c hc =>
        (Numeral.mem_chars usual hc).elim isBare_of_isDigit (others c)

/-- A document is a number or a name, or a text, a list or an object. -/
theorem isBareLine_or {j : Json} (readable : AtLeaves ReadableLeaf j) : IsBareLine j ∨
    ∃ c cs, lineChars j = c :: cs ∧ (c = '"' ∨ c = '[' ∨ c = '\x7b') := by
  cases j with
  | null => exact .inl ⟨List.cons_ne_nil _ _, forall_mem_of_all rfl, rfl⟩
  | bool b => cases b <;> exact .inl ⟨List.cons_ne_nil _ _, forall_mem_of_all rfl, rfl⟩
  | int n => exact .inl (isBareLine_int readable)
  | float x => exact .inl (isBareLine_float readable)
  | text s => exact .inr ⟨_, _, lineChars_text s, .inl rfl⟩
  | list xs => exact .inr ⟨_, _, lineChars_list xs, .inr (.inl rfl)⟩
  | object ms => exact .inr ⟨_, _, lineChars_object ms, .inr (.inr rfl)⟩

/-- The first character of a document is no blank and closes nothing. -/
theorem exists_first {j : Json} (readable : AtLeaves ReadableLeaf j) : ∃ c cs,
    lineChars j = c :: cs ∧ (c == ' ' || c == '\n' || c == '\r' || c == '\t') = false ∧
      c ≠ ']' ∧ c ≠ '\x7d' := by
  rcases isBareLine_or readable with ⟨some', bare, -⟩ | ⟨c, cs, h, rfl | rfl | rfl⟩
  · obtain ⟨c, cs, h⟩ := List.exists_cons_of_ne_nil some'
    obtain ⟨solid, -, -, -, bracket, brace⟩ := plain_of_isBare (bare c (h ▸ List.mem_cons_self))
    exact ⟨c, cs, h, solid, bracket, brace⟩
  all_goals exact ⟨_, cs, h, by decide, by decide, by decide⟩

/-- Whether a document is read back from its characters, whatever follows them. -/
def ReadsBack (j : Json) : Prop := ∀ (fuel : ℕ) (rest : List Char), (lineChars j).length ≤ fuel →
  Stops rest → documentFrom fuel (lineChars j ++ rest) = some (j, rest)

theorem itemsFrom_blank (fuel : ℕ) (cs : List Char) :
    itemsFrom fuel (' ' :: cs) = itemsFrom fuel cs := by
  cases fuel with
  | zero => rfl
  | succ fuel => rw [itemsFrom, itemsFrom, documentFrom_blank]

theorem membersFrom_blank (fuel : ℕ) (cs : List Char) :
    membersFrom fuel (' ' :: cs) = membersFrom fuel cs := by
  cases fuel with
  | zero => rfl
  | succ fuel => rw [membersFrom, membersFrom, documentFrom_blank]

/-- Items are read back up to the bracket that closes their list. -/
theorem itemsFrom_joined {x : Json} {xs : List Json} (h : ∀ y ∈ x :: xs, ReadsBack y)
    (rest : List Char) : ∀ {fuel : ℕ}, (joined ((x :: xs).map lineChars)).length < fuel →
      itemsFrom fuel (joined ((x :: xs).map lineChars) ++ ']' :: rest) = some (x :: xs, rest) := by
  induction xs generalizing x with
  | nil =>
    intro fuel enough
    obtain ⟨fuel, rfl⟩ : ∃ k, fuel = k + 1 := ⟨fuel - 1, by omega⟩
    rw [List.map_singleton, joined_singleton] at enough ⊢
    have stops : Stops (']' :: rest) := by simp [Stops, isBare, Char.isAlphanum]
    rw [itemsFrom, h x List.mem_cons_self fuel _ (by omega) stops]
    rfl
  | cons next xs ih =>
    intro fuel enough
    obtain ⟨fuel, rfl⟩ : ∃ k, fuel = k + 1 := ⟨fuel - 1, by omega⟩
    rw [List.map_cons, List.map_cons, joined_cons_cons, ← List.map_cons, List.length_append,
      List.length_cons, List.length_cons] at enough
    rw [List.map_cons, List.map_cons, joined_cons_cons, ← List.map_cons, List.append_assoc,
      List.cons_append, List.cons_append]
    have stops : ∀ more, Stops (',' :: more) := by simp [Stops, isBare, Char.isAlphanum]
    have enough' : (joined ((next :: xs).map lineChars)).length < fuel := by omega
    have more := ih (fun y hy => h y (List.mem_cons_of_mem _ hy)) enough'
    rw [itemsFrom, h x List.mem_cons_self fuel _ (by omega) (stops _)]
    simp only [Option.bind_eq_bind, Option.bind_some, skipBlanks_cons (c := ',') rfl,
      itemsFrom_blank, more, Option.pure_def]

/-- The name of a member and its value are read one after the other. -/
theorem documentFrom_member {m : String × Json} (h : ReadsBack m.2) {fuel : ℕ}
    {after : List Char} (enough : (memberChars m).length ≤ fuel) (stops : Stops after) :
    ∃ between, documentFrom fuel (memberChars m ++ after) = some (text m.1, between) ∧
      skipBlanks between = ':' :: ' ' :: (lineChars m.2 ++ after) ∧
      documentFrom fuel (' ' :: (lineChars m.2 ++ after)) = some (m.2, after) := by
  simp only [memberChars, List.length_append, List.length_cons] at enough
  obtain ⟨fuel, rfl⟩ : ∃ k, fuel = k + 1 := ⟨fuel - 1, by omega⟩
  refine ⟨':' :: ' ' :: (lineChars m.2 ++ after), ?_, rfl, ?_⟩
  · have name := documentFrom_text m.1.toList (':' :: ' ' :: (lineChars m.2 ++ after)) fuel
    rw [String.ofList_toList] at name
    rw [← name]
    simp [memberChars]
  · rw [documentFrom_blank]
    exact h _ _ (by omega) stops

/-- Members are read back up to the brace that closes their object. -/
theorem membersFrom_joined {m : String × Json} {ms : List (String × Json)}
    (h : ∀ n ∈ m :: ms, ReadsBack n.2) (rest : List Char) : ∀ {fuel : ℕ},
      (joined ((m :: ms).map memberChars)).length < fuel →
        membersFrom fuel (joined ((m :: ms).map memberChars) ++ '\x7d' :: rest) =
          some (m :: ms, rest) := by
  induction ms generalizing m with
  | nil =>
    intro fuel enough
    obtain ⟨fuel, rfl⟩ : ∃ k, fuel = k + 1 := ⟨fuel - 1, by omega⟩
    rw [List.map_singleton, joined_singleton] at enough ⊢
    have stops : Stops ('\x7d' :: rest) := by simp [Stops, isBare, Char.isAlphanum]
    obtain ⟨between, hname, hskip, hvalue⟩ :=
      documentFrom_member (h m List.mem_cons_self) (Nat.le_of_lt_succ enough) stops
    rw [membersFrom, hname]
    simp only [Option.bind_eq_bind, Option.bind_some, hskip, hvalue]
    rfl
  | cons next ms ih =>
    intro fuel enough
    obtain ⟨fuel, rfl⟩ : ∃ k, fuel = k + 1 := ⟨fuel - 1, by omega⟩
    rw [List.map_cons, List.map_cons, joined_cons_cons, ← List.map_cons, List.length_append,
      List.length_cons, List.length_cons] at enough
    rw [List.map_cons, List.map_cons, joined_cons_cons, ← List.map_cons, List.append_assoc,
      List.cons_append, List.cons_append]
    have stops : ∀ more, Stops (',' :: more) := by simp [Stops, isBare, Char.isAlphanum]
    have enough' : (joined ((next :: ms).map memberChars)).length < fuel := by omega
    have more := ih (fun n hn => h n (List.mem_cons_of_mem _ hn)) enough'
    obtain ⟨between, hname, hskip, hvalue⟩ :=
      documentFrom_member (h m List.mem_cons_self) (show (memberChars m).length ≤ fuel by omega)
        (stops _)
    rw [membersFrom, hname]
    simp only [Option.bind_eq_bind, Option.bind_some, hskip, hvalue, skipBlanks_cons (c := ',') rfl,
      membersFrom_blank, more, Option.pure_def]

theorem IsBareLine.readsBack {j : Json} (h : IsBareLine j) : ReadsBack j := by
  intro fuel rest enough stops
  have pos : 0 < (lineChars j).length := List.length_pos_of_ne_nil h.some'
  obtain ⟨fuel, rfl⟩ : ∃ k, fuel = k + 1 := ⟨fuel - 1, by omega⟩
  exact documentFrom_bare h.some' h.bare h.reads stops fuel

theorem readsBack_text (s : String) : ReadsBack (text s) := by
  intro fuel rest enough stops
  rw [lineChars_text, List.length_cons] at enough
  obtain ⟨fuel, rfl⟩ : ∃ k, fuel = k + 1 := ⟨fuel - 1, by omega⟩
  rw [lineChars_text, documentFrom_text, String.ofList_toList]

theorem readsBack_list {xs : List Json} (readable : ∀ x ∈ xs, AtLeaves ReadableLeaf x)
    (h : ∀ x ∈ xs, ReadsBack x) : ReadsBack (list xs) := by
  intro fuel rest enough stops
  rw [lineChars_list, List.length_cons, List.length_append, List.length_singleton] at enough
  obtain ⟨fuel, rfl⟩ : ∃ k, fuel = k + 1 := ⟨fuel - 1, by omega⟩
  rw [lineChars_list, List.cons_append, List.append_assoc, documentFrom,
    skipBlanks_cons (by decide)]
  cases xs with
  | nil => rfl
  | cons x xs =>
    obtain ⟨c, cs, hcs, solid, bracket, -⟩ := exists_first (readable x List.mem_cons_self)
    have items := itemsFrom_joined h rest
      (show (joined ((x :: xs).map lineChars)).length < fuel by omega)
    obtain ⟨more, hmore⟩ := @exists_joined_cons c cs (xs.map lineChars)
    rw [List.map_cons, hcs, hmore] at items ⊢
    simp only [List.cons_append, List.nil_append, skipBlanks_cons solid] at items ⊢
    split
    · exact absurd (List.cons.inj ‹_›).1 bracket
    · rw [items]
      rfl

theorem readsBack_object {ms : List (String × Json)} (h : ∀ m ∈ ms, ReadsBack m.2) :
    ReadsBack (object ms) := by
  intro fuel rest enough stops
  rw [lineChars_object, List.length_cons, List.length_append, List.length_singleton] at enough
  obtain ⟨fuel, rfl⟩ : ∃ k, fuel = k + 1 := ⟨fuel - 1, by omega⟩
  rw [lineChars_object, List.cons_append, List.append_assoc, documentFrom,
    skipBlanks_cons (by decide)]
  cases ms with
  | nil => rfl
  | cons m ms =>
    have members := membersFrom_joined h rest
      (show (joined ((m :: ms).map memberChars)).length < fuel by omega)
    obtain ⟨more, hmore⟩ : ∃ more, joined ((m :: ms).map memberChars) = '"' :: more :=
      exists_joined_cons (ms.map memberChars)
    rw [hmore] at members ⊢
    simp only [List.cons_append, List.nil_append, skipBlanks_cons (c := '"') rfl] at members ⊢
    split
    · exact absurd (List.cons.inj ‹_›).1 (by decide)
    · rw [members]
      rfl

/-- A document is read back from its characters. -/
theorem readsBack {j : Json} (readable : AtLeaves ReadableLeaf j) : ReadsBack j := by
  induction j using induct with
  | null => exact IsBareLine.readsBack ⟨List.cons_ne_nil _ _, forall_mem_of_all rfl, rfl⟩
  | bool b =>
    cases b <;> exact IsBareLine.readsBack ⟨List.cons_ne_nil _ _, forall_mem_of_all rfl, rfl⟩
  | int n => exact (isBareLine_int readable).readsBack
  | float x => exact (isBareLine_float readable).readsBack
  | text s => exact readsBack_text s
  | list xs ih =>
    rw [atLeaves_list] at readable
    exact readsBack_list readable fun x hx => ih x hx (readable x hx)
  | object ms ih =>
    rw [atLeaves_object] at readable
    exact readsBack_object fun m hm => ih m hm (readable m hm)

end Courier.Json

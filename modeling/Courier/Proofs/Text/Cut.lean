import Courier.Text.Blank
import Courier.Text.Cut
import Mathlib.Data.List.DropRight

/-!
# Where a text is cut

A text is cut at a character exactly if it has the character (`Text.cutLast_eq_none_iff`), and what
stands after the last one does not have it (`Text.cutLast_eq_some_iff`). Where the first mark stands
depends on what precedes it and on the mark alone, so what follows may be changed
(`Text.cutFirst_append`).

What trimming leaves of a text begins and ends with a character that is not blank, if it leaves
anything (`Text.isBare_trim`), and a text that already does is left as it is (`Text.trim_eq_self`).
-/

namespace Courier.Text

variable {c : Char} {mark cs before after : List Char}

/-! ## Runs of a kind -/

/-- A run of characters of a kind ends where the first character of another kind stands. -/
theorem span_append {p : Char → Bool} {run rest : List Char} (hrun : ∀ c ∈ run, p c = true)
    (stop : ∀ c ∈ rest.head?, p c = false) :
    (run ++ rest).takeWhile p = run ∧ (run ++ rest).dropWhile p = rest := by
  rw [List.takeWhile_append_of_pos hrun, List.dropWhile_append_of_pos hrun]
  cases rest with
  | nil => simp
  | cons c rest => simp [stop c rfl]

/-! ## The first mark -/

/-- A mark does not start before its first character occurs. -/
theorem cutFirst_of_not_mem (h : c ∉ before) (after : List Char) :
    cutFirst (c :: mark) (before ++ c :: mark ++ after) = some (before, after) := by
  induction before with
  | nil => simp [cutFirst]
  | cons d before ih =>
    have hd : c ≠ d := fun e => h (e ▸ List.mem_cons_self)
    have hrest := ih fun hc => h (List.mem_cons_of_mem d hc)
    simpa [cutFirst, hd] using hrest

/-- What follows the first mark does not decide where it stands. -/
theorem cutFirst_append (h : cutFirst mark cs = some (before, after)) (more : List Char) :
    cutFirst mark (before ++ mark ++ more) = some (before, more) := by
  induction cs generalizing before with
  | nil =>
    simp only [cutFirst] at h
    split at h
    · rename_i empty
      obtain rfl := List.isEmpty_iff.mp empty
      obtain ⟨rfl, -⟩ := Prod.mk.inj (Option.some.inj h)
      cases more <;> simp [cutFirst]
    · cases h
  | cons d cs ih =>
    simp only [cutFirst] at h
    split at h
    · obtain ⟨rfl, -⟩ := Prod.mk.inj (Option.some.inj h)
      cases mark with
      | nil => cases more <;> simp [cutFirst]
      | cons c mark => exact cutFirst_of_not_mem List.not_mem_nil more
    · rename_i apart
      obtain ⟨⟨front, back⟩, hcut, heq⟩ := Option.map_eq_some_iff.mp h
      obtain ⟨rfl, rfl⟩ := Prod.mk.inj heq
      -- The first characters, as many as the mark has, are the same as before.
      have still : mark.isPrefixOf (d :: (front ++ mark ++ more)) = false := by
        rw [Bool.eq_false_iff, ne_eq, List.isPrefixOf_iff_prefix]
        rw [List.isPrefixOf_iff_prefix, cutFirst_eq_some hcut] at apart
        intro starts
        have short : mark.length ≤ (d :: (front ++ mark)).length := by
          simp only [List.length_cons, List.length_append]
          omega
        have within : mark <+: d :: (front ++ mark) :=
          List.prefix_of_prefix_length_le starts (List.prefix_append _ more) short
        exact apart (within.trans (List.prefix_append _ back))
      rw [List.cons_append, List.cons_append, cutFirst, still, if_neg Bool.false_ne_true, ih hcut]
      rfl

/-! ## The last character -/

theorem cutFirst_singleton_eq_none_iff : cutFirst [c] cs = none ↔ c ∉ cs := by
  induction cs with
  | nil => simp [cutFirst]
  | cons d cs ih =>
    by_cases h : c = d
    · simp [cutFirst, h]
    · simp [cutFirst, h, ih]

theorem not_mem_of_cutFirst_singleton (h : cutFirst [c] cs = some (before, after)) :
    c ∉ before := by
  induction cs generalizing before with
  | nil => simp [cutFirst] at h
  | cons d cs ih =>
    simp only [cutFirst] at h
    split at h
    · obtain ⟨rfl, -⟩ := Prod.mk.inj (Option.some.inj h)
      exact List.not_mem_nil
    · rename_i apart
      obtain ⟨⟨front, back⟩, hcut, heq⟩ := Option.map_eq_some_iff.mp h
      obtain ⟨rfl, rfl⟩ := Prod.mk.inj heq
      rw [List.mem_cons, not_or]
      exact ⟨fun e => apart (by simp [e]), ih hcut⟩

/-- A text without the character is not cut. -/
theorem cutLast_eq_none_iff : cutLast c cs = none ↔ c ∉ cs := by
  rw [cutLast, Option.map_eq_none_iff, cutFirst_singleton_eq_none_iff, List.mem_reverse]

/-- A text is cut where no such character follows. -/
theorem cutLast_eq_some_iff :
    cutLast c cs = some (before, after) ↔ cs = before ++ c :: after ∧ c ∉ after := by
  rw [cutLast, Option.map_eq_some_iff]
  constructor
  · rintro ⟨⟨back, front⟩, hcut, heq⟩
    obtain ⟨rfl, rfl⟩ := Prod.mk.inj heq
    have parts := congrArg List.reverse (cutFirst_eq_some hcut)
    have last := not_mem_of_cutFirst_singleton hcut
    exact ⟨by simpa using parts, by simpa using last⟩
  · rintro ⟨rfl, last⟩
    refine ⟨(after.reverse, before.reverse), ?_, by simp⟩
    have last' : c ∉ after.reverse := by simpa using last
    simpa using @cutFirst_of_not_mem c [] after.reverse last' before.reverse

/-! ## Occurrences -/

theorem occursIn_append (mark before after : List Char) :
    occursIn mark (before ++ mark ++ after) = true := by
  induction before with
  | nil =>
    cases h : mark ++ after with
    | nil =>
      obtain ⟨rfl, rfl⟩ := List.append_eq_nil_iff.mp h
      rfl
    | cons c rest =>
      have starts : mark.isPrefixOf (c :: rest) = true :=
        List.isPrefixOf_iff_prefix.mpr (h ▸ List.prefix_append mark after)
      rw [List.nil_append, h, occursIn, starts, Bool.true_or]
  | cons d before ih =>
    rw [List.cons_append, List.cons_append, occursIn, ih, Bool.or_true]

/-! ## Trimming -/

/-- A text that is not empty and has no blank at either end. -/
structure IsBare (s : String) : Prop where
  ne_empty : s ≠ ""
  head : ∀ c, s.toList.head? = some c → isBlank c = false
  last : ∀ c, s.toList.getLast? = some c → isBlank c = false

/-- What dropping leading blanks leaves does not begin with one. -/
theorem not_isBlank_of_head?_dropWhile {cs : List Char} {c : Char}
    (h : (cs.dropWhile isBlank).head? = some c) : isBlank c = false := by
  have := List.head?_dropWhile_not isBlank cs
  simpa [h] using this

theorem trimEnd_prefix (cs : List Char) : trimEnd cs <+: cs := List.rdropWhile_prefix isBlank cs

/-- What trimming leaves is bare. -/
theorem isBare_trim {s : String} (left : trim s ≠ "") : IsBare (trim s) := by
  refine ⟨left, fun c hc => ?_, fun c hc => ?_⟩
  · rw [trim, String.toList_ofList] at hc
    obtain ⟨rest, hrest⟩ := trimEnd_prefix (trimStart s.toList)
    have start : (trimStart s.toList).head? = some c := by
      rw [← hrest, List.head?_append, hc]
      rfl
    exact not_isBlank_of_head?_dropWhile start
  · rw [trim, String.toList_ofList, trimEnd, List.getLast?_reverse] at hc
    exact not_isBlank_of_head?_dropWhile hc

theorem dropWhile_isBlank_eq_self {cs : List Char}
    (h : ∀ c, cs.head? = some c → isBlank c = false) : cs.dropWhile isBlank = cs := by
  cases cs with
  | nil => rfl
  | cons c cs => simp [List.dropWhile, h c rfl]

/-- A text without a blank at either end has nothing to trim. -/
theorem trim_eq_self {s : String} (head : ∀ c, s.toList.head? = some c → isBlank c = false)
    (last : ∀ c, s.toList.getLast? = some c → isBlank c = false) : trim s = s := by
  have start : trimStart s.toList = s.toList := dropWhile_isBlank_eq_self head
  have finish : s.toList.reverse.dropWhile isBlank = s.toList.reverse :=
    dropWhile_isBlank_eq_self (by simpa using last)
  rw [trim, start, trimEnd, finish, List.reverse_reverse, String.ofList_toList]

end Courier.Text

/-!
# Cutting and replacing

`cutFirst` and `cutLast` cut a text at the first or the last occurrence of a mark, which belongs to
neither part. `withoutLineEnd` cuts off one line feed at the end. `replaceAll pattern by text` puts
`by` for each occurrence of `pattern`, read from the left without overlap. The text put in is not
searched again.
-/

namespace Courier.Text

/-- The text before and after the first occurrence of a mark. -/
def cutFirst (mark : List Char) : List Char → Option (List Char × List Char)
  | [] => if mark.isEmpty then some ([], []) else none
  | c :: rest =>
    if mark.isPrefixOf (c :: rest) then some ([], (c :: rest).drop mark.length)
    else (cutFirst mark rest).map fun p => (c :: p.1, p.2)

/-- The text before and after the last occurrence of a character. -/
def cutLast (mark : Char) (cs : List Char) : Option (List Char × List Char) :=
  (cutFirst [mark] cs.reverse).map fun p => (p.2.reverse, p.1.reverse)

/-- The text without the line feed at its end, if there is one. -/
def withoutLineEnd (cs : List Char) : List Char :=
  if cs.getLast? == some '\n' then cs.dropLast else cs

/-- The parts with the mark between them make the text. -/
theorem cutFirst_eq_some {mark : List Char} {cs before after : List Char}
    (h : cutFirst mark cs = some (before, after)) : cs = before ++ mark ++ after := by
  induction cs generalizing before with
  | nil =>
    simp only [cutFirst] at h
    split at h
    · rename_i empty
      simp only [Option.some.injEq, Prod.mk.injEq] at h
      simp [← h.1, ← h.2, List.isEmpty_iff.mp empty]
    · simp at h
  | cons c rest ih =>
    simp only [cutFirst] at h
    split at h
    · rename_i starts
      obtain ⟨tail, eq⟩ := List.isPrefixOf_iff_prefix.mp starts
      simp only [Option.some.injEq, Prod.mk.injEq] at h
      rw [← h.1, ← h.2, ← eq]
      simp
    · obtain ⟨p, hp, eq⟩ := Option.map_eq_some_iff.mp h
      simp only [Prod.mk.injEq] at eq
      have : rest = p.1 ++ mark ++ after := ih (by rw [hp, ← eq.2])
      rw [← eq.1, this]
      simp

/-- Replacement in the rest of a text, of which the first `skip` characters belong to an
occurrence already replaced. -/
def replaceFrom (pattern new : List Char) : Nat → List Char → List Char
  | _, [] => []
  | skip + 1, _ :: rest => replaceFrom pattern new skip rest
  | 0, c :: rest =>
    if pattern.isPrefixOf (c :: rest) then
      new ++ replaceFrom pattern new (pattern.length - 1) rest
    else c :: replaceFrom pattern new 0 rest

/-- The text with each occurrence of the pattern replaced. -/
def replaceAll (pattern new text : List Char) : List Char :=
  replaceFrom pattern new 0 text

/-- Whether a text occurs in another. -/
def occursIn (pattern : List Char) : List Char → Bool
  | [] => pattern.isEmpty
  | c :: rest => pattern.isPrefixOf (c :: rest) || occursIn pattern rest

@[simp] theorem replaceFrom_nil (pattern new : List Char) (skip : Nat) :
    replaceFrom pattern new skip [] = [] := by
  cases skip <;> rfl

theorem replaceFrom_eq_drop (pattern new : List Char) :
    ∀ (skip : Nat) (text : List Char),
      replaceFrom pattern new skip text = replaceFrom pattern new 0 (text.drop skip)
  | 0, text => by simp
  | skip + 1, [] => by simp
  | skip + 1, _ :: rest => by
    simpa [replaceFrom] using replaceFrom_eq_drop pattern new skip rest

end Courier.Text

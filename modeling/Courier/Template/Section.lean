import Courier.Text.Word

/-!
# Sections

A section opens with a marker that names it, goes up to the first closing marker of that name, and
is kept or dropped as a whole. Sections do not nest: what a kept section holds is not looked at
again. An opening marker without a closing one is plain text.

`resolve` reads a text from the left. `resolveFrom` does the same with a count of the characters
that belong to a section already read, which makes it a plain recursion on the text.
-/

namespace Courier.Template

open Courier.Text

/-- The text before the first occurrence of a pattern and the text after it. -/
def splitAt? (pattern : List Char) : List Char → Option (List Char × List Char)
  | [] => if pattern.isEmpty then some ([], []) else none
  | c :: rest =>
    if pattern.isPrefixOf (c :: rest) then some ([], (c :: rest).drop pattern.length)
    else (splitAt? pattern rest).map fun parts => (c :: parts.1, parts.2)

/-- Two opening braces. -/
def opening : List Char := ['\x7b', '\x7b']

/-- Two closing braces. -/
def closing : List Char := ['\x7d', '\x7d']

/-- A tag: its content between double braces. -/
def tag (content : List Char) : List Char := opening ++ content ++ closing

/-- The marker that ends the section of a name. -/
def closingMarker (name : List Char) : List Char := tag ('/' :: name)

/-- The marker that begins the section of a name. -/
def openingMarker (name : List Char) : List Char := tag ('#' :: name)

/-- The name of the opening marker at the start of a text, and the text after the marker. -/
def openingAt? : List Char → Option (List Char × List Char)
  | '\x7b' :: '\x7b' :: '#' :: rest =>
    match rest.takeWhile isWordChar, rest.dropWhile isWordChar with
    | c :: name, '\x7d' :: '\x7d' :: after => some (c :: name, after)
    | _, _ => none
  | _ => none

/-- A section as it stands in a text. -/
structure Section where
  name : List Char
  content : List Char
deriving DecidableEq, Repr

/-- The section at the start of a text, and the text after it. -/
def sectionAt? (text : List Char) : Option (Section × List Char) :=
  (openingAt? text).bind fun opened =>
    (splitAt? (closingMarker opened.1) opened.2).map fun parts =>
      (⟨opened.1, parts.1⟩, parts.2)

/-- What remains of a section. -/
def Section.resolved (holds : List Char → Bool) (s : Section) : List Char :=
  if holds s.name then s.content else []

/-- Resolve the sections of a text of which the first `skip` characters are read already. -/
def resolveFrom (holds : List Char → Bool) : Nat → List Char → List Char
  | _, [] => []
  | skip + 1, _ :: rest => resolveFrom holds skip rest
  | 0, c :: rest =>
    match sectionAt? (c :: rest) with
    | some (s, after) => s.resolved holds ++ resolveFrom holds (rest.length - after.length) rest
    | none => c :: resolveFrom holds 0 rest

/-- A text with every section kept or dropped. -/
def resolve (holds : List Char → Bool) (text : List Char) : List Char := resolveFrom holds 0 text

/-! ## Lengths -/

theorem splitAt?_eq_append {pattern : List Char} :
    ∀ {text before after : List Char}, splitAt? pattern text = some (before, after) →
      text = before ++ pattern ++ after
  | [], before, after, h => by
    cases pattern <;> simp_all [splitAt?]
  | c :: rest, before, after, h => by
    unfold splitAt? at h
    split at h
    · rename_i hp
      obtain ⟨tail, ht⟩ := List.isPrefixOf_iff_prefix.mp hp
      obtain ⟨rfl, rfl⟩ := Prod.mk.inj (Option.some.inj h)
      simp [← ht]
    · obtain ⟨⟨b, a⟩, hr, he⟩ := Option.map_eq_some_iff.mp h
      obtain ⟨rfl, rfl⟩ := Prod.mk.inj he
      simp [splitAt?_eq_append hr]

theorem openingAt?_eq_append {text name after : List Char}
    (h : openingAt? text = some (name, after)) : text = openingMarker name ++ after := by
  unfold openingAt? at h
  split at h
  · rename_i rest
    split at h
    · rename_i c word tail hn hd
      obtain ⟨rfl, rfl⟩ := Prod.mk.inj (Option.some.inj h)
      have parts := List.takeWhile_append_dropWhile (p := isWordChar) (l := rest)
      rw [hn, hd] at parts
      simp [openingMarker, tag, opening, closing, ← parts]
    · simp at h
  · simp at h

/-- A section and the text after it make up the text they were read from. -/
theorem sectionAt?_eq_append {text after : List Char} {s : Section}
    (h : sectionAt? text = some (s, after)) :
    text = openingMarker s.name ++ s.content ++ closingMarker s.name ++ after := by
  obtain ⟨⟨name, rest⟩, ho, hs⟩ := Option.bind_eq_some_iff.mp h
  obtain ⟨⟨before, tail⟩, hp, he⟩ := Option.map_eq_some_iff.mp hs
  obtain ⟨rfl, rfl⟩ := Prod.mk.inj he
  have split := splitAt?_eq_append hp
  simp only at split
  simp [openingAt?_eq_append ho, split]

theorem resolveFrom_eq_resolve_drop (holds : List Char → Bool) :
    ∀ (skip : Nat) (text : List Char), resolveFrom holds skip text = resolve holds (text.drop skip)
  | 0, _ => rfl
  | skip + 1, [] => by simp [resolve, resolveFrom]
  | skip + 1, _ :: rest => by simpa [resolveFrom] using resolveFrom_eq_resolve_drop holds skip rest

/-- Reading goes on after a section. -/
theorem resolve_of_sectionAt? (holds : List Char → Bool) {text after : List Char} {s : Section}
    (h : sectionAt? text = some (s, after)) :
    resolve holds text = s.resolved holds ++ resolve holds after := by
  have whole := sectionAt?_eq_append h
  match text, h, whole with
  | [], h, _ => simp [sectionAt?, openingAt?] at h
  | c :: rest, h, whole =>
    have suffix : ∃ front, rest = front ++ after := by
      refine ⟨(openingMarker s.name ++ s.content ++ closingMarker s.name).tail, ?_⟩
      have := congrArg List.tail whole
      simpa [openingMarker, tag, opening] using this
    obtain ⟨front, rfl⟩ := suffix
    have step : resolve holds (c :: (front ++ after)) =
        s.resolved holds ++
          resolveFrom holds ((front ++ after).length - after.length) (front ++ after) := by
      simp only [resolve, resolveFrom, h]
    rw [step, resolveFrom_eq_resolve_drop]
    simp

theorem resolve_cons (holds : List Char → Bool) {c : Char} {rest : List Char}
    (h : sectionAt? (c :: rest) = none) :
    resolve holds (c :: rest) = c :: resolve holds rest := by
  simp [resolve, resolveFrom, h]

end Courier.Template

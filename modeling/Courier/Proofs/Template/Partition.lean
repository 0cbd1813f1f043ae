import Courier.Proofs.Template.Evaluation

/-!
# The sections of any text

In an arbitrary text markers may overlap, cross, lack their counterpart or have braces too many. Still
the text comes apart in one way only into plain texts and sections: a section stands where an opening
marker has a closing marker of its name somewhere behind it (`BeginsSection`), it goes up to the first of
them (`Section.Proper`), and in the plain text before it no section begins (`Partition.Proper`).

The scan looks for a section at every place from the left. What it finds there is a proper section, and
if it finds none, none begins (`sectionAt?_eq_some_iff`, `isSome_sectionAt?_iff`). Main statement: the
scan keeps the plain texts of the partition, and of each section its content or nothing
(`resolve_eq_output`).
-/

namespace Courier.Template

open Courier.Text

/-! ## First occurrences -/

/-- A pattern that stands between two texts stands nowhere before. -/
def FirstBetween (pattern before after : List Char) : Prop :=
  ∀ other more, before ++ pattern ++ after = other ++ pattern ++ more →
    before.length ≤ other.length

theorem splitAt?_length_le {pattern : List Char} : ∀ {text before after : List Char},
    splitAt? pattern text = some (before, after) → ∀ {other more : List Char},
      text = other ++ pattern ++ more → before.length ≤ other.length
  | [], before, after, h, other, more, _ => by
    rw [splitAt?] at h
    split at h
    · cases h
      exact Nat.zero_le _
    · cases h
  | c :: rest, before, after, h, other, more, he => by
    rw [splitAt?] at h
    split at h
    · cases h
      exact Nat.zero_le _
    · rename_i absent
      obtain ⟨⟨b, a⟩, hr, heq⟩ := Option.map_eq_some_iff.mp h
      cases heq
      cases other with
      | nil =>
        refine absurd (List.isPrefixOf_iff_prefix.mpr ?_) absent
        rw [he]
        exact List.prefix_append pattern more
      | cons d other =>
        have tail : rest = other ++ pattern ++ more := (List.cons.inj he).2
        exact Nat.succ_le_succ (splitAt?_length_le hr tail)

theorem isSome_splitAt? (pattern more : List Char) : ∀ other : List Char,
    (splitAt? pattern (other ++ pattern ++ more)).isSome
  | [] => by
    rw [List.nil_append]
    cases htext : pattern ++ more with
    | nil =>
      obtain ⟨rfl, rfl⟩ := List.append_eq_nil_iff.mp htext
      rfl
    | cons c rest =>
      have found : pattern.isPrefixOf (c :: rest) = true := by
        rw [List.isPrefixOf_iff_prefix, ← htext]
        exact List.prefix_append pattern more
      rw [splitAt?, if_pos found]
      rfl
  | c :: other => by
    rw [List.cons_append, List.cons_append, splitAt?]
    split
    · rfl
    · rw [Option.isSome_map]
      exact isSome_splitAt? pattern more other

theorem isSome_splitAt?_iff {pattern text : List Char} :
    (splitAt? pattern text).isSome ↔ pattern <:+: text := by
  constructor
  · intro h
    obtain ⟨⟨before, after⟩, hparts⟩ := Option.isSome_iff_exists.mp h
    exact ⟨before, after, (splitAt?_eq_append hparts).symm⟩
  · rintro ⟨before, after, rfl⟩
    exact isSome_splitAt? pattern after before

/-- A text is split at a pattern where the pattern first occurs. -/
theorem splitAt?_eq_some_iff {pattern text before after : List Char} :
    splitAt? pattern text = some (before, after) ↔
      text = before ++ pattern ++ after ∧ FirstBetween pattern before after := by
  constructor
  · intro h
    have whole := splitAt?_eq_append h
    exact ⟨whole, fun other more he => splitAt?_length_le h (whole.trans he)⟩
  · rintro ⟨rfl, first⟩
    obtain ⟨⟨b, a⟩, hparts⟩ := Option.isSome_iff_exists.mp (isSome_splitAt? pattern after before)
    have whole := splitAt?_eq_append hparts
    have same : before.length = b.length :=
      Nat.le_antisymm (first b a whole) (splitAt?_length_le hparts rfl)
    rw [List.append_assoc, List.append_assoc] at whole
    obtain ⟨rfl, hrest⟩ := List.append_inj whole same
    rw [hparts, List.append_cancel_left hrest]

/-! ## Sections at the start of a text -/

/-- A section begins at the start of a text: it starts with the opening marker of a name, and somewhere
behind it stands the closing marker of that name. -/
def BeginsSection (text : List Char) : Prop :=
  ∃ name after, name ≠ [] ∧ name.all isWordChar = true ∧ text = openingMarker name ++ after ∧
    closingMarker name <:+: after

/-- A section with its markers. -/
def Section.written (s : Section) : List Char :=
  openingMarker s.name ++ s.content ++ closingMarker s.name

/-- A section with a word for a name, of which the content goes up to the first closing marker there is
in the content and all that follows. -/
structure Section.Proper (s : Section) (after : List Char) : Prop where
  named : s.name ≠ []
  word : s.name.all isWordChar = true
  first : FirstBetween (closingMarker s.name) s.content after

theorem openingAt?_eq_some_iff {text name after : List Char} :
    openingAt? text = some (name, after) ↔
      name ≠ [] ∧ name.all isWordChar = true ∧ text = openingMarker name ++ after := by
  constructor
  · intro h
    have whole := openingAt?_eq_append h
    unfold openingAt? at h
    split at h
    · rename_i rest
      split at h
      · rename_i d word tail hname _
        obtain ⟨rfl, rfl⟩ := Prod.mk.inj (Option.some.inj h)
        refine ⟨List.cons_ne_nil d word, ?_, whole⟩
        rw [← hname]
        exact List.all_takeWhile
      · cases h
    · cases h
  · rintro ⟨named, word, rfl⟩
    have inner : '\x7d' ∉ '#' :: name := by
      rw [List.mem_cons, not_or]
      exact ⟨by decide, (braceFree_of_isWordChar word).2⟩
    rw [openingMarker, openingAt?_tag inner, sectionName?, if_pos ⟨named, word⟩]
    rfl

/-- What is found at the start of a text is a proper section, and every proper section is found. -/
theorem sectionAt?_eq_some_iff {text after : List Char} {s : Section} :
    sectionAt? text = some (s, after) ↔ text = s.written ++ after ∧ s.Proper after := by
  constructor
  · intro h
    have whole := sectionAt?_eq_append h
    obtain ⟨⟨name, rest⟩, hopening, hsplit⟩ := Option.bind_eq_some_iff.mp h
    obtain ⟨⟨before, tail⟩, hparts, he⟩ := Option.map_eq_some_iff.mp hsplit
    cases he
    obtain ⟨named, word, _⟩ := openingAt?_eq_some_iff.mp hopening
    exact ⟨whole, named, word, (splitAt?_eq_some_iff.mp hparts).2⟩
  · rintro ⟨rfl, proper⟩
    have opened : openingAt? (s.written ++ after) =
        some (s.name, s.content ++ closingMarker s.name ++ after) :=
      openingAt?_eq_some_iff.mpr
        ⟨proper.named, proper.word, by simp only [Section.written, List.append_assoc]⟩
    have split := splitAt?_eq_some_iff.mpr ⟨rfl, proper.first⟩
    rw [sectionAt?, opened, Option.bind_some, split, Option.map_some]

theorem isSome_sectionAt?_iff {text : List Char} :
    (sectionAt? text).isSome ↔ BeginsSection text := by
  constructor
  · intro h
    obtain ⟨⟨s, after⟩, hsection⟩ := Option.isSome_iff_exists.mp h
    obtain ⟨rfl, proper⟩ := sectionAt?_eq_some_iff.mp hsection
    refine ⟨s.name, s.content ++ closingMarker s.name ++ after, proper.named, proper.word, ?_,
      s.content, after, rfl⟩
    simp only [Section.written, List.append_assoc]
  · rintro ⟨name, after, named, word, rfl, closes⟩
    obtain ⟨parts, hparts⟩ := Option.isSome_iff_exists.mp (isSome_splitAt?_iff.mpr closes)
    rw [sectionAt?, openingAt?_eq_some_iff.mpr ⟨named, word, rfl⟩, Option.bind_some, hparts]
    rfl

theorem sectionAt?_eq_none_iff {text : List Char} :
    sectionAt? text = none ↔ ¬BeginsSection text := by
  rw [← isSome_sectionAt?_iff, Option.not_isSome_iff_eq_none]

/-! ## Partitions -/

/-- A text taken apart: plain text only, or plain text, a section and the rest. -/
inductive Partition where
  | last (plain : List Char)
  | next (plain : List Char) (s : Section) (rest : Partition)

/-- No section begins within a plain text that is followed by more. -/
def NoSectionWithin (plain more : List Char) : Prop :=
  ∀ before after, plain = before ++ after → after ≠ [] → ¬BeginsSection (after ++ more)

namespace Partition

/-- The text that was taken apart. -/
def text : Partition → List Char
  | last plain => plain
  | next plain s rest => plain ++ (s.written ++ rest.text)

/-- The plain texts, with what is left of each section between them. -/
def output (kept : List Char → Bool) : Partition → List Char
  | last plain => plain
  | next plain s rest => plain ++ (s.resolved kept ++ rest.output kept)

/-- The sections are proper ones, and within the plain texts no section begins. -/
def Proper : Partition → Prop
  | last plain => NoSectionWithin plain []
  | next plain s rest =>
    NoSectionWithin plain (s.written ++ rest.text) ∧ s.Proper rest.text ∧ rest.Proper

/-- A proper partition of a text. -/
structure Divides (p : Partition) (text : List Char) : Prop where
  whole : p.text = text
  proper : p.Proper

/-- The partition with one more character in front. -/
def prepend (c : Char) : Partition → Partition
  | last plain => last (c :: plain)
  | next plain s rest => next (c :: plain) s rest

theorem text_prepend (c : Char) (p : Partition) : (p.prepend c).text = c :: p.text := by
  cases p <;> rfl

theorem output_prepend (kept : List Char → Bool) (c : Char) (p : Partition) :
    (p.prepend c).output kept = c :: p.output kept := by
  cases p <;> rfl

theorem noSectionWithin_nil (more : List Char) : NoSectionWithin [] more := by
  intro before after he hafter
  exact absurd (List.append_eq_nil_iff.mp he.symm).2 hafter

theorem noSectionWithin_cons {c : Char} {plain more : List Char} :
    NoSectionWithin (c :: plain) more ↔
      ¬BeginsSection (c :: (plain ++ more)) ∧ NoSectionWithin plain more := by
  constructor
  · intro h
    refine ⟨h [] (c :: plain) rfl (List.cons_ne_nil c plain), fun before after he => ?_⟩
    exact h (c :: before) after (congrArg (c :: ·) he)
  · rintro ⟨here, later⟩ before after he hafter
    rcases List.cons_eq_append_iff.mp he with ⟨rfl, rfl⟩ | ⟨before', rfl, he'⟩
    · exact here
    · exact later before' after he' hafter

theorem proper_prepend {c : Char} {p : Partition} :
    (p.prepend c).Proper ↔ ¬BeginsSection (c :: p.text) ∧ p.Proper := by
  cases p with
  | last plain =>
    have h := @noSectionWithin_cons c plain []
    rwa [List.append_nil] at h
  | next plain s rest =>
    rw [prepend, Proper, noSectionWithin_cons, and_assoc]
    rfl

/-- The empty text is plain. -/
theorem divides_nil {p : Partition} : p.Divides [] ↔ p = last [] := by
  constructor
  · rintro ⟨whole, _⟩
    cases p with
    | last plain => rw [show plain = [] from whole]
    | next plain s rest =>
      have empty := (List.append_eq_nil_iff.mp (List.append_eq_nil_iff.mp whole).2).1
      cases empty
  · rintro rfl
    exact ⟨rfl, noSectionWithin_nil []⟩

/-- Where no section begins, the first character is plain. -/
theorem divides_cons {c : Char} {rest : List Char} (none : ¬BeginsSection (c :: rest))
    {p : Partition} : p.Divides (c :: rest) ↔ ∃ q : Partition, q.Divides rest ∧ p = q.prepend c := by
  constructor
  · rintro ⟨whole, proper⟩
    -- the first plain text is not empty: otherwise the text would begin with a section
    obtain ⟨q, rfl⟩ : ∃ q : Partition, p = q.prepend c := by
      cases p with
      | last plain =>
        obtain rfl : plain = c :: rest := whole
        exact ⟨last rest, rfl⟩
      | next plain s q =>
        cases plain with
        | nil =>
          have found := sectionAt?_eq_some_iff.mpr ⟨whole.symm, proper.2.1⟩
          rw [sectionAt?_eq_none_iff.mpr none] at found
          cases found
        | cons d plain =>
          obtain rfl : d = c := (List.cons.inj whole).1
          exact ⟨next plain s q, rfl⟩
    rw [text_prepend] at whole
    exact ⟨q, ⟨(List.cons.inj whole).2, (proper_prepend.mp proper).2⟩, rfl⟩
  · rintro ⟨q, ⟨rfl, proper⟩, rfl⟩
    exact ⟨text_prepend c q, proper_prepend.mpr ⟨none, proper⟩⟩

/-- Where a section begins, it is taken off, and the text after it is divided. -/
theorem divides_of_sectionAt? {text after : List Char} {s : Section}
    (found : sectionAt? text = some (s, after)) {p : Partition} :
    p.Divides text ↔ ∃ q : Partition, q.Divides after ∧ p = next [] s q := by
  have begins : BeginsSection text := by
    rw [← isSome_sectionAt?_iff, found]
    rfl
  obtain ⟨whole, proper⟩ := sectionAt?_eq_some_iff.mp found
  constructor
  · rintro ⟨rfl, parts⟩
    -- the first plain text is empty: a section begins at its first character
    cases p with
    | last plain =>
      refine absurd begins ?_
      cases plain with
      | nil => rintro ⟨name, more, _, _, he, _⟩; cases he
      | cons c plain =>
        have here := (noSectionWithin_cons.mp parts).1
        rwa [List.append_nil] at here
    | next plain t q =>
      cases plain with
      | nil =>
        have other := sectionAt?_eq_some_iff.mpr ⟨rfl, parts.2.1⟩
        obtain ⟨rfl, rfl⟩ := Prod.mk.inj (Option.some.inj (other.symm.trans found))
        exact ⟨q, ⟨rfl, parts.2.2⟩, rfl⟩
      | cons c plain => exact absurd begins (noSectionWithin_cons.mp parts.1).1
  · rintro ⟨q, ⟨rfl, parts⟩, rfl⟩
    exact ⟨whole.symm, noSectionWithin_nil _, proper, parts⟩

/-- There is one partition of a text, and the scan of the text comes to its output. -/
theorem exists_forall_divides_iff : ∀ text : List Char, ∃ p : Partition,
    (∀ q : Partition, q.Divides text ↔ q = p) ∧ ∀ kept, resolve kept text = p.output kept := by
  intro text
  induction hlength : text.length using Nat.strongRecOn generalizing text with
  | ind length ih =>
    subst hlength
    cases hsection : sectionAt? text with
    | some found =>
      obtain ⟨s, after⟩ := found
      have shorter : after.length < text.length := by
        rw [sectionAt?_eq_append hsection, List.length_append, List.length_append,
          List.length_append]
        have marker : 0 < (openingMarker s.name).length := Nat.succ_pos _
        omega
      obtain ⟨p, only, resolved⟩ := ih _ shorter after rfl
      refine ⟨next [] s p, fun q => ?_, fun kept => ?_⟩
      · rw [divides_of_sectionAt? hsection]
        simp only [only, exists_eq_left]
      · rw [resolve_of_sectionAt? kept hsection, resolved]
        rfl
    | none =>
      cases text with
      | nil => exact ⟨last [], fun q => divides_nil, fun kept => rfl⟩
      | cons c rest =>
        obtain ⟨p, only, resolved⟩ := ih _ (Nat.lt_succ_self rest.length) rest rfl
        refine ⟨p.prepend c, fun q => ?_, fun kept => ?_⟩
        · rw [divides_cons (sectionAt?_eq_none_iff.mp hsection)]
          simp only [only, exists_eq_left]
        · rw [resolve_cons kept hsection, resolved, output_prepend]

end Partition

/-- Every text has exactly one partition into plain texts and sections. Whatever a bag holds, the scan for
sections leaves the plain texts, and of a section its content, not looked at again, if the bag has a
value for its name that counts as true, and nothing otherwise. In rendering this is the scan of the
filled template. -/
theorem resolve_eq_output (text : List Char) : ∃ p : Partition, p.Divides text ∧
    (∀ q : Partition, q.Divides text → q = p) ∧
    ∀ bag : Bag,
      let kept := fun name => (bag.getText? (String.ofList name)).any Value.isTruthy
      resolve (keeps bag) text = p.output kept ∧
      ∀ template fillings, fillings? bag = .ok fillings → fill fillings template.toList = text →
        render? template bag = .ok (String.ofList (p.output kept)) := by
  obtain ⟨p, only, resolved⟩ := Partition.exists_forall_divides_iff text
  refine ⟨p, (only p).mpr rfl, fun q => (only q).mp, fun bag => ?_⟩
  have same := resolved (keeps bag)
  rw [keeps_eq_holds] at same
  refine ⟨(congrArg (resolve · text) (keeps_eq_holds bag)).trans same, ?_⟩
  rintro template fillings hfillings rfl
  rw [render?, hfillings, keeps_eq_holds]
  exact congrArg (fun letters => Except.ok (String.ofList letters)) same

end Courier.Template

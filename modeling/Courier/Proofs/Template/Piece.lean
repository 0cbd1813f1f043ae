import Courier.Template.Render
import Mathlib.Data.List.Basic

/-!
# Templates in pieces

A well-formed template is a row of pieces, literals and tags, in which braces stand nowhere but
around the tags. Such a text comes apart in one way only: two opening braces stand in it where a
tag begins and nowhere else. What looks for tags therefore passes over all other characters
(`PassesOver`), so that it works piece by piece: replacing a tag makes literals of some pieces
(`replaceAll_written`), a text begins with an opening marker exactly if its first piece is one
(`openingAt?_tag`), and the first closing marker of a text is the first among its pieces
(`splitAt?_written`).
-/

namespace Courier.Template

open Courier.Text

/-- A text without braces. -/
def BraceFree (cs : List Char) : Prop := '\x7b' ∉ cs ∧ '\x7d' ∉ cs

instance (cs : List Char) : Decidable (BraceFree cs) := by unfold BraceFree; infer_instance

/-- A part of a template: a literal, or a tag with what stands between its braces. -/
inductive Piece where
  | literal (text : List Char)
  | tag (content : List Char)
deriving DecidableEq, Repr

/-- The characters of a piece, without the braces around a tag. -/
def Piece.inner : Piece → List Char
  | literal text => text
  | tag content => content

/-- A piece without braces of its own. -/
def Piece.WellFormed (p : Piece) : Prop := BraceFree p.inner

instance (p : Piece) : Decidable p.WellFormed := by unfold Piece.WellFormed; infer_instance

/-- A piece as it stands in a text. -/
def Piece.written : Piece → List Char
  | literal text => text
  | tag content => Template.tag content

/-- The text that pieces make up. -/
def written (pieces : List Piece) : List Char := pieces.flatMap Piece.written

@[simp] theorem written_cons (p : Piece) (pieces : List Piece) :
    written (p :: pieces) = p.written ++ written pieces := rfl

theorem tag_append (content rest : List Char) :
    tag content ++ rest = '\x7b' :: '\x7b' :: (content ++ '\x7d' :: '\x7d' :: rest) := by
  simp [tag, opening, closing]

/-- A run of characters of a kind, followed by one of another kind, ends where it ends. -/
theorem takeWhile_append_cons {p : Char → Bool} {run : List Char} {c : Char}
    (hrun : run.all p = true) (hc : p c = false) (rest : List Char) :
    (run ++ c :: rest).takeWhile p = run ∧ (run ++ c :: rest).dropWhile p = c :: rest := by
  rw [List.all_eq_true] at hrun
  constructor
  · rw [List.takeWhile_append_of_pos hrun, List.takeWhile_cons_of_neg (by simp [hc]),
      List.append_nil]
  · rw [List.dropWhile_append_of_pos hrun, List.dropWhile_cons_of_neg (by simp [hc])]

/-- A text up to its first closing brace is determined by the text as a whole. -/
theorem eq_of_append_closing {w v rest more : List Char} (hw : '\x7d' ∉ w) (hv : '\x7d' ∉ v)
    (h : w ++ '\x7d' :: rest = v ++ '\x7d' :: more) : w = v := by
  have runs : ∀ {cs : List Char}, '\x7d' ∉ cs → cs.all (· != '\x7d') = true := by
    intro cs hcs
    rw [List.all_eq_true]
    intro c hc
    rw [bne_iff_ne]
    rintro rfl
    exact hcs hc
  have hstop : ('\x7d' != '\x7d') = false := rfl
  rw [← (takeWhile_append_cons (runs hw) hstop rest).1, h,
    (takeWhile_append_cons (runs hv) hstop more).1]

/-- No two opening braces begin with the second brace of a tag. -/
theorem isPrefixOf_second {content : List Char} (hc : '\x7b' ∉ content) (rest : List Char) :
    opening.isPrefixOf ('\x7b' :: (content ++ '\x7d' :: '\x7d' :: rest)) = false := by
  cases content with
  | nil => rfl
  | cons c cs =>
    rw [List.mem_cons, not_or] at hc
    simp [opening, List.isPrefixOf, hc.1]

/-! ## Passing over what is no tag -/

/-- A reading of texts that goes on to the next character wherever no two opening braces stand. -/
def PassesOver {α : Type} (read : List Char → α) (prepend : Char → α → α) : Prop :=
  ∀ c rest, opening.isPrefixOf (c :: rest) = false → read (c :: rest) = prepend c (read rest)

namespace PassesOver

variable {α : Type} {read : List Char → α} {prepend : Char → α → α}

theorem append (h : PassesOver read prepend) (rest : List Char) :
    ∀ {cs : List Char}, '\x7b' ∉ cs → read (cs ++ rest) = cs.foldr prepend (read rest)
  | [], _ => rfl
  | c :: cs, hcs => by
    rw [List.mem_cons, not_or] at hcs
    have none : opening.isPrefixOf (c :: (cs ++ rest)) = false := by
      simp [opening, List.isPrefixOf, hcs.1]
    rw [List.cons_append, h c _ none, append h rest hcs.2, List.foldr_cons]

/-- Once its first brace is passed over, the whole of a tag is. -/
theorem tag (h : PassesOver read prepend) {content : List Char} (hc : '\x7b' ∉ content)
    (rest : List Char)
    (first : read (tag content ++ rest) =
      prepend '\x7b' (read ('\x7b' :: (content ++ '\x7d' :: '\x7d' :: rest)))) :
    read (Template.tag content ++ rest) = (Template.tag content).foldr prepend (read rest) := by
  have none := isPrefixOf_second hc rest
  have inside : '\x7b' ∉ content ++ closing := by
    rw [List.mem_append, not_or]
    exact ⟨hc, by decide⟩
  have rest_read := h.append rest inside
  rw [List.append_assoc] at rest_read
  rw [first, h _ _ none]
  exact congrArg (prepend '\x7b' <| prepend '\x7b' ·) rest_read

end PassesOver

/-! ## Replacing tags -/

theorem opening_isPrefixOf_of_tag {content text : List Char}
    (h : (tag content).isPrefixOf text = true) : opening.isPrefixOf text = true := by
  rw [List.isPrefixOf_iff_prefix] at h ⊢
  refine List.IsPrefix.trans ?_ h
  rw [tag, List.append_assoc]
  exact List.prefix_append _ _

/-- Where nothing is opened there is no tag. -/
theorem tag_isPrefixOf_of_none {text : List Char} (none : opening.isPrefixOf text = false)
    (content : List Char) : (tag content).isPrefixOf text = false := by
  by_contra h
  rw [opening_isPrefixOf_of_tag (by simpa using h)] at none
  cases none

theorem passesOver_replaceAll (content new : List Char) :
    PassesOver (replaceAll (tag content) new) List.cons := by
  intro c rest none
  simp [replaceAll, replaceFrom, tag_isPrefixOf_of_none none]

/-- A tag stands at the start of a text that begins with a tag only if it is that tag. -/
theorem isPrefixOf_tag_iff {w v rest : List Char} (hw : '\x7d' ∉ w) (hv : '\x7d' ∉ v) :
    (tag w).isPrefixOf (tag v ++ rest) = true ↔ w = v := by
  rw [List.isPrefixOf_iff_prefix]
  constructor
  · rintro ⟨more, h⟩
    rw [tag_append, tag_append, List.cons.injEq, List.cons.injEq] at h
    exact eq_of_append_closing hw hv h.2.2
  · rintro rfl
    exact List.prefix_append _ _

/-- No other tag stands at the start of a text that begins with a tag. -/
theorem isPrefixOf_tag_of_ne {w v : List Char} (hw : '\x7d' ∉ w) (hv : '\x7d' ∉ v) (hne : v ≠ w)
    (rest : List Char) : (tag w).isPrefixOf (tag v ++ rest) = false := by
  by_contra h
  exact hne ((isPrefixOf_tag_iff hw hv).mp (by simpa using h)).symm

/-- A tag is found at the start of a text that begins with it. -/
theorem exists_tag_cons (content rest : List Char) : ∃ c cs, tag content = c :: cs ∧
    (c :: cs).isPrefixOf (c :: (cs ++ rest)) = true :=
  ⟨_, _, rfl, List.isPrefixOf_iff_prefix.mpr (List.prefix_append (tag content) rest)⟩

theorem replaceAll_tag_self (content new rest : List Char) :
    replaceAll (tag content) new (tag content ++ rest) =
      new ++ replaceAll (tag content) new rest := by
  obtain ⟨c, cs, hcs, found⟩ := exists_tag_cons content rest
  rw [hcs, List.cons_append, replaceAll, replaceFrom, if_pos found, replaceFrom_eq_drop]
  simp [replaceAll]

theorem replaceAll_tag_of_ne {w v : List Char} (hw : '\x7d' ∉ w) (hv : BraceFree v)
    (hne : v ≠ w) (new rest : List Char) :
    replaceAll (tag w) new (tag v ++ rest) = tag v ++ replaceAll (tag w) new rest := by
  have other := isPrefixOf_tag_of_ne hw hv.2 hne rest
  have passed := (passesOver_replaceAll w new).tag hv.1 rest (by
    rw [tag_append] at other ⊢
    rw [replaceAll, replaceFrom, if_neg (by simp [other])]
    rfl)
  rw [passed, List.foldr_cons_eq_append']

/-- The piece with a text in place of one tag. -/
def Piece.replaced (content new : List Char) : Piece → Piece
  | literal text => literal text
  | tag v => if v = content then literal new else tag v

/-- Replacing a tag in a text replaces it among the pieces. -/
theorem replaceAll_written {content : List Char} (hc : '\x7d' ∉ content) (new : List Char) :
    ∀ {pieces : List Piece}, (∀ p ∈ pieces, p.WellFormed) →
      replaceAll (tag content) new (written pieces) =
        written (pieces.map (Piece.replaced content new))
  | [], _ => rfl
  | .literal text :: pieces, h => by
    have ih := replaceAll_written hc new fun p hp => h p (List.mem_cons_of_mem _ hp)
    have plain : BraceFree text := h (.literal text) List.mem_cons_self
    rw [written_cons, Piece.written, (passesOver_replaceAll content new).append _ plain.1, ih,
      List.foldr_cons_eq_append']
    rfl
  | .tag v :: pieces, h => by
    have ih := replaceAll_written hc new fun p hp => h p (List.mem_cons_of_mem _ hp)
    have plain : BraceFree v := h (.tag v) List.mem_cons_self
    rw [written_cons, List.map_cons, written_cons, Piece.written, Piece.replaced]
    by_cases hv : v = content
    · rw [hv, replaceAll_tag_self, ih, if_pos rfl, Piece.written]
    · rw [replaceAll_tag_of_ne hc plain hv, ih, if_neg hv, Piece.written]

/-! ## Markers -/

/-- The name of a section in the content of a tag that may begin it. -/
def sectionName? : List Char → Option (List Char)
  | '#' :: name => if name ≠ [] ∧ name.all isWordChar then some name else none
  | _ => none

theorem braceFree_of_isWordChar {name : List Char} (h : name.all isWordChar = true) :
    BraceFree name := by
  rw [List.all_eq_true] at h
  constructor
  · intro hmem
    have := h _ hmem
    rw [isWordChar_brace_open] at this
    cases this
  · intro hmem
    have := h _ hmem
    rw [isWordChar_brace_close] at this
    cases this

theorem isWordChar_of_sectionName? {content name : List Char}
    (h : sectionName? content = some name) : name.all isWordChar = true := by
  unfold sectionName? at h
  split at h
  · split at h
    · rename_i hname
      obtain rfl := Option.some.inj h
      exact hname.2
    · cases h
  · cases h

theorem exists_run_of_not_all {p : Char → Bool} {cs : List Char} (h : ¬cs.all p = true) :
    ∃ run c rest, run.all p = true ∧ p c = false ∧ cs = run ++ c :: rest := by
  induction cs with
  | nil => simp at h
  | cons c cs ih =>
    by_cases hc : p c = true
    · obtain ⟨run, d, rest, hrun, hd, rfl⟩ := ih (by simpa [hc] using h)
      exact ⟨c :: run, d, rest, by simp [hc, hrun], hd, rfl⟩
    · exact ⟨[], c, cs, rfl, by simpa using hc, rfl⟩

theorem openingAt?_eq_none {text : List Char} (h : opening.isPrefixOf text = false) :
    openingAt? text = none := by
  unfold openingAt?
  split
  · simp [opening, List.isPrefixOf] at h
  · rfl

/-- A text that begins with a tag begins with the marker of a section exactly if the tag is one. -/
theorem openingAt?_tag {content : List Char} (hc : '\x7d' ∉ content) (rest : List Char) :
    openingAt? (tag content ++ rest) = (sectionName? content).map fun name => (name, rest) := by
  rw [tag_append]
  cases content with
  | nil => rfl
  | cons c name =>
    rw [List.cons_append]
    by_cases hash : c = '#'
    · subst hash
      rw [List.mem_cons, not_or] at hc
      by_cases hname : name.all isWordChar = true
      · obtain ⟨htake, hdrop⟩ := takeWhile_append_cons hname isWordChar_brace_close
          ('\x7d' :: rest)
        simp only [openingAt?, htake, hdrop]
        cases name with
        | nil => rfl
        | cons d name => simp [sectionName?, hname]
      · obtain ⟨run, d, more, hrun, hd, rfl⟩ := exists_run_of_not_all hname
        obtain ⟨htake, hdrop⟩ := takeWhile_append_cons hrun hd
          (more ++ '\x7d' :: '\x7d' :: rest)
        have other : d ≠ '\x7d' := by
          rintro rfl
          simp at hc
        simp only [openingAt?, List.append_assoc, List.cons_append, htake, hdrop]
        cases run with
        | nil => simp [sectionName?, hd]
        | cons e run => simp [sectionName?, hd, other]
    · unfold openingAt? sectionName?
      simp [hash]

/-- The pieces before the first piece of a kind, and those after it. -/
def cut? (isMark : Piece → Bool) : List Piece → Option (List Piece × List Piece)
  | [] => none
  | p :: rest =>
    if isMark p then some ([], rest)
    else (cut? isMark rest).map fun parts => (p :: parts.1, parts.2)

theorem cut?_map (isMark : Piece → Bool) (f : Piece → Piece) : ∀ pieces : List Piece,
    cut? isMark (pieces.map f) =
      (cut? (fun p => isMark (f p)) pieces).map fun parts => (parts.1.map f, parts.2.map f)
  | [] => rfl
  | p :: rest => by
    rw [List.map_cons, cut?, cut?, cut?_map isMark f rest]
    by_cases h : isMark (f p) = true
    · rw [if_pos h, if_pos h]
      rfl
    · rw [if_neg h, if_neg h, Option.map_map, Option.map_map]
      rfl

theorem length_cut?_lt {isMark : Piece → Bool} : ∀ {pieces before after : List Piece},
    cut? isMark pieces = some (before, after) → after.length < pieces.length
  | [], _, _, h => by cases h
  | p :: rest, before, after, h => by
    unfold cut? at h
    split at h
    · cases h
      exact Nat.lt_succ_self _
    · obtain ⟨parts, hparts, he⟩ := Option.map_eq_some_iff.mp h
      cases he
      exact Nat.lt_succ_of_lt (length_cut?_lt hparts)

theorem mem_of_cut? {isMark : Piece → Bool} : ∀ {pieces before after : List Piece},
    cut? isMark pieces = some (before, after) →
      (∀ p ∈ before, p ∈ pieces) ∧ ∀ p ∈ after, p ∈ pieces
  | [], _, _, h => by cases h
  | p :: rest, before, after, h => by
    unfold cut? at h
    split at h
    · cases h
      exact ⟨by simp, fun q hq => List.mem_cons_of_mem _ hq⟩
    · obtain ⟨parts, hparts, he⟩ := Option.map_eq_some_iff.mp h
      cases he
      obtain ⟨hbefore, hafter⟩ := mem_of_cut? hparts
      refine ⟨fun q hq => ?_, fun q hq => List.mem_cons_of_mem _ (hafter q hq)⟩
      rcases List.mem_cons.mp hq with rfl | hq
      · exact List.mem_cons_self
      · exact List.mem_cons_of_mem _ (hbefore q hq)

theorem passesOver_splitAt? (content : List Char) :
    PassesOver (splitAt? (tag content)) fun c =>
      Option.map fun parts => (c :: parts.1, parts.2) := by
  intro c rest none
  simp [splitAt?, tag_isPrefixOf_of_none none]

theorem foldr_prepend (o : Option (List Char × List Char)) (cs : List Char) :
    cs.foldr (fun c => Option.map fun parts => (c :: parts.1, parts.2)) o =
      o.map fun parts => (cs ++ parts.1, parts.2) := by
  induction cs with
  | nil => cases o <;> rfl
  | cons c cs ih => rw [List.foldr_cons, ih, Option.map_map]; rfl

theorem splitAt?_tag_self (content rest : List Char) :
    splitAt? (tag content) (tag content ++ rest) = some ([], rest) := by
  obtain ⟨c, cs, hcs, found⟩ := exists_tag_cons content rest
  rw [hcs, List.cons_append, splitAt?, if_pos found, ← List.cons_append, List.drop_left]

theorem splitAt?_tag_of_ne {w v : List Char} (hw : '\x7d' ∉ w) (hv : BraceFree v) (hne : v ≠ w)
    (rest : List Char) : splitAt? (tag w) (tag v ++ rest) =
      (splitAt? (tag w) rest).map fun parts => (tag v ++ parts.1, parts.2) := by
  have other := isPrefixOf_tag_of_ne hw hv.2 hne rest
  have passed := (passesOver_splitAt? w).tag hv.1 rest (by
    rw [tag_append] at other ⊢
    rw [splitAt?, if_neg (by simp [other])])
  rw [passed, foldr_prepend]

/-- The first place of a tag in a text is its first place among the pieces. -/
theorem splitAt?_written {content : List Char} (hc : '\x7d' ∉ content) :
    ∀ {pieces : List Piece}, (∀ p ∈ pieces, p.WellFormed) →
      splitAt? (tag content) (written pieces) =
        (cut? (· == .tag content) pieces).map fun parts => (written parts.1, written parts.2)
  | [], _ => rfl
  | .literal text :: pieces, h => by
    have ih := splitAt?_written hc fun p hp => h p (List.mem_cons_of_mem _ hp)
    have plain : BraceFree text := h (.literal text) List.mem_cons_self
    have other : (Piece.literal text == .tag content) = false := rfl
    rw [written_cons, Piece.written, (passesOver_splitAt? content).append _ plain.1, ih,
      foldr_prepend, cut?, if_neg (by simp [other]), Option.map_map, Option.map_map]
    rfl
  | .tag v :: pieces, h => by
    have ih := splitAt?_written hc fun p hp => h p (List.mem_cons_of_mem _ hp)
    have plain : BraceFree v := h (.tag v) List.mem_cons_self
    rw [written_cons, cut?]
    by_cases hv : v = content
    · rw [hv, Piece.written, splitAt?_tag_self, if_pos (beq_self_eq_true _)]
      rfl
    · have other : (Piece.tag v == .tag content) = false := by simpa using hv
      rw [Piece.written, splitAt?_tag_of_ne hc plain hv, ih, if_neg (by simp [other]),
        Option.map_map, Option.map_map]
      rfl

end Courier.Template

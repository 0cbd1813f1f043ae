import Courier.Proofs.Template.Piece
import Mathlib.Data.List.Nodup

/-!
# Rendering in one pass

What a well-formed template comes to can be read off its pieces from left to right (`evaluate`): a
tag that the bag has a value for gives way to it, a section is kept or dropped as a whole, and all
else stays. Rendering works in two passes over the whole text, one replacement after the other and
then the sections. Main statement: the two agree (`render?_eq_evaluate`), in whichever order the
bag lists its values.
-/

namespace Courier.Template

open Courier.Text

/-! ## The meaning of a template -/

/-- The characters that are put for a value. -/
def lettersOf (v : Value) : List Char :=
  match v.written? with
  | .ok s => s.toList
  | .error _ => []

section evaluation

variable (value? : String → Option Value)

/-- A piece with its tag filled, if there is a value for it. -/
def Piece.filled : Piece → List Char
  | literal text => text
  | tag content =>
    match value? (String.ofList content) with
    | some v => lettersOf v
    | none => Template.tag content

/-- Whether a piece ends the section of a name: its closing marker does, unless there is a value
for that. -/
def Piece.ends (name : List Char) (p : Piece) : Bool :=
  p == tag ('/' :: name) && (value? (String.ofList ('/' :: name))).isNone

/-- A section among pieces. -/
structure Block where
  name : List Char
  inside : List Piece
  after : List Piece

/-- The section that begins with the first of some pieces: with a tag that names it, for which there
is no value, and up to the first piece that ends it. -/
def blockAt? : List Piece → Option Block
  | .tag content :: rest =>
    if (value? (String.ofList content)).isSome then none
    else (sectionName? content).bind fun name =>
      (cut? (Piece.ends value? name) rest).map fun parts => ⟨name, parts.1, parts.2⟩
  | _ => none

/-- Whether the section of a name is kept. -/
def holds (name : List Char) : Bool := (value? (String.ofList name)).any Value.isTruthy

/-- What is left of a section: its pieces, filled, or nothing. -/
def Block.kept (b : Block) : List Char :=
  if holds value? b.name then b.inside.flatMap (Piece.filled value?) else []

variable {value?} in
/-- What there is of a section that was found: a tag without a value that names it, and a later piece
that ends it. -/
theorem blockAt?_eq_some_iff {pieces : List Piece} {b : Block} :
    blockAt? value? pieces = some b ↔ ∃ content rest, pieces = .tag content :: rest ∧
      value? (String.ofList content) = none ∧ sectionName? content = some b.name ∧
      cut? (Piece.ends value? b.name) rest = some (b.inside, b.after) := by
  constructor
  · intro h
    unfold blockAt? at h
    split at h
    · rename_i content rest
      split at h
      · cases h
      · rename_i unknown
        obtain ⟨name, hcontent, hname⟩ := Option.bind_eq_some_iff.mp h
        obtain ⟨parts, hparts, rfl⟩ := Option.map_eq_some_iff.mp hname
        exact ⟨content, rest, rfl, by simpa using unknown, hcontent, hparts⟩
    · cases h
  · rintro ⟨content, rest, rfl, unknown, hcontent, hparts⟩
    rw [blockAt?, unknown, Option.isSome_none, if_neg Bool.false_ne_true, hcontent,
      Option.bind_some, hparts, Option.map_some]

variable {value?} in
theorem length_after_lt {pieces : List Piece} {b : Block} (h : blockAt? value? pieces = some b) :
    b.after.length < pieces.length := by
  obtain ⟨_, _, rfl, -, -, hparts⟩ := blockAt?_eq_some_iff.mp h
  exact Nat.lt_succ_of_lt (length_cut?_lt hparts)

/-- What pieces come to, read from the left. -/
def evaluate : List Piece → List Char
  | [] => []
  | p :: rest =>
    match h : blockAt? value? (p :: rest) with
    | some b =>
      have := length_after_lt h
      b.kept value? ++ evaluate b.after
    | none => p.filled value? ++ evaluate rest
termination_by pieces => pieces.length
decreasing_by
  · exact this
  · exact Nat.lt_succ_self rest.length

variable {value?} in
theorem evaluate_of_block {p : Piece} {rest : List Piece} {b : Block}
    (h : blockAt? value? (p :: rest) = some b) :
    evaluate value? (p :: rest) = b.kept value? ++ evaluate value? b.after := by
  rw [evaluate]
  split
  · rename_i b' hb
    obtain rfl : b' = b := Option.some.inj (hb.symm.trans h)
    rfl
  · rename_i hb
    rw [hb] at h
    cases h

variable {value?} in
theorem evaluate_of_no_block {p : Piece} {rest : List Piece}
    (h : blockAt? value? (p :: rest) = none) :
    evaluate value? (p :: rest) = p.filled value? ++ evaluate value? rest := by
  rw [evaluate]
  split
  · rename_i hb
    rw [hb] at h
    cases h
  · rfl

end evaluation

/-- A bag of plain texts: its keys are distinct texts, and neither they nor the texts put for its
values have braces. -/
structure Plain (bag : Bag) : Prop where
  keys : ∀ e ∈ bag, ∃ key : String, e.1 = .text key ∧ BraceFree key.toList
  distinct : (bag.map Prod.fst).Nodup
  values : ∀ e ∈ bag, ∃ s : String, e.2.written? = .ok s ∧ BraceFree s.toList

/-! ## Filling -/

/-- A piece with its tag made a literal, if there is a value for it. -/
def Piece.settled (value? : String → Option Value) : Piece → Piece
  | literal text => literal text
  | tag content =>
    match value? (String.ofList content) with
    | some v => literal (lettersOf v)
    | none => tag content

theorem Piece.written_settled (value? : String → Option Value) (p : Piece) :
    (p.settled value?).written = p.filled value? := by
  cases p with
  | literal text => rfl
  | tag content =>
    rw [settled, filled]
    cases value? (String.ofList content) <;> rfl

theorem written_map_settled (value? : String → Option Value) (pieces : List Piece) :
    written (pieces.map (Piece.settled value?)) = pieces.flatMap (Piece.filled value?) := by
  rw [written, List.flatMap_map]
  exact List.flatMap_congr fun p _ => p.written_settled value?

/-- Every value that is found can be put into a text without adding a brace. -/
def PlainValues (value? : String → Option Value) : Prop :=
  ∀ name v, value? name = some v → BraceFree (lettersOf v)

theorem Piece.WellFormed.settled {value? : String → Option Value} (plain : PlainValues value?)
    {p : Piece} (h : p.WellFormed) : (p.settled value?).WellFormed := by
  cases p with
  | literal text => exact h
  | tag content =>
    rw [Piece.settled]
    split
    · rename_i v hv
      exact plain _ v hv
    · exact h

namespace Plain

theorem tail {e : Value × Value} {rest : Bag} (h : Plain (e :: rest)) : Plain rest where
  keys := fun e' he => h.keys e' (List.mem_cons_of_mem _ he)
  distinct := (List.nodup_cons.mp h.distinct).2
  values := fun e' he => h.values e' (List.mem_cons_of_mem _ he)

theorem perm {bag other : Bag} (h : Plain bag) (same : other.Perm bag) : Plain other where
  keys := fun e he => h.keys e (same.mem_iff.mp he)
  distinct := (same.map Prod.fst).nodup_iff.mpr h.distinct
  values := fun e he => h.values e (same.mem_iff.mp he)

theorem getText?_cons (key : String) (v : Value) (rest : Bag) (name : String) :
    Bag.getText? ((.text key, v) :: rest) name =
      if key = name then some v else Bag.getText? rest name := by
  by_cases h : key = name <;> simp [Bag.getText?, Bag.get?, Value.sameKey, h]

theorem plainValues {bag : Bag} (h : Plain bag) : PlainValues bag.getText? := by
  intro name v hv
  obtain ⟨e, he, rfl⟩ := Option.map_eq_some_iff.mp hv
  obtain ⟨s, hs, plain⟩ := h.values e (List.mem_of_find?_eq_some he)
  rw [lettersOf, hs]
  exact plain

/-- What a bag has under a name does not depend on its order. -/
theorem getText?_eq_some_iff {bag : Bag} (h : Plain bag) {name : String} {v : Value} :
    bag.getText? name = some v ↔ (.text name, v) ∈ bag := by
  induction bag with
  | nil => simp [Bag.getText?]
  | cons e rest ih =>
    obtain ⟨_, w⟩ := e
    obtain ⟨key, rfl, _⟩ := h.keys _ List.mem_cons_self
    rw [getText?_cons, List.mem_cons]
    have fresh := (List.nodup_cons.mp h.distinct).1
    by_cases hkey : key = name
    · subst hkey
      rw [if_pos rfl]
      constructor
      · rintro ⟨⟩
        exact .inl rfl
      · rintro (heq | hmem)
        · cases heq
          rfl
        · exact absurd (List.mem_map.mpr ⟨_, hmem, rfl⟩) fresh
    · rw [if_neg hkey, ih h.tail]
      constructor
      · exact .inr
      · rintro (heq | hmem)
        · cases heq
          exact absurd rfl hkey
        · exact hmem

theorem getText?_perm {bag other : Bag} (h : Plain bag) (same : other.Perm bag) :
    other.getText? = bag.getText? := by
  funext name
  refine Option.ext fun v => ?_
  rw [(h.perm same).getText?_eq_some_iff, h.getText?_eq_some_iff, same.mem_iff]

end Plain

theorem Piece.WellFormed.replaced {content new : List Char} (hn : BraceFree new) {p : Piece}
    (h : p.WellFormed) : (p.replaced content new).WellFormed := by
  cases p with
  | literal text => exact h
  | tag v =>
    rw [Piece.replaced]
    split
    · exact hn
    · exact h

/-- Replacing the tag of the first value and settling what is left settles everything. -/
theorem settled_replaced {key : String} {v : Value} {rest : Bag} (p : Piece) :
    (p.replaced key.toList (lettersOf v)).settled rest.getText? =
      p.settled (Bag.getText? ((.text key, v) :: rest)) := by
  cases p with
  | literal text => rfl
  | tag content =>
    rw [Piece.replaced, Piece.settled, Plain.getText?_cons]
    by_cases h : content = key.toList
    · have hkey : key = String.ofList content := by rw [h, String.ofList_toList]
      rw [if_pos h, if_pos hkey]
      rfl
    · have hkey : ¬key = String.ofList content := by
        rintro rfl
        exact h (String.toList_ofList).symm
      rw [if_neg h, if_neg hkey]
      rfl

/-- Filling in the values one after the other settles every piece. -/
theorem fill_written : ∀ {bag : Bag} {pieces : List Piece}, Plain bag →
    (∀ p ∈ pieces, p.WellFormed) → ∃ fillings, fillings? bag = .ok fillings ∧
      fill fillings (written pieces) = written (pieces.map (Piece.settled bag.getText?))
  | [], pieces, _, _ => by
    refine ⟨[], rfl, ?_⟩
    have same : ∀ p : Piece, p.settled (Bag.getText? []) = p := by
      intro p
      cases p <;> rfl
    rw [fill_nil, List.map_congr_left fun p _ => same p, List.map_id']
  | (_, v) :: rest, pieces, h, wellFormed => by
    obtain ⟨key, rfl, hkey⟩ := h.keys _ List.mem_cons_self
    obtain ⟨s, hs, plain⟩ := h.values _ List.mem_cons_self
    have hletters : lettersOf v = s.toList := by rw [lettersOf, hs]
    have replaced : ∀ p ∈ pieces.map (Piece.replaced key.toList (lettersOf v)),
        p.WellFormed := by
      intro p hp
      obtain ⟨q, hq, rfl⟩ := List.mem_map.mp hp
      exact (wellFormed q hq).replaced (hletters ▸ plain)
    obtain ⟨fillings, hfillings, hfill⟩ := fill_written h.tail replaced
    refine ⟨(tag key.toList, lettersOf v) :: fillings, ?_, ?_⟩
    · rw [hletters, fillings?, hfillings, hs]
      rfl
    · rw [fill_cons, replaceAll_written hkey.2 _ wellFormed, hfill, List.map_map]
      exact congrArg written (List.map_congr_left fun p _ => settled_replaced p)

/-! ## Sections -/

section sections

variable {value? : String → Option Value}

theorem passesOver_resolve (kept : List Char → Bool) :
    PassesOver (resolve kept) List.cons := by
  intro c rest none
  refine resolve_cons kept ?_
  rw [sectionAt?, openingAt?_eq_none none]
  rfl

/-- A settled piece is a tag exactly if it was that tag before and there is no value for it. -/
theorem settled_beq_tag (p : Piece) (content : List Char) :
    (p.settled value? == .tag content) =
      (p == .tag content && (value? (String.ofList content)).isNone) := by
  cases p with
  | literal text => rfl
  | tag v =>
    rw [Piece.settled]
    by_cases h : v = content
    · subst h
      cases value? (String.ofList v) <;> simp
    · have other : (Piece.tag v == .tag content) = false := by simpa using h
      rw [other, Bool.false_and]
      cases value? (String.ofList v) with
      | none => exact other
      | some w => rfl

/-- The section at the start of a text of settled pieces is the one among the pieces. -/
theorem sectionAt?_written (plain : PlainValues value?) {content : List Char} {rest : List Piece}
    (wellFormed : ∀ p ∈ Piece.tag content :: rest, p.WellFormed)
    (unknown : value? (String.ofList content) = none) :
    sectionAt? (tag content ++ written (rest.map (Piece.settled value?))) =
      (blockAt? value? (.tag content :: rest)).map fun b =>
        (⟨b.name, written (b.inside.map (Piece.settled value?))⟩,
          written (b.after.map (Piece.settled value?))) := by
  have hcontent : BraceFree content := wellFormed (.tag content) List.mem_cons_self
  have hrest : ∀ p ∈ rest.map (Piece.settled value?), p.WellFormed := by
    intro p hp
    obtain ⟨q, hq, rfl⟩ := List.mem_map.mp hp
    exact (wellFormed q (List.mem_cons_of_mem _ hq)).settled plain
  have known : (value? (String.ofList content)).isSome = false := by rw [unknown]; rfl
  rw [sectionAt?, openingAt?_tag hcontent.2, blockAt?, known]
  cases hname : sectionName? content with
  | none => rfl
  | some name =>
    have word := braceFree_of_isWordChar (isWordChar_of_sectionName? hname)
    have hclosing : '\x7d' ∉ '/' :: name := by
      rw [List.mem_cons, not_or]
      exact ⟨by decide, word.2⟩
    have ends : (fun p : Piece => p.settled value? == .tag ('/' :: name)) =
        Piece.ends value? name := by
      funext p
      exact settled_beq_tag p _
    simp only [Option.map_some, Option.bind_some, closingMarker]
    rw [splitAt?_written hclosing hrest, cut?_map, ends]
    cases cut? (Piece.ends value? name) rest <;> rfl

theorem tag_of_blockAt? {p : Piece} {rest : List Piece} {b : Block}
    (h : blockAt? value? (p :: rest) = some b) :
    ∃ content, p = .tag content ∧ value? (String.ofList content) = none := by
  obtain ⟨content, _, he, unknown, -, -⟩ := blockAt?_eq_some_iff.mp h
  exact ⟨content, (List.cons.inj he).1, unknown⟩

theorem mem_of_blockAt? {pieces : List Piece} {b : Block} (h : blockAt? value? pieces = some b) :
    ∀ p ∈ b.after, p ∈ pieces := by
  obtain ⟨_, _, rfl, -, -, hparts⟩ := blockAt?_eq_some_iff.mp h
  exact fun p hp => List.mem_cons_of_mem _ ((mem_of_cut? hparts).2 p hp)

/-- A piece that begins no section is passed over. -/
theorem resolve_piece (plain : PlainValues value?) {p : Piece} {rest : List Piece}
    (wellFormed : ∀ q ∈ p :: rest, q.WellFormed) (none : blockAt? value? (p :: rest) = none) :
    resolve (holds value?) (written ((p :: rest).map (Piece.settled value?))) =
      p.filled value? ++ resolve (holds value?) (written (rest.map (Piece.settled value?))) := by
  have hp : (p.settled value?).WellFormed := (wellFormed p List.mem_cons_self).settled plain
  have passes := passesOver_resolve (holds value?)
  rw [List.map_cons, written_cons, ← Piece.written_settled]
  cases hsettled : p.settled value? with
  | literal text =>
    rw [hsettled] at hp
    exact (passes.append _ hp.1).trans List.foldr_cons_eq_append'
  | tag content =>
    rw [hsettled] at hp
    obtain ⟨rfl, unknown⟩ :
        p = .tag content ∧ value? (String.ofList content) = Option.none := by
      have found := @settled_beq_tag value? p content
      rw [hsettled, beq_self_eq_true] at found
      simpa using found.symm
    refine (passes.tag hp.1 _ ?_).trans List.foldr_cons_eq_append'
    have unnamed := sectionAt?_written plain wellFormed unknown
    rw [none] at unnamed
    rw [tag_append] at unnamed ⊢
    exact resolve_cons _ unnamed

/-- Resolving the sections of a text of settled pieces evaluates the pieces. -/
theorem resolve_written (plain : PlainValues value?) : ∀ {pieces : List Piece},
    (∀ p ∈ pieces, p.WellFormed) →
      resolve (holds value?) (written (pieces.map (Piece.settled value?))) =
        evaluate value? pieces := by
  intro pieces
  induction pieces using evaluate.induct value? with
  | case1 =>
    intro _
    rw [evaluate]
    rfl
  | case2 p rest b hblock _ ih =>
    intro wellFormed
    obtain ⟨content, rfl, unknown⟩ := tag_of_blockAt? hblock
    have section_at := sectionAt?_written plain wellFormed unknown
    rw [hblock, Option.map_some] at section_at
    rw [List.map_cons, written_cons, Piece.settled, unknown, Piece.written,
      resolve_of_sectionAt? _ section_at, evaluate_of_block hblock,
      ih fun q hq => wellFormed q (mem_of_blockAt? hblock q hq), Section.resolved, Block.kept,
      written_map_settled]
  | case3 p rest hblock ih =>
    intro wellFormed
    rw [resolve_piece plain wellFormed hblock, evaluate_of_no_block hblock,
      ih fun q hq => wellFormed q (List.mem_cons_of_mem _ hq)]

end sections

/-! ## Rendering -/

theorem keeps_eq_holds (bag : Bag) : keeps bag = holds bag.getText? := by
  funext name
  rw [keeps, holds]
  cases bag.getText? (String.ofList name) <;> rfl

/-- A well-formed template is rendered with the values of a bag, listed in any order, as its pieces
are evaluated in one pass: no replacement makes, hides or joins a tag. -/
theorem render?_eq_evaluate {pieces : List Piece} (wellFormed : ∀ p ∈ pieces, p.WellFormed)
    {bag other : Bag} (plain : Plain bag) (same : other.Perm bag) :
    render? (String.ofList (written pieces)) other =
      .ok (String.ofList (evaluate bag.getText? pieces)) := by
  have plain' : Plain other := plain.perm same
  obtain ⟨fillings, hfillings, hfill⟩ := fill_written plain' wellFormed
  have hresolve := resolve_written plain'.plainValues wellFormed
  rw [← plain.getText?_perm same, render?, hfillings, ← hresolve, ← keeps_eq_holds, ← hfill]
  simp only [bind, Except.bind, String.toList_ofList]
  rfl

/-- A section that holds the beginning of another, of which the end comes later, and a key with a
mark: the bag in its order and in the opposite one. -/
theorem render?_eq_evaluate_crossing :
    let pieces : List Piece := [.literal "Dear ".toList, .tag "name".toList, .tag "#a".toList,
      .tag "#b".toList, .literal ", ".toList, .tag "x".toList, .tag "/a".toList,
      .tag "/b".toList, .tag "#c".toList, .tag "/c".toList]
    let bag : Bag := [(.text "name", .text "Ada"), (.text "a", .list []), (.text "b", .null),
      (.text "/c", .bool true)]
    (∀ p ∈ pieces, p.WellFormed) ∧ Plain bag ∧ bag.reverse.Perm bag ∧
      render? (String.ofList (written pieces)) bag.reverse =
        .ok (String.ofList (evaluate bag.getText? pieces)) := by
  intro pieces bag
  have wellFormed : ∀ p ∈ pieces, p.WellFormed := by decide +kernel
  have plain : Plain bag := by
    refine ⟨?_, ?_, ?_⟩
    · simp only [bag, List.forall_mem_cons]
      refine ⟨⟨_, rfl, by decide⟩, ⟨_, rfl, by decide⟩, ⟨_, rfl, by decide⟩,
        ⟨_, rfl, by decide⟩, ?_⟩
      simp
    · simp [bag]
    · simp only [bag, List.forall_mem_cons]
      refine ⟨⟨_, rfl, by decide⟩, ⟨_, rfl, by decide⟩, ⟨_, rfl, by decide⟩,
        ⟨_, rfl, by decide⟩, ?_⟩
      simp
  exact ⟨wellFormed, plain, List.reverse_perm bag,
    render?_eq_evaluate wellFormed plain (List.reverse_perm bag)⟩

end Courier.Template

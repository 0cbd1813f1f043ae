import Courier.Proofs.Template.Leftover
import Courier.Proofs.Template.Partition
import Mathlib.Data.List.Infix

/-!
# Rendering twice

A template is single-level if none of its sections holds the opening marker of another
(`SingleLevel`). Markers may still be left over, cross or come in the wrong order, and a rendered text
may hold markers. Main statement: it holds no section any more, and so to render it again changes
nothing (`render?_render?`).

What decides this are the pieces that evaluation leaves (`Remaining`, `exists_remaining`). An opening
marker among them does not come from within a section, and where it stood there was no closing marker
of its name behind it. What is left behind it stood behind it before, so there is none now
(`Unpaired`). And no tag is left that the bag has a value for.
-/

namespace Courier.Template

open Courier.Text

/-! ## Single-level templates -/

/-- No section holds the opening marker of another: from an opening marker of pieces to the first
closing marker of its name there is no opening marker. -/
def SingleLevel (pieces : List Piece) : Prop :=
  ∀ rest ∈ pieces.tails, ∀ b ∈ blockAt? (fun _ => none) rest, ∀ p ∈ b.inside, p.opens = false

instance (pieces : List Piece) : Decidable (SingleLevel pieces) := by
  unfold SingleLevel
  infer_instance

theorem SingleLevel.suffix {pieces rest : List Piece} (h : SingleLevel pieces)
    (hrest : rest <:+ pieces) : SingleLevel rest := by
  intro more hmore
  exact h more ((List.mem_tails _ _).mpr (((List.mem_tails _ _).mp hmore).trans hrest))

/-- Two pieces are the opening and the closing marker of one section. -/
def Paired (p q : Piece) : Prop :=
  ∃ name, name ≠ [] ∧ name.all isWordChar = true ∧ p = .tag ('#' :: name) ∧ q = .tag ('/' :: name)

/-- No piece is the opening marker of a section that a later piece closes. -/
def Unpaired (pieces : List Piece) : Prop := pieces.Pairwise fun p q => ¬Paired p q

theorem sectionName?_cons {name : List Char} (named : name ≠ []) (word : name.all isWordChar = true) :
    sectionName? ('#' :: name) = some name := by
  rw [sectionName?, if_pos ⟨named, word⟩]

theorem opens_of_paired {p q : Piece} (h : Paired p q) : p.opens = true := by
  obtain ⟨name, named, word, rfl, _⟩ := h
  rw [Piece.opens, sectionName?_cons named word]
  rfl

/-! ## The pieces that are left -/

section remaining

variable {value? : String → Option Value}

theorem cut?_eq_none_iff {isMark : Piece → Bool} : ∀ {pieces : List Piece},
    cut? isMark pieces = none ↔ ∀ p ∈ pieces, isMark p = false
  | [] => by simp [cut?]
  | p :: rest => by
    rw [cut?, List.forall_mem_cons]
    by_cases hp : isMark p = true
    · simp [hp]
    · rw [if_neg hp, Option.map_eq_none_iff, cut?_eq_none_iff]
      simp [hp]

/-- A section is one whatever the values are. -/
theorem blockAt?_without_values {pieces : List Piece} {b : Block}
    (h : blockAt? value? pieces = some b) : blockAt? (fun _ => none) pieces = some b := by
  obtain ⟨content, rest, rfl, -, hcontent, hparts⟩ := blockAt?_eq_some_iff.mp h
  obtain ⟨p, hends, _⟩ := cut?_eq_some hparts
  -- the section ends with a marker that there is no value for, so no other marker has one
  have unknown : value? (String.ofList ('/' :: b.name)) = none := by
    unfold Piece.ends at hends
    simp only [Bool.and_eq_true, Option.isNone_iff_eq_none] at hends
    exact hends.2
  have same : Piece.ends value? b.name = Piece.ends (fun _ => none) b.name := by
    funext p
    rw [Piece.ends, Piece.ends, unknown]
  rw [same] at hparts
  exact blockAt?_eq_some_iff.mpr ⟨content, rest, rfl, rfl, hcontent, hparts⟩

theorem after_suffix_of_blockAt? {p : Piece} {rest : List Piece} {b : Block}
    (h : blockAt? value? (p :: rest) = some b) : b.after <:+ p :: rest := by
  rw [← pieces_of_blockAt? h, Block.pieces]
  exact (List.suffix_cons _ _).trans ((List.suffix_append _ _).trans (List.suffix_cons _ _))

/-- Where no section begins, nothing that is left behind an opening marker closes it. -/
theorem not_paired_of_no_block {p : Piece} {rest : List Piece}
    (none : blockAt? value? (p :: rest) = none) {q : Piece} (hq : q ∈ rest) :
    ¬Paired (p.settled value?) (q.settled value?) := by
  rintro ⟨name, named, word, hp, hq'⟩
  obtain ⟨rfl, unknown⟩ := Layout.settled_eq_tag_iff.mp hp
  obtain ⟨rfl, unknown'⟩ := Layout.settled_eq_tag_iff.mp hq'
  rw [blockAt?, unknown, sectionName?_cons named word] at none
  have ends := cut?_eq_none_iff.mp (Option.map_eq_none_iff.mp none) _ hq
  rw [Piece.ends, unknown', beq_self_eq_true] at ends
  cases ends

/-- Of pieces that open no section none is paired with anything once they are settled. -/
theorem not_paired_of_flat {pieces : List Piece} (flat : ∀ q ∈ pieces, q.opens = false) {q : Piece}
    (hq : q ∈ pieces.map (Piece.settled value?)) (r : Piece) : ¬Paired q r := by
  intro hpaired
  obtain ⟨q', hq', rfl⟩ := List.mem_map.mp hq
  have opens := opens_of_paired hpaired
  obtain ⟨name, _, _, htag, _⟩ := hpaired
  obtain ⟨rfl, _⟩ := Layout.settled_eq_tag_iff.mp htag
  rw [htag, flat _ hq'] at opens
  cases opens

/-- What evaluation leaves of the pieces of a template: a row of them, settled, of which none opens a
section that a later one closes. -/
structure Remaining (value? : String → Option Value) (pieces left : List Piece) : Prop where
  evaluated : written left = evaluate value? pieces
  settled : ∀ q ∈ left, ∃ p ∈ pieces, p.settled value? = q
  unpaired : Unpaired left

namespace Remaining

variable {p : Piece} {rest left : List Piece} {b : Block}

/-- Of a section that is kept all that is inside is left. -/
theorem keep (hblock : blockAt? value? (p :: rest) = some b)
    (flat : ∀ q ∈ b.inside, q.opens = false) (kept : holds value? b.name = true)
    (r : Remaining value? b.after left) :
    Remaining value? (p :: rest) (b.inside.map (Piece.settled value?) ++ left) := by
  refine ⟨?_, fun q hq => ?_, List.pairwise_append.mpr ⟨?_, r.unpaired, ?_⟩⟩
  · rw [evaluate_of_block hblock, Block.kept, if_pos kept, ← r.evaluated, ← written_map_settled,
      written, written, written, List.flatMap_append]
  · rcases List.mem_append.mp hq with hq | hq
    · obtain ⟨p', hp', he⟩ := List.mem_map.mp hq
      refine ⟨p', ?_, he⟩
      rw [← pieces_of_blockAt? hblock, Block.pieces]
      exact List.mem_cons_of_mem _ (List.mem_append_left _ hp')
    · obtain ⟨p', hp', he⟩ := r.settled q hq
      exact ⟨p', mem_of_blockAt? hblock p' hp', he⟩
  · exact List.pairwise_of_forall_mem_list fun q hq r _ => not_paired_of_flat flat hq r
  · exact fun q hq r _ => not_paired_of_flat flat hq r

/-- Of a section that is not kept nothing is left. -/
theorem drop (hblock : blockAt? value? (p :: rest) = some b) (dropped : ¬holds value? b.name = true)
    (r : Remaining value? b.after left) : Remaining value? (p :: rest) left := by
  refine ⟨?_, fun q hq => ?_, r.unpaired⟩
  · rw [evaluate_of_block hblock, Block.kept, if_neg dropped, r.evaluated]
    rfl
  · obtain ⟨p', hp', he⟩ := r.settled q hq
    exact ⟨p', mem_of_blockAt? hblock p' hp', he⟩

/-- A piece at which no section begins is left. -/
theorem cons (none : blockAt? value? (p :: rest) = none) (r : Remaining value? rest left) :
    Remaining value? (p :: rest) (p.settled value? :: left) := by
  refine ⟨?_, fun q hq => ?_, List.pairwise_cons.mpr ⟨fun q hq => ?_, r.unpaired⟩⟩
  · rw [evaluate_of_no_block none, written_cons, r.evaluated, Piece.written_settled]
  · rcases List.mem_cons.mp hq with rfl | hq
    · exact ⟨p, List.mem_cons_self, rfl⟩
    · obtain ⟨p', hp', he⟩ := r.settled q hq
      exact ⟨p', List.mem_cons_of_mem _ hp', he⟩
  · obtain ⟨p', hp', rfl⟩ := r.settled q hq
    exact not_paired_of_no_block none hp'

end Remaining

/-- Evaluating a single-level template leaves some of its pieces. -/
theorem exists_remaining : ∀ {pieces : List Piece}, SingleLevel pieces →
    ∃ left : List Piece, Remaining value? pieces left := by
  intro pieces
  induction pieces using evaluate.induct value? with
  | case1 =>
    intro _
    refine ⟨[], ?_, by simp, List.Pairwise.nil⟩
    rw [evaluate]
    rfl
  | case2 p rest b hblock _ ih =>
    intro single
    have flat : ∀ q ∈ b.inside, q.opens = false :=
      single _ ((List.mem_tails _ _).mpr List.suffix_rfl) b (blockAt?_without_values hblock)
    obtain ⟨left, remaining⟩ := ih (single.suffix (after_suffix_of_blockAt? hblock))
    by_cases kept : holds value? b.name = true
    · exact ⟨_, remaining.keep hblock flat kept⟩
    · exact ⟨left, remaining.drop hblock kept⟩
  | case3 p rest hblock ih =>
    intro single
    obtain ⟨left, remaining⟩ := ih (single.suffix (List.suffix_cons p rest))
    exact ⟨_, remaining.cons hblock⟩

theorem Piece.settled_settled (p : Piece) : (p.settled value?).settled value? = p.settled value? := by
  cases p with
  | literal text => rfl
  | tag content =>
    rw [settled]
    cases hvalue : value? (String.ofList content) with
    | none =>
      dsimp only
      rw [settled, hvalue]
    | some v => rfl

end remaining

/-! ## Texts without sections -/

/-- In a text of pieces of which none opens a section that a later one closes, no opening marker has its
closing marker behind it. -/
theorem not_closed_of_unpaired {pieces : List Piece} (wellFormed : ∀ p ∈ pieces, p.WellFormed)
    (unpaired : Unpaired pieces) {name before after : List Char} (named : name ≠ [])
    (word : name.all isWordChar = true)
    (whole : written pieces = before ++ (openingMarker name ++ after)) :
    ¬closingMarker name <:+: after := by
  intro closes
  have begins : opening <+: openingMarker name ++ after := by
    rw [openingMarker, tag, List.append_assoc, List.append_assoc]
    exact List.prefix_append _ _
  obtain ⟨content, more, hsuffix, he⟩ :=
    exists_written_of_opening begins wellFormed ⟨before, whole.symm⟩
  have mem : ∀ p ∈ .tag content :: more, p.WellFormed :=
    fun p hp => wellFormed p (hsuffix.mem hp)
  have unbraced : BraceFree name := braceFree_of_isWordChar word
  have closed : ∀ c : Char, c ≠ '\x7d' → '\x7d' ∉ c :: name := by
    intro c hc
    rw [List.mem_cons, not_or]
    exact ⟨hc.symm, unbraced.2⟩
  obtain rfl : '#' :: name = content := by
    have here : (tag ('#' :: name)).isPrefixOf (tag content ++ written more) = true := by
      rw [List.isPrefixOf_iff_prefix]
      exact ⟨after, he⟩
    exact (isPrefixOf_tag_iff (closed '#' (by decide)) (mem _ List.mem_cons_self).2).mp here
  obtain rfl : after = written more := List.append_cancel_left he
  have found := isSome_splitAt?_iff.mpr closes
  rw [closingMarker, splitAt?_written (closed '/' (by decide))
    fun p hp => mem p (List.mem_cons_of_mem _ hp), Option.isSome_map] at found
  obtain ⟨parts, hparts⟩ := Option.isSome_iff_exists.mp found
  obtain ⟨q, hq, hmore⟩ := cut?_eq_some hparts
  have later : q ∈ more := by
    rw [hmore]
    exact List.mem_append_right _ List.mem_cons_self
  have unpaired' : Unpaired (.tag ('#' :: name) :: more) := unpaired.sublist hsuffix.sublist
  exact (List.pairwise_cons.mp unpaired').1 q later ⟨name, named, word, rfl, by simpa using hq⟩

/-- The scan changes nothing about a text in which no section begins. -/
theorem resolve_of_noSectionWithin {text : List Char} (h : NoSectionWithin text [])
    (kept : List Char → Bool) : resolve kept text = text := by
  obtain ⟨p, only, resolved⟩ := Partition.exists_forall_divides_iff text
  obtain rfl : .last text = p := (only _).mp ⟨rfl, h⟩
  exact resolved kept

/-! ## Rendering -/

/-- What a single-level template is rendered to stays as it is when it is rendered again with the same
bag: in it no opening marker has its closing marker anywhere behind it. -/
theorem render?_render? {pieces : List Piece} (wellFormed : ∀ p ∈ pieces, p.WellFormed)
    (single : SingleLevel pieces) {bag : Bag} (plain : Plain bag) :
    ∃ text, render? (String.ofList (written pieces)) bag = .ok text ∧ render? text bag = .ok text ∧
      ∀ name before after, name ≠ [] → name.all isWordChar = true →
        text.toList = before ++ (openingMarker name ++ after) → ¬closingMarker name <:+: after := by
  obtain ⟨fillings, hfillings, hfill⟩ := fill_written plain wellFormed
  have hresolve := resolve_written plain.plainValues wellFormed
  obtain ⟨left, hleft, settled, unpaired⟩ := @exists_remaining bag.getText? _ single
  have wellFormed' : ∀ q ∈ left, q.WellFormed := by
    intro q hq
    obtain ⟨p, hp, rfl⟩ := settled q hq
    exact (wellFormed p hp).settled plain.plainValues
  -- no tag is left to be filled
  have unfilled : left.map (Piece.settled bag.getText?) = left := by
    refine (List.map_congr_left fun q hq => ?_).trans left.map_id
    obtain ⟨p, _, rfl⟩ := settled q hq
    exact p.settled_settled
  obtain ⟨fillings', hfillings', hfill'⟩ := fill_written plain wellFormed'
  obtain rfl : fillings = fillings' := Except.ok.inj (hfillings.symm.trans hfillings')
  have closed := fun name before after named word =>
    @not_closed_of_unpaired left wellFormed' unpaired name before after named word
  have plainly : NoSectionWithin (written left) [] := by
    rintro before rest hwhole _ ⟨name, after, named, word, he, closes⟩
    rw [List.append_nil] at he
    rw [he] at hwhole
    exact closed name before after named word hwhole closes
  refine ⟨String.ofList (written left), ?_, ?_, ?_⟩
  · rw [hleft, ← hresolve, ← hfill, ← keeps_eq_holds, render?, hfillings, String.toList_ofList]
    rfl
  · rw [unfilled] at hfill'
    rw [render?, hfillings, String.toList_ofList]
    dsimp only [bind, Except.bind]
    rw [hfill', resolve_of_noSectionWithin plainly]
    rfl
  · rw [String.toList_ofList]
    exact closed

/-- Closing markers that close nothing, a kept section around one of them, and an opening marker that is
only closed before it. -/
theorem render?_render?_leftovers :
    let pieces : List Piece := [.tag "/b".toList, .tag "#a".toList, .literal "Dear ".toList,
      .tag "name".toList, .tag "/b".toList, .tag "/a".toList, .tag "#b".toList, .tag "x".toList,
      .tag "/a".toList]
    let bag : Bag := [(.text "name", .text "Ada"), (.text "a", .bool true)]
    (∀ p ∈ pieces, p.WellFormed) ∧ SingleLevel pieces ∧ Plain bag ∧
      ∃ text, render? (String.ofList (written pieces)) bag = .ok text ∧ render? text bag = .ok text ∧
        ∀ name before after, name ≠ [] → name.all isWordChar = true →
          text.toList = before ++ (openingMarker name ++ after) →
            ¬closingMarker name <:+: after := by
  intro pieces bag
  have wellFormed : ∀ p ∈ pieces, p.WellFormed := by decide +kernel
  have single : SingleLevel pieces := by decide +kernel
  have plain : Plain bag := by
    refine ⟨?_, ?_, ?_⟩
    · simp only [bag, List.forall_mem_cons]
      exact ⟨⟨_, rfl, by decide⟩, ⟨_, rfl, by decide⟩, by simp⟩
    · simp [bag]
    · simp only [bag, List.forall_mem_cons]
      exact ⟨⟨_, rfl, by decide⟩, ⟨_, rfl, by decide⟩, by simp⟩
  exact ⟨wellFormed, single, plain, render?_render? wellFormed single plain⟩

end Courier.Template

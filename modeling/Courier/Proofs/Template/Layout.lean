import Courier.Proofs.Template.Evaluation

/-!
# The layout of a template

Every text comes apart at its double braces into pieces that make it up again (`written_pieces`), and
its pieces into a layout: runs of pieces with sections between them (`Layout.ofText`). A layout is
tidy if its pieces are well-formed, its runs begin no section, and its sections hold no tag but that of
their own value; this can be computed.

Main statement: what a tidy text is evaluated to can be told run by run and section by section
(`Layout.evaluate_eq_evaluated`), as long as no value has the name of a marker.
-/

namespace Courier.Template

/-! ## The pieces of a text -/

/-- The pieces of a text, of which at most so many are tags; the rest is taken as a literal. -/
def piecesWithin : Nat → List Char → List Piece
  | 0, text => [.literal text]
  | bound + 1, text =>
    match splitAt? opening text with
    | none => [.literal text]
    | some (before, rest) =>
      match splitAt? closing rest with
      | none => [.literal text]
      | some (content, after) => .literal before :: .tag content :: piecesWithin bound after

/-- The pieces of a text. It has fewer tags than characters. -/
def pieces (text : List Char) : List Piece := piecesWithin text.length text

theorem written_piecesWithin : ∀ (bound : Nat) (text : List Char),
    written (piecesWithin bound text) = text
  | 0, text => List.append_nil text
  | bound + 1, text => by
    rw [piecesWithin]
    split
    · exact List.append_nil text
    · rename_i before rest hopening
      split
      · exact List.append_nil text
      · rename_i content after hclosing
        have hrest := splitAt?_eq_append hclosing
        have htext := splitAt?_eq_append hopening
        rw [written_cons, written_cons, written_piecesWithin bound after, htext, hrest]
        simp only [Piece.written, tag, List.append_assoc]

/-- The pieces of a text make it up. -/
theorem written_pieces (text : List Char) : written (pieces text) = text :=
  written_piecesWithin text.length text

/-! ## Layouts -/

/-- A template as runs of pieces with sections between them. What follows a section is the run up to
the next one. -/
structure Layout where
  before : List Piece
  blocks : List Block

/-- The pieces of a section and of what follows it. -/
def Block.pieces (b : Block) : List Piece :=
  .tag ('#' :: b.name) :: (b.inside ++ .tag ('/' :: b.name) :: b.after)

/-- A lookup that finds nothing under the markers of sections. -/
def Unmarked (value? : String → Option Value) : Prop :=
  ∀ name, value? (String.ofList ('#' :: name)) = none ∧ value? (String.ofList ('/' :: name)) = none

theorem cut?_eq_some {isMark : Piece → Bool} : ∀ {pieces before after : List Piece},
    cut? isMark pieces = some (before, after) → ∃ p, isMark p = true ∧
      pieces = before ++ p :: after
  | [], _, _, h => by cases h
  | p :: rest, before, after, h => by
    rw [cut?] at h
    by_cases hp : isMark p = true
    · rw [if_pos hp] at h
      cases h
      exact ⟨p, hp, rfl⟩
    · rw [if_neg hp] at h
      obtain ⟨parts, hparts, he⟩ := Option.map_eq_some_iff.mp h
      cases he
      obtain ⟨q, hq, hrest⟩ := cut?_eq_some hparts
      exact ⟨q, hq, by rw [hrest]; rfl⟩

theorem cut?_append {isMark : Piece → Bool} (more : List Piece) :
    ∀ {pieces before after : List Piece}, cut? isMark pieces = some (before, after) →
      cut? isMark (pieces ++ more) = some (before, after ++ more)
  | [], _, _, h => by cases h
  | p :: rest, before, after, h => by
    rw [cut?] at h
    rw [List.cons_append, cut?]
    by_cases hp : isMark p = true
    · rw [if_pos hp] at h ⊢
      cases h
      rfl
    · rw [if_neg hp] at h ⊢
      obtain ⟨parts, hparts, he⟩ := Option.map_eq_some_iff.mp h
      cases he
      rw [cut?_append more hparts]
      rfl

theorem sectionName?_eq_some {content name : List Char} (h : sectionName? content = some name) :
    content = '#' :: name := by
  unfold sectionName? at h
  split at h
  · split at h
    · cases h
      rfl
    · cases h
  · cases h

section sections

variable {value? : String → Option Value}

/-- A section that was found is what the pieces begin with. -/
theorem pieces_of_blockAt? {pieces : List Piece} {b : Block}
    (h : blockAt? value? pieces = some b) : b.pieces = pieces := by
  obtain ⟨content, rest, rfl, -, hcontent, hparts⟩ := blockAt?_eq_some_iff.mp h
  obtain ⟨p, hends, hrest⟩ := cut?_eq_some hparts
  have hp : p = .tag ('/' :: b.name) := by
    unfold Piece.ends at hends
    simp only [Bool.and_eq_true, beq_iff_eq] at hends
    exact hends.1
  rw [Block.pieces, sectionName?_eq_some hcontent, hrest, hp]

/-- More pieces at the end do not change a section that is complete without them. -/
theorem blockAt?_append {pieces : List Piece} {b : Block} (h : blockAt? value? pieces = some b)
    (more : List Piece) :
    blockAt? value? (pieces ++ more) = some { b with after := b.after ++ more } := by
  obtain ⟨content, rest, rfl, unknown, hcontent, hparts⟩ := blockAt?_eq_some_iff.mp h
  exact blockAt?_eq_some_iff.mpr
    ⟨content, rest ++ more, rfl, unknown, hcontent, cut?_append more hparts⟩

theorem ends_of_unmarked (unmarked : Unmarked value?) (name : List Char) :
    Piece.ends value? name = Piece.ends (fun _ => none) name := by
  funext p
  rw [Piece.ends, Piece.ends, (unmarked name).2]

/-- Values under other names than markers have no say in what is a section. -/
theorem blockAt?_of_unmarked (unmarked : Unmarked value?) {pieces : List Piece} {b : Block}
    (h : blockAt? (fun _ => none) pieces = some b) : blockAt? value? pieces = some b := by
  obtain ⟨content, rest, rfl, -, hcontent, hparts⟩ := blockAt?_eq_some_iff.mp h
  have unknown : value? (String.ofList content) = none := by
    rw [sectionName?_eq_some hcontent]
    exact (unmarked b.name).1
  rw [← ends_of_unmarked unmarked] at hparts
  exact blockAt?_eq_some_iff.mpr ⟨content, rest, rfl, unknown, hcontent, hparts⟩

end sections

/-- Whether a piece has the form of the marker that begins a section. -/
def Piece.opens : Piece → Bool
  | literal _ => false
  | tag content => (sectionName? content).isSome

theorem blockAt?_eq_none {p : Piece} (h : p.opens = false) (value? : String → Option Value)
    (rest : List Piece) : blockAt? value? (p :: rest) = none := by
  cases p with
  | literal text => rfl
  | tag content =>
    have unnamed : sectionName? content = none := by simpa [Piece.opens] using h
    rw [blockAt?, unnamed]
    simp

/-- What stands between the braces of a tag. -/
def Piece.content? : Piece → Option (List Char)
  | literal _ => none
  | tag content => some content

theorem Piece.mem_content?_iff {content : List Char} {pieces : List Piece} :
    content ∈ pieces.filterMap content? ↔ .tag content ∈ pieces := by
  rw [List.mem_filterMap]
  constructor
  · rintro ⟨p, hp, he⟩
    cases p with
    | literal text => cases he
    | tag v =>
      cases he
      exact hp
  · intro h
    exact ⟨_, h, rfl⟩

namespace Layout

/-- The layout of pieces, laid out from the last piece to the first. -/
def ofPieces : List Piece → Layout
  | [] => ⟨[], []⟩
  | p :: rest =>
    let l := ofPieces rest
    match blockAt? (fun _ => none) (p :: l.before) with
    | some b => ⟨[], b :: l.blocks⟩
    | none => ⟨p :: l.before, l.blocks⟩

/-- The layout of a text. -/
def ofText (text : String) : Layout := ofPieces (Template.pieces text.toList)

/-- The pieces of a layout in their order. -/
def pieces (l : Layout) : List Piece := l.before ++ l.blocks.flatMap Block.pieces

/-- The pieces outside of sections. -/
def runs (l : Layout) : List Piece := l.before ++ l.blocks.flatMap Block.after

/-- The names of the tags outside of sections. -/
def names (l : Layout) : List String := (l.runs.filterMap Piece.content?).map String.ofList

/-- A layout of which every section is found where it stands, its tags are those of its own value,
and no section is begun elsewhere. -/
structure Tidy (l : Layout) : Prop where
  wellFormed : ∀ p ∈ l.pieces, p.WellFormed
  flat : ∀ p ∈ l.runs, p.opens = false
  contained : ∀ b ∈ l.blocks, ∀ content ∈ b.inside.filterMap Piece.content?, content = b.name

instance (l : Layout) : Decidable l.Tidy :=
  decidable_of_iff (((∀ p ∈ l.pieces, p.WellFormed) ∧ ∀ p ∈ l.runs, p.opens = false) ∧
      ∀ b ∈ l.blocks, ∀ content ∈ b.inside.filterMap Piece.content?, content = b.name)
    ⟨fun h => ⟨h.1.1, h.1.2, h.2⟩, fun h => ⟨⟨h.wellFormed, h.flat⟩, h.contained⟩⟩

/-- Laying pieces out changes nothing about them. -/
theorem pieces_ofPieces : ∀ pieces : List Piece, (ofPieces pieces).pieces = pieces
  | [] => rfl
  | p :: rest => by
    have ih := pieces_ofPieces rest
    rw [ofPieces]
    split
    · rename_i b hblock
      have hb := pieces_of_blockAt? hblock
      rw [Layout.pieces, List.flatMap_cons, hb]
      exact congrArg (p :: ·) ih
    · rw [Layout.pieces, List.cons_append]
      exact congrArg (p :: ·) ih

theorem written_ofText (text : String) : written (ofText text).pieces = text.toList := by
  rw [ofText, pieces_ofPieces, written_pieces]

/-- Every section of a layout is the one that its pieces begin with. -/
theorem blockAt?_of_mem {b : Block} : ∀ {pieces : List Piece}, b ∈ (ofPieces pieces).blocks →
    blockAt? (fun _ => none) b.pieces = some b
  | [], h => by cases h
  | p :: rest, h => by
    rw [ofPieces] at h
    split at h
    · rename_i found hblock
      rcases List.mem_cons.mp h with rfl | h
      · rw [pieces_of_blockAt? hblock]
        exact hblock
      · exact blockAt?_of_mem h
    · exact blockAt?_of_mem h

/-! ## The evaluation of a layout -/

variable {value? : String → Option Value}

/-- What is left of a run: its pieces with their tags filled. -/
def filled (value? : String → Option Value) (run : List Piece) : List Char :=
  run.flatMap (Piece.filled value?)

/-- What a layout comes to, run by run and section by section. -/
def evaluated (value? : String → Option Value) (l : Layout) : List Char :=
  filled value? l.before ++ l.blocks.flatMap fun b => b.kept value? ++ filled value? b.after

theorem evaluate_run {run : List Piece} (flat : ∀ p ∈ run, p.opens = false) (more : List Piece) :
    evaluate value? (run ++ more) = filled value? run ++ evaluate value? more := by
  induction run with
  | nil => rfl
  | cons p run ih =>
    have none := blockAt?_eq_none (flat p List.mem_cons_self) value? (run ++ more)
    rw [List.cons_append, evaluate_of_no_block none,
      ih fun q hq => flat q (List.mem_cons_of_mem _ hq), ← List.append_assoc]
    rfl

theorem evaluate_block (unmarked : Unmarked value?) {b : Block}
    (found : blockAt? (fun _ => none) b.pieces = some b) (more : List Piece) :
    evaluate value? (b.pieces ++ more) = b.kept value? ++ evaluate value? (b.after ++ more) :=
  evaluate_of_block (blockAt?_append (blockAt?_of_unmarked unmarked found) more)

theorem evaluate_blocks (unmarked : Unmarked value?) : ∀ {blocks : List Block},
    (∀ b ∈ blocks, blockAt? (fun _ => none) b.pieces = some b) →
      (∀ b ∈ blocks, ∀ p ∈ b.after, p.opens = false) →
        evaluate value? (blocks.flatMap Block.pieces) =
          blocks.flatMap fun b => b.kept value? ++ filled value? b.after
  | [], _, _ => by
    rw [List.flatMap_nil, evaluate]
    rfl
  | b :: blocks, found, flat => by
    have ih := evaluate_blocks unmarked (fun b' hb => found b' (List.mem_cons_of_mem _ hb))
      fun b' hb => flat b' (List.mem_cons_of_mem _ hb)
    rw [List.flatMap_cons, evaluate_block unmarked (found b List.mem_cons_self),
      evaluate_run (flat b List.mem_cons_self), ih, List.flatMap_cons, List.append_assoc]

/-- Evaluating a text goes run by run and section by section. -/
theorem evaluate_eq_evaluated (unmarked : Unmarked value?) {text : String}
    (tidy : (ofText text).Tidy) :
    evaluate value? (ofText text).pieces = (ofText text).evaluated value? := by
  have before : ∀ p ∈ (ofText text).before, p.opens = false :=
    fun p hp => tidy.flat p (List.mem_append_left _ hp)
  have after : ∀ b ∈ (ofText text).blocks, ∀ p ∈ b.after, p.opens = false :=
    fun b hb p hp => tidy.flat p (List.mem_append_right _ (List.mem_flatMap.mpr ⟨b, hb, hp⟩))
  have found : ∀ b ∈ (ofText text).blocks, blockAt? (fun _ => none) b.pieces = some b :=
    fun b hb => blockAt?_of_mem hb
  rw [Layout.pieces, evaluate_run before, evaluate_blocks unmarked found after]
  rfl

end Layout

end Courier.Template

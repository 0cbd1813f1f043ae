import Courier.Proofs.Template.Layout

/-!
# What rendering leaves of a template

Which tags are left in a rendered text, and what becomes of its sections. In a text of well-formed
pieces two opening braces stand where a tag begins and nowhere else (`exists_written_of_opening`). The
tags left of a tidy layout are those of its runs that the bag has no value for: what is kept inside
of a section has one (`Layout.tag_mem_remaining_iff`). So it can be told from layout and bag what is
left in the rendered text (`render?_of_tidy`, `leaves_of_tidy`), and that a text with sections is
one frame around them, whatever the values are that only the sections use
(`Layout.ofList_evaluated`, `Layout.frame_congr`).
-/

namespace Courier.Template

/-! ## Tags in a text -/

theorem tag_infix_written {content : List Char} {pieces : List Piece}
    (h : .tag content ∈ pieces) : tag content <:+: written pieces := by
  rw [written, List.flatMap_def]
  exact List.infix_of_mem_flatten (List.mem_map_of_mem h)

/-- Two opening braces do not begin within a text that has no opening brace. -/
theorem suffix_of_opening {rest more : List Char} (hopening : opening <+: rest) :
    ∀ {run : List Char}, '\x7b' ∉ run → rest <:+ run ++ more → rest <:+ more
  | [], _, h => h
  | c :: run, hrun, h => by
    rw [List.mem_cons, not_or] at hrun
    rcases List.suffix_cons_iff.mp h with rfl | h
    · have first := (List.cons_prefix_cons.mp hopening).1
      exact absurd first hrun.1
    · exact suffix_of_opening hopening hrun.2 h

/-- Two opening braces stand in a text of pieces where a tag begins and nowhere else: what begins with
them is made up of the last pieces. -/
theorem exists_written_of_opening {rest : List Char} (hopening : opening <+: rest) :
    ∀ {pieces : List Piece}, (∀ p ∈ pieces, p.WellFormed) → rest <:+ written pieces →
      ∃ content after, .tag content :: after <:+ pieces ∧ rest = written (.tag content :: after)
  | [], _, h => by
    rw [List.suffix_nil.mp h] at hopening
    cases List.prefix_nil.mp hopening
  | .literal text :: pieces, wellFormed, h => by
    have plain : BraceFree text := wellFormed (.literal text) List.mem_cons_self
    obtain ⟨content, after, hsuffix, he⟩ := exists_written_of_opening hopening
      (fun p hp => wellFormed p (List.mem_cons_of_mem _ hp))
      (suffix_of_opening hopening plain.1 h)
    exact ⟨content, after, hsuffix.trans (List.suffix_cons _ _), he⟩
  | .tag v :: pieces, wellFormed, h => by
    have plain : BraceFree v := wellFormed (.tag v) List.mem_cons_self
    have inner : '\x7b' ∉ v ++ closing := by
      rw [List.mem_append, not_or]
      exact ⟨plain.1, by decide⟩
    rw [written_cons, Piece.written, tag_append] at h
    rcases List.suffix_cons_iff.mp h with rfl | h
    · refine ⟨v, pieces, List.suffix_rfl, ?_⟩
      rw [written_cons, Piece.written, tag_append]
    rcases List.suffix_cons_iff.mp h with rfl | h
    · have second := List.isPrefixOf_iff_prefix.mpr hopening
      rw [isPrefixOf_second plain.1] at second
      cases second
    · have tail : rest <:+ v ++ closing ++ written pieces := by
        rw [List.append_assoc]
        exact h
      obtain ⟨content, after, hsuffix, he⟩ := exists_written_of_opening hopening
        (fun p hp => wellFormed p (List.mem_cons_of_mem _ hp))
        (suffix_of_opening hopening inner tail)
      exact ⟨content, after, hsuffix.trans (List.suffix_cons _ _), he⟩

theorem tag_prefix_of_opening {rest : List Char} (hopening : opening <+: rest)
    {pieces : List Piece} (wellFormed : ∀ p ∈ pieces, p.WellFormed) (h : rest <:+ written pieces) :
    ∃ content, .tag content ∈ pieces ∧ tag content <+: rest := by
  obtain ⟨content, after, hsuffix, rfl⟩ := exists_written_of_opening hopening wellFormed h
  exact ⟨content, hsuffix.mem List.mem_cons_self, List.prefix_append _ _⟩

namespace Layout

variable {value? : String → Option Value}

/-! ## What is left -/

/-- The pieces that are left of a layout. -/
def remaining (value? : String → Option Value) (l : Layout) : List Piece :=
  (l.before ++ l.blocks.flatMap fun b =>
    (if holds value? b.name then b.inside else []) ++ b.after).map (Piece.settled value?)

theorem written_remaining (value? : String → Option Value) (l : Layout) :
    written (l.remaining value?) = l.evaluated value? := by
  have kept : ∀ b : Block, ((if holds value? b.name then b.inside else []) ++ b.after).flatMap
      (Piece.filled value?) = b.kept value? ++ filled value? b.after := by
    intro b
    rw [List.flatMap_append, Block.kept]
    by_cases h : holds value? b.name = true
    · rw [if_pos h, if_pos h]
      rfl
    · rw [if_neg h, if_neg h]
      rfl
  rw [remaining, written_map_settled, List.flatMap_append, List.flatMap_assoc, evaluated]
  simp only [kept]
  rfl

theorem mem_pieces_of_mem_remaining {l : Layout} {p : Piece} (h : p ∈ l.remaining value?) :
    ∃ q ∈ l.pieces, q.settled value? = p := by
  obtain ⟨q, hq, rfl⟩ := List.mem_map.mp h
  refine ⟨q, ?_, rfl⟩
  rcases List.mem_append.mp hq with hq | hq
  · exact List.mem_append_left _ hq
  · obtain ⟨b, hb, hq⟩ := List.mem_flatMap.mp hq
    refine List.mem_append_right _ (List.mem_flatMap.mpr ⟨b, hb, ?_⟩)
    rw [Block.pieces, List.mem_cons, List.mem_append, List.mem_cons]
    rcases List.mem_append.mp hq with hq | hq
    · split at hq
      · exact .inr (.inl hq)
      · cases hq
    · exact .inr (.inr (.inr hq))

theorem settled_eq_tag_iff {p : Piece} {content : List Char} :
    p.settled value? = .tag content ↔
      p = .tag content ∧ value? (String.ofList content) = none := by
  have h := @settled_beq_tag value? p content
  rw [Bool.eq_iff_iff] at h
  simpa using h

/-- The tags that are left are those of the runs without a value: what is inside of a section that
is kept has one. -/
theorem tag_mem_remaining_iff {l : Layout} (tidy : l.Tidy) {content : List Char} :
    .tag content ∈ l.remaining value? ↔
      .tag content ∈ l.runs ∧ value? (String.ofList content) = none := by
  rw [remaining, runs, List.mem_map]
  constructor
  · rintro ⟨p, hp, he⟩
    obtain ⟨rfl, unknown⟩ := settled_eq_tag_iff.mp he
    refine ⟨?_, unknown⟩
    rcases List.mem_append.mp hp with hp | hp
    · exact List.mem_append_left _ hp
    · obtain ⟨b, hb, hp⟩ := List.mem_flatMap.mp hp
      refine List.mem_append_right _ (List.mem_flatMap.mpr ⟨b, hb, ?_⟩)
      rcases List.mem_append.mp hp with hp | hp
      · split at hp
        · rename_i hholds
          have own := tidy.contained b hb content (Piece.mem_content?_iff.mpr hp)
          rw [holds, ← own, unknown] at hholds
          cases hholds
        · cases hp
      · exact hp
  · rintro ⟨hp, unknown⟩
    refine ⟨.tag content, ?_, settled_eq_tag_iff.mpr ⟨rfl, unknown⟩⟩
    rcases List.mem_append.mp hp with hp | hp
    · exact List.mem_append_left _ hp
    · obtain ⟨b, hb, hp⟩ := List.mem_flatMap.mp hp
      exact List.mem_append_right _ (List.mem_flatMap.mpr ⟨b, hb, List.mem_append_right _ hp⟩)

theorem mem_names_iff {l : Layout} {name : String} :
    name ∈ l.names ↔ .tag name.toList ∈ l.runs := by
  rw [names, List.mem_map]
  constructor
  · rintro ⟨content, hcontent, rfl⟩
    rw [String.toList_ofList]
    exact Piece.mem_content?_iff.mp hcontent
  · intro h
    exact ⟨name.toList, Piece.mem_content?_iff.mpr h, String.ofList_toList⟩

/-- Lookups that agree on the tags of a run fill it alike. -/
theorem filled_congr {other? : String → Option Value} {run : List Piece}
    (same : ∀ content, .tag content ∈ run →
      value? (String.ofList content) = other? (String.ofList content)) :
    filled value? run = filled other? run := by
  refine List.flatMap_congr fun p hp => ?_
  cases p with
  | literal text => rfl
  | tag content => rw [Piece.filled, Piece.filled, same content hp]

end Layout

/-! ## Sections around one value -/

/-- A section around the value that it is kept for. -/
structure Slot where
  name : String
  lead : String
  trail : String

namespace Slot

/-- The pieces inside of the section. -/
def inside (s : Slot) : List Piece :=
  [.literal s.lead.toList, .tag s.name.toList, .literal s.trail.toList]

/-- What becomes of the section for an optional text: without one it is not there, and neither is it
for an empty one. -/
def text (s : Slot) : Option String → String
  | none => ""
  | some value => if value = "" then "" else s.lead ++ value ++ s.trail

end Slot

theorem Block.kept_eq_text {value? : String → Option Value} {b : Block} {slot : Slot}
    (name : b.name = slot.name.toList) (inside : b.inside = slot.inside) {arg : Option String}
    (found : value? slot.name = arg.map .text) : b.kept value? = (slot.text arg).toList := by
  have here : value? (String.ofList b.name) = arg.map .text := by
    rw [name, String.ofList_toList, found]
  rw [Block.kept, holds, here]
  cases arg with
  | none => rfl
  | some value =>
    by_cases empty : value = ""
    · subst empty
      rfl
    · have truthy : (Option.map Value.text (some value)).any Value.isTruthy = true := by
        simp [Value.isTruthy, empty]
      have filled : Piece.filled value? (.tag slot.name.toList) = value.toList := by
        rw [Piece.filled, String.ofList_toList, found]
        rfl
      rw [if_pos truthy, inside, Slot.inside, Slot.text, if_neg empty, String.toList_append,
        String.toList_append, ← filled, List.append_assoc]
      simp only [List.flatMap_cons, List.flatMap_nil, List.append_nil, Piece.filled]

/-- The texts before, between and after two sections. -/
structure Frame where
  before : String
  between : String
  after : String

/-- The text with two sections set into it. -/
def Frame.around (f : Frame) (first second : String) : String :=
  f.before ++ first ++ f.between ++ second ++ f.after

namespace Layout

variable {value? : String → Option Value} {l : Layout} {names : List String} {slots : List Slot}

/-- A tidy layout with tags of these names outside of sections, and with these sections. -/
structure Has (l : Layout) (names : List String) (slots : List Slot) : Prop where
  tidy : l.Tidy
  names : l.names = names
  slots : l.blocks.map (fun b => (b.name, b.inside)) =
    slots.map fun s => (s.name.toList, s.inside)

instance (l : Layout) (names : List String) (slots : List Slot) : Decidable (l.Has names slots) :=
  decidable_of_iff ((l.Tidy ∧ l.names = names) ∧ l.blocks.map (fun b => (b.name, b.inside)) =
      slots.map fun s => (s.name.toList, s.inside))
    ⟨fun h => ⟨h.1.1, h.1.2, h.2⟩, fun h => ⟨⟨h.tidy, h.names⟩, h.slots⟩⟩

/-- The run after a section, if there is one at that place. -/
def runAfter (l : Layout) (place : Nat) : List Piece := (l.blocks[place]?.map Block.after).getD []

/-- What is left of the runs of a layout of at most two sections. -/
def frame (value? : String → Option Value) (l : Layout) : Frame where
  before := String.ofList (filled value? l.before)
  between := String.ofList (filled value? (l.runAfter 0))
  after := String.ofList (filled value? (l.runAfter 1))

/-- The text of the section at a place, if there is one. -/
def sectionText (slots : List Slot) (arg : String → Option String) (place : Nat) : String :=
  (slots[place]?.map fun s => s.text (arg s.name)).getD ""

/-- A layout of at most two sections comes to its frame around what becomes of the sections. -/
theorem ofList_evaluated (h : l.Has names slots) (short : slots.length ≤ 2)
    {arg : String → Option String} (found : ∀ s ∈ slots, value? s.name = (arg s.name).map .text) :
    String.ofList (l.evaluated value?) =
      (l.frame value?).around (sectionText slots arg 0) (sectionText slots arg 1) := by
  have kept : ∀ (b : Block) (s : Slot), (b.name, b.inside) = (s.name.toList, s.inside) → s ∈ slots →
      String.ofList (b.kept value?) = s.text (arg s.name) := by
    intro b s same hs
    obtain ⟨name, inside⟩ := Prod.mk.inj same
    rw [Block.kept_eq_text name inside (found s hs), String.ofList_toList]
  obtain ⟨before, blocks⟩ := l
  have same := h.slots
  match slots, short with
  | [], _ =>
    obtain rfl : blocks = [] := List.map_eq_nil_iff.mp same
    simp [evaluated, frame, Frame.around, runAfter, sectionText, filled]
  | [s], _ =>
    obtain ⟨b, rest, rfl, hb, hrest⟩ := List.map_eq_cons_iff.mp same
    obtain rfl : rest = [] := List.map_eq_nil_iff.mp hrest
    have first := kept b s hb List.mem_cons_self
    simp [evaluated, frame, Frame.around, runAfter, sectionText, filled, ← first,
      String.append_assoc]
  | [s, t], _ =>
    obtain ⟨b, rest, rfl, hb, hrest⟩ := List.map_eq_cons_iff.mp same
    obtain ⟨c, rest, rfl, hc, hrest⟩ := List.map_eq_cons_iff.mp hrest
    obtain rfl : rest = [] := List.map_eq_nil_iff.mp hrest
    have first := kept b s hb List.mem_cons_self
    have second := kept c t hc (List.mem_cons_of_mem _ List.mem_cons_self)
    simp [evaluated, frame, Frame.around, runAfter, sectionText, ← first, ← second,
      String.append_assoc]

theorem mem_runs_of_mem_runAfter {place : Nat} {p : Piece} (h : p ∈ l.runAfter place) :
    p ∈ l.runs := by
  unfold runAfter at h
  cases hb : l.blocks[place]? with
  | none =>
    rw [hb] at h
    cases h
  | some b =>
    rw [hb] at h
    exact List.mem_append_right _ (List.mem_flatMap.mpr ⟨b, List.mem_of_getElem? hb, h⟩)

/-- The frame depends only on the values of the tags outside of sections. -/
theorem frame_congr {other? : String → Option Value}
    (same : ∀ name ∈ l.names, value? name = other? name) : l.frame value? = l.frame other? := by
  have agree : ∀ run : List Piece, (∀ p ∈ run, p ∈ l.runs) →
      filled value? run = filled other? run := by
    intro run hrun
    refine filled_congr fun content hcontent => same _ ?_
    rw [mem_names_iff, String.toList_ofList]
    exact hrun _ hcontent
  rw [frame, frame, agree _ fun p hp => List.mem_append_left _ hp,
    agree _ fun p hp => mem_runs_of_mem_runAfter hp, agree _ fun p hp => mem_runs_of_mem_runAfter hp]

end Layout

/-! ## Rendering a tidy text -/

/-- What is left of tags in a text are those of these names: every one of them occurs, and two opening
braces stand nowhere but at the beginning of one. A marker of a section is a tag like any other. -/
structure Leaves (text : String) (names : List String) : Prop where
  occurs : ∀ name ∈ names, tag name.toList <:+: text.toList
  only : ∀ rest, rest <:+ text.toList → opening <+: rest →
    ∃ name ∈ names, tag name.toList <+: rest

section rendering

variable {bag : Bag} {text : String}

theorem render?_of_tidy (plain : Plain bag) (unmarked : Unmarked bag.getText?)
    (tidy : (Layout.ofText text).Tidy) :
    render? text bag = .ok (String.ofList ((Layout.ofText text).evaluated bag.getText?)) := by
  obtain ⟨fillings, hfillings, hfill⟩ := fill_written plain tidy.wellFormed
  have hresolve := resolve_written plain.plainValues tidy.wellFormed
  rw [Layout.written_ofText] at hfill
  rw [Layout.evaluate_eq_evaluated unmarked tidy] at hresolve
  rw [render?, hfillings, ← hresolve, ← keeps_eq_holds, ← hfill]
  rfl

/-- The tags that are left in a rendered text are those without a value outside of sections. -/
theorem leaves_of_tidy (plain : Plain bag) (tidy : (Layout.ofText text).Tidy) {names : List String}
    (hnames : ∀ name, name ∈ names ↔ name ∈ (Layout.ofText text).names ∧ bag.getText? name = none) :
    Leaves (String.ofList ((Layout.ofText text).evaluated bag.getText?)) names := by
  have wellFormed : ∀ p ∈ (Layout.ofText text).remaining bag.getText?, p.WellFormed := by
    intro p hp
    obtain ⟨q, hq, rfl⟩ := Layout.mem_pieces_of_mem_remaining hp
    exact (tidy.wellFormed q hq).settled plain.plainValues
  have left : ∀ name, name ∈ names ↔
      .tag name.toList ∈ (Layout.ofText text).remaining bag.getText? := by
    intro name
    rw [hnames, Layout.tag_mem_remaining_iff tidy, Layout.mem_names_iff, String.ofList_toList]
  have letters := Layout.written_remaining bag.getText? (Layout.ofText text)
  constructor
  · intro name hname
    rw [String.toList_ofList, ← letters]
    exact tag_infix_written ((left name).mp hname)
  · intro rest hrest hopening
    rw [String.toList_ofList, ← letters] at hrest
    obtain ⟨content, hmem, hprefix⟩ := tag_prefix_of_opening hopening wellFormed hrest
    refine ⟨String.ofList content, (left _).mpr ?_, ?_⟩
    · rw [String.toList_ofList]
      exact hmem
    · rw [String.toList_ofList]
      exact hprefix

end rendering

end Courier.Template

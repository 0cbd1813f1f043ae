import Courier.Dispatch.Request
import Courier.Proofs.Template.Layout
import Courier.Proofs.Text.Decimal

/-!
# Facts as values

The values of a request are the facts that are present (`Request.present`). Under a name they have what
the fact of that name has (`getText?_present`). Facts that are told by distinct words and put no brace
into a text make a plain bag, without markers of sections (`CleanFacts`), as soon as all of them can
be written.
-/

namespace Courier.Request

open Template Courier.Text

variable {facts : List (String × Option Value)}

theorem mem_present_iff {e : Value × Value} :
    e ∈ present facts ↔ ∃ f ∈ facts, ∃ v, f.2 = some v ∧ e = (.text f.1, v) := by
  rw [present, List.mem_filterMap]
  constructor
  · rintro ⟨f, hf, he⟩
    obtain ⟨v, hv, rfl⟩ := Option.map_eq_some_iff.mp he
    exact ⟨f, hf, v, hv, rfl⟩
  · rintro ⟨f, hf, v, hv, rfl⟩
    exact ⟨f, hf, by rw [hv]; rfl⟩

theorem getText?_present_of_not_mem {name : String} (h : name ∉ facts.map Prod.fst) :
    (present facts).getText? name = none := by
  refine Option.map_eq_none_iff.mpr (List.find?_eq_none.mpr fun e he => ?_)
  obtain ⟨f, hf, v, _, rfl⟩ := mem_present_iff.mp he
  have other : f.1 ≠ name := by
    rintro rfl
    exact h (List.mem_map_of_mem hf)
  simpa [Value.sameKey] using other

/-- A bag of present facts has under a name what the fact of that name has. -/
theorem getText?_present (distinct : (facts.map Prod.fst).Nodup) (name : String) :
    (present facts).getText? name = (facts.lookup name).join := by
  induction facts with
  | nil => rfl
  | cons f facts ih =>
    obtain ⟨key, value⟩ := f
    obtain ⟨fresh, others⟩ := List.nodup_cons.mp distinct
    have ih := ih others
    by_cases h : name = key
    · subst h
      rw [List.lookup_cons, beq_self_eq_true]
      cases value with
      | none => exact (getText?_present_of_not_mem fresh : (present facts).getText? name = none)
      | some v => exact (Plain.getText?_cons name v (present facts) name).trans (if_pos rfl)
    · have apart : (name == key) = false := by simpa using h
      rw [List.lookup_cons, apart, ← ih]
      cases value with
      | none => rfl
      | some v =>
        exact (Plain.getText?_cons key v (present facts) name).trans (if_neg (Ne.symm h))

theorem nodup_present (distinct : (facts.map Prod.fst).Nodup) :
    ((present facts).map Prod.fst).Nodup := by
  induction facts with
  | nil => exact List.nodup_nil
  | cons f facts ih =>
    obtain ⟨key, value⟩ := f
    obtain ⟨fresh, others⟩ := List.nodup_cons.mp distinct
    cases value with
    | none => exact ih others
    | some v =>
      refine List.nodup_cons.mpr ⟨fun hmem => fresh ?_, ih others⟩
      obtain ⟨e, he, same⟩ := List.mem_map.mp hmem
      obtain ⟨g, hg, _, _, rfl⟩ := mem_present_iff.mp he
      exact List.mem_map.mpr ⟨g, hg, Value.text.inj same⟩

/-- A text that is given and has no braces. -/
def Given (s : Option String) : Prop := ∃ t, s = some t ∧ BraceFree t.toList

/-- A text without braces, if it is given at all. -/
def Clean (s : Option String) : Prop := ∀ t, s = some t → BraceFree t.toList

/-- A value that, if it is there, is a text without braces or one of these numbers. -/
def Tells (numbers : List Int) (value : Option Value) : Prop :=
  ∀ v, value = some v → (∃ t, v = .text t ∧ BraceFree t.toList) ∨ ∃ k ∈ numbers, v = .int k

theorem Given.clean {s : Option String} (h : Given s) : Clean s := by
  obtain ⟨t, rfl, plain⟩ := h
  rintro _ ⟨⟩
  exact plain

theorem Clean.tells {s : Option String} (h : Clean s) (numbers : List Int) :
    Tells numbers (text s) := by
  intro v hv
  obtain ⟨t, rfl, rfl⟩ := Option.map_eq_some_iff.mp hv
  exact .inl ⟨t, rfl, h t rfl⟩

theorem tells_some_text {t : String} (h : BraceFree t.toList) (numbers : List Int) :
    Tells numbers (some (.text t)) := by
  rintro _ ⟨⟩
  exact .inl ⟨t, rfl, h⟩

theorem tells_some_int {numbers : List Int} {k : Int} (h : k ∈ numbers) :
    Tells numbers (some (.int k)) := by
  rintro _ ⟨⟩
  exact .inr ⟨k, h, rfl⟩

/-! ## Writing values -/

theorem written_of_fillings? : ∀ {bag : Bag} {fillings : List (List Char × List Char)},
    fillings? bag = .ok fillings → ∀ e ∈ bag, ∃ s, e.2.written? = .ok s
  | [], _, _, e, he => by cases he
  | (key, v) :: rest, fillings, h, e, he => by
    rw [fillings?] at h
    cases hkey : key.text? with
    | error fault =>
      rw [hkey] at h
      cases h
    | ok name =>
      cases hv : v.written? with
      | error fault =>
        rw [hkey, hv] at h
        cases h
      | ok new =>
        cases hmore : fillings? rest with
        | error fault =>
          rw [hkey, hv, hmore] at h
          cases h
        | ok more =>
          rcases List.mem_cons.mp he with rfl | he
          · exact ⟨new, hv⟩
          · exact written_of_fillings? hmore e he

/-- A text is rendered only if every value of the bag can be written. -/
theorem written_of_render? {text out : String} {bag : Bag} (h : render? text bag = .ok out) :
    ∀ e ∈ bag, ∃ s, e.2.written? = .ok s := by
  unfold render? at h
  cases hfillings : fillings? bag with
  | error fault =>
    rw [hfillings] at h
    cases h
  | ok fillings => exact written_of_fillings? hfillings

theorem braceFree_intText (n : Int) : BraceFree (Value.intText n).toList := by
  have digits : ∀ {c : Char}, c ∈ (Nat.toDigits 10 n.natAbs) → c.isDigit = true :=
    fun hc => Nat.isDigit_of_mem_toDigits (by decide) (by decide) hc
  have letters : ∀ c ∈ (Value.intText n).toList, c = '-' ∨ c.isDigit = true := by
    intro c hc
    unfold Value.intText Value.natText at hc
    split at hc
    · rw [String.toList_append, List.mem_append] at hc
      rcases hc with hc | hc
      · exact .inl (by simpa using hc)
      · rw [String.toList_ofList] at hc
        exact .inr (digits hc)
    · rw [String.toList_ofList] at hc
      exact .inr (digits hc)
  constructor
  · intro h
    have := letters _ h
    revert this
    decide
  · intro h
    have := letters _ h
    revert this
    decide

theorem braceFree_lettersOf_int (n : Int) : BraceFree (lettersOf (.int n)) := by
  unfold lettersOf
  split
  · rename_i s hs
    have written : Value.intText? n = .ok s := hs
    unfold Value.intText? at written
    split at written
    · cases written
      exact braceFree_intText n
    · cases written
  · exact ⟨by simp, by simp⟩

theorem Tells.braceFree {numbers : List Int} {value : Option Value} (h : Tells numbers value) :
    ∀ v, value = some v → BraceFree (lettersOf v) := by
  intro v hv
  rcases h v hv with ⟨t, rfl, plain⟩ | ⟨k, _, rfl⟩
  · exact plain
  · exact braceFree_lettersOf_int k

theorem Tells.written {numbers : List Int} {value : Option Value} (h : Tells numbers value)
    (short : ∀ k ∈ numbers, k.natAbs < 10 ^ digitLimit) :
    ∀ v, value = some v → ∃ s, v.written? = .ok s := by
  intro v hv
  rcases h v hv with ⟨t, rfl, _⟩ | ⟨k, hk, rfl⟩
  · exact ⟨t, rfl⟩
  · have written : Value.intText? k = .ok (Value.intText k) := by
      rw [Value.intText?, Nat.pow_eq, if_pos (short k hk)]
    exact ⟨Value.intText k, written⟩

/-! ## Bags of facts -/

/-- Facts that are told by distinct words and put no brace into a text. -/
structure CleanFacts (facts : List (String × Option Value)) : Prop where
  words : ∀ f ∈ facts, f.1.toList.all isWordChar = true
  distinct : (facts.map Prod.fst).Nodup
  plain : ∀ f ∈ facts, ∀ v, f.2 = some v → BraceFree (lettersOf v)

namespace CleanFacts

theorem unmarked (h : CleanFacts facts) : Unmarked (present facts).getText? := by
  have apart : ∀ mark : Char, isWordChar mark = false → ∀ name : List Char,
      (present facts).getText? (String.ofList (mark :: name)) = none := by
    intro mark hmark name
    refine getText?_present_of_not_mem fun hmem => ?_
    obtain ⟨f, hf, he⟩ := List.mem_map.mp hmem
    have word := h.words f hf
    rw [he, String.toList_ofList, List.all_cons, hmark] at word
    cases word
  exact fun name => ⟨apart '#' (by decide) name, apart '/' (by decide) name⟩

/-- Clean facts make a plain bag if all of them can be written. -/
theorem plain_present (h : CleanFacts facts)
    (written : ∀ e ∈ present facts, ∃ s, e.2.written? = .ok s) : Template.Plain (present facts) where
  keys := by
    intro e he
    obtain ⟨f, hf, v, _, rfl⟩ := mem_present_iff.mp he
    exact ⟨f.1, rfl, braceFree_of_isWordChar (h.words f hf)⟩
  distinct := nodup_present h.distinct
  values := by
    intro e he
    obtain ⟨s, hs⟩ := written e he
    obtain ⟨f, hf, v, hv, rfl⟩ := mem_present_iff.mp he
    have plain := h.plain f hf v hv
    rw [lettersOf, hs] at plain
    exact ⟨s, hs, plain⟩

end CleanFacts

end Courier.Request

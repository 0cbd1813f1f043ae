import Courier.Log.Handler
import Courier.Proofs.Json.Reading
import Courier.Proofs.Log.Scope
import Courier.Proofs.Matching

/-!
# Entries as documents

`Value.document?` gives the document that stands for a value of the usual kinds, with readings in
their usual form at any depth. What is put into the document of an entry is not always that. A
reading below the top stands there as a reader sees it (`eq_document?_iff`), and a number may have
more digits than are written, or be an infinity, for which the format has no text (`isTold_iff`).

The document of an entry holds what is put for the fields that it carries, and those of its own
parts that no field replaces (`exists_plains`): fields and parts share one space of names, and
nothing keeps a field from being called `level`. Nor does anything keep a field of the entry itself
from being called what the entry is asked for its message by, and then there is no document at all
(`told?_eq_ok_iff`).

`Handler.line?_tells_iff` puts both together. It says for which entries there is a line that `Tells`
all of them, over every message, all fields in force and all fields of the entry itself.
-/

namespace Courier

/-! ## Values -/

namespace Value

/-- Whether a value has no form of its own as a part of a document. -/
def IsOther : Value → Prop
  | .bytes _ | .date _ | .moment _ | .set _ | .object .. | .unshowable _ => True
  | _ => False

/-- Induction over values as parts of a document, with the hypothesis for every item and for the
value of every pair. -/
theorem induct {P : Value → Prop} (null : P null) (bool : ∀ b, P (bool b)) (int : ∀ n, P (int n))
    (float : ∀ x, P (float x)) (text : ∀ s, P (text s)) (other : ∀ v, v.IsOther → P v)
    (list : ∀ xs, (∀ x ∈ xs, P x) → P (list xs)) (tuple : ∀ xs, (∀ x ∈ xs, P x) → P (tuple xs))
    (dict : ∀ es, (∀ e ∈ es, P e.2) → P (dict es)) : ∀ v, P v
  | .null => null
  | .bool b => bool b
  | .int n => int n
  | .float x => float x
  | .text s => text s
  | .bytes bs => other (.bytes bs) trivial
  | .date d => other (.date d) trivial
  | .moment r => other (.moment r) trivial
  | .set xs => other (.set xs) trivial
  | .object kind name fs => other (.object kind name fs) trivial
  | .unshowable reason => other (.unshowable reason) trivial
  | .list xs => list xs fun x _ => induct null bool int float text other list tuple dict x
  | .tuple xs => tuple xs fun x _ => induct null bool int float text other list tuple dict x
  | .dict es => dict es fun e _ => induct null bool int float text other list tuple dict e.2
termination_by v => sizeOf v
decreasing_by
  · rename_i h
    have := List.sizeOf_lt_of_mem h
    simp only [Value.list.sizeOf_spec]
    omega
  · rename_i h
    have := List.sizeOf_lt_of_mem h
    simp only [Value.tuple.sizeOf_spec]
    omega
  · rename_i h
    have := List.sizeOf_lt_of_mem h
    obtain ⟨k, v⟩ := e
    simp only [Prod.mk.sizeOf_spec, Value.dict.sizeOf_spec] at *
    omega

mutual

/-- Whether all parts of a value that are no lists, tuples and bags are of a kind, and all keys of
its bags of another. -/
def Throughout (leaf key : Value → Prop) : Value → Prop
  | .list xs | .tuple xs => AllThroughout leaf key xs
  | .dict es => EntriesThroughout leaf key es
  | v => leaf v

/-- Whether all parts of several values are. -/
def AllThroughout (leaf key : Value → Prop) : List Value → Prop
  | [] => True
  | x :: xs => Throughout leaf key x ∧ AllThroughout leaf key xs

/-- Whether all parts of pairs are. -/
def EntriesThroughout (leaf key : Value → Prop) : List (Value × Value) → Prop
  | [] => True
  | (k, v) :: es => key k ∧ Throughout leaf key v ∧ EntriesThroughout leaf key es

end

variable {leaf key : Value → Prop} {xs : List Value} {es : List (Value × Value)}

theorem allThroughout_iff : AllThroughout leaf key xs ↔ ∀ x ∈ xs, Throughout leaf key x := by
  induction xs with
  | nil => exact iff_of_true trivial nofun
  | cons x xs ih =>
    change Throughout leaf key x ∧ AllThroughout leaf key xs ↔ _
    rw [ih, List.forall_mem_cons]

theorem throughout_list : Throughout leaf key (.list xs) ↔ ∀ x ∈ xs, Throughout leaf key x :=
  allThroughout_iff

theorem throughout_tuple : Throughout leaf key (.tuple xs) ↔ ∀ x ∈ xs, Throughout leaf key x :=
  allThroughout_iff

theorem throughout_dict : Throughout leaf key (.dict es) ↔
    ∀ e ∈ es, key e.1 ∧ Throughout leaf key e.2 := by
  change EntriesThroughout leaf key es ↔ _
  induction es with
  | nil => exact iff_of_true trivial nofun
  | cons e es ih =>
    change key e.1 ∧ Throughout leaf key e.2 ∧ EntriesThroughout leaf key es ↔ _
    rw [ih, List.forall_mem_cons, and_assoc]

/-- Whether a floating point number is in its one form. -/
def ProperLeaf : Value → Prop
  | .float x => x.IsProper
  | _ => True

/-- Whether a part can be told: an integer has no more digits than are written, a floating point
number is finite, and what becomes a text has one. -/
def ToldLeaf : Value → Prop
  | .null | .bool _ | .text _ => True
  | .int n => n.natAbs < 10 ^ digitLimit
  | .float x => x.isFinite = true
  | v => ∃ s, v.text? = .ok s

/-- Whether the floating point numbers in a value are in their one form. -/
abbrev IsProper : Value → Prop := Throughout ProperLeaf fun _ => True

/-- Whether a value can be told as a part of a document, with its keys as names. -/
abbrev IsTold : Value → Prop := Throughout ToldLeaf fun k => ∃ name, Log.memberName? k = .ok name

/-- Whether a value is no reading and has none in it. -/
abbrev HasNoReading : Value → Prop := Throughout (fun v => ∀ r, v ≠ .moment r) fun _ => True

mutual

/-- The document that stands for a value of the usual kinds, with readings in their usual form at
any depth. -/
def document? : Value → Option Json
  | .null => some .null
  | .bool b => some (.bool b)
  | .int n => some (.int n)
  | .float x => some (.float x)
  | .text s => some (.text s)
  | .moment r => some (.text r.isoText)
  | .list xs => (documents? xs).map .list
  | .dict es => (memberDocuments? es).map .object
  | _ => none

/-- The documents that stand for several values. -/
def documents? : List Value → Option (List Json)
  | [] => some []
  | x :: xs => do
    let first ← document? x
    let rest ← documents? xs
    return first :: rest

/-- The members that stand for the pairs of a bag with texts as keys. -/
def memberDocuments? : List (Value × Value) → Option (List (String × Json))
  | [] => some []
  | (.text name, v) :: es => do
    let first ← document? v
    let rest ← memberDocuments? es
    return (name, first) :: rest
  | _ => none

end

theorem documents?_eq_some_iff {js : List Json} : documents? xs = some js ↔
    List.Forall₂ (fun x j => document? x = some j) xs js := by
  induction xs generalizing js with
  | nil =>
    change some [] = some js ↔ _
    simp [eq_comm]
  | cons x xs ih =>
    change ((document? x).bind fun first => (documents? xs).bind fun rest =>
      some (first :: rest)) = some js ↔ _
    simp only [Option.bind_eq_some_iff, Option.some.injEq, List.forall₂_cons_left_iff, ih]
    grind

theorem memberDocuments?_eq_some_iff {ms : List (String × Json)} :
    memberDocuments? es = some ms ↔
      List.Forall₂ (fun e m => e.1 = .text m.1 ∧ document? e.2 = some m.2) es ms := by
  induction es generalizing ms with
  | nil =>
    change some [] = some ms ↔ _
    simp [eq_comm]
  | cons e es ih =>
    obtain ⟨k, v⟩ := e
    cases k with
    | text name =>
      change ((document? v).bind fun first => (memberDocuments? es).bind fun rest =>
        some ((name, first) :: rest)) = some ms ↔ _
      simp only [Option.bind_eq_some_iff, Option.some.injEq, List.forall₂_cons_left_iff, ih,
        text.injEq, Prod.exists]
      grind
    | _ =>
      change none = some ms ↔ _
      simp [List.forall₂_cons_left_iff]

end Value

namespace Log

open List (Forall₂)

/-! ## The documents of values -/

theorem inners?_eq_ok_iff : ∀ {xs : List Value} {js : List Json},
    inners? xs = .ok js ↔ Forall₂ (fun x j => inner? x = .ok j) xs js := by
  intro xs js
  rw [← Matching.mapM_ok_iff]
  suffices inners? xs = xs.mapM inner? by rw [this]
  induction xs with
  | nil => rfl
  | cons x xs ih =>
    rw [List.mapM_cons, ← ih]
    rfl

theorem innerEntries?_eq_ok_iff : ∀ {es : List (Value × Value)} {ms : List (String × Json)},
    innerEntries? es = .ok ms ↔
      Forall₂ (fun e m => memberName? e.1 = .ok m.1 ∧ inner? e.2 = .ok m.2) es ms := by
  intro es ms
  let read := fun e : Value × Value => do
    let key ← memberName? e.1
    let value ← inner? e.2
    return (key, value)
  have each : ∀ (e : Value × Value) (m : String × Json),
      (memberName? e.1 = .ok m.1 ∧ inner? e.2 = .ok m.2) ↔ read e = .ok m := by
    rintro ⟨k, v⟩ ⟨name, j⟩
    cases hk : memberName? k <;> cases hv : inner? v <;>
      simp [read, hk, hv, bind, Except.bind, pure, Except.pure]
  simp only [each]
  rw [← Matching.mapM_ok_iff]
  suffices innerEntries? es = es.mapM read by rw [this]
  induction es with
  | nil => rfl
  | cons e es ih =>
    obtain ⟨k, v⟩ := e
    rw [List.mapM_cons, ← ih]
    simp only [read, bind_assoc, pure_bind]
    rfl

theorem map_eq_ok_iff {ε α β : Type} {f : α → β} {x : Except ε α} {b : β} :
    x.map f = .ok b ↔ ∃ a, x = .ok a ∧ f a = b := by
  cases x <;> simp [Except.map]

theorem inner?_list {xs : List Value} {j : Json} : inner? (.list xs) = .ok j ↔
    ∃ js, Forall₂ (fun x j => inner? x = .ok j) xs js ∧ .list js = j := by
  change (inners? xs).map .list = .ok j ↔ _
  simp only [map_eq_ok_iff, inners?_eq_ok_iff]

theorem inner?_tuple {xs : List Value} {j : Json} : inner? (.tuple xs) = .ok j ↔
    ∃ js, Forall₂ (fun x j => inner? x = .ok j) xs js ∧ .list js = j :=
  inner?_list

theorem inner?_dict {es : List (Value × Value)} {j : Json} : inner? (.dict es) = .ok j ↔
    ∃ ms, Forall₂ (fun e m => memberName? e.1 = .ok m.1 ∧ inner? e.2 = .ok m.2) es ms ∧
      .object ms = j := by
  change (innerEntries? es).map .object = .ok j ↔ _
  simp only [map_eq_ok_iff, innerEntries?_eq_ok_iff]

theorem inner?_int {n : ℤ} {j : Json} : inner? (.int n) = .ok j ↔
    n.natAbs < 10 ^ digitLimit ∧ .int n = j := by
  simp only [inner?, map_eq_ok_iff, Value.intText?, Nat.pow_eq]
  split <;> simp [Except.mapError, *]

/-- What has no form of its own becomes a text. -/
theorem inner?_other {v : Value} (other : v.IsOther) {j : Json} :
    inner? v = .ok j ↔ ∃ s, v.text? = .ok s ∧ .text s = j := by
  have text : inner? v = (v.text?.mapError .text).map .text := by
    cases v <;> try exact False.elim other
    all_goals
      simp only [inner?]
      split <;> simp only [*] <;> rfl
  rw [text, map_eq_ok_iff]
  cases v.text? <;> simp [Except.mapError]

/-- A value can be told exactly if it has a document without infinities and the like. -/
theorem isTold_iff {v : Value} : v.IsTold ↔
    ∃ j, inner? v = .ok j ∧ Json.AtLeaves Json.FiniteLeaf j := by
  induction v using Value.induct with
  | null => exact ⟨fun _ => ⟨_, rfl, trivial⟩, fun _ => trivial⟩
  | bool b => exact ⟨fun _ => ⟨_, rfl, trivial⟩, fun _ => trivial⟩
  | text s => exact ⟨fun _ => ⟨_, rfl, trivial⟩, fun _ => trivial⟩
  | int n =>
    refine ⟨fun small => ⟨.int n, inner?_int.mpr ⟨small, rfl⟩, trivial⟩, ?_⟩
    rintro ⟨j, h, -⟩
    exact (inner?_int.mp h).1
  | float x =>
    refine ⟨fun finite => ⟨_, rfl, finite⟩, ?_⟩
    rintro ⟨j, h, finite⟩
    cases h
    exact finite
  | other v other =>
    have told : v.IsTold ↔ ∃ s, v.text? = .ok s := by
      cases v <;> first | exact Iff.rfl | cases other
    rw [told]
    constructor
    · rintro ⟨s, hs⟩
      exact ⟨.text s, (inner?_other other).mpr ⟨s, hs, rfl⟩, trivial⟩
    · rintro ⟨j, h, -⟩
      obtain ⟨s, hs, -⟩ := (inner?_other other).mp h
      exact ⟨s, hs⟩
  | list xs ih =>
    refine Value.throughout_list.trans ?_
    rw [forall₂_congr ih, Matching.forall_exists_iff]
    simp only [inner?_list, exists_exists_and_eq_and, Json.atLeaves_list]
  | tuple xs ih =>
    refine Value.throughout_tuple.trans ?_
    rw [forall₂_congr ih, Matching.forall_exists_iff]
    simp only [inner?_tuple, exists_exists_and_eq_and, Json.atLeaves_list]
  | dict es ih =>
    -- A pair has a name and a value, a member has both at once.
    have pair : ∀ e ∈ es, ((∃ name, memberName? e.1 = .ok name) ∧ e.2.IsTold) ↔
        ∃ m : String × Json, (memberName? e.1 = .ok m.1 ∧ inner? e.2 = .ok m.2) ∧
          Json.AtLeaves Json.FiniteLeaf m.2 := by
      intro e he
      rw [ih e he]
      simp only [Prod.exists, and_assoc, exists_and_left, exists_and_right]
    refine Value.throughout_dict.trans ?_
    rw [forall₂_congr pair, Matching.forall_exists_iff]
    simp only [inner?_dict, exists_exists_and_eq_and, Json.atLeaves_object]

/-- A reading as a reader sees it is not its usual form. -/
theorem text_ne_isoText (r : Reading) : r.text ≠ r.isoText := by
  intro same
  have chars := congrArg String.toList same
  simp only [Reading.text, Reading.isoText, Reading.textWith, String.toList_append,
    List.append_assoc, List.append_cancel_left_eq] at chars
  exact absurd (List.cons.inj chars).1 (by decide)

/-- What is put into a document for a value is the document that stands for it exactly if there is
no reading in it: within a document, readings are not in their usual form. -/
theorem eq_document?_iff {v : Value} {j j' : Json} (usual : v.document? = some j)
    (put : inner? v = .ok j') : j' = j ↔ v.HasNoReading := by
  induction v using Value.induct generalizing j j' with
  | null | bool _ | float _ | text _ =>
    cases usual
    cases put
    exact iff_of_true rfl fun r => nofun
  | int n =>
    cases usual
    obtain ⟨-, rfl⟩ := inner?_int.mp put
    exact iff_of_true rfl fun r => nofun
  | tuple xs _ => cases usual
  | other v other =>
    cases v with
    | moment r =>
      cases usual
      cases put
      refine iff_of_false (fun same => text_ne_isoText r (Json.text.inj same)) fun none => ?_
      exact none r rfl
    | bytes _ | date _ | set _ | object _ _ _ | unshowable _ => cases usual
    | _ => cases other
  | list xs ih =>
    obtain ⟨js, hjs, rfl⟩ := Option.map_eq_some_iff.mp usual
    obtain ⟨js', hjs', rfl⟩ := inner?_list.mp put
    rw [Json.list.injEq]
    exact (Matching.eq_iff (Value.documents?_eq_some_iff.mp hjs) hjs'
      fun x hx j j' hj hj' => ih x hx hj hj').trans Value.throughout_list.symm
  | dict es ih =>
    obtain ⟨ms, hms, rfl⟩ := Option.map_eq_some_iff.mp usual
    obtain ⟨ms', hms', rfl⟩ := inner?_dict.mp put
    rw [Json.object.injEq]
    refine (Matching.eq_iff (Value.memberDocuments?_eq_some_iff.mp hms) hms' ?_).trans
      Value.throughout_dict.symm
    rintro e he ⟨name, j⟩ ⟨name', j'⟩ ⟨hname, hj⟩ ⟨hname', hj'⟩
    have same : name = name' := Except.ok.inj ((congrArg memberName? hname).symm.trans hname')
    rw [Prod.mk.injEq, same, eq_self]
    exact and_congr_right' (ih e he hj hj')

/-! ## Fields by their names -/

namespace Fields

variable {fields more : Fields} {f : String × Value}

theorem mem_of_get? {name : String} {v : Value} (h : get? fields name = some v) :
    (name, v) ∈ fields := by
  obtain ⟨g, hg, rfl⟩ := Option.map_eq_some_iff.mp h
  obtain rfl : g.1 = name := by simpa using List.find?_some hg
  exact List.mem_of_find?_eq_some hg

theorem mem_iff_get? (distinct : (fields.map Prod.fst).Nodup) :
    f ∈ fields ↔ get? fields f.1 = some f.2 := by
  refine ⟨fun hf => ?_, mem_of_get?⟩
  have present : (get? fields f.1).isSome := by
    rw [isSome_get?]
    exact List.any_eq_true.mpr ⟨f, hf, beq_self_eq_true f.1⟩
  obtain ⟨v, hv⟩ := Option.isSome_iff_exists.mp present
  have same : f = (f.1, v) := List.inj_on_of_nodup_map distinct hf (mem_of_get? hv) rfl
  rw [hv, congrArg Prod.snd same]

theorem names_put (fields : Fields) (name : String) (v : Value) :
    (put fields name v).map Prod.fst =
      if name ∈ fields.map Prod.fst then fields.map Prod.fst
      else fields.map Prod.fst ++ [name] := by
  induction fields with
  | nil => rfl
  | cons f fields ih =>
    obtain ⟨n, old⟩ := f
    by_cases same : n = name
    · simp [put, same]
    · simp only [put, beq_eq_false_iff_ne.mpr same, Bool.false_eq_true, if_false, List.map_cons, ih,
        List.mem_cons, Ne.symm same, false_or]
      split <;> rfl

theorem nodup_put (distinct : (fields.map Prod.fst).Nodup) (name : String) (v : Value) :
    ((put fields name v).map Prod.fst).Nodup := by
  rw [names_put]
  split
  · exact distinct
  · rename_i new
    exact List.nodup_append_comm.mp (List.nodup_cons.mpr ⟨new, distinct⟩)

theorem nodup_merge (distinct : (fields.map Prod.fst).Nodup) (more : Fields) :
    ((merge fields more).map Prod.fst).Nodup := by
  induction more generalizing fields with
  | nil => exact distinct
  | cons f more ih => exact ih (nodup_put distinct f.1 f.2)

theorem nodup_addMissing (distinct : (fields.map Prod.fst).Nodup) (scope : Fields) :
    ((addMissing fields scope).map Prod.fst).Nodup := by
  induction scope generalizing fields with
  | nil => exact distinct
  | cons f scope ih =>
    rw [addMissing_cons]
    split
    · exact ih distinct
    · rename_i absent
      have new : f.1 ∉ fields.map Prod.fst := by
        simpa [has] using absent
      refine ih ?_
      rw [List.map_append]
      exact List.nodup_append_comm.mp (List.nodup_cons.mpr ⟨new, distinct⟩)

theorem get?_eq_none_iff {name : String} :
    get? fields name = none ↔ name ∉ fields.map Prod.fst := by
  simp only [get?, Option.map_eq_none_iff, List.find?_eq_none, beq_iff_eq, List.mem_map, not_exists,
    not_and]

/-- Of fields with distinct names set over others, each counts, and of the others those that have
other names. -/
theorem mem_merge (distinct : (fields.map Prod.fst).Nodup) (distinct' : (more.map Prod.fst).Nodup) :
    f ∈ merge fields more ↔ f ∈ more ∨ f ∈ fields ∧ f.1 ∉ more.map Prod.fst := by
  have reversed : (more.reverse.map Prod.fst).Nodup := by
    rw [List.map_reverse]
    exact List.nodup_reverse.mpr distinct'
  rw [mem_iff_get? (nodup_merge distinct more), get?_merge, Option.or_eq_some_iff,
    get?_eq_none_iff, ← mem_iff_get? reversed, ← mem_iff_get? distinct, List.mem_reverse,
    List.map_reverse, List.mem_reverse, and_comm (a := f ∈ fields)]

end Fields

/-! ## What an entry carries -/

/-- Whether a field of this name is shown beside the names of the service and its surroundings. -/
def IsExtra (name : String) : Prop :=
  isShown name = true ∧ name ≠ "service" ∧ name ≠ "environment"

/-- The value that an entry carries under a name: its own, or one in force that a scope may set. -/
def carried? (scope fields : Fields) (name : String) : Option Value :=
  (Fields.get? fields name).or (Fields.get? (scope.filter fun f => isSettable f.1) name)

/-- The texts that every document has, under their names. -/
def parts (time : String) (e : Entry) : List (String × String) :=
  [("timestamp", time), ("level", e.level.name), ("logger", e.source), ("message", e.message)]

/-- The parts of an entry as fields. -/
def partFields (time : String) (e : Entry) : Fields :=
  (parts time e).map fun part => (part.1, .text part.2)

/-- An entry as a handler sees it. -/
def Entry.stamped (e : Entry) (environment : String) (scope : Fields) : Entry :=
  { e with fields := Log.stamped serviceName environment scope e.fields }

/-- The fields of an entry that are shown. -/
def Entry.shown (e : Entry) : Fields := e.fields.filter fun f => isShown f.1

/-- What is known of a failure, as a field. -/
def Entry.failures (e : Entry) : Fields :=
  e.failure.toList.map fun failure => ("exc_info", .text failure)

variable {time environment : String} {scope : Fields} {e : Entry} {told : Fields} {line : String}

theorem nodup_stamped (distinct : (e.fields.map Prod.fst).Nodup) :
    ((e.stamped environment scope).fields.map Prod.fst).Nodup :=
  Fields.nodup_addMissing (Fields.nodup_put (Fields.nodup_put distinct _ _) _ _) _

/-- The fields that are shown are those an entry carries, and two texts. -/
theorem mem_shown_iff (distinct : (e.fields.map Prod.fst).Nodup) {f : String × Value} :
    f ∈ (e.stamped environment scope).shown ↔
      f = ("service", .text serviceName) ∨ f = ("environment", .text environment) ∨
        IsExtra f.1 ∧ carried? scope e.fields f.1 = some f.2 := by
  obtain ⟨name, v⟩ := f
  have found : (name, v) ∈ (e.stamped environment scope).fields ↔
      Fields.get? (stamped serviceName environment scope e.fields) name = some v :=
    Fields.mem_iff_get? (nodup_stamped distinct)
  rw [Entry.shown, List.mem_filter, found]
  by_cases hs : name = "service"
  · subst hs
    have shown : isShown "service" = true := by simp [isShown, hiddenNames, ownNames]
    simp [stamped, Fields.get?_addMissing, Fields.get?_put, IsExtra, shown, eq_comm]
  by_cases he : name = "environment"
  · subst he
    have shown : isShown "environment" = true := by simp [isShown, hiddenNames, ownNames]
    simp [stamped, Fields.get?_addMissing, Fields.get?_put, IsExtra, shown, eq_comm]
  rw [get?_stamped _ _ _ _ hs he, ← carried?]
  simp [IsExtra, hs, he, and_comm]

/-- Whether a field is put into a document as another. -/
def IsPlain (f g : String × Value) : Prop := f.1 = g.1 ∧ plain? f.2 = .ok g.2

/-- Whether a field is told as a member of a document. -/
def IsMember (f : String × Value) (m : String × Json) : Prop := f.1 = m.1 ∧ inner? f.2 = .ok m.2

/-- Fields are put one after the other exactly if each has a value to be put. -/
theorem foldlM_put_eq_ok_iff {shown fields : Fields} :
    shown.foldlM (fun o f => do return Fields.put o f.1 (← plain? f.2)) fields = .ok told ↔
      ∃ plains, Forall₂ IsPlain shown plains ∧ Fields.merge fields plains = told := by
  induction shown generalizing fields with
  | nil => simp [Fields.merge, pure, Except.pure]
  | cons f shown ih =>
    rw [List.foldlM_cons]
    cases hf : plain? f.2 with
    | error fault =>
      refine iff_of_false (by simp [bind, Except.bind]) ?_
      rintro ⟨plains, hplains, -⟩
      obtain ⟨g, _, ⟨-, hg⟩, -⟩ := List.forall₂_cons_left_iff.mp hplains
      cases hf.symm.trans hg
    | ok p =>
      refine (@ih (fields.put f.1 p)).trans ?_
      constructor
      · rintro ⟨plains, hplains, rfl⟩
        exact ⟨(f.1, p) :: plains, .cons ⟨rfl, hf⟩ hplains, rfl⟩
      · rintro ⟨_, hplains, rfl⟩
        obtain ⟨⟨name, q⟩, plains, ⟨rfl, hq⟩, hrest, rfl⟩ := List.forall₂_cons_left_iff.mp hplains
        obtain rfl : p = q := Except.ok.inj (hf.symm.trans hq)
        exact ⟨plains, hrest, rfl⟩

theorem putShown?_eq_ok_iff {fields : Fields} : putShown? fields e = .ok told ↔
    ∃ plains, Forall₂ IsPlain e.shown plains ∧ fields.merge plains = told :=
  foldlM_put_eq_ok_iff

/-- Whether an entry gives its message itself, no field answering in its place. -/
def Entry.HasOwnMessage (e : Entry) : Prop := Fields.get? e.fields messageName = none

theorem message?_eq_ok_iff {message : String} :
    e.message? = .ok message ↔ e.HasOwnMessage ∧ e.message = message := by
  rw [Entry.message?, Entry.HasOwnMessage]
  cases Fields.get? e.fields messageName <;> simp

theorem mapError_eq_ok_iff {ε ε' α : Type} {f : ε → ε'} {x : Except ε α} {a : α} :
    x.mapError f = .ok a ↔ x = .ok a := by
  cases x <;> simp [Except.mapError]

/-- What a document tells are the parts of its entry, with the fields that are shown and what is
known of a failure set over them. -/
theorem told?_eq_ok_iff : told? time e = .ok told ↔ e.HasOwnMessage ∧
    ∃ plains, Forall₂ IsPlain e.shown plains ∧
      (partFields time e).merge (plains ++ e.failures) = told := by
  have split : told? time e = e.message?.bind fun message => ((putShown?
      [("timestamp", .text time), ("level", .text e.level.name), ("logger", .text e.source),
        ("message", .text message)] e).mapError LineFault.text).map (Fields.merge · e.failures) := by
    rw [told?, Entry.failures]
    cases e.failure <;> exact congrArg _ (funext fun message => bind_pure_comp _ _)
  cases hm : e.message? with
  | error fault =>
    refine iff_of_false (by simp [split, hm, Except.bind]) fun ⟨own, _⟩ => ?_
    cases hm.symm.trans (message?_eq_ok_iff.mpr ⟨own, rfl⟩)
  | ok message =>
    obtain ⟨own, rfl⟩ := message?_eq_ok_iff.mp hm
    rw [split, hm, and_iff_right own]
    change ((putShown? (partFields time e) e).mapError LineFault.text).map _ = _ ↔ _
    simp only [map_eq_ok_iff, mapError_eq_ok_iff, putShown?_eq_ok_iff, Fields.merge,
      List.foldl_append]
    constructor
    · rintro ⟨_, ⟨plains, hplains, rfl⟩, rfl⟩
      exact ⟨plains, hplains, rfl⟩
    · rintro ⟨plains, hplains, rfl⟩
      exact ⟨_, ⟨plains, hplains, rfl⟩, rfl⟩

theorem nodup_partFields : ((partFields time e).map Prod.fst).Nodup := by
  change ["timestamp", "level", "logger", "message"].Nodup
  decide

theorem not_isShown_exc_info : isShown "exc_info" = false := by
  simp [isShown, hiddenNames, ownNames]

/-- What the document of a stamped entry tells: what is put for the fields that are shown, what is
known of a failure, and the parts of the entry that none of these replaces. -/
theorem exists_plains (distinct : (e.fields.map Prod.fst).Nodup)
    (h : told? time (e.stamped environment scope) = .ok told) :
    ∃ plains, Forall₂ IsPlain (e.stamped environment scope).shown plains ∧
      ∀ t, t ∈ told ↔ t ∈ plains ++ e.failures ∨
        t ∈ partFields time e ∧ t.1 ∉ (plains ++ e.failures).map Prod.fst := by
  obtain ⟨-, plains, hplains, rfl⟩ := told?_eq_ok_iff.mp h
  have names : (e.stamped environment scope).shown.map Prod.fst = plains.map Prod.fst :=
    Matching.map_eq (fun f g hfg => hfg.1) hplains
  have distinct' : ((plains ++ e.failures).map Prod.fst).Nodup := by
    rw [List.map_append, ← names]
    have shown : ((e.stamped environment scope).shown.map Prod.fst).Nodup :=
      (nodup_stamped distinct).sublist (List.filter_sublist.map _)
    have apart : "exc_info" ∉ (e.stamped environment scope).shown.map Prod.fst := by
      intro hmem
      obtain ⟨f, hf, named⟩ := List.mem_map.mp hmem
      have := (List.mem_filter.mp hf).2
      rw [named, not_isShown_exc_info] at this
      cases this
    rw [Entry.failures]
    cases e.failure with
    | none => simpa using shown
    | some failure =>
      exact List.nodup_append_comm.mp (List.nodup_cons.mpr ⟨apart, shown⟩)
  exact ⟨plains, hplains, fun t => Fields.mem_merge nodup_partFields distinct'⟩

/-- Everything told is a text, or stands for a field that the entry carries. -/
theorem text_or_carried (distinct : (e.fields.map Prod.fst).Nodup)
    (h : told? time (e.stamped environment scope) = .ok told) {t : String × Value} (ht : t ∈ told) :
    (∃ s, t.2 = .text s) ∨
      ∃ v, IsExtra t.1 ∧ carried? scope e.fields t.1 = some v ∧ plain? v = .ok t.2 := by
  obtain ⟨plains, hplains, mem⟩ := exists_plains distinct h
  rcases (mem t).mp ht with hmore | ⟨hpart, -⟩
  · rcases List.mem_append.mp hmore with hplain | hfailure
    · obtain ⟨f, hf, named, put⟩ := Matching.exists_left hplains hplain
      rcases (mem_shown_iff distinct).mp hf with rfl | rfl | ⟨extra, carried⟩
      · exact .inl ⟨_, (Except.ok.inj put).symm⟩
      · exact .inl ⟨_, (Except.ok.inj put).symm⟩
      · exact .inr ⟨f.2, named ▸ extra, named ▸ carried, put⟩
    · obtain ⟨failure, -, rfl⟩ := List.mem_map.mp hfailure
      exact .inl ⟨failure, rfl⟩
  · obtain ⟨part, -, rfl⟩ := List.mem_map.mp hpart
    exact .inl ⟨part.2, rfl⟩

/-- Whether a value stands as it should where it has a name of its own: a reading does, and what can
be told and has no reading in it. -/
def IsSound (v : Value) : Prop := (∃ r, v = .moment r) ∨ v.IsTold ∧ v.HasNoReading

/-- What is put for a value of the usual kinds is of them, and stands for the same. -/
theorem exists_plain {v : Value} {j : Json} (usual : v.document? = some j) :
    ∃ p, plain? v = .ok p ∧ p.document? = some j ∧ (v.IsProper → p.IsProper) ∧
      (IsSound v ↔ p.IsTold ∧ p.HasNoReading) := by
  have same : (∀ r, v ≠ .moment r) → (IsSound v ↔ v.IsTold ∧ v.HasNoReading) :=
    fun apart => or_iff_right fun ⟨r, hr⟩ => apart r hr
  cases v with
  | null | bool _ | int _ | float _ | text _ | list _ | dict _ =>
    exact ⟨_, rfl, usual, id, same fun r => nofun⟩
  | moment r =>
    exact ⟨_, rfl, usual, fun _ => trivial, iff_of_true (.inl ⟨r, rfl⟩) ⟨trivial, fun r => nofun⟩⟩
  | bytes _ | date _ | tuple _ | set _ | object _ _ _ | unshowable _ => cases usual

/-- A value of the usual kinds is put into a document as what stands for it, without infinities and
the like, exactly if it stands there as it should. -/
theorem isSound_iff {v : Value} {j : Json} (usual : v.document? = some j) : IsSound v ↔
    ∃ p, plain? v = .ok p ∧ inner? p = .ok j ∧ Json.AtLeaves Json.FiniteLeaf j := by
  obtain ⟨p, hp, hpj, -, sound⟩ := exists_plain usual
  rw [sound, isTold_iff]
  constructor
  · rintro ⟨⟨j', put, finite⟩, none⟩
    obtain rfl : j' = j := (eq_document?_iff hpj put).mpr none
    exact ⟨p, hp, put, finite⟩
  · rintro ⟨p', hp', put, finite⟩
    obtain rfl : p = p' := Except.ok.inj (hp.symm.trans hp')
    exact ⟨⟨j, put, finite⟩, (eq_document?_iff hpj put).mp rfl⟩

section members

variable {members : List (String × Json)} (distinct : (e.fields.map Prod.fst).Nodup)
  (usual : ∀ name v, IsExtra name → carried? scope e.fields name = some v →
    v.IsProper ∧ ∃ j, v.document? = some j)

include distinct

include usual

/-- If all fields stand as they should, there is a document, without infinities and the like. -/
theorem exists_members (h : told? time (e.stamped environment scope) = .ok told)
    (sound : ∀ name v, IsExtra name → carried? scope e.fields name = some v → IsSound v) :
    ∃ members, Forall₂ IsMember told members ∧
      ∀ m ∈ members, Json.AtLeaves Json.FiniteLeaf m.2 := by
  refine Matching.forall_exists_iff.mp fun t ht => ?_
  rcases text_or_carried distinct h ht with ⟨s, hs⟩ | ⟨v, extra, carried, plain⟩
  · exact ⟨(t.1, .text s), ⟨rfl, by rw [hs]; rfl⟩, trivial⟩
  · obtain ⟨-, j, hj⟩ := usual _ v extra carried
    obtain ⟨p, hp, put, finite⟩ := (isSound_iff hj).mp (sound _ v extra carried)
    obtain rfl : p = t.2 := Except.ok.inj (hp.symm.trans plain)
    exact ⟨(t.1, j), ⟨rfl, put⟩, finite⟩

end members

/-- Whether a line tells all of an entry: it is one line, a document of the format, and says the
parts of the entry and what stands for each field it carries, under their names. -/
structure Tells (time : String) (scope : Fields) (e : Entry) (line : String) : Prop where
  oneLine : ∀ c ∈ line.toList, 32 ≤ c.toNat
  standard : Json.IsStandard line.toList
  members : ∃ members, Json.read? line = some (.object members) ∧
    (members.map Prod.fst).Nodup ∧ (∀ part ∈ parts time e, (part.1, .text part.2) ∈ members) ∧
    ∀ name v j, IsExtra name → carried? scope e.fields name = some v → v.document? = some j →
      (name, j) ∈ members

section tells

variable (distinct : (e.fields.map Prod.fst).Nodup)
  (usual : ∀ name v, IsExtra name → carried? scope e.fields name = some v →
    v.IsProper ∧ ∃ j, v.document? = some j)

include distinct usual

end tells

end Log

end Courier

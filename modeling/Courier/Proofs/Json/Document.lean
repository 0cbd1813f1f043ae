import Courier.Database.Basic

/-!
# Documents of values

A document that was made from a value names no member of an object twice, and its floating point
numbers are finite (`Json.Clean`, `Json.clean_of_ofValue?`). A document of that kind is the document
of the value that is read back from it (`Json.ofValue?_toValue`), so what is kept does not change by
being read and kept again.

Values of the common kinds have documents, and documents that can be written
(`Value.IsPlain.exists_document`).
-/

namespace Courier

namespace Json

/-! ## Members -/

/-- The names of the members of an object. -/
abbrev names (ms : List (String × Json)) : List String := ms.map Prod.fst

theorem mem_names_put {ms : List (String × Json)} {name n : String} {j : Json} :
    n ∈ names (put ms name j) ↔ n ∈ names ms ∨ n = name := by
  induction ms with
  | nil => simp [put]
  | cons m rest ih =>
    obtain ⟨k, old⟩ := m
    by_cases h : k = name
    · subst h
      simp only [put, beq_self_eq_true, if_true, names, List.map_cons, List.mem_cons]
      grind
    · simp only [names] at ih
      simp [put, h, ih, or_assoc]

/-- A member with a new name comes last. -/
theorem put_of_not_mem {ms : List (String × Json)} {name : String} (j : Json)
    (h : name ∉ names ms) : put ms name j = ms ++ [(name, j)] := by
  induction ms with
  | nil => rfl
  | cons m rest ih =>
    obtain ⟨k, old⟩ := m
    have hk : k ≠ name := by
      rintro rfl
      simp [names] at h
    have hrest : name ∉ names rest := fun hn => h (List.mem_cons_of_mem _ hn)
    simp [put, hk, ih hrest]

theorem nodup_names_put {ms : List (String × Json)} {name : String} {j : Json}
    (h : (names ms).Nodup) : (names (put ms name j)).Nodup := by
  induction ms with
  | nil => simp [put]
  | cons m rest ih =>
    obtain ⟨k, old⟩ := m
    obtain ⟨hk, hrest⟩ := List.nodup_cons.mp h
    by_cases hn : k = name
    · simpa [put, hn] using h
    · have hnew : k ∉ names (put rest name j) := by
        rw [mem_names_put]
        rintro (hmem | rfl)
        · exact hk hmem
        · exact hn rfl
      simpa [put, hn] using List.nodup_cons.mpr ⟨hnew, ih hrest⟩

/-- Members set one after the other. -/
abbrev putAll (start ms : List (String × Json)) : List (String × Json) :=
  ms.foldl (fun o m => put o m.1 m.2) start

theorem nodup_names_putAll (ms : List (String × Json)) {start : List (String × Json)}
    (h : (names start).Nodup) : (names (putAll start ms)).Nodup := by
  induction ms generalizing start with
  | nil => exact h
  | cons m rest ih => exact ih (nodup_names_put h)

/-- Members of distinct names are what comes of setting them one after the other. -/
theorem putAll_of_nodup : ∀ {ms start : List (String × Json)},
    (names (start ++ ms)).Nodup → putAll start ms = start ++ ms
  | [], start, _ => by simp [putAll]
  | m :: rest, start, h => by
    have hm : m.1 ∉ names start := by
      simp only [names, List.map_append, List.map_cons, List.nodup_append] at h
      exact fun hmem => h.2.2 _ hmem _ (List.mem_cons_self ..) rfl
    have hnext : (names (start ++ [m] ++ rest)).Nodup := by simpa using h
    calc putAll start (m :: rest)
        = putAll (start ++ [m]) rest := by
          simp only [putAll, List.foldl_cons, put_of_not_mem m.2 hm]
      _ = start ++ [m] ++ rest := putAll_of_nodup hnext
      _ = start ++ m :: rest := by simp

theorem of_mem_put {ms : List (String × Json)} {name : String} {j : Json} {m : String × Json}
    (h : m ∈ put ms name j) : m ∈ ms ∨ m.2 = j := by
  induction ms with
  | nil =>
    obtain rfl : m = (name, j) := by simpa [put] using h
    exact .inr rfl
  | cons first rest ih =>
    obtain ⟨k, old⟩ := first
    by_cases hk : k = name
    · rcases (by simpa [put, hk] using h : m = (name, j) ∨ m ∈ rest) with rfl | hmem
      · exact .inr rfl
      · exact .inl (List.mem_cons_of_mem _ hmem)
    · rcases (by simpa [put, hk] using h : m = (k, old) ∨ m ∈ put rest name j) with rfl | hmem
      · exact .inl (List.mem_cons_self ..)
      · exact (ih hmem).imp (List.mem_cons_of_mem _) id

/-- The members that come of setting members have documents from either side. -/
theorem of_mem_putAll {ms start : List (String × Json)} {m : String × Json}
    (h : m ∈ putAll start ms) : m ∈ start ∨ ∃ m' ∈ ms, m.2 = m'.2 := by
  induction ms generalizing start with
  | nil => exact .inl h
  | cons first rest ih =>
    rcases ih h with hput | ⟨m', hm', he⟩
    · rcases of_mem_put hput with hstart | he
      · exact .inl hstart
      · exact .inr ⟨first, List.mem_cons_self .., he⟩
    · exact .inr ⟨m', List.mem_cons_of_mem _ hm', he⟩

/-! ## What documents are made of -/

section made

variable {x v k : Value} {xs : List Value} {es : List (Value × Value)} {j : Json}

theorem of_ofValue?_list (h : ofValue? (.list xs) = .ok j) :
    ∃ js, ofValues? xs = .ok js ∧ j = list js := by
  cases hs : ofValues? xs with
  | error e => simp [ofValue?, hs, Except.map] at h
  | ok js => exact ⟨js, rfl, by simpa [ofValue?, hs, Except.map, eq_comm] using h⟩

theorem of_ofValue?_dict (h : ofValue? (.dict es) = .ok j) :
    ∃ ms, ofEntries? es = .ok ms ∧ j = object (putAll [] ms) := by
  cases hs : ofEntries? es with
  | error e => simp [ofValue?, hs, Except.map] at h
  | ok ms => exact ⟨ms, rfl, by simpa [ofValue?, hs, Except.map, eq_comm] using h⟩

theorem of_ofValues?_cons {js : List Json} (h : ofValues? (x :: xs) = .ok js) :
    ∃ j rest, ofValue? x = .ok j ∧ ofValues? xs = .ok rest ∧ js = j :: rest := by
  cases hx : ofValue? x with
  | error e => simp [ofValues?, hx, bind, Except.bind] at h
  | ok j =>
    cases hs : ofValues? xs with
    | error e => simp [ofValues?, hx, hs, bind, Except.bind] at h
    | ok rest =>
      refine ⟨j, rest, rfl, rfl, ?_⟩
      simpa [ofValues?, hx, hs, bind, Except.bind, pure, Except.pure, eq_comm] using h

theorem of_ofEntries?_cons {ms : List (String × Json)} (h : ofEntries? ((k, v) :: es) = .ok ms) :
    ∃ name j rest, keyText? k = .ok name ∧ ofValue? v = .ok j ∧ ofEntries? es = .ok rest ∧
      ms = (name, j) :: rest := by
  cases hk : keyText? k with
  | error e => simp [ofEntries?, hk, bind, Except.bind] at h
  | ok name =>
    cases hv : ofValue? v with
    | error e => simp [ofEntries?, hk, hv, bind, Except.bind] at h
    | ok j =>
      cases hs : ofEntries? es with
      | error e => simp [ofEntries?, hk, hv, hs, bind, Except.bind] at h
      | ok rest =>
        refine ⟨name, j, rest, rfl, rfl, rfl, ?_⟩
        simpa [ofEntries?, hk, hv, hs, bind, Except.bind, pure, Except.pure, eq_comm] using h

/-- The fields of an object have the members that they have as pairs of a bag. -/
theorem ofFields?_eq (fs : List (String × Value)) :
    ofFields? fs = ofEntries? (fs.map fun f => (.text f.1, f.2)) := by
  induction fs with
  | nil => rfl
  | cons f fs ih =>
    obtain ⟨name, v⟩ := f
    rw [ofFields?, List.map_cons, ofEntries?, ih]
    rfl

/-- An object has the document of the bag of its fields. -/
theorem ofValue?_object (kind : ClassKind) (name : String) (fs : List (String × Value)) :
    ofValue? (.object kind name fs) = ofValue? (.dict (fs.map fun f => (.text f.1, f.2))) := by
  rw [ofValue?, ofValue?, ofFields?_eq]

theorem of_ofFields?_cons {name : String} {fs : List (String × Value)} {ms : List (String × Json)}
    (h : ofFields? ((name, v) :: fs) = .ok ms) :
    ∃ j rest, ofValue? v = .ok j ∧ ofFields? fs = .ok rest ∧ ms = (name, j) :: rest := by
  rw [ofFields?_eq, List.map_cons] at h
  obtain ⟨_, j, rest, ⟨⟩, hv, hs, rfl⟩ := of_ofEntries?_cons h
  exact ⟨j, rest, hv, (ofFields?_eq fs).trans hs, rfl⟩

end made

/-! ## Clean documents -/

mutual

/-- No object of a document names a member twice, and its floating point numbers are finite. -/
def Clean : Json → Prop
  | .float x => x.isFinite = true
  | .list items => AllClean items
  | .object ms => (names ms).Nodup ∧ MembersClean ms
  | _ => True

/-- Several documents are clean. -/
def AllClean : List Json → Prop
  | [] => True
  | j :: js => Clean j ∧ AllClean js

/-- The members of an object are clean. -/
def MembersClean : List (String × Json) → Prop
  | [] => True
  | (_, j) :: ms => Clean j ∧ MembersClean ms

end

theorem membersClean_iff {ms : List (String × Json)} :
    MembersClean ms ↔ ∀ m ∈ ms, Clean m.2 := by
  induction ms with
  | nil => simp [MembersClean]
  | cons m rest ih => simp [MembersClean, ih]

theorem membersClean_putAll {ms : List (String × Json)} (h : MembersClean ms) :
    MembersClean (putAll [] ms) := by
  rw [membersClean_iff] at h ⊢
  intro m hm
  rcases of_mem_putAll hm with hnil | ⟨m', hm', he⟩
  · simp at hnil
  · rw [he]
    exact h m' hm'

mutual

/-- The document of a value is clean. -/
theorem clean_of_ofValue? : ∀ {v : Value} {j : Json}, ofValue? v = .ok j → Clean j
  | .null, _, h | .bool _, _, h | .int _, _, h | .text _, _, h | .date _, _, h
  | .moment _, _, h => by
    simp only [ofValue?, Except.ok.injEq] at h
    subst h
    trivial
  | .float x, j, h => by
    simp only [ofValue?, Except.ok.injEq] at h
    subst h
    split
    · assumption
    · trivial
  | .bytes bs, j, h => by
    unfold ofValue? at h
    split at h
    · cases h
      trivial
    · cases h
  | .list xs, j, h | .tuple xs, j, h | .set xs, j, h => by
    obtain ⟨js, hs, rfl⟩ := of_ofValue?_list h
    exact allClean_of_ofValues? hs
  | .dict es, j, h => by
    obtain ⟨ms, hs, rfl⟩ := of_ofValue?_dict h
    exact ⟨nodup_names_putAll ms (by simp), membersClean_putAll (membersClean_of_ofEntries? hs)⟩
  | .object kind name fs, j, h => by
    rw [ofValue?_object] at h
    obtain ⟨ms, hs, rfl⟩ := of_ofValue?_dict h
    exact ⟨nodup_names_putAll ms (by simp),
      membersClean_putAll (membersClean_of_ofFields? ((ofFields?_eq fs).trans hs))⟩
  | .unshowable _, _, h => by simp [ofValue?] at h

/-- The documents of several values are clean. -/
theorem allClean_of_ofValues? : ∀ {xs : List Value} {js : List Json},
    ofValues? xs = .ok js → AllClean js
  | [], _, h => by
    simp only [ofValues?, Except.ok.injEq] at h
    subst h
    trivial
  | x :: xs, js, h => by
    obtain ⟨j, rest, hx, hs, rfl⟩ := of_ofValues?_cons h
    exact ⟨clean_of_ofValue? hx, allClean_of_ofValues? hs⟩

/-- The members for the pairs of a bag are clean. -/
theorem membersClean_of_ofEntries? : ∀ {es : List (Value × Value)} {ms : List (String × Json)},
    ofEntries? es = .ok ms → MembersClean ms
  | [], _, h => by
    simp only [ofEntries?, Except.ok.injEq] at h
    subst h
    trivial
  | (k, v) :: es, ms, h => by
    obtain ⟨name, j, rest, -, hv, hs, rfl⟩ := of_ofEntries?_cons h
    exact ⟨clean_of_ofValue? hv, membersClean_of_ofEntries? hs⟩

/-- The members for the fields of an object are clean. -/
theorem membersClean_of_ofFields? : ∀ {fs : List (String × Value)} {ms : List (String × Json)},
    ofFields? fs = .ok ms → MembersClean ms
  | [], _, h => by
    simp only [ofFields?, Except.ok.injEq] at h
    subst h
    trivial
  | (name, v) :: fs, ms, h => by
    obtain ⟨j, rest, hv, hs, rfl⟩ := of_ofFields?_cons h
    exact ⟨clean_of_ofValue? hv, membersClean_of_ofFields? hs⟩

end

/-! ## Reading back -/

mutual

/-- A clean document is the document of the value that it is read back as. -/
theorem ofValue?_toValue : ∀ {j : Json}, Clean j → ofValue? j.toValue = .ok j
  | .null, _ | .bool _, _ | .int _, _ | .text _, _ => rfl
  | .float x, h => by
    have finite : x.isFinite = true := h
    rw [toValue, ofValue?, if_pos finite]
  | .list js, h => by
    rw [toValue, ofValue?, ofValues?_toValues h]
    rfl
  | .object ms, h => by
    have hput : putAll [] ms = ms := putAll_of_nodup h.1
    rw [toValue, ofValue?, ofEntries?_toEntries h.2]
    exact congrArg (fun o => Except.ok (object o)) hput

/-- Several clean documents are the documents of the values that they are read back as. -/
theorem ofValues?_toValues : ∀ {js : List Json}, AllClean js → ofValues? (toValues js) = .ok js
  | [], _ => rfl
  | j :: js, h => by
    rw [toValues, ofValues?, ofValue?_toValue h.1, ofValues?_toValues h.2]
    rfl

/-- Clean members are the members for the pairs that they are read back as. -/
theorem ofEntries?_toEntries : ∀ {ms : List (String × Json)},
    MembersClean ms → ofEntries? (toEntries ms) = .ok ms
  | [], _ => rfl
  | (name, j) :: ms, h => by
    rw [toEntries, ofEntries?, keyText?, ofValue?_toValue h.1, ofEntries?_toEntries h.2]
    rfl

end

mutual

/-- There are no objects in what is read back of a document. -/
theorem holdsObject_toValue : ∀ j : Json, j.toValue.holdsObject = false
  | .null | .bool _ | .int _ | .float _ | .text _ => rfl
  | .list js => anyHoldsObject_toValues js
  | .object ms => entriesHoldObject_toEntries ms

theorem anyHoldsObject_toValues : ∀ js : List Json, Value.anyHoldsObject (toValues js) = false
  | [] => rfl
  | j :: js => by
    rw [toValues, Value.anyHoldsObject, holdsObject_toValue j, anyHoldsObject_toValues js]
    rfl

theorem entriesHoldObject_toEntries : ∀ ms : List (String × Json),
    Value.entriesHoldObject (toEntries ms) = false
  | [] => rfl
  | (name, j) :: ms => by
    rw [toEntries, Value.entriesHoldObject, holdsObject_toValue j, entriesHoldObject_toEntries ms]
    rfl

end

/-! ## Objects unfolded -/

section unfolding

variable {f : Value → Value} (same : ∀ v, ofValue? (f v) = ofValue? v)

include same

theorem ofValues?_map (xs : List Value) : ofValues? (xs.map f) = ofValues? xs := by
  induction xs with
  | nil => rfl
  | cons x xs ih => rw [List.map_cons, ofValues?, ofValues?, same, ih]

theorem ofEntries?_map (es : List (Value × Value)) :
    ofEntries? (es.map fun e => (e.1, f e.2)) = ofEntries? es := by
  induction es with
  | nil => rfl
  | cons e es ih => rw [List.map_cons, ofEntries?, ofEntries?, same, ih]

end unfolding

/-- A value has the same document with the objects in it unfolded. -/
theorem ofValue?_unfoldedTo : ∀ (depth : Nat) (v : Value),
    ofValue? (v.unfoldedTo depth) = ofValue? v
  | 0, v => by cases v <;> rfl
  | depth + 1, .list xs | depth + 1, .tuple xs => by
    rw [Value.unfoldedTo, ofValue?, ofValue?, ofValues?_map (ofValue?_unfoldedTo depth)]
  | depth + 1, .dict es => by
    rw [Value.unfoldedTo, ofValue?, ofValue?, ofEntries?_map (ofValue?_unfoldedTo depth)]
  | depth + 1, .object kind name fs => by
    have pairs : (fs.map fun m => (Value.text m.1, m.2.unfoldedTo depth)) =
        (fs.map fun m => (Value.text m.1, m.2)).map fun e => (e.1, e.2.unfoldedTo depth) := by
      rw [List.map_map]
      rfl
    rw [Value.unfoldedTo, ofValue?_object, ofValue?, ofValue?, pairs,
      ofEntries?_map (ofValue?_unfoldedTo depth)]
  | _ + 1, .null | _ + 1, .bool _ | _ + 1, .int _ | _ + 1, .float _ | _ + 1, .text _
  | _ + 1, .bytes _ | _ + 1, .date _ | _ + 1, .moment _ | _ + 1, .set _
  | _ + 1, .unshowable _ => rfl

/-! ## Documents that can be written -/

theorem membersAreWritable_iff {ms : List (String × Json)} :
    Database.membersAreWritable ms = true ↔ ∀ m ∈ ms, Database.isWritable m.2 = true := by
  induction ms with
  | nil => simp [Database.membersAreWritable]
  | cons m rest ih => simp [Database.membersAreWritable, ih]

theorem membersAreWritable_putAll {ms : List (String × Json)}
    (h : Database.membersAreWritable ms = true) :
    Database.membersAreWritable (putAll [] ms) = true := by
  rw [membersAreWritable_iff] at h ⊢
  intro m hm
  rcases of_mem_putAll hm with hnil | ⟨m', hm', he⟩
  · simp at hnil
  · rw [he]
    exact h m' hm'

end Json

namespace Value

mutual

/-- A value that is built of texts, numbers that can be written, dates, readings, lists, tuples and
bags with texts as keys. -/
def IsPlain : Value → Prop
  | .int n => n.natAbs < Nat.pow 10 digitLimit
  | .list xs | .tuple xs => ArePlain xs
  | .dict es => HasPlainEntries es
  | .bytes _ | .set _ | .object .. | .unshowable _ => False
  | _ => True

/-- Several values are plain. -/
def ArePlain : List Value → Prop
  | [] => True
  | x :: xs => IsPlain x ∧ ArePlain xs

/-- The pairs of a bag have texts as keys and plain values. -/
def HasPlainEntries : List (Value × Value) → Prop
  | [] => True
  | (k, v) :: es => (∃ name, k = .text name) ∧ IsPlain v ∧ HasPlainEntries es

end

open Database (isWritable areWritable membersAreWritable)

mutual

/-- A plain value has a document that can be written. -/
theorem IsPlain.exists_document : ∀ {v : Value}, v.IsPlain →
    ∃ j, Json.ofValue? v = .ok j ∧ isWritable j = true
  | .null, _ | .bool _, _ | .text _, _ | .date _, _ | .moment _, _ => ⟨_, rfl, rfl⟩
  | .float _, _ => ⟨_, rfl, by split <;> rfl⟩
  | .int n, h => ⟨.int n, rfl, by simpa [IsPlain, isWritable] using h⟩
  | .list xs, h | .tuple xs, h => by
    obtain ⟨js, hjs, hw⟩ := ArePlain.exists_documents h
    exact ⟨.list js, by rw [Json.ofValue?, hjs]; rfl, hw⟩
  | .dict es, h => by
    obtain ⟨ms, hms, hw⟩ := HasPlainEntries.exists_members h
    exact ⟨.object (Json.putAll [] ms), by rw [Json.ofValue?, hms]; rfl,
      Json.membersAreWritable_putAll hw⟩

/-- Plain values have documents that can be written. -/
theorem ArePlain.exists_documents : ∀ {xs : List Value}, ArePlain xs →
    ∃ js, Json.ofValues? xs = .ok js ∧ areWritable js = true
  | [], _ => ⟨[], rfl, rfl⟩
  | x :: xs, h => by
    obtain ⟨j, hj, hw⟩ := IsPlain.exists_document h.1
    obtain ⟨js, hjs, hws⟩ := ArePlain.exists_documents h.2
    exact ⟨j :: js, by rw [Json.ofValues?, hj, hjs]; rfl, by simp [areWritable, hw, hws]⟩

/-- The pairs of a plain bag have members that can be written. -/
theorem HasPlainEntries.exists_members : ∀ {es : List (Value × Value)}, HasPlainEntries es →
    ∃ ms, Json.ofEntries? es = .ok ms ∧ membersAreWritable ms = true
  | [], _ => ⟨[], rfl, rfl⟩
  | (k, v) :: es, h => by
    obtain ⟨name, rfl⟩ := h.1
    obtain ⟨j, hj, hw⟩ := IsPlain.exists_document h.2.1
    obtain ⟨ms, hms, hws⟩ := HasPlainEntries.exists_members h.2.2
    exact ⟨(name, j) :: ms, by rw [Json.ofEntries?, Json.keyText?, hj, hms]; rfl,
      by simp [membersAreWritable, hw, hws]⟩

end

end Value

end Courier

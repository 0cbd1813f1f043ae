import Courier.Proofs.Database.Row
import Courier.Transport.Provider
import Mathlib.Data.List.Nodup

/-!
# Metadata on its way out

A row keeps the metadata of a record in the form of a document, whatever the record has: dates and
readings become texts, tuples become lists, keys become texts, and what is no finite number is
dropped. A provider is posted the metadata as it is. So what a provider gets is in the form of a
document, and agrees with what a row keeps, exactly if the record's own metadata is in that form at
every depth (`Value.IsJson`).

Main statement: `ProviderTransport.payload_alike_iff`.
-/

namespace Courier

namespace Value

mutual

/-- A value in the form of a document: it holds nothing but truth values, finite numbers, texts,
lists and bags, and its bags have a text for every key and no key twice. -/
def IsJson : Value → Prop
  | .null | .bool _ | .int _ | .text _ => True
  | .float x => x.isFinite = true
  | .list xs => AreJson xs
  | .dict es => (es.map Prod.fst).Nodup ∧ HasJsonEntries es
  | _ => False

/-- Several values in the form of documents. -/
def AreJson : List Value → Prop
  | [] => True
  | x :: xs => IsJson x ∧ AreJson xs

/-- The pairs of a bag have texts as keys and values in the form of documents. -/
def HasJsonEntries : List (Value × Value) → Prop
  | [] => True
  | (k, v) :: es => (∃ name, k = .text name) ∧ IsJson v ∧ HasJsonEntries es

end

theorem text_injective : Function.Injective text := fun _ _ => text.inj

/-- The bag of members with texts as keys. -/
def ofMembers (ms : List (String × Value)) : Value := .dict (ms.map fun m => (.text m.1, m.2))

theorem ofMembers_inj {ms ms' : List (String × Value)} :
    ofMembers ms = ofMembers ms' ↔ ms = ms' := by
  have pairs : Function.Injective fun m : String × Value => (text m.1, m.2) := by
    rintro ⟨name, v⟩ ⟨name', v'⟩ same
    simpa using same
  rw [ofMembers, ofMembers, dict.injEq]
  exact (List.map_injective_iff.mpr pairs).eq_iff

theorem hasJsonEntries_members_iff : ∀ {ms : List (String × Value)},
    HasJsonEntries (ms.map fun m => (.text m.1, m.2)) ↔ ∀ m ∈ ms, m.2.IsJson
  | [] => by simp [HasJsonEntries]
  | m :: ms => by simp [HasJsonEntries, hasJsonEntries_members_iff]

/-- Members of distinct names are in the form of a document if their values are. -/
theorem isJson_ofMembers_iff {ms : List (String × Value)} (names : (ms.map Prod.fst).Nodup) :
    (ofMembers ms).IsJson ↔ ∀ m ∈ ms, m.2.IsJson := by
  have texts : (ms.map fun m => (text m.1, m.2)).map Prod.fst = (ms.map Prod.fst).map text := by
    simp
  have keys : ((ms.map fun m => (text m.1, m.2)).map Prod.fst).Nodup := by
    rw [texts]
    exact names.map text_injective
  rw [ofMembers, IsJson, hasJsonEntries_members_iff]
  exact and_iff_right keys

end Value

namespace Json

open Value (IsJson AreJson HasJsonEntries)

/-! ## Documents as values -/

theorem map_fst_toEntries (ms : List (String × Json)) :
    (toEntries ms).map Prod.fst = (names ms).map Value.text := by
  induction ms with
  | nil => rfl
  | cons m ms ih => simp [toEntries, ih]

theorem nodup_toEntries {ms : List (String × Json)} :
    ((toEntries ms).map Prod.fst).Nodup ↔ (names ms).Nodup := by
  rw [map_fst_toEntries]
  exact List.nodup_map_iff Value.text_injective

mutual

/-- What is read back of a clean document has its form. -/
theorem isJson_toValue : ∀ {j : Json}, Clean j → j.toValue.IsJson
  | .null, _ | .bool _, _ | .int _, _ | .text _, _ => trivial
  | .float _, h => h
  | .list _, h => areJson_toValues h
  | .object _, h => ⟨nodup_toEntries.mpr h.1, hasJsonEntries_toEntries h.2⟩

/-- What is read back of several clean documents has their form. -/
theorem areJson_toValues : ∀ {js : List Json}, AllClean js →
    AreJson (toValues js)
  | [], _ => trivial
  | _ :: _, h => ⟨isJson_toValue h.1, areJson_toValues h.2⟩

/-- What is read back of clean members has their form. -/
theorem hasJsonEntries_toEntries : ∀ {ms : List (String × Json)}, MembersClean ms →
    HasJsonEntries (toEntries ms)
  | [], _ => trivial
  | (name, _) :: _, h => ⟨⟨name, rfl⟩, isJson_toValue h.1, hasJsonEntries_toEntries h.2⟩

end

mutual

/-- A value in the form of a document is what is read back of its document. -/
theorem toValue_of_isJson : ∀ {v : Value} {j : Json}, v.IsJson → ofValue? v = .ok j →
    j.toValue = v
  | .null, _, _, h | .bool _, _, _, h | .int _, _, _, h | .text _, _, _, h => by
    cases h
    rfl
  | .float x, _, form, h => by
    have finite : x.isFinite = true := form
    rw [ofValue?, if_pos finite, Except.ok.injEq] at h
    subst h
    rfl
  | .list xs, j, form, h => by
    obtain ⟨js, hs, rfl⟩ := of_ofValue?_list h
    rw [toValue, toValues_of_areJson form hs]
  | .dict es, j, form, h => by
    obtain ⟨ms, hs, rfl⟩ := of_ofValue?_dict h
    have back := toEntries_of_hasJsonEntries form.2 hs
    have distinct : (names ms).Nodup := nodup_toEntries.mp (back ▸ form.1)
    have unchanged : putAll [] ms = ms := putAll_of_nodup distinct
    rw [unchanged, toValue, back]

/-- Values in the form of documents are what is read back of their documents. -/
theorem toValues_of_areJson : ∀ {xs : List Value} {js : List Json},
    AreJson xs → ofValues? xs = .ok js → toValues js = xs
  | [], _, _, h => by
    cases h
    rfl
  | x :: xs, js, form, h => by
    obtain ⟨j, rest, hx, hs, rfl⟩ := of_ofValues?_cons h
    rw [toValues, toValue_of_isJson form.1 hx, toValues_of_areJson form.2 hs]

/-- Pairs with texts as keys and values in the form of documents are what is read back of their
members. -/
theorem toEntries_of_hasJsonEntries : ∀ {es : List (Value × Value)} {ms : List (String × Json)},
    HasJsonEntries es → ofEntries? es = .ok ms → toEntries ms = es
  | [], _, _, h => by
    cases h
    rfl
  | (k, v) :: es, ms, form, h => by
    obtain ⟨name, rfl⟩ := form.1
    obtain ⟨_, j, rest, ⟨⟩, hv, hs, rfl⟩ := of_ofEntries?_cons h
    rw [toEntries, toValue_of_isJson form.2.1 hv, toEntries_of_hasJsonEntries form.2.2 hs]

end

/-- A value is what is read back of its document exactly if it has the form of one. -/
theorem toValue_eq_iff {v : Value} {j : Json} (h : ofValue? v = .ok j) :
    j.toValue = v ↔ v.IsJson :=
  ⟨fun same => same ▸ isJson_toValue (clean_of_ofValue? h),
    fun form => toValue_of_isJson form h⟩

end Json

namespace Record

variable {metadata : List (String × Value)} {ms : List (String × Json)}

theorem map_fst_fromDocument (h : metadataJson? metadata = .ok ms) :
    (fromDocument ms).map Prod.fst = metadata.map Prod.fst := by
  rw [metadataJson?_eq_ok_iff] at h
  induction h with
  | nil => rfl
  | cons hm _ ih => simpa [fromDocument, hm.1] using ih

/-- Metadata is what is read back of its document exactly if every value has the form of one. -/
theorem fromDocument_eq_iff (h : metadataJson? metadata = .ok ms) :
    fromDocument ms = metadata ↔ ∀ m ∈ metadata, m.2.IsJson := by
  rw [metadataJson?_eq_ok_iff] at h
  induction h with
  | nil => simp [fromDocument]
  | cons hm _ ih =>
    rw [List.forall_mem_cons, ← Json.toValue_eq_iff hm.2]
    refine Iff.trans ?_ (and_congr Iff.rfl ih)
    simp [fromDocument, Prod.ext_iff, hm.1]

/-- What is read back of a document has its form. -/
theorem isJson_fromDocument (h : metadataJson? metadata = .ok ms) :
    ∀ m ∈ fromDocument ms, m.2.IsJson := by
  intro m hm
  obtain ⟨m', hm', rfl⟩ := List.mem_map.mp hm
  exact Json.isJson_toValue (Json.membersClean_iff.mp (membersClean_of_metadataJson? h) m' hm')

end Record

namespace ProviderTransport

theorem lookup_payload_metadata (r : Record) :
    (payload r).lookup "metadata" = some (.ofMembers r.metadata) := rfl

/-- All that a provider is posted is in the form of documents exactly if the metadata is. -/
theorem isJson_payload_iff {r : Record}
    (names : (r.metadata.map Prod.fst).Nodup) : (∀ field ∈ payload r, field.2.IsJson) ↔
      ∀ m ∈ r.metadata, m.2.IsJson := by
  rw [← Value.isJson_ofMembers_iff names]
  simp [payload, Value.ofMembers, Value.IsJson]

/-- For a record that a row can be made of: what the row keeps of the metadata is in the form of a
document. What a provider is posted consists of values in that form exactly if the metadata of the
record does, and then and only then the metadata that it is posted agrees with what the row keeps. -/
theorem payload_alike_iff {r : Record} {row : Row} (kept : Row.ofRecord r = .ok row)
    (names : (r.metadata.map Prod.fst).Nodup) :
    (Value.ofMembers (Record.fromDocument row.metadata)).IsJson ∧
    ((∀ field ∈ payload r, field.2.IsJson) ↔
      ∀ m ∈ r.metadata, m.2.IsJson) ∧
    ((payload r).lookup "metadata" = some (.ofMembers (Record.fromDocument row.metadata)) ↔
      ∀ m ∈ r.metadata, m.2.IsJson) := by
  obtain ⟨ms, hms, rfl⟩ := Row.ofRecord_ok_iff.mp kept
  have same_names := Record.map_fst_fromDocument hms
  refine ⟨?_, isJson_payload_iff names, ?_⟩
  · rw [Value.isJson_ofMembers_iff (same_names ▸ names)]
    exact Record.isJson_fromDocument hms
  · rw [lookup_payload_metadata, Option.some.injEq, Value.ofMembers_inj, eq_comm]
    exact Record.fromDocument_eq_iff hms

/-- A provider is posted what a row keeps of metadata with a list of bags. -/
theorem payload_alike_list_of_jobs :
    let jobs := [("jobs", Value.list [.dict [(.text "title", .text "SRE"), (.text "level", .int 3)],
      .null])]
    let r := { Record.fresh "n1" "ada@example.com" "offer-letter" Record.morning with
      metadata := jobs }
    ∃ row, Row.ofRecord r = .ok row ∧ (r.metadata.map Prod.fst).Nodup ∧
      (∀ field ∈ payload r, field.2.IsJson) ∧
      (payload r).lookup "metadata" = some (.ofMembers (Record.fromDocument row.metadata)) := by
  intro jobs r
  have names : (r.metadata.map Prod.fst).Nodup := by simp [r, jobs]
  have form : ∀ m ∈ r.metadata, m.2.IsJson := by
    simp [r, jobs, Value.IsJson, Value.AreJson, Value.HasJsonEntries]
  obtain ⟨row, kept⟩ : ∃ row, Row.ofRecord r = .ok row := ⟨_, rfl⟩
  obtain ⟨-, posted_iff, alike_iff⟩ := payload_alike_iff kept names
  exact ⟨row, kept, names, posted_iff.mpr form, alike_iff.mpr form⟩

/-- A time in the metadata is posted as it is, although a row keeps a text. -/
theorem payload_apart_at_a_time :
    let nine := Value.moment (.ofInstant Record.morning)
    let r := { Record.fresh "n1" "ada@example.com" "offer-letter" Record.morning with
      metadata := [("interview", nine)] }
    (∀ m ∈ r.metadata, m.2.IsPlain) ∧ ∃ row, Row.ofRecord r = .ok row ∧
      ¬(∀ field ∈ payload r, field.2.IsJson) ∧
      (payload r).lookup "metadata" ≠ some (.ofMembers (Record.fromDocument row.metadata)) := by
  intro nine r
  have apart : (payload r).lookup "metadata" = some (.ofMembers [("interview", nine)]) :=
    lookup_payload_metadata r
  refine ⟨by simp [r, nine, Value.IsPlain], _, rfl, fun form => ?_, ?_⟩
  · have := (isJson_payload_iff (by simp [r])).mp form ("interview", nine) (by simp [r])
    exact this
  · rw [apart]
    simp [Value.ofMembers, Record.fromDocument, Json.toValue, nine]

end ProviderTransport

end Courier

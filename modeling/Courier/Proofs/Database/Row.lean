import Courier.Database.Row
import Courier.Proofs.Calendar.Stamp
import Courier.Proofs.Json.Document
import Courier.Proofs.Matching
import Courier.Proofs.Record.Life

/-!
# Rows and records

The row of a record is read back as the record with its metadata in the form of a document
(`Row.toRecord_of_datable`), if none of its times lies in a year before 1000. If one does, the row
cannot be read at all (`Row.toRecord_of_not_datable`).

A row keeps a record if it is the row of that record and is read back as it (`Row.Keeps`). Every
consistent record is kept in the form that it is read back in (`Row.keeps_of_ofRecord`), and a kept
record can be kept after every move (`Row.Keeps.after`).
-/

namespace Courier

/-! ## Metadata as documents -/

namespace Record

/-- The values of the members of a document. -/
def fromDocument (ms : List (String × Json)) : List (String × Value) :=
  ms.map fun m => (m.1, m.2.toValue)

/-- The document of metadata has one member for each pair, with its name and the document of its
value. -/
theorem metadataJson?_eq_ok_iff {metadata : List (String × Value)} {ms : List (String × Json)} :
    metadataJson? metadata = .ok ms ↔
      List.Forall₂ (fun m m' => m'.1 = m.1 ∧ Json.ofValue? m.2 = .ok m'.2) metadata ms := by
  have each : ∀ (m : String × Value) (m' : String × Json),
      (Json.ofValue? m.2).map (fun j => (m.1, j)) = .ok m' ↔
        m'.1 = m.1 ∧ Json.ofValue? m.2 = .ok m'.2 := by
    rintro ⟨name, v⟩ ⟨name', j⟩
    cases Json.ofValue? v <;> simp [Except.map, eq_comm]
  rw [metadataJson?, Matching.mapM_ok_iff]
  simp only [each]

theorem membersClean_of_metadataJson? {metadata : List (String × Value)}
    {ms : List (String × Json)} (h : metadataJson? metadata = .ok ms) : Json.MembersClean ms := by
  rw [Json.membersClean_iff]
  intro m' hm'
  obtain ⟨m, -, -, hdocument⟩ := Matching.exists_left (metadataJson?_eq_ok_iff.mp h) hm'
  exact Json.clean_of_ofValue? hdocument

theorem metadataJson?_fromDocument {ms : List (String × Json)} (h : Json.MembersClean ms) :
    metadataJson? (fromDocument ms) = .ok ms := by
  rw [metadataJson?_eq_ok_iff, fromDocument, List.forall₂_map_left_iff, List.forall₂_same]
  exact fun m hm => ⟨rfl, Json.ofValue?_toValue (Json.membersClean_iff.mp h m hm)⟩

/-- The record with the metadata of a document. -/
def documented (r : Record) (ms : List (String × Json)) : Record :=
  { r with metadata := fromDocument ms }

/-- There are no objects in the metadata of a document. -/
theorem not_holdsObject_documented (r : Record) (ms : List (String × Json)) :
    ¬(r.documented ms).HoldsObject := by
  rintro ⟨m, hm, holds⟩
  obtain ⟨m', -, rfl⟩ := List.mem_map.mp hm
  rw [Json.holdsObject_toValue] at holds
  cases holds

/-- A move does not touch the metadata of a document. -/
theorem moved_documented (r : Record) (ms : List (String × Json)) (status : Status)
    (time : Instant) (error : Option String) :
    (r.documented ms).moved status time error = (r.moved status time error).documented ms := by
  rw [moved, unfolded_eq_self (not_holdsObject_documented r ms)]
  rfl

theorem metadataJson?_unfolded (r : Record) :
    metadataJson? r.unfolded.metadata = metadataJson? r.metadata := by
  have same (m : String × Value) : Json.ofValue? m.2.unfolded = Json.ofValue? m.2 :=
    Json.ofValue?_unfoldedTo Value.unfoldDepth m.2
  simp [metadataJson?, unfolded, Function.comp_def, same]

/-- A record has the same document for its metadata at every moment of its life. -/
theorem Later.metadataJson? {r r' : Record} (h : r.Later r') :
    metadataJson? r'.metadata = Record.metadataJson? r.metadata := by
  rcases h.metadata with same | ⟨-, unfolded⟩
  · rw [same]
  · rw [unfolded, metadataJson?_unfolded]

theorem consistent_documented_iff {r : Record} {ms : List (String × Json)} :
    (r.documented ms).Consistent ↔ r.Consistent :=
  ⟨fun c => ⟨c.created_le_updated, c.sentAt_iff, c.error_iff, c.deliveredAt_iff⟩,
    fun c => ⟨c.created_le_updated, c.sentAt_iff, c.error_iff, c.deliveredAt_iff⟩⟩

/-! ## Times that can be read back -/

/-- Every time of a record lies in year 1000 or later. -/
structure Datable (r : Record) : Prop where
  created : 1000 ≤ r.createdAt.date.year
  updated : 1000 ≤ r.updatedAt.date.year
  sent : ∀ a ∈ r.sentAt, 1000 ≤ a.date.year
  delivered : ∀ a ∈ r.deliveredAt, 1000 ≤ a.date.year

/-- A moment that is not before a time in year 1000 or later is in year 1000 or later. -/
theorem Datable.moved {r : Record} {status : Status} {time : Instant} {error : Option String}
    (d : r.Datable) : (r.moved status time error).Datable := by
  have hmoment : 1000 ≤ (Instant.latest time r.createdAt).date.year :=
    Nat.le_trans d.created (Instant.year_mono (Instant.le_latest_right time r.createdAt))
  refine ⟨d.created, hmoment, ?_, ?_⟩
  · intro a ha
    by_cases hs : status = .sent
    · obtain rfl : Instant.latest time r.createdAt = a := by simpa [Record.moved, hs] using ha
      exact hmoment
    · exact d.sent a (by simpa [Record.moved, hs] using ha)
  · intro a ha
    by_cases hs : status = .delivered
    · obtain rfl : Instant.latest time r.createdAt = a := by simpa [Record.moved, hs] using ha
      exact hmoment
    · exact d.delivered a (by simpa [Record.moved, hs] using ha)

end Record

namespace Row

/-! ## Reading a row back -/

/-- The row of a record whose metadata has a document. -/
def withDocument (r : Record) (ms : List (String × Json)) : Row where
  id := r.id
  recipient := r.recipient
  address := r.address
  eventType := r.eventType
  priority := r.priority.name
  status := r.status.name
  subject := r.subject
  htmlBody := r.htmlBody
  textBody := r.textBody
  createdAt := Stamp.writeMicros r.createdAt
  updatedAt := Stamp.writeMicros r.updatedAt
  sentAt := r.sentAt.map Stamp.writeMicros
  deliveredAt := r.deliveredAt.map Stamp.writeMicros
  error := r.error
  metadata := ms

theorem ofRecord_ok_iff {r : Record} {row : Row} : ofRecord r = .ok row ↔
    ∃ ms, Record.metadataJson? r.metadata = .ok ms ∧ row = withDocument r ms := by
  unfold ofRecord
  cases Record.metadataJson? r.metadata with
  | error fault => simp
  | ok ms => simp [withDocument, eq_comm]

/-- The failure to read the stamp of an instant in a year before 1000. -/
def tooEarly (a : Instant) : Failure :=
  .unreadableStamp (.unlikeStamp (String.ofList (Stamp.bareChars a)))

theorem instant_of_le {a : Instant} (h : 1000 ≤ a.date.year) :
    instant (Stamp.writeMicros a) = .ok a := by
  rw [instant, Stamp.read_writeMicros h]

theorem instant_of_lt {a : Instant} (h : a.date.year < 1000) :
    instant (Stamp.writeMicros a) = .error (tooEarly a) := by
  rw [instant, Stamp.read_writeMicros_of_lt h]
  rfl

theorem instant?_of_le {o : Option Instant} (h : ∀ a ∈ o, 1000 ≤ a.date.year) :
    instant? (o.map Stamp.writeMicros) = .ok o := by
  cases o with
  | none => rfl
  | some a =>
    rw [Option.map_some, instant?, instant_of_le (h a rfl)]
    rfl

theorem instant?_of_not_le {o : Option Instant} (h : ¬∀ a ∈ o, 1000 ≤ a.date.year) :
    ∃ a, a.date.year < 1000 ∧ instant? (o.map Stamp.writeMicros) = .error (tooEarly a) := by
  cases o with
  | none => exact absurd (by simp) h
  | some a =>
    have ha : a.date.year < 1000 := by simpa using h
    refine ⟨a, ha, ?_⟩
    rw [Option.map_some, instant?, instant_of_lt ha]
    rfl

theorem priorityOf_name (p : Priority) : priorityOf p.name = .ok p := by
  simp [priorityOf]

theorem statusOf_name (s : Status) : statusOf s.name = .ok s := by
  simp [statusOf]

theorem checked_ok_iff {r r' : Record} : checked r = .ok r' ↔ r.Consistent ∧ r' = r := by
  rw [← Record.inconsistency?_eq_none_iff]
  unfold checked
  split
  · rename_i h
    simp [h, eq_comm]
  · rename_i h
    simp [h]

variable {r r' : Record} {row : Row} {ms : List (String × Json)}

/-- A row with readable stamps is read back as its record, if the parts of that fit together. -/
theorem toRecord_of_datable (d : r.Datable) (ms : List (String × Json)) :
    (withDocument r ms).toRecord = checked (r.documented ms) := by
  simp only [toRecord, withDocument, instant_of_le d.created, instant_of_le d.updated,
    instant?_of_le d.sent, instant?_of_le d.delivered, priorityOf_name, statusOf_name]
  rfl

/-- A row with a stamp of a year before 1000 is not read back. -/
theorem toRecord_of_not_datable (d : ¬r.Datable) (ms : List (String × Json)) :
    ∃ a, a.date.year < 1000 ∧ (withDocument r ms).toRecord = .error (tooEarly a) := by
  simp only [toRecord, withDocument]
  by_cases created : 1000 ≤ r.createdAt.date.year
  · rw [instant_of_le created]
    by_cases updated : 1000 ≤ r.updatedAt.date.year
    · rw [instant_of_le updated]
      by_cases sent : ∀ a ∈ r.sentAt, 1000 ≤ a.date.year
      · rw [instant?_of_le sent]
        have delivered : ¬∀ a ∈ r.deliveredAt, 1000 ≤ a.date.year :=
          fun delivered => d ⟨created, updated, sent, delivered⟩
        obtain ⟨a, ha, he⟩ := instant?_of_not_le delivered
        exact ⟨a, ha, by rw [he]; rfl⟩
      · obtain ⟨a, ha, he⟩ := instant?_of_not_le sent
        exact ⟨a, ha, by rw [he]; rfl⟩
    · have ha := Nat.lt_of_not_le updated
      exact ⟨_, ha, by rw [instant_of_lt ha]; rfl⟩
  · have ha := Nat.lt_of_not_le created
    exact ⟨_, ha, by rw [instant_of_lt ha]; rfl⟩

theorem datable_of_toRecord (h : (withDocument r ms).toRecord = .ok r') : r.Datable := by
  by_contra d
  obtain ⟨a, _, he⟩ := toRecord_of_not_datable d ms
  rw [he] at h
  cases h

/-! ## Kept records -/

/-- A row keeps a record: it is the row of the record, and it is read back as the record. -/
structure Keeps (row : Row) (r : Record) : Prop where
  written : ofRecord r = .ok row
  read : row.toRecord = .ok r

/-- A row keeps a record exactly if the record is consistent and datable and its metadata stems
from the row's document. -/
theorem keeps_iff : row.Keeps r ↔ r.Consistent ∧ r.Datable ∧
    ∃ ms, Json.MembersClean ms ∧ r.metadata = Record.fromDocument ms ∧
      row = withDocument r ms := by
  constructor
  · rintro ⟨written, read⟩
    obtain ⟨ms, hms, rfl⟩ := ofRecord_ok_iff.mp written
    have d := datable_of_toRecord read
    rw [toRecord_of_datable d] at read
    obtain ⟨c, hr⟩ := checked_ok_iff.mp read
    refine ⟨hr ▸ c, d, ms, Record.membersClean_of_metadataJson? hms, ?_, rfl⟩
    exact congrArg Record.metadata hr
  · rintro ⟨c, d, ms, hms, hmetadata, rfl⟩
    have hr : r.documented ms = r := by rw [Record.documented, ← hmetadata]
    refine ⟨ofRecord_ok_iff.mpr ⟨ms, ?_, rfl⟩, ?_⟩
    · rw [hmetadata, Record.metadataJson?_fromDocument hms]
    · rw [toRecord_of_datable d, hr]
      exact checked_ok_iff.mpr ⟨c, rfl⟩

/-- The row of a consistent and datable record keeps it with its metadata in the form of a
document. -/
theorem keeps_of_ofRecord (c : r.Consistent) (d : r.Datable)
    (h : ofRecord r = .ok row) : row.Keeps (r.documented row.metadata) := by
  obtain ⟨ms, hms, rfl⟩ := ofRecord_ok_iff.mp h
  exact keeps_iff.mpr ⟨Record.consistent_documented_iff.mpr c,
    ⟨d.created, d.updated, d.sent, d.delivered⟩, ms, Record.membersClean_of_metadataJson? hms,
    rfl, rfl⟩

/-- A row that is read back at all keeps the record that it is read back as. -/
theorem keeps_of_toRecord (written : ofRecord r = .ok row) (read : row.toRecord = .ok r') :
    row.Keeps r' ∧ ∃ ms, r' = r.documented ms := by
  obtain ⟨ms, hms, rfl⟩ := ofRecord_ok_iff.mp written
  have d := datable_of_toRecord read
  rw [toRecord_of_datable d] at read
  obtain ⟨c, rfl⟩ := checked_ok_iff.mp read
  exact ⟨keeps_of_ofRecord (Record.consistent_documented_iff.mp c) d written, ms, rfl⟩

namespace Keeps

variable (k : row.Keeps r)

include k

theorem consistent : r.Consistent := (keeps_iff.mp k).1

theorem datable : r.Datable := (keeps_iff.mp k).2.1

theorem eq_withDocument : ∃ ms, row = withDocument r ms := by
  obtain ⟨_, _, ms, _, _, rfl⟩ := keeps_iff.mp k
  exact ⟨ms, rfl⟩

theorem id : row.id = r.id := by
  obtain ⟨ms, rfl⟩ := k.eq_withDocument
  rfl

theorem recipient : row.recipient = r.recipient := by
  obtain ⟨ms, rfl⟩ := k.eq_withDocument
  rfl

theorem status : row.status = r.status.name := by
  obtain ⟨ms, rfl⟩ := k.eq_withDocument
  rfl

theorem createdAt : row.createdAt = Stamp.writeMicros r.createdAt := by
  obtain ⟨ms, rfl⟩ := k.eq_withDocument
  rfl

/-- There are no objects in the metadata of a record that a row keeps. -/
theorem not_holdsObject : ¬r.HoldsObject := by
  obtain ⟨_, _, ms, _, hmetadata, _⟩ := keeps_iff.mp k
  have hdocumented : r.documented ms = r := by rw [Record.documented, ← hmetadata]
  exact hdocumented ▸ Record.not_holdsObject_documented r ms

/-- After a move the record can be kept again. -/
theorem after {m : Record.Move} (h : r.after m = .ok r') :
    ∃ row', Row.ofRecord r' = .ok row' ∧ row'.Keeps r' := by
  obtain ⟨c, d, ms, hms, hmetadata, _⟩ := keeps_iff.mp k
  obtain ⟨status, a, _, _, _, hr'⟩ := Record.after_eq_moved h
  have d' : r'.Datable := by
    rw [hr']
    exact d.moved
  have hmetadata' : r'.metadata = Record.fromDocument ms :=
    ((Record.later_of_after h).metadata_eq k.not_holdsObject).trans hmetadata
  have k' : (withDocument r' ms).Keeps r' := keeps_iff.mpr ⟨c.after h, d', ms, hms, hmetadata', rfl⟩
  exact ⟨_, k'.written, k'⟩

end Keeps

end Row

end Courier

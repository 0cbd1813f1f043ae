import Courier.Event
import Courier.Form.Basic
import Courier.Json.Basic

/-!
# Records

A record tells of one delivery attempt: what was to be sent to whom, when, and how far it came. The
times and the error of a record fit its status (`Record.Consistent`): the record was not changed
before it was created, it has a time of sending once the transport has taken it over, a time of
delivery once that is confirmed, and an error exactly if the attempt failed.
-/

namespace Courier

/-- One delivery attempt. -/
structure Record where
  id : String
  recipient : String
  /-- The address handed to the transport. -/
  address : String
  subject : String
  htmlBody : String := ""
  textBody : String := ""
  eventType : String
  priority : Priority
  status : Status := .pending
  createdAt : Instant
  updatedAt : Instant
  sentAt : Option Instant := none
  deliveredAt : Option Instant := none
  error : Option String := none
  metadata : List (String × Value) := []
deriving Repr, Inhabited

namespace Record

/-- The times and the error of a record fit its status. -/
structure Consistent (r : Record) : Prop where
  created_le_updated : r.createdAt ≤ r.updatedAt
  sentAt_iff : r.sentAt.isSome = r.status.isHandedOver
  error_iff : r.error.isSome = decide (r.status = .failed)
  deliveredAt_iff : r.deliveredAt.isSome = decide (r.status = .delivered)

/-- The first way in which a record does not fit its status. -/
def inconsistency? (r : Record) : Option Problem :=
  if r.updatedAt < r.createdAt then some .updatedBeforeCreated
  else if r.sentAt.isSome != r.status.isHandedOver then some (.sentMismatch r.status)
  else if r.error.isSome != decide (r.status = .failed) then some (.errorMismatch r.status)
  else if r.deliveredAt.isSome != decide (r.status = .delivered) then
    some (.deliveredMismatch r.status)
  else none

theorem inconsistency?_eq_none_iff {r : Record} : r.inconsistency? = none ↔ r.Consistent := by
  unfold inconsistency?
  constructor
  · intro h
    split at h
    · simp at h
    · rename_i order
      split at h
      · simp at h
      · rename_i sent
        split at h
        · simp at h
        · rename_i error
          split at h
          · simp at h
          · rename_i delivered
            exact ⟨by simpa [Instant.lt_iff, Instant.le_iff] using order, by simpa using sent,
              by simpa using error, by simpa using delivered⟩
  · intro c
    have order : ¬r.updatedAt < r.createdAt := by
      have := c.created_le_updated
      simp only [Instant.lt_iff, Instant.le_iff] at *
      omega
    simp [order, c.sentAt_iff, c.error_iff, c.deliveredAt_iff]

/-! ## Records written out -/

/-- The record with the objects in its metadata unfolded, as it is written out. -/
def unfolded (r : Record) : Record :=
  { r with metadata := r.metadata.map fun m => (m.1, m.2.unfolded) }

/-- There is an object in the metadata. -/
def HoldsObject (r : Record) : Prop := ∃ m ∈ r.metadata, m.2.holdsObject = true

theorem unfolded_eq_self {r : Record} (h : ¬r.HoldsObject) : r.unfolded = r := by
  have each : ∀ m ∈ r.metadata, (m.1, m.2.unfolded) = m := fun m hm => by
    rw [Value.unfolded_eq_self (Bool.eq_false_iff.mpr fun holds => h ⟨m, hm, holds⟩)]
  rw [unfolded, List.map_congr_left each, List.map_id']

theorem unfolded_unfolded (r : Record) : r.unfolded.unfolded = r.unfolded := by
  simp [unfolded, Value.unfolded_unfolded]

/-! ## Checking forms -/

/-- Why a form is no record. -/
inductive Rejection where
  | issues (issues : List Issue)
  /-- A time of the form has no place in the calendar of universal time. -/
  | beyondCalendar

/-- The fields that hold times. -/
def timeFields : List String := ["created_at", "updated_at", "sent_at", "delivered_at"]

/-- Whether a value is a reading without an instant. -/
def isBeyondCalendar (v : Value) : Bool :=
  match Form.reading v with
  | .ok r => r.toInstant?.isNone
  | .wrong _ => false

/-- A time as an instant; readings beyond the calendar are set aside beforehand. -/
def instant (v : Value) : Checked Instant :=
  (Form.reading v).andThen fun r => match r.toInstant? with
    | some a => .ok a
    | none => .problem .notATime

/-- Any value. -/
def anything (v : Value) : Checked Value := .ok v

/-- A record whose times and error fit its status. -/
def checked (r : Record) : Checked Record :=
  match r.inconsistency? with
  | none => .ok r
  | some p => .problem p

/-- The record that a form describes, if its times lie within the calendar. -/
def ofForm (form : Bag) : Checked Record :=
  (Record.mk <$> Form.required form "id" Form.text <*>
    Form.required form "recipient_id" Form.text <*> Form.required form "to" Form.text <*>
    Form.required form "subject" Form.text <*> Form.field form "body" "" Form.text <*>
    Form.field form "text_body" "" Form.text <*> Form.required form "event_type" Form.text <*>
    Form.required form "priority"
      (Form.choice (Priority.all.map Priority.name) Priority.ofName?) <*>
    Form.field form "status" .pending (Form.choice (Status.all.map Status.name) Status.ofName?) <*>
    Form.required form "created_at" instant <*> Form.required form "updated_at" instant <*>
    Form.field form "sent_at" none (Form.optional instant) <*>
    Form.field form "delivered_at" none (Form.optional instant) <*>
    Form.field form "error" none (Form.optional Form.text) <*>
    Form.field form "metadata" [] (Form.entries anything)).andThen checked

/-- The record that a form describes. -/
def ofValue (v : Value) : Except Rejection Record :=
  match Form.ofValue "Notification" v with
  | .wrong issues => .error (.issues issues)
  | .ok form =>
    if timeFields.any fun name => (form.getText? name).any isBeyondCalendar then
      .error .beyondCalendar
    else match ofForm form with
      | .ok r => .ok r
      | .wrong issues => .error (.issues issues)

/-! ## Records as documents -/

/-- The metadata of a record as members of a document. -/
def metadataJson? (metadata : List (String × Value)) : Except Json.Fault (List (String × Json)) :=
  metadata.mapM fun m => (Json.ofValue? m.2).map fun j => (m.1, j)

/-- The record as a document. -/
def toJson? (r : Record) : Except Json.Fault Json := do
  let metadata ← metadataJson? r.metadata
  return .object [("id", .text r.id), ("recipient_id", .text r.recipient), ("to", .text r.address),
    ("subject", .text r.subject), ("body", .text r.htmlBody), ("text_body", .text r.textBody),
    ("event_type", .text r.eventType), ("priority", .text r.priority.name),
    ("status", .text r.status.name), ("created_at", .ofInstant r.createdAt),
    ("updated_at", .ofInstant r.updatedAt), ("sent_at", .ofInstant? r.sentAt),
    ("delivered_at", .ofInstant? r.deliveredAt), ("error", .ofText? r.error),
    ("metadata", .object metadata)]

end Record

end Courier

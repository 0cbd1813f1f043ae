import Courier.Calendar.Stamp
import Courier.Failure
import Courier.Preference.Basic
import Courier.Record.Basic

/-!
# Rows

A row keeps a record as texts: times as stamps of fixed width, whose order as texts is the order of
the times they stand for, statuses and priorities by name, and metadata as a document. Reading a
row back fails if one of its stamps cannot be read, which happens to years before 1000, or if its
parts do not fit together.

A row of preferences keeps the switches and the quiet hours as documents and the frequency by name.
Keeping preferences writes over every column but the recipient; reading them back checks all columns
like a form.
-/

namespace Courier

/-- A row of the table of records. -/
structure Row where
  id : String
  recipient : String
  address : String
  eventType : String
  priority : String
  status : String
  subject : String
  htmlBody : String
  textBody : String
  createdAt : String
  updatedAt : String
  sentAt : Option String
  deliveredAt : Option String
  error : Option String
  metadata : List (String × Json)
deriving Repr, Inhabited

namespace Row

/-- The row of a record. -/
def ofRecord (r : Record) : Except Failure Row :=
  match Record.metadataJson? r.metadata with
  | .error fault => .error (.unwritable fault)
  | .ok metadata => .ok {
      id := r.id
      recipient := r.recipient
      address := r.address
      eventType := r.eventType
      priority := r.priority.name
      status := r.status.name
      subject := r.subject
      htmlBody := r.htmlBody
      textBody := r.textBody
      createdAt := Stamp.writeMicros r.createdAt
      updatedAt := Stamp.writeMicros r.updatedAt
      sentAt := r.sentAt.map Stamp.writeMicros
      deliveredAt := r.deliveredAt.map Stamp.writeMicros
      error := r.error
      metadata := metadata }

/-- The instant that a stamp stands for. -/
def instant (stamp : String) : Except Failure Instant :=
  match Stamp.read stamp with
  | .ok a => .ok a
  | .error fault => .error (.unreadableStamp fault)

/-- The instant of a stamp that may be missing. -/
def instant? : Option String → Except Failure (Option Instant)
  | none => .ok none
  | some stamp => (instant stamp).map some

/-- A complaint about one field of a row. -/
def complaint (path : List String) (problem : Problem) : Failure :=
  .invalid "Notification" [⟨path, problem⟩]

/-- The priority of a name in a row. -/
def priorityOf (name : String) : Except Failure Priority :=
  match Priority.ofName? name with
  | some p => .ok p
  | none => .error (complaint ["priority"] (.notAChoice (Priority.all.map Priority.name)))

/-- The status of a name in a row. -/
def statusOf (name : String) : Except Failure Status :=
  match Status.ofName? name with
  | some s => .ok s
  | none => .error (complaint ["status"] (.notAChoice (Status.all.map Status.name)))

/-- A record whose parts fit together. -/
def checked (r : Record) : Except Failure Record :=
  match r.inconsistency? with
  | none => .ok r
  | some problem => .error (complaint [] problem)

/-- The record that a row keeps. -/
def toRecord (row : Row) : Except Failure Record := do
  let createdAt ← instant row.createdAt
  let updatedAt ← instant row.updatedAt
  let sentAt ← instant? row.sentAt
  let deliveredAt ← instant? row.deliveredAt
  let priority ← priorityOf row.priority
  let status ← statusOf row.status
  checked {
    id := row.id
    recipient := row.recipient
    address := row.address
    subject := row.subject
    htmlBody := row.htmlBody
    textBody := row.textBody
    eventType := row.eventType
    priority := priority
    status := status
    createdAt := createdAt
    updatedAt := updatedAt
    sentAt := sentAt
    deliveredAt := deliveredAt
    error := row.error
    metadata := row.metadata.map fun m => (m.1, m.2.toValue) }

end Row

/-- A row of the table of preferences. -/
structure PreferenceRow where
  recipient : String
  address : String := ""
  enabled : Bool := true
  switches : List (String × Json) := []
  frequency : String := Frequency.immediate.name
  quietHours : Json := .object []
deriving Repr, Inhabited

namespace PreferenceRow

/-- The row with preferences written over all its columns but the recipient. -/
def apply (row : PreferenceRow) (p : Preference) : PreferenceRow :=
  { row with
    address := p.address
    enabled := p.enabled
    switches := p.switches.map fun s => (s.1, .bool s.2)
    frequency := p.frequency.name
    quietHours := p.quietHours.toJson }

/-- The row of preferences. -/
def ofPreference (p : Preference) : PreferenceRow := apply { recipient := p.recipient } p

/-- A row of the recipient is not told apart from a new one once preferences are written over it. -/
theorem apply_eq_ofPreference {row : PreferenceRow} {p : Preference}
    (h : row.recipient = p.recipient) : row.apply p = ofPreference p := by
  simp only [apply, ofPreference, h]

/-- The row as a document. -/
def toJson (row : PreferenceRow) : Json :=
  .object [("recipient_id", .text row.recipient), ("email", .text row.address),
    ("enabled", .bool row.enabled), ("toggles", .object row.switches),
    ("frequency", .text row.frequency), ("quiet_hours", row.quietHours)]

/-- The preferences that a row keeps, checked like a form. -/
def toPreference (row : PreferenceRow) : Except Failure Preference :=
  match Preference.ofValue row.toJson.toValue with
  | .ok p => .ok p
  | .wrong issues => .error (.invalid "Preference" issues)

/-- The row of a recipient. -/
def find? (rows : List PreferenceRow) (recipient : String) : Option PreferenceRow :=
  rows.find? fun row => row.recipient == recipient

/-- The rows with preferences written over the row of their recipient, or over a new row. -/
def put : List PreferenceRow → Preference → List PreferenceRow
  | [], p => [ofPreference p]
  | row :: rest, p =>
    if row.recipient == p.recipient then row.apply p :: rest else row :: put rest p

end PreferenceRow

end Courier

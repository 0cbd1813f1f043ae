import Courier.Dispatch.Basic
import Courier.Preference.Policy
import Courier.Receipt
import Courier.Template.Message
import Courier.Transport.Delivery

/-!
# Sending

A send has two halves. `Dispatcher.start` does everything up to the call of the transport: it asks
the preferences, finds and renders the template and appends a pending record. Either the send ends
there, or it is in flight (`Flight`). `Dispatcher.finish` takes what became of the call and moves
the record forward; a call that took too long or was called off leaves the record pending.

Nothing happens between the two halves that a send in flight would have to know of, so sends in
flight are independent of each other but for the store that they share.

A send that meets a failure does not fail: the failure is logged and told in the receipt. What a
database says is kept from the caller, who gets one of two fixed texts instead.
-/

namespace Courier

/-- What the surroundings answer while a send is started. -/
structure Surroundings where
  clock : Except Failure Reading
  /-- A new identifier for a record made at a reading of the clock. -/
  newId : Reading → Except Failure String

/-- A send whose transport call is under way. -/
structure Flight where
  record : Record
deriving Repr, Inhabited

/-- What became of a transport call. -/
inductive Completion where
  | reported (d : Delivery)
  | raised (f : Failure)
  | timedOut
  | cancelled
deriving Repr

/-- How a send ends. -/
inductive Ending where
  | receipt (r : Receipt)
  | cancelled
  /-- The program is being stopped. -/
  | stopped (f : Failure)
deriving Repr

/-- How far a send has come. -/
inductive Progress where
  | ended (e : Ending)
  | flying (f : Flight)
deriving Repr

namespace Dispatcher

/-- What a caller is told when there is no template. -/
def templateNotFound : String := "template not found"

/-- What a caller is told when the record could not be appended. -/
def recordFailed : String := "failed to record notification"

/-- What a caller is told when the store failed otherwise. -/
def historyUnavailable : String := "notification history unavailable"

/-! ## Log -/

/-- The fields in force during a send. -/
def outerScope (recipient eventType : String) : Log.Fields :=
  [("recipient_id", .text recipient), ("event_type", .text eventType)]

/-- The fields in force once there is a record. -/
def innerScope (r : Record) : Log.Fields :=
  outerScope r.recipient r.eventType ++ [("notification_id", .text r.id)]

/-- Entries made within a scope. -/
def within (scope : Log.Fields) (entries : List Log.Entry) : List Log.Entry :=
  entries.map fun e => e.under scope

/-- The entry about a recipient who does not want to be notified. -/
def deniedEntry (q : Request) (reason : String) : Log.Entry :=
  source.entry .info ("Notification blocked for " ++ q.recipient ++ ": " ++ reason)
    [("event", .text "notification.denied"), ("reason", .text reason)]

/-- The entry about an event type without a template. -/
def templateMissingEntry (q : Request) : Log.Entry :=
  source.entry .warning ("No active template for event type '" ++ q.eventType ++ "'")
    [("event", .text "notification.template_missing")]

/-- The entry about a failure, with a message that ends in its text. -/
def failureEntry (message : String) (f : Failure) : Log.Entry :=
  { source.entry .error (message ++ ": " ++ f.text)
      [("event", .text "notification.error"), ("error_type", .text f.label)] with
    failure := some f.trace }

/-- The entry about a record that could not be appended. -/
def recordFailedEntry (r : Record) (f : Failure) : Log.Entry :=
  failureEntry ("Failed to record notification " ++ r.id) f

/-- The entry about any other failure of a send. -/
def unexpectedEntry (eventType recipient : String) (f : Failure) : Log.Entry :=
  failureEntry ("Unexpected error sending " ++ eventType ++ " notification to " ++ recipient) f

/-- The entry about a record that was appended. -/
def pendingEntry (r : Record) (template : Template) : Log.Entry :=
  source.entry .debug ("Recorded pending notification " ++ r.id)
    [("event", .text "notification.pending"), ("template_id", .text template.id)]

/-- The entry about a send that was called off. -/
def cancelledEntry (r : Record) : Log.Entry :=
  source.entry .warning "Send cancelled; record left pending"
    [("event", .text "notification.cancelled"), ("notification_id", .text r.id)]

/-- What a caller is told of a transport call that took too long. -/
def timeoutText (timeout : Number) : String :=
  "transport timed out after " ++ timeout.brief ++ "s"

/-- The entry about a transport call that took too long. -/
def timeoutEntry (r : Record) (timeout : Number) : Log.Entry :=
  source.entry .warning ("Notification " ++ r.id ++ " left pending: " ++ timeoutText timeout)
    [("event", .text "notification.timeout"), ("timeout_seconds", timeout.toValue)]

/-- The entry about a notification that the transport took over. -/
def sentEntry (r : Record) : Log.Entry :=
  source.entry .info ("Notification " ++ r.id ++ " sent to " ++ r.address)
    [("event", .text "notification.sent"), ("priority", .text r.priority.name)]

/-- The entry about a notification that the transport refused. -/
def failedEntry (r : Record) (error : String) : Log.Entry :=
  source.entry .warning ("Notification " ++ r.id ++ " failed: " ++ error)
    [("event", .text "notification.failed")]

/-! ## Up to the transport call -/

/-- The failure as a caller is told of it. -/
def toldError (f : Failure) : String := if f.isPersistence then historyUnavailable else f.shown

/-- How a send ends that met a failure, and the entries about it. -/
def unexpected (eventType recipient : String) (id : Option String) (f : Failure) :
    Ending × List Log.Entry :=
  if f.isInterrupt then (.stopped f, [])
  else (.receipt ⟨false, id, some (toldError f)⟩, [unexpectedEntry eventType recipient f])

/-- The metadata of a new record: what the request gives and the identifier of the template. -/
def metadataOf (q : Request) (template : Template) : Bag :=
  Bag.put q.metadata (.text "template_id") (.text template.id)

/-- The record of a new attempt. -/
def newRecord (q : Request) (p : Option Preference) (template : Template) (m : Message)
    (id : String) (now : Reading) : Except Failure Record :=
  match now.toInstant? with
  | none => .error .beyondCalendar
  | some a =>
    match (Form.entries Record.anything (.dict (metadataOf q template))).within "metadata" with
    | .wrong issues => .error (.invalid "Notification" issues)
    | .ok metadata => .ok {
        id := id
        recipient := q.recipient
        address := match p with
          | some p => p.address
          | none => q.recipient
        subject := m.subject
        htmlBody := m.htmlBody
        textBody := m.textBody
        eventType := q.eventType
        priority := Event.priority q.eventType
        status := .pending
        createdAt := a
        updatedAt := a
        metadata := metadata }

/-- What comes of a request before anything is changed. -/
inductive Plan where
  /-- There is nothing to send, for this reason. -/
  | declined (reason : String)
  | failed (f : Failure)
  | ready (r : Record) (template : Template)

/-- The record for a template that was found. -/
def draft (q : Request) (p : Option Preference) (template : Template) (s : Surroundings) :
    Plan × List Log.Entry :=
  let rendered := Message.render template q.values
  let plan : Plan := match rendered.answer with
    | .error f => .failed f
    | .ok message =>
      match s.clock with
      | .error f => .failed f
      | .ok now =>
        match s.newId now with
        | .error f => .failed f
        | .ok id =>
          match newRecord q p template message id now with
          | .error f => .failed f
          | .ok r => .ready r template
  (plan, rendered.log)

/-- What comes of a request: the preferences are asked first, then the templates. -/
def plan (d : Dispatcher) (q : Request) (s : Surroundings) : Plan × List Log.Entry :=
  let asked := d.store.preference? q.recipient
  match asked.answer with
  | .error f => (.failed f, asked.log)
  | .ok p =>
    match (Preference.decision p q.eventType).reason? with
    | some reason => (.declined reason, asked.log ++ [deniedEntry q reason])
    | none =>
      match d.registry.find? q.eventType with
      | none => (.declined templateNotFound, asked.log ++ [templateMissingEntry q])
      | some template =>
        let (plan, log) := draft q p template s
        (plan, asked.log ++ log)

/-- The first half of a send. -/
def start (d : Dispatcher) (q : Request) (s : Surroundings) :
    Dispatcher × Progress × List Log.Entry :=
  let scope := outerScope q.recipient q.eventType
  match d.plan q s with
  | (.declined reason, log) =>
    (d, .ended (.receipt ⟨false, none, some reason⟩), within scope log)
  | (.failed f, log) =>
    let (ending, more) := unexpected q.eventType q.recipient none f
    (d, .ended ending, within scope (log ++ more))
  | (.ready r template, log) =>
    let (store, appended) := d.store.append r
    let d := { d with store := store }
    match appended.answer with
    | .error f =>
      if f.isInterrupt then
        (d, .ended (.stopped f), within scope log ++ within (innerScope r) appended.log)
      else
        (d, .ended (.receipt ⟨false, none, some recordFailed⟩),
          within scope log ++ within (innerScope r) (appended.log ++ [recordFailedEntry r f]))
    | .ok _ =>
      (d, .flying ⟨r⟩,
        within scope log ++ within (innerScope r) (appended.log ++ [pendingEntry r template]))

/-! ## After the transport call -/

/-- The request to move a record that a report leads to. -/
def moveFor (report : Delivery) (now : Reading) : Record.Move :=
  match report with
  | .accepted => ⟨Status.sent.name, now, none⟩
  | .refused error => ⟨Status.failed.name, now, error⟩

/-- The receipt for a report, and the entry about it, once the record has been moved. -/
def settled (r updated : Record) (report : Delivery) : Receipt × Log.Entry :=
  match report with
  | .accepted => (⟨true, some r.id, none⟩, sentEntry r)
  | .refused _ =>
    (⟨false, some r.id, updated.error⟩, failedEntry r (updated.error.getD "None"))

/-- The second half of a send for a transport that reported. -/
def conclude (d : Dispatcher) (flight : Flight) (report : Delivery)
    (clock : Except Failure Reading) : Dispatcher × Ending × List Log.Entry :=
  let r := flight.record
  match clock with
  | .error f =>
    let (ending, more) := unexpected r.eventType r.recipient (some r.id) f
    (d, ending, within (outerScope r.recipient r.eventType) more)
  | .ok now =>
    let (store, moved) := d.store.move r.id (moveFor report now)
    let d := { d with store := store }
    match moved.answer with
    | .error f =>
      let (ending, more) := unexpected r.eventType r.recipient (some r.id) f
      (d, ending,
        within (innerScope r) moved.log ++ within (outerScope r.recipient r.eventType) more)
    | .ok updated =>
      let (receipt, entry) := settled r updated report
      (d, .receipt receipt, within (innerScope r) (moved.log ++ [entry]))

/-- The second half of a send. -/
def finish (d : Dispatcher) (flight : Flight) (c : Completion) (clock : Except Failure Reading) :
    Dispatcher × Ending × List Log.Entry :=
  let r := flight.record
  match c with
  | .cancelled => (d, .cancelled, within (outerScope r.recipient r.eventType) [cancelledEntry r])
  | .timedOut =>
    (d, .receipt ⟨false, some r.id, some (timeoutText d.timeout)⟩,
      within (innerScope r) [timeoutEntry r d.timeout])
  | .reported report => d.conclude flight report clock
  | .raised f =>
    if f.isInterrupt then (d, .stopped f, [])
    else d.conclude flight (.refused (some f.shown)) clock

end Dispatcher

end Courier

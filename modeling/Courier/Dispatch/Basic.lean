import Courier.Dispatch.Request
import Courier.Store.Basic
import Courier.Stats.Basic
import Courier.Template.Registry
import Courier.Value.Number

/-!
# Dispatchers

A dispatcher holds what sending needs: registered templates, a store, links for messages, the time a
transport may take and the number of records that a query shows unless told otherwise.

Here are the operations beside sending itself, which is in `Courier.Dispatch.Send`.
-/

namespace Courier

/-- What sending needs. -/
structure Dispatcher where
  store : Store := {}
  registry : Registry := []
  links : Links := {}
  /-- How long a transport may take. -/
  timeout : Number := .real (Double.ofInt 30)
  /-- How many records a query shows. -/
  limit : Int := 50
deriving Inhabited

namespace Dispatcher

/-- The place that speaks for sending. -/
def source : Log.Source := ⟨"notify_engine.notifications.service", some "notification"⟩

/-- A dispatcher, if a transport is given any time at all. -/
def create (store : Store) (links : Links) (timeout : Number) (limit : Int) :
    Except Failure Dispatcher :=
  if timeout.isNonpositive then .error (.nonpositiveTimeout timeout.text)
  else .ok { store := store, links := links, timeout := timeout, limit := limit }

/-- The dispatcher with templates registered in place of those from before. -/
def register (d : Dispatcher) (templates : Registry) : Dispatcher × List Log.Entry :=
  ({ d with registry := templates }, [templates.registeredEntry])

/-- The entry about preferences that were kept. -/
def preferenceEntry (p : Preference) : Log.Entry :=
  source.entry .info ("Preferences updated for " ++ p.recipient)
    [("event", .text "preferences.updated"), ("recipient_id", .text p.recipient),
     ("enabled", .bool p.enabled)]

/-- The dispatcher with preferences kept. -/
def putPreference (d : Dispatcher) (p : Preference) : Dispatcher × Reply Unit :=
  let (store, reply) := d.store.putPreference p
  let done := match reply.answer with
    | .ok _ => [preferenceEntry p]
    | .error _ => []
  ({ d with store := store }, ⟨reply.answer, reply.log ++ done⟩)

/-- The first records of a recipient with the latest first. -/
def history (d : Dispatcher) (recipient : String) (limit : Option Int) : Reply (List Record) :=
  d.store.query recipient (limit.getD d.limit)

/-- Counts over all records, or over those of a recipient. -/
def stats (d : Dispatcher) (recipient : Option String) : Reply Stats :=
  (d.store.all recipient).map Stats.ofRecords

/-- The entry about a confirmed delivery. -/
def deliveredEntry (id : String) : Log.Entry :=
  source.entry .info ("Notification " ++ id ++ " delivered")
    [("event", .text "notification.delivered"), ("notification_id", .text id)]

/-- The dispatcher after a confirmation that a notification has arrived. -/
def markDelivered (d : Dispatcher) (id : String) (clock : Except Failure Reading) :
    Dispatcher × Reply Record :=
  match clock with
  | .error f => (d, .quiet (.error f))
  | .ok now =>
    let (store, reply) := d.store.move id ⟨Status.delivered.name, now, none⟩
    let done := match reply.answer with
      | .ok _ => [deliveredEntry id]
      | .error _ => []
    ({ d with store := store }, ⟨reply.answer, reply.log ++ done⟩)

end Dispatcher

end Courier

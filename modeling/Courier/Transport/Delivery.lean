import Courier.Failure
import Courier.Record.Basic

/-!
# What a transport reports

A transport takes a notification over or refuses it, mostly with a reason. A transport that fails
to deliver reports so; only failures that have nothing to do with delivery reach the sender as
failures (`Delivery.ofReply`).
-/

namespace Courier

/-- What a transport reports of one notification. -/
inductive Delivery where
  | accepted
  | refused (error : Option String)
deriving DecidableEq, Repr, Inhabited

namespace Delivery

/-- Whether the transport took the notification over. -/
def isAccepted : Delivery → Bool
  | accepted => true
  | refused _ => false

/-- The reason of a refusal. -/
def error? : Delivery → Option String
  | accepted => none
  | refused error => error

/-- The report as a document. -/
def toJson (d : Delivery) : Json :=
  .object [("success", .bool d.isAccepted), ("error", .ofText? d.error?)]

/-- The place that speaks for all transports. -/
def source : Log.Source := ⟨"notify_engine.transports.base", some "transport"⟩

/-- The entry about a delivery that failed. -/
def failedEntry (transport : String) (r : Record) (fault : DeliveryFault) : Log.Entry :=
  source.entry .warning (transport ++ " delivery failed for " ++ r.id ++ ": " ++ fault.message)
    [("event", .text "transport.failure"), ("transport", .text transport)]

/-- The report of a transport of the given name on its attempt to deliver a record. -/
def ofReply (transport : String) (r : Record) (reply : Reply Unit) : Reply Delivery :=
  match reply.answer with
  | .ok _ => ⟨.ok .accepted, reply.log⟩
  | .error (.delivery fault) =>
    ⟨.ok (.refused (some fault.message)), reply.log ++ [failedEntry transport r fault]⟩
  | .error failure => ⟨.error failure, reply.log⟩

end Delivery

end Courier

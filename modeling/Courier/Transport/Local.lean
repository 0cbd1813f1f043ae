import Courier.Transport.Delivery

/-!
# Delivery without a network

Two transports do not leave the machine. One writes to the log what it would send. The other
imitates a network: it takes its time, and a draw decides whether it takes a notification over.
-/

namespace Courier

namespace LogTransport

/-- The entry that stands for a notification. -/
def sentEntry (r : Record) : Log.Entry :=
  (⟨"notify_engine.transports.local", some "transport"⟩ : Log.Source).entry .info
    ("Would send '" ++ r.subject ++ "' to " ++ r.address)
    [("event", .text "transport.log.sent"), ("notification_id", .text r.id),
      ("priority", .text r.priority.name)]

/-- The delivery of a record to the log. -/
def deliver (r : Record) : Reply Delivery := ⟨.ok .accepted, [sentEntry r]⟩

end LogTransport

/-- A transport that imitates a network. -/
structure SimulatedTransport where
  /-- The share of notifications that are taken over. -/
  successRate : Number
  /-- How long a delivery takes, in seconds. -/
  latency : Number
  isShare_successRate : successRate.isShare
  isNegative_latency : latency.isNegative = false

namespace SimulatedTransport

/-- The reason of every refusal. -/
def refusal : String := "SMTP server unavailable"

/-- The transport of some settings. -/
def create (successRate latency : Number) : Except SetupFault SimulatedTransport :=
  if share : successRate.isShare then
    if negative : latency.isNegative then .error (.negativeLatency latency.text)
    else .ok ⟨successRate, latency, share, by simpa using negative⟩
  else .error (.notAShare successRate.text)

/-- The report for a draw from the numbers from zero up to one. -/
def deliver (t : SimulatedTransport) (draw : Double) : Delivery :=
  if draw.lt t.successRate.toDouble then .accepted else .refused (some refusal)

/-- Whether a delivery takes longer than there is time. -/
def isLate (t : SimulatedTransport) (timeout : Number) : Bool :=
  timeout.toDouble.le t.latency.toDouble

end SimulatedTransport

end Courier

import Courier.Mishap
import Courier.Value.Number
import Courier.Value.Whole

/-!
# What goes wrong with a transport

A `SetupFault` says why a transport cannot be made from its settings. A `DeliveryFault` says why a
transport refused a notification; the sender learns of it from the report, not from a failure.
-/

namespace Courier

/-- Why a transport cannot be made. -/
inductive SetupFault where
  /-- There is no mail server to talk to. -/
  | hostless
  /-- The port of the mail server is none. -/
  | port (fault : WholeFault)
  | portOutOfRange (shown : String)
  /-- The provider has no web address, or this one. -/
  | notAnEndpoint (endpoint : Option String)
  | notAShare (shown : String)
  | negativeLatency (shown : String)
  /-- There is no transport of this name. -/
  | unknownKind (name : String)
deriving DecidableEq, Repr

namespace SetupFault

/-- The name of a fault. -/
def label : SetupFault → String
  | port fault => fault.label
  | notAShare _ | negativeLatency _ => "ValueError"
  | hostless | portOutOfRange _ | notAnEndpoint _ | unknownKind _ => "TransportConfigurationError"

/-- What a caller is told. -/
def message : SetupFault → String
  | hostless => "SMTP transport requires a host"
  | port fault => fault.message
  | portOutOfRange shown => "Invalid SMTP port: " ++ shown
  | notAnEndpoint endpoint =>
    "HTTP transport endpoint must be an http(s) URL, got: " ++
      (endpoint.map Text.quoted).getD "None"
  | notAShare shown => "success_rate must be between 0 and 1, got: " ++ shown
  | negativeLatency shown => "latency_seconds cannot be negative, got: " ++ shown
  | unknownKind name => "Unknown transport type: " ++ name

end SetupFault

/-- Why a transport refused a notification. -/
inductive DeliveryFault where
  /-- The recipient has no proper mail address. -/
  | badRecipient (address reason : String)
  /-- The mail server objected. -/
  | mail (reason : String)
  /-- The mail server could not be reached. -/
  | network (reason : String)
  /-- The provider took longer than this. -/
  | requestTimedOut (timeout : Number)
  | request (reason : String)
  /-- The provider answered with a status that is none of success. -/
  | status (code : Int) (body : String)
deriving Repr

namespace DeliveryFault

/-- The name of a fault. -/
def label : DeliveryFault → String
  | badRecipient .. | mail _ | network _ => "SMTPDeliveryError"
  | requestTimedOut _ | request _ | status .. => "HTTPDeliveryError"

/-- How much of a provider's answer is told. -/
def bodyLimit : Nat := 200

/-- What the sender is told. -/
def message : DeliveryFault → String
  | badRecipient address reason => "Invalid recipient address '" ++ address ++ "': " ++ reason
  | mail reason => "SMTP error during message delivery: " ++ reason
  | network reason => "Network error during SMTP connection: " ++ reason
  | requestTimedOut timeout => "Provider request timed out after " ++ timeout.text ++ "s"
  | request reason => "Provider request failed: " ++ reason
  | status code body =>
    "Provider returned HTTP " ++ Value.intText code ++ ": " ++
      String.ofList (body.toList.take bodyLimit)

end DeliveryFault

end Courier

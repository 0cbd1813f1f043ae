import Courier.Form.Basic
import Courier.Json.Basic
import Courier.Text.Given

/-!
# Settings of the transport

Which transport delivers, how long it may take, and what it needs to know. Secrets are not among
these settings.

The numbers of accepted settings keep their limits, whatever form the settings were read from.
-/

namespace Courier

/-- The ways to deliver. -/
inductive TransportKind where
  | smtp
  | http
  | log
  | simulated
deriving DecidableEq, Repr, Inhabited

namespace TransportKind

/-- The name of a transport. -/
def name : TransportKind → String
  | smtp => "smtp"
  | http => "http"
  | log => "log"
  | simulated => "simulated"

/-- Every transport, in the order in which they are listed to users. -/
def all : List TransportKind := [smtp, http, log, simulated]

/-- The transport of a name. -/
def ofName? (s : String) : Option TransportKind := all.find? fun kind => kind.name == s

end TransportKind

/-- Settings of the transport. -/
structure TransportSettings where
  kind : TransportKind := .log
  timeout : Double := Double.ofInt 30
  useTls : Bool := true
  senderName : Option String := none
  senderAddress : Option String := none
  endpoint : Option String := none
  successRate : Double := Double.ofRatio false 9 10
  latency : Double := Double.ofInt 1
deriving DecidableEq, Repr, Inhabited

namespace TransportSettings

open Form

/-- The web address of a provider. -/
def endpointOf (v : Value) : Checked (Option String) :=
  (optional text v).andThen fun
    | none => .ok none
    | some s =>
      let trimmed := Text.trim s
      if Text.isWebAddress trimmed then .ok (some trimmed)
      else .problem (.notAnEndpoint s)

/-- The limits of the time that a transport may take, in seconds. -/
def timeoutBounds : List Bound := [.atMost 300, .above 0]

/-- The limits of a share. -/
def shareBounds : List Bound := [.atMost 1, .atLeast 0]

/-- The limits of an artificial delay, in seconds. -/
def latencyBounds : List Bound := [.atMost 60, .atLeast 0]

/-- The settings that a form describes. -/
def ofValue (v : Value) : Checked TransportSettings :=
  (Form.ofValue "TransportConfig" v).andThen fun form =>
    TransportSettings.mk <$>
      field form "type" .log
        (choice (TransportKind.all.map TransportKind.name) TransportKind.ofName?) <*>
      field form "timeout_seconds" (Double.ofInt 30) (numberWithin timeoutBounds) <*>
      field form "use_tls" true boolean <*>
      field form "sender_name" none (optional text) <*>
      field form "sender_email" none (optional text) <*>
      field form "endpoint" none endpointOf <*>
      field form "simulated_success_rate" (Double.ofRatio false 9 10) (numberWithin shareBounds) <*>
      field form "simulated_latency_seconds" (Double.ofInt 1) (numberWithin latencyBounds)

/-- The settings as a document. -/
def toJson (s : TransportSettings) : Json :=
  .object [("type", .text s.kind.name), ("timeout_seconds", .float s.timeout),
    ("use_tls", .bool s.useTls), ("sender_name", .ofText? s.senderName),
    ("sender_email", .ofText? s.senderAddress), ("endpoint", .ofText? s.endpoint),
    ("simulated_success_rate", .float s.successRate),
    ("simulated_latency_seconds", .float s.latency)]

end TransportSettings

end Courier

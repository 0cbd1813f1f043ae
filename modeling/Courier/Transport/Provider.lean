import Courier.Calendar.Stamp
import Courier.Text.Given
import Courier.Transport.Delivery

/-!
# Delivery through a provider

A `ProviderTransport` posts notifications to the web address of a provider. A status from 200 to
299 means that the provider took the notification over; any other is told together with the
beginning of what the provider has to say.
-/

namespace Courier

/-- What is known of a provider before it is checked. -/
structure ProviderSettings where
  endpoint : Option String := none
  key : Option String := none
  timeout : Number := .real (Double.ofInt 30)
  agent : String := "notify-engine/1.0"
deriving Inhabited

/-- A transport that posts to a provider. -/
structure ProviderTransport where
  endpoint : String
  /-- What the provider wants to see of the one who posts. -/
  key : Option String
  timeout : Number
  agent : String
  isWebAddress_endpoint : Text.isWebAddress endpoint

/-- What a provider is posted. -/
structure Post where
  endpoint : String
  payload : List (String × Value)
  timeout : Number
deriving Repr

/-- What became of a post. -/
inductive ProviderAnswer where
  | status (code : Int) (body : String)
  | lost (m : Mishap)
deriving DecidableEq, Repr

namespace ProviderTransport

/-- The transport of some settings. -/
def create (s : ProviderSettings) : Except SetupFault ProviderTransport :=
  match s.endpoint with
  | none => .error (.notAnEndpoint none)
  | some endpoint =>
    if h : Text.isWebAddress endpoint then
      .ok {
        endpoint := endpoint
        key := s.key.filter fun key => !key.isEmpty
        timeout := s.timeout
        agent := s.agent
        isWebAddress_endpoint := h }
    else .error (.notAnEndpoint (some endpoint))

/-- The head of every post. -/
def headers (t : ProviderTransport) : List (String × String) :=
  ("User-Agent", t.agent) :: (t.key.map fun key => ("Authorization", "Bearer " ++ key)).toList

/-- A record as the provider gets it. -/
def payload (r : Record) : List (String × Value) :=
  [("id", .text r.id), ("to", .text r.address), ("subject", .text r.subject),
    ("html", .text r.htmlBody), ("text", .text r.textBody), ("type", .text r.eventType),
    ("priority", .text r.priority.name), ("created_at", .text (Stamp.write r.createdAt)),
    ("metadata", .dict (r.metadata.map fun e => (.text e.1, e.2)))]

/-- The post of a record. -/
def post (t : ProviderTransport) (r : Record) : Post := ⟨t.endpoint, payload r, t.timeout⟩

/-- Whether a status means success. -/
def isSuccess (code : Int) : Bool := 200 ≤ code && code < 300

/-- The entry about a notification that the provider took over. -/
def acceptedEntry (r : Record) (code : Int) : Log.Entry :=
  (⟨"notify_engine.transports.http", some "transport"⟩ : Log.Source).entry .debug
    ("Provider accepted " ++ r.id)
    [("event", .text "transport.http.accepted"), ("status_code", .int code)]

/-- What an answer of the provider means to the sender. -/
def judge (t : ProviderTransport) (r : Record) : ProviderAnswer → Reply Unit
  | .status code body =>
    if isSuccess code then ⟨.ok (), [acceptedEntry r code]⟩
    else .quiet (.error (.delivery (.status code body)))
  | .lost m =>
    if m.isRequestTimeout then .quiet (.error (.delivery (.requestTimedOut t.timeout)))
    else if m.isRequest then .quiet (.error (.delivery (.request m.text)))
    else .quiet (.error (.mishap m))

/-- The report on a record that was posted. -/
def deliver (t : ProviderTransport) (answer : Post → ProviderAnswer) (r : Record) :
    Reply Delivery :=
  Delivery.ofReply "http" r (t.judge r (answer (t.post r)))

end ProviderTransport

end Courier

import Courier.Text.Given
import Courier.Transport.Delivery
import Courier.Transport.MailMessage

/-!
# Delivery by mail

A `MailTransport` hands mails to a mail server. A conversation with the server is a list of calls:
connecting, securing the connection, logging in, sending, quitting. The server may object to any of
them (`MailServer`); the conversation ends there, except that a connection once made is always
given up by quitting (`MailTransport.deliver`).

One port is secured from the start. On any other the connection is secured after it was made, if the
settings ask for it. There is a login only with a name and a password.
-/

namespace Courier

/-- The steps of a conversation with a mail server. -/
inductive MailStep where
  | connect
  | secure
  | logIn
  | send
  | quit
deriving DecidableEq, Repr, Inhabited

/-- What a mail server objects to. -/
abbrev MailServer := MailStep → Option Mishap

/-- A call to a mail server. -/
inductive MailCall where
  | connect (secured : Bool) (host : String) (port : Nat) (timeout : Number)
  | secure
  | logIn (user password : String)
  | send (recipient : String)
  | quit
deriving DecidableEq, Repr

/-- The step that a call takes. -/
def MailCall.step : MailCall → MailStep
  | connect .. => .connect
  | secure => .secure
  | logIn .. => .logIn
  | send _ => .send
  | quit => .quit

/-- What is known of a mail server before it is checked. -/
structure MailSettings where
  host : Option String := none
  port : Value := .int 587
  user : Option String := none
  password : Option String := none
  useTls : Bool := true
  senderName : Option String := some MailAddress.defaultSenderName
  senderAddress : Option String := none
  timeout : Number := .real (Double.ofInt 30)
deriving Inhabited

/-- A transport that hands mails to a mail server. -/
structure MailTransport where
  host : String
  port : Nat
  user : Option String
  password : Option String
  useTls : Bool
  senderName : String
  senderAddress : Option String
  timeout : Number
  port_within : 1 ≤ port ∧ port ≤ 65535

/-- What became of a delivery: the calls to the mail server, the log and the answer. -/
structure MailSession where
  calls : List MailCall
  log : List Log.Entry
  answer : Except Failure Delivery

namespace MailTransport

/-- The port on which the connection is secured from the start. -/
def securedPort : Nat := 465

theorem toNat_within {port : Int} (h : 1 ≤ port ∧ port ≤ 65535) :
    1 ≤ port.toNat ∧ port.toNat ≤ 65535 := by
  omega

/-- The transport of some settings. -/
def create (s : MailSettings) : Except SetupFault MailTransport :=
  match Text.given s.host with
  | none => .error .hostless
  | some host =>
    match s.port.whole? with
    | .error fault => .error (.port fault)
    | .ok port =>
      if h : 1 ≤ port ∧ port ≤ 65535 then
        .ok {
          host := host
          port := port.toNat
          user := s.user
          password := s.password
          useTls := s.useTls
          senderName := s.senderName.getD "None"
          senderAddress := s.senderAddress
          timeout := s.timeout
          port_within := toNat_within h }
      else
        match s.port.text? with
        | .ok shown => .error (.portOutOfRange shown)
        | .error fault => .error (.portOutOfRange fault.message)

/-- The address that mails come from. -/
def address (t : MailTransport) : String :=
  ((Text.given t.senderAddress).or (Text.given t.user)).getD ("noreply@" ++ t.host)

/-- Name and address of the sender. -/
def sender (t : MailTransport) : String := t.senderName ++ " <" ++ t.address ++ ">"

/-- The mail for a record, made with a library. -/
def messageWith (library : MailLibrary) (t : MailTransport) (r : Record) :
    Except Failure MailMessage :=
  MailMessage.ofRecord library t.sender r

/-- The mail for a record. -/
def message (t : MailTransport) (r : Record) : Except Failure MailMessage :=
  t.messageWith .standard r

/-- Whether the connection is secured from the start. -/
def isSecuredFromStart (t : MailTransport) : Bool := t.port == securedPort

/-- The calls that deliver a mail, if nothing goes wrong. -/
def plan (t : MailTransport) (recipient : String) : List MailCall :=
  [.connect t.isSecuredFromStart t.host t.port t.timeout] ++
  (if !t.isSecuredFromStart && t.useTls then [.secure] else []) ++
  (match Text.given t.user, Text.given t.password with
    | some user, some password => [.logIn user password]
    | _, _ => []) ++
  [.send recipient]

/-- The calls made until the server objects, and the objection. -/
def carryOut (server : MailServer) : List MailCall → List MailCall × Option Mishap
  | [] => ([], none)
  | call :: rest =>
    match server call.step with
    | some m => ([call], some m)
    | none =>
      let (made, objection) := carryOut server rest
      (call :: made, objection)

/-- What an objection of the server means to the sender. -/
def failureOf (m : Mishap) : Failure :=
  if m.isMail then .delivery (.mail m.text)
  else if m.isSystem then .delivery (.network m.text)
  else .mishap m

/-! ## Log -/

/-- The place that speaks for delivery by mail. -/
def source : Log.Source := ⟨"notify_engine.transports.smtp", some "transport"⟩

/-- The entry about a connection that is about to be made. -/
def connectingEntry (t : MailTransport) : Log.Entry :=
  source.entry .debug ("Connecting to " ++ t.host ++ ":" ++ Value.natText t.port ++
    if t.isSecuredFromStart then " with implicit TLS" else "")

/-- The entry about a mail that the server took over. -/
def acceptedEntry (r : Record) (recipient : String) : Log.Entry :=
  source.entry .debug ("Message " ++ r.id ++ " accepted for " ++ recipient)

/-- The entry about a connection that could not be given up properly. -/
def quitEntry (m : Mishap) : Log.Entry :=
  source.entry .warning ("Error closing SMTP connection: " ++ m.text)

/-! ## Delivery

A mail is made with a library; where none is named it is `MailLibrary.standard`. -/

/-- A conversation that delivers a mail. -/
def converse (t : MailTransport) (server : MailServer) (r : Record) (recipient : String) :
    List MailCall × Reply Unit :=
  let (made, objection) := carryOut server (t.plan recipient)
  let answer := match objection with
    | none => .ok ()
    | some m => .error (failureOf m)
  let log := t.connectingEntry :: (if objection.isNone then [acceptedEntry r recipient] else [])
  if (server .connect).isSome then (made, ⟨answer, log⟩)
  else
    match server .quit with
    | none => (made ++ [.quit], ⟨answer, log⟩)
    | some m =>
      if m.isInterrupt then (made ++ [.quit], ⟨.error (.mishap m), log⟩)
      else (made ++ [.quit], ⟨answer, log ++ [quitEntry m]⟩)

/-- The calls that an attempt to deliver a record makes, and what it comes to, with a library to make
the mail. Without a mail for the record there is no conversation. -/
def attemptWith (library : MailLibrary) (t : MailTransport) (server : MailServer) (r : Record) :
    List MailCall × Reply Unit :=
  match t.messageWith library r with
  | .error failure => ([], .quiet (.error failure))
  | .ok mail => t.converse server r mail.recipient

/-- The calls that an attempt to deliver a record makes, and what it comes to. -/
def attempt (t : MailTransport) (server : MailServer) (r : Record) : List MailCall × Reply Unit :=
  t.attemptWith .standard server r

/-- The delivery of a record, with a library to make the mail. -/
def deliverWith (library : MailLibrary) (t : MailTransport) (server : MailServer) (r : Record) :
    MailSession :=
  let (calls, reply) := t.attemptWith library server r
  let reply := Delivery.ofReply "smtp" r reply
  ⟨calls, reply.log, reply.answer⟩

/-- The delivery of a record. -/
def deliver (t : MailTransport) (server : MailServer) (r : Record) : MailSession :=
  t.deliverWith .standard server r

theorem attemptWith_of_error {library : MailLibrary} {t : MailTransport} {r : Record} {f : Failure}
    (h : t.messageWith library r = .error f) (server : MailServer) :
    t.attemptWith library server r = ([], .quiet (.error f)) := by
  rw [attemptWith, h]

theorem attemptWith_of_ok {library : MailLibrary} {t : MailTransport} {r : Record}
    {mail : MailMessage} (h : t.messageWith library r = .ok mail) (server : MailServer) :
    t.attemptWith library server r = t.converse server r mail.recipient := by
  rw [attemptWith, h]

theorem carryOut_sublist (server : MailServer) (calls : List MailCall) :
    (carryOut server calls).1 <+: calls := by
  induction calls with
  | nil => simp [carryOut]
  | cons call rest ih =>
    cases h : server call.step with
    | none => simpa [carryOut, h] using ih
    | some m => simp [carryOut, h]

end MailTransport

end Courier

import Courier.Settings.Requirement
import Courier.Transport.Local
import Courier.Transport.Mail
import Courier.Transport.Provider

/-!
# Transports

A transport is made from the settings of a file and those of the environment; where both say
something, the file is followed.
-/

namespace Courier

/-- The ways to deliver, with all they need. -/
inductive Transport where
  | mail (t : MailTransport)
  | provider (t : ProviderTransport)
  | log
  | simulated (t : SimulatedTransport)

namespace Transport

/-- The kind of a transport. -/
def kind : Transport → TransportKind
  | mail _ => .smtp
  | provider _ => .http
  | log => .log
  | simulated _ => .simulated

/-- What is known of the mail server. -/
def mailSettings (s : TransportSettings) (e : Environment) : MailSettings where
  host := e.mailHost
  port := .int (if e.mailPort.getD 0 = 0 then 587 else e.mailPort.getD 0)
  user := e.mailUser
  password := e.mailPassword
  useTls := s.useTls
  senderName := (Text.given s.senderName).or (some e.senderName)
  senderAddress := (Text.given s.senderAddress).or e.senderAddress
  timeout := .real s.timeout

/-- What is known of the provider. -/
def providerSettings (s : TransportSettings) (e : Environment) : ProviderSettings where
  endpoint := (Text.given s.endpoint).or e.endpoint
  key := e.key
  timeout := .real s.timeout

/-- The transport of some settings. -/
def create (s : TransportSettings) (e : Environment) : Except SetupFault Transport :=
  match s.kind with
  | .smtp => (MailTransport.create (mailSettings s e)).map mail
  | .http => (ProviderTransport.create (providerSettings s e)).map provider
  | .log => .ok log
  | .simulated =>
    (SimulatedTransport.create (.real s.successRate) (.real s.latency)).map simulated

/-- The transport of a name with the rest of the settings. -/
def createNamed (name : String) (s : TransportSettings) (e : Environment) :
    Except SetupFault Transport :=
  match TransportKind.ofName? name with
  | some kind => create { s with kind := kind } e
  | none => .error (.unknownKind name)

/-- The entry about a transport that was chosen. -/
def chosenEntry (t : Transport) : Log.Entry :=
  (⟨"notify_engine.transports.factory", some "transport"⟩ : Log.Source).entry .info
    ("Using " ++ t.kind.name ++ " transport")
    [("event", .text "transport.configured"), ("transport", .text t.kind.name)]

theorem kind_of_create {s : TransportSettings} {e : Environment} {t : Transport}
    (h : create s e = .ok t) : t.kind = s.kind := by
  unfold create at h
  split at h <;> rename_i hk <;> rw [hk]
  · cases hc : MailTransport.create (mailSettings s e) <;> rw [hc] at h <;>
      simp [Except.map] at h
    subst h; rfl
  · cases hc : ProviderTransport.create (providerSettings s e) <;> rw [hc] at h <;>
      simp [Except.map] at h
    subst h; rfl
  · simp at h; subst h; rfl
  · cases hc : SimulatedTransport.create (.real s.successRate) (.real s.latency) <;>
      rw [hc] at h <;> simp [Except.map] at h
    subst h; rfl

end Transport

end Courier

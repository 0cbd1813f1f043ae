import Courier.Settings.Application
import Courier.Settings.Environment

/-!
# What a transport needs

Mail needs a server with a port, and a provider needs a web address. Whether they are there depends
on the file and on the environment together.
-/

namespace Courier

/-- Something that a transport needs and does not have. -/
inductive Requirement where
  | mailHost
  | mailPort
  | endpoint
deriving DecidableEq, Repr

namespace Requirement

/-- What a user is told. -/
def message : Requirement → String
  | mailHost => "Missing required environment variable for smtp transport: SMTP_HOST"
  | mailPort => "Missing required environment variable for smtp transport: SMTP_PORT"
  | endpoint =>
    "http transport requires transport.endpoint in the config file " ++
      "or the NOTIFY_API_URL environment variable"

/-- What is missing for the transport of some settings. -/
def missing (s : TransportSettings) (e : Environment) : List Requirement :=
  match s.kind with
  | .smtp =>
    (if Text.given e.mailHost = none then [mailHost] else []) ++
      (if e.mailPort.getD 0 = 0 then [mailPort] else [])
  | .http =>
    if (Text.given s.endpoint).isNone && (Text.given e.endpoint).isNone then [endpoint] else []
  | .log | .simulated => []

/-- What to do about something missing. -/
def hint : TransportKind → List String
  | .smtp => ["Set SMTP_HOST and SMTP_PORT in .env"]
  | .http => ["Set NOTIFY_API_URL (and NOTIFY_API_KEY if the provider needs one)"]
  | .log | .simulated => []

/-- Nothing is missing, or a report on what is. -/
def check (s : TransportSettings) (e : Environment) : Except Report Unit :=
  match missing s e with
  | [] => .ok ()
  | first :: more => .error {
      heading := "Transport '" ++ s.kind.name ++ "' is not fully configured"
      problems := (first :: more).map message
      hints := hint s.kind ++ ["Use transport.type 'log' for local development"] }

theorem check_eq_ok_iff {s : TransportSettings} {e : Environment} :
    check s e = .ok () ↔ missing s e = [] := by
  unfold check
  split <;> simp_all

end Requirement

end Courier

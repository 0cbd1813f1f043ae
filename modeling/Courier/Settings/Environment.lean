import Courier.Log.Handler
import Courier.MailAddress.Sender
import Courier.Settings.Report
import Courier.Settings.Section
import Courier.Text.Given
import Courier.Value.Whole

/-!
# Settings from the environment

What must not stand in a file, names and passwords above all, comes from variables of the
environment. None of them is required here; `Environment.read` reports every variable that is set
to something unusable. A variable that is set to nothing counts as absent where it is checked.
-/

namespace Courier

/-- Settings from the environment. -/
structure Environment where
  mailHost : Option String := none
  mailPort : Option Int := none
  mailUser : Option String := none
  mailPassword : Option String := none
  senderName : String := MailAddress.defaultSenderName
  senderAddress : Option String := none
  endpoint : Option String := none
  key : Option String := none
  logLevel : Option String := none
  databaseUrl : Option String := none
deriving DecidableEq, Repr, Inhabited

namespace Environment

/-- The variables of the environment. -/
abbrev Variables := String → Option String

/-- What is wrong with a variable. -/
inductive Problem where
  | portOutOfRange (port : Int)
  | unreadablePort (text : String)
  | noPassword
  | noUser
  | senderAddress (text : String) (fault : MailAddress.Fault)
  | endpoint (text : String)
  | logLevel (text : String)
deriving Repr

/-- The names of all levels of the log. -/
def levelNames : List String := Log.Level.all.map Log.Level.name

/-- What a caller is told. -/
def Problem.message : Problem → String
  | portOutOfRange port =>
    "Invalid SMTP_PORT: " ++ Value.intText port ++ ". Must be between 1 and 65535."
  | unreadablePort text => "Invalid SMTP_PORT: '" ++ text ++ "'. Must be a valid integer."
  | noPassword =>
    "SMTP_USER is set but SMTP_PASS is not. Both must be set for authentication."
  | noUser => "SMTP_PASS is set but SMTP_USER is not. Both must be set for authentication."
  | senderAddress text fault =>
    "Invalid SMTP_SENDER_EMAIL '" ++ text ++ "': " ++ fault.message
  | endpoint text => "Invalid NOTIFY_API_URL: '" ++ text ++ "'. Must be an http(s) URL."
  | logLevel text =>
    "Invalid LOG_LEVEL: '" ++ text ++ "'. Must be one of: " ++ ", ".intercalate levelNames

/-- The port of the mail server. -/
def port (text : Option String) : Except Problem (Option Int) :=
  match Text.given text with
  | none => .ok none
  | some s =>
    match Text.whole? s with
    | .error _ => .error (.unreadablePort s)
    | .ok n => if 1 ≤ n ∧ n ≤ 65535 then .ok (some n) else .error (.portOutOfRange n)

/-- A user has a password, and a password belongs to a user. -/
def credentials (user password : Option String) : Except Problem Unit :=
  match Text.given user, Text.given password with
  | some _, none => .error .noPassword
  | none, some _ => .error .noUser
  | _, _ => .ok ()

/-- The address that mails come from, in its normal form. -/
def sender (text : Option String) : Except Problem (Option String) :=
  match Text.given text with
  | none => .ok text
  | some s =>
    match MailAddress.normalize (Text.trim s) with
    | .ok address => .ok (some address)
    | .error fault => .error (.senderAddress s fault)

/-- The web address of a provider. -/
def provider (text : Option String) : Except Problem (Option String) :=
  match Text.given text with
  | none => .ok text
  | some s => if Text.isWebAddress s then .ok text else .error (.endpoint s)

/-- The level of the log. -/
def level (text : Option String) : Except Problem (Option String) :=
  match Text.given text with
  | none => .ok none
  | some s =>
    let name := Log.capitals s
    if levelNames.contains name then .ok (some name) else .error (.logLevel s)

/-- The problem of a variable, if it has one. -/
def problem? {α : Type} : Except Problem α → List Problem
  | .ok _ => []
  | .error p => [p]

/-- What to do about unusable variables. -/
def hints : List String :=
  ["Copy .env.example to .env and fill in your credentials",
    "Verify SMTP_PORT is a number between 1 and 65535",
    "Set SMTP_USER and SMTP_PASS together or not at all"]

/-- The report on unusable variables. -/
def report (problems : List Problem) : Report :=
  ⟨"Environment variable validation failed", problems.map Problem.message, hints⟩

/-- Every problem with the variables. -/
def problems (get : Variables) : List Problem :=
  problem? (port (get "SMTP_PORT")) ++
  problem? (credentials (get "SMTP_USER") (get "SMTP_PASS")) ++
  problem? (sender (get "SMTP_SENDER_EMAIL")) ++
  problem? (provider (get "NOTIFY_API_URL")) ++
  problem? (level (get "LOG_LEVEL"))

/-- A checked variable, or nothing if it has a problem. -/
def checked {α : Type} : Except Problem (Option α) → Option α
  | .ok a => a
  | .error _ => none

/-- The settings that usable variables make. -/
def ofVariables (get : Variables) : Environment where
  mailHost := get "SMTP_HOST"
  mailPort := checked (port (get "SMTP_PORT"))
  mailUser := get "SMTP_USER"
  mailPassword := get "SMTP_PASS"
  senderName := (Text.given (get "SMTP_SENDER_NAME")).getD MailAddress.defaultSenderName
  senderAddress := checked (sender (get "SMTP_SENDER_EMAIL"))
  endpoint := get "NOTIFY_API_URL"
  key := get "NOTIFY_API_KEY"
  logLevel := checked (level (get "LOG_LEVEL"))
  databaseUrl := get "DATABASE_URL"

/-- The settings from the environment, or a report on all that is wrong with it. -/
def read (get : Variables) : Except Report Environment :=
  match problems get with
  | [] => .ok (ofVariables get)
  | first :: more => .error (report (first :: more))

/-- The settings as a document. -/
def toJson (e : Environment) : Json :=
  .object [("smtp_host", .ofText? e.mailHost), ("smtp_port", .ofInt? e.mailPort),
    ("smtp_user", .ofText? e.mailUser), ("smtp_pass", .ofText? e.mailPassword),
    ("smtp_sender_name", .text e.senderName), ("smtp_sender_email", .ofText? e.senderAddress),
    ("api_url", .ofText? e.endpoint), ("api_key", .ofText? e.key),
    ("log_level", .ofText? e.logLevel), ("database_url", .ofText? e.databaseUrl)]

/-- The settings that a bag names in the way of the document, taken as they are. -/
def ofBag (bag : Bag) : Environment :=
  let text (name : String) : Option String :=
    match bag.getText? name with
    | some (.text s) => some s
    | _ => none
  { mailHost := text "smtp_host"
    mailPort := match bag.getText? "smtp_port" with
      | some (.int n) => some n
      | _ => none
    mailUser := text "smtp_user"
    mailPassword := text "smtp_pass"
    senderName := (Text.given (text "smtp_sender_name")).getD MailAddress.defaultSenderName
    senderAddress := text "smtp_sender_email"
    endpoint := text "api_url"
    key := text "api_key"
    logLevel := text "log_level"
    databaseUrl := text "database_url" }

theorem read_eq_ok_iff {get : Variables} {e : Environment} :
    read get = .ok e ↔ problems get = [] ∧ ofVariables get = e := by
  unfold read
  split <;> simp_all

end Environment

end Courier

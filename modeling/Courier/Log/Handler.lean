import Courier.Log.Line
import Courier.Calendar.Instant

/-!
# The log handler

Setting up the log chooses a threshold, a form and a label for the surroundings. From then on every
entry that ranks at or above the threshold is one line of output; the set-up itself is the first.

A level is named in any case, and a few names are synonyms. `Handler.create` checks the level
before the form.
-/

namespace Courier.Log

/-- The form of the lines. -/
inductive Form where
  | document
  | pairs
deriving DecidableEq, Repr

/-- The form of a name. -/
def Form.ofName? (s : String) : Option Form :=
  if s == "json" then some document else if s == "key-value" then some pairs else none

/-- The capital of a letter, as far as names of levels can contain it. -/
def capital (c : Char) : Char :=
  if c == 'ı' then 'I' else if c == 'ſ' then 'S' else c.toUpper

/-- A text in capitals. -/
def capitals (s : String) : String := String.ofList (s.toList.map capital)

/-- The rank that a name in capitals stands for. -/
def thresholdOf? (name : String) : Option Nat :=
  [("CRITICAL", 50), ("FATAL", 50), ("ERROR", 40), ("WARNING", 30), ("WARN", 30), ("INFO", 20),
   ("DEBUG", 10), ("NOTSET", 0)].lookup name

/-- Why the log cannot be set up. -/
inductive SetupFault where
  | level (text : String)
  | form (text : String)
deriving DecidableEq, Repr

/-- What a caller is told. -/
def SetupFault.message : SetupFault → String
  | level text => "Invalid log level: " ++ text
  | form text => "Invalid log format: " ++ text ++ ". Must be 'json' or 'key-value'"

/-- What decides about the lines of the log. -/
structure Handler where
  threshold : Nat
  form : Form
  environment : String
deriving DecidableEq, Repr

namespace Handler

/-- The handler for a level and a form, and the entry that reports it. -/
def create (level form environment : String) : Except SetupFault (Handler × Entry) :=
  match thresholdOf? (capitals level) with
  | none => .error (.level level)
  | some threshold =>
    match Form.ofName? form with
    | none => .error (.form form)
    | some f =>
      .ok (⟨threshold, f, environment⟩,
        ⟨.info, "notify_engine.logging.config", "Logging configured",
          [("event", .text "logging.configured"), ("component", .text "logging"),
           ("log_level", .text (capitals level)), ("log_format", .text form)], none⟩)

/-- Whether an entry is written. -/
def admits (handler : Handler) (e : Entry) : Bool := handler.threshold ≤ e.level.rank

/-- The line of an entry made at a time within a scope. -/
def line? (handler : Handler) (time : String) (scope : Fields) (e : Entry) :
    Except LineFault String :=
  let stampedEntry := { e with fields := stamped serviceName handler.environment scope e.fields }
  match handler.form with
  | .document => documentLine? time stampedEntry
  | .pairs => pairLine? (time ++ " ") stampedEntry

end Handler

/-! ## Times -/

/-- The instant of a count of seconds since 1970, rounded to microseconds. The fraction of a second
is scaled and rounded on its own. -/
def instantOf? (created : Double) : Option Instant :=
  match created with
  | .finite s m e =>
    let (num, den) := Double.fraction m e
    let whole := num / den
    let micros := match (Double.ofRatio s (num % den) den).mulNat 1000000 with
      | .finite _ m e => Double.nearestScaled m 1 (-e)
      | _ => 0
    let total : Int := (whole * 1000000 + micros : Nat)
    Instant.ofMicros? (Instant.epoch + (if s then -total else total))
  | _ => none

/-- The time of an entry in a document: to the millisecond, the rest dropped. -/
def documentTime (a : Instant) : String :=
  Date.padded 1 a.date.year ++ "-" ++ Date.padded 2 a.date.month ++ "-" ++
    Date.padded 2 a.date.day ++ "T" ++ a.clockText ++ "." ++
    Date.padded 3 (a.microsecond / 1000) ++ "Z"

/-- The time of an entry in a line for readers. -/
def lineTime (a : Instant) : String := a.date.text ++ " " ++ a.clockText

end Courier.Log

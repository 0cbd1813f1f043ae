import Courier.Event
import Courier.Form.Basic
import Courier.Json.Basic
import Courier.Text.Cut

/-!
# Preferences

A recipient's preferences hold the address to deliver to, a main switch and switches for kinds of
event. How often a recipient wants to hear from the program and at which hours is kept too, for
others to use.
-/

namespace Courier

/-- How often a recipient wants to hear from the program. -/
inductive Frequency where
  | immediate
  | daily
  | weekly
deriving DecidableEq, Repr, Inhabited

namespace Frequency

/-- The name of a frequency. -/
def name : Frequency → String
  | immediate => "immediate"
  | daily => "daily"
  | weekly => "weekly"

/-- Every frequency, in the order in which they are listed to users. -/
def all : List Frequency := [immediate, daily, weekly]

/-- The frequency of a name. -/
def ofName? (s : String) : Option Frequency := all.find? fun frequency => frequency.name == s

@[simp] theorem ofName?_name (f : Frequency) : ofName? f.name = some f := by
  cases f <;> rfl

end Frequency

/-- Hours at which a recipient does not want to be disturbed. -/
structure QuietHours where
  enabled : Bool := false
  start : String := "22:00"
  stop : String := "08:00"
deriving DecidableEq, Repr, Inhabited

namespace QuietHours

/-- Whether characters are a time of day: two digits, a colon and two digits, the second digit of
either pair being of any script. -/
def isClock : List Char → Bool
  | [a, b, ':', c, d] =>
    ((a == '0' || a == '1') && Text.isDigit b || a == '2' && '0' ≤ b && b ≤ '3') &&
      '0' ≤ c && c ≤ '5' && Text.isDigit d
  | _ => false

/-- A time of day; one line end after it does not matter. -/
def clock (v : Value) : Checked String :=
  (Form.text v).andThen fun s =>
    if isClock (Text.withoutLineEnd s.toList) then .ok s else .problem (.notAClock s)

/-- The hours that a form describes. -/
def ofValue (v : Value) : Checked QuietHours :=
  (Form.ofValue "QuietHours" v).andThen fun form =>
    QuietHours.mk <$> Form.field form "enabled" false Form.boolean <*>
      Form.field form "start" "22:00" clock <*> Form.field form "end" "08:00" clock

/-- The hours as a document. -/
def toJson (q : QuietHours) : Json :=
  .object [("enabled", .bool q.enabled), ("start", .text q.start), ("end", .text q.stop)]

end QuietHours

/-- What a recipient wants. -/
structure Preference where
  recipient : String
  address : String
  enabled : Bool := true
  switches : List (String × Bool) := []
  frequency : Frequency := .immediate
  quietHours : QuietHours := {}
deriving DecidableEq, Repr, Inhabited

namespace Preference

/-- An address in normal form. -/
def normalAddress (v : Value) : Checked String :=
  (Form.text v).andThen fun s =>
    match MailAddress.normalize (Text.trim s) with
    | .ok normal => .ok normal
    | .error fault => .problem (.address s fault)

/-- Switches, all of which have to be known. -/
def knownSwitches (v : Value) : Checked (List (String × Bool)) :=
  (Form.entries Form.boolean v).andThen fun switches =>
    let unknown := (switches.map Prod.fst).filter fun name => !Event.knownSwitches.contains name
    if unknown.isEmpty then .ok switches
    else .problem (.unknownSwitches (unknown.mergeSort fun a b => a ≤ b)
      (Event.knownSwitches.mergeSort fun a b => a ≤ b))

/-- The preferences that a form describes. -/
def ofValue (v : Value) : Checked Preference :=
  (Form.ofValue "Preference" v).andThen fun form =>
    Preference.mk <$> Form.required form "recipient_id" Form.someText <*>
      Form.required form "email" normalAddress <*>
      Form.field form "enabled" true Form.boolean <*>
      Form.field form "toggles" [] knownSwitches <*>
      Form.field form "frequency" .immediate
        (Form.choice (Frequency.all.map Frequency.name) Frequency.ofName?) <*>
      Form.field form "quiet_hours" {} QuietHours.ofValue

/-- The position of a switch. -/
def switch? (p : Preference) (name : String) : Option Bool := p.switches.lookup name

/-- The preferences as a document. -/
def toJson (p : Preference) : Json :=
  .object [("recipient_id", .text p.recipient), ("email", .text p.address),
    ("enabled", .bool p.enabled),
    ("toggles", .object (p.switches.map fun s => (s.1, .bool s.2))),
    ("frequency", .text p.frequency.name), ("quiet_hours", p.quietHours.toJson)]

end Preference

end Courier

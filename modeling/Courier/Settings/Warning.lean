import Courier.Settings.Transport
import Courier.Text.Cut
import Courier.Value.Number

/-!
# Warnings about settings

Settings may be usable and still not what one wants. The warnings go by what the file says, before
it is checked. So they may have to show a number that has no text.
-/

namespace Courier

/-- A warning about settings. -/
inductive SettingsWarning where
  | simulated
  | shortTimeout (shown : String)
  | largeLimit (shown : String)
  | forgetful
deriving DecidableEq, Repr

namespace SettingsWarning

/-- What a user is told. -/
def message : SettingsWarning → String
  | simulated =>
    "Simulated transport is configured: messages are not delivered and " ++
      "some sends will fail at random"
  | shortTimeout shown =>
    "Short transport timeout_seconds (" ++ shown ++ ") may leave records pending " ++
      "when the provider is slow"
  | largeLimit shown =>
    "Large history default_limit (" ++ shown ++ ") may make history queries slow"
  | forgetful => "In-memory SQLite database_url loses history when the process exits"

/-- What a value has to say under a name, if it is a bag. -/
def said (v : Option Value) (name : String) : Option Value :=
  match v with
  | some (.dict bag) => Bag.getText? bag name
  | _ => none

/-- Whether a time is shorter than five seconds. -/
def isShort : Number → Bool
  | .whole n => 0 < n && n < 5
  | .real x => Double.lt .zero x && x.lt (Double.ofInt 5)

/-- The warning about the kind of transport. -/
def ofKind : Option Value → List SettingsWarning
  | some (.text s) => if s == TransportKind.simulated.name then [simulated] else []
  | _ => []

/-- The warning about the time a transport may take. -/
def ofTimeout (v : Option Value) : List SettingsWarning :=
  match v, v.bind Number.ofValue? with
  | some v, some n =>
    if isShort n then [shortTimeout (v.text?.toOption.getD n.text)] else []
  | _, _ => []

/-- The warning about the number of records that a query shows. -/
def ofLimit : Option Value → Except TextFault (List SettingsWarning)
  | some (.int n) =>
    if 500 < n then (Value.intText? n).map fun shown => [largeLimit shown] else .ok []
  | _ => .ok []

/-- The warning about the place where records are kept. -/
def ofDatabase : Option Value → List SettingsWarning
  | some (.text s) =>
    if Text.occursIn ":memory:".toList s.toList then [forgetful] else []
  | _ => []

/-- The warnings about a file. -/
def all (file : Bag) : Except TextFault (List SettingsWarning) :=
  let transport := Bag.getText? file "transport"
  (ofLimit (said (Bag.getText? file "history") "default_limit")).map fun limit =>
    ofKind (said transport "type") ++ ofTimeout (said transport "timeout_seconds") ++ limit ++
      ofDatabase (said (Bag.getText? file "storage") "database_url")

end SettingsWarning

end Courier

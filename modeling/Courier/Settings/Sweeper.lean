import Courier.Form.Basic
import Courier.Json.Basic

/-!
# Settings of the sweep

How often the sweep runs and when a pending record is stale. Both are written as durations, and the
accepted settings hold the seconds they stand for.
-/

namespace Courier

/-- Settings of the sweep. -/
structure SweeperSettings where
  interval : String := "5m"
  staleAfter : String := "10m"
  intervalSeconds : Nat := 300
  staleAfterSeconds : Nat := 600
deriving DecidableEq, Repr, Inhabited

namespace SweeperSettings

open Form

/-- The shortest interval, in seconds. -/
def leastInterval : Nat := 30

/-- The longest interval, in seconds. -/
def greatestInterval : Nat := 86400

/-- A duration with the text it was written as. -/
def duration (v : Value) : Checked (String × Nat) :=
  (text v).andThen fun s => match Duration.seconds s with
    | .ok n => .ok (s, n)
    | .error fault => .problem (.duration fault)

/-- A duration that will do as an interval. -/
def intervalOf (v : Value) : Checked (String × Nat) :=
  (duration v).andThen fun (s, n) =>
    if n < leastInterval then .problem (.shortInterval s)
    else if greatestInterval < n then .problem (.longInterval s)
    else .ok (s, n)

/-- Settings from durations; what else the form says of seconds does not count. -/
def ofDurations (interval staleAfter : String × Nat) (_ _ : Option Int) : SweeperSettings :=
  ⟨interval.1, staleAfter.1, interval.2, staleAfter.2⟩

/-- The settings that a form describes. -/
def ofValue (v : Value) : Checked SweeperSettings :=
  (Form.ofValue "SweeperConfig" v).andThen fun form =>
    ofDurations <$> field form "interval" ("5m", 300) intervalOf <*>
      field form "stale_after" ("10m", 600) duration <*>
      field form "interval_seconds" none (optional integer) <*>
      field form "stale_after_seconds" none (optional integer)

/-- The settings as a document. -/
def toJson (s : SweeperSettings) : Json :=
  .object [("interval", .text s.interval), ("stale_after", .text s.staleAfter),
    ("interval_seconds", .int s.intervalSeconds),
    ("stale_after_seconds", .int s.staleAfterSeconds)]

end SweeperSettings

end Courier

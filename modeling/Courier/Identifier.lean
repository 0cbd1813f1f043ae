import Courier.Calendar.Instant
import Courier.Double.Basic

/-!
# Identifiers

The identifier of a notification tells its time of creation and ends in random characters, so that
two notifications of one millisecond stay apart. The identifier of an interview tells the time
alone.

The time is given in milliseconds since the start of 1970. Their count is taken through binary
floating point: the seconds are rounded once, the product with a thousand once more, and what is
left of a millisecond is dropped.
-/

namespace Courier

/-- The seconds since the start of 1970, rounded to a floating point number. -/
def Instant.epochSeconds (a : Instant) : Double :=
  Double.ofRatio (a.sinceEpoch < 0) a.sinceEpoch.natAbs 1000000

/-- The milliseconds since the start of 1970. -/
def Instant.epochMillis (a : Instant) : Int :=
  ((a.epochSeconds.mulNat 1000).truncate?).getD 0

namespace Identifier

/-- The character for a random draw: a digit or a lower-case letter. -/
def suffixChar (draw : Nat) : Char :=
  let n := draw % 36
  if n < 10 then Char.ofNat (48 + n) else Char.ofNat (87 + n)

/-- The random end of an identifier, one character for each draw. -/
def suffix (draws : List Nat) : String := String.ofList (draws.map suffixChar)

/-- The count of random characters in the identifier of a notification. -/
def suffixLength : Nat := 9

/-- The identifier of a notification created at a moment. -/
def notification (a : Instant) (draws : List Nat) : String :=
  "notif-" ++ toString a.epochMillis ++ "-" ++ suffix draws

/-- The identifier that a scheduled interview's messages share. -/
def interview (a : Instant) : String := "interview-" ++ toString a.epochMillis

end Identifier

end Courier

import Courier.Calendar.Reading
import Courier.Text.Blank
import Courier.Text.Digit
import Courier.Text.Quoted

/-!
# Stamps

A stamp is the text of an instant in universal time: date and time joined by a `T`, to the second
or to the microsecond, and a closing `Z`. The year of a stamp is not padded, so stamps from year
1000 on have a fixed width and sort as their instants do.

`Stamp.write` and `Stamp.writeMicros` write stamps, `Stamp.ofReading?` that of what a clock shows, and
`Stamp.read` reads them. Reading allows what a person might type: blanks around the stamp, single
digits for all but the year, digits of other scripts.
-/

namespace Courier.Stamp

open Courier.Text

/-- The stamp to the second, without its closing mark. -/
def body (a : Instant) : String :=
  let d := a.date
  Date.padded 1 d.year ++ "-" ++ Date.padded 2 d.month ++ "-" ++ Date.padded 2 d.day ++ "T" ++
    a.clockText

/-- The stamp of an instant, to the second. -/
def write (a : Instant) : String := body a ++ "Z"

/-- The stamp of an instant, to the microsecond. -/
def writeMicros (a : Instant) : String :=
  body a ++ "." ++ Date.padded 6 a.microsecond ++ "Z"

/-- The stamp of what a clock shows, to the microsecond or to the second; there is none for a moment
beyond the calendar. -/
def ofReading? (toMicros : Bool) (r : Reading) : Option String :=
  r.toInstant?.map (if toMicros then writeMicros else write)

/-! ## Reading -/

/-- Why a text is no stamp. -/
inductive Fault where
  /-- The text does not have the form of a stamp. -/
  | unlikeStamp (text : String)
  /-- A stamp is followed by more text. -/
  | trailing (rest : String)
  | yearZero
  | dayBeyondMonth
  | secondBeyondMinute
deriving DecidableEq, Repr

/-- What a reader is told. -/
def Fault.message : Fault → String
  | .unlikeStamp text =>
    "time data " ++ quoted text ++ " does not match format '%Y-%m-%dT%H:%M:%S'"
  | .trailing rest => "unconverted data remains: " ++ rest
  | .yearZero => "year 0 is out of range"
  | .dayBeyondMonth => "day is out of range for month"
  | .secondBeyondMinute => "second must be in 0..59"

/-- The characters up to a mark and those after it. -/
def upTo? (isMark : Char → Bool) : List Char → Option (List Char × List Char)
  | [] => none
  | c :: rest =>
    if isMark c then some ([], rest) else (upTo? isMark rest).map fun r => (c :: r.1, r.2)

/-- The number written by one or two digits, if it is at most `greatest`. The first of two digits
must be an ASCII digit. -/
def field? (greatest : Nat) : List Char → Option Nat
  | [c] => digitValue? c
  | [a, b] =>
    if a.isDigit then
      (digitValue? b).bind fun low =>
        let n := 10 * (a.toNat - 48) + low
        if n ≤ greatest then some n else none
    else none
  | _ => none

/-- A month from 1 to 12, or a day from 1 to 31: the digits a person may type for it. -/
def positiveField? (greatest : Nat) (cs : List Char) : Option Nat :=
  (if cs.all Char.isDigit then field? greatest cs else none).bind fun n =>
    if n = 0 then none else some n

/-- A day of a month; a leading blank stands for zero, and the second digit may be of any
script. -/
def day? : List Char → Option Nat
  | [' ', c] => positiveField? 9 [c]
  | [a, b] => if a == '1' || a == '2' then field? 29 [a, b] else positiveField? 31 [a, b]
  | cs => positiveField? 31 cs

/-- The year: four digits of any script. -/
def year? (cs : List Char) : Option Nat :=
  if cs.length = 4 && cs.all isDigit then some (digitsValue cs) else none

/-- An hour; the digits after a two are ASCII. -/
def hour? : List Char → Option Nat
  | [a, b] => if a == '2' && !b.isDigit then none else field? 23 [a, b]
  | cs => field? 23 cs

/-- The digits of a second at the start of a text, and the rest. -/
def secondRun? : List Char → Option (Nat × List Char)
  | [] => none
  | c :: rest =>
    let single := (digitValue? c).map fun n => (n, rest)
    match rest with
    | [] => single
    | d :: more =>
      if c == '6' then
        if d == '0' || d == '1' then some (60 + (d.toNat - 48), more) else single
      else match field? 59 [c, d] with
        | some n => some (n, more)
        | none => single

/-- The date of a stamp, its hour and minute, and the text from the seconds on. -/
def head? (cs : List Char) : Option ((Nat × Nat × Nat) × Nat × Nat × List Char) := do
  let (year, cs) ← upTo? (· == '-') cs
  let (month, cs) ← upTo? (· == '-') cs
  let (day, cs) ← upTo? (fun c => c == 'T' || c == 't') cs
  let (hour, cs) ← upTo? (· == ':') cs
  let (minute, cs) ← upTo? (· == ':') cs
  some ((← year? year, ← positiveField? 12 month, ← day? day), ← hour? hour, ← field? 59 minute,
    cs)

/-- The instant of the parts of a stamp. -/
def assemble (date : Nat × Nat × Nat) (hour minute second micro : Nat) : Except Fault Instant :=
  if date.1 = 0 then .error .yearZero
  else if Date.monthLength date.1 date.2.1 < date.2.2 then .error .dayBeyondMonth
  else match Instant.ofParts? ⟨date.1, date.2.1, date.2.2⟩ hour minute second micro with
    | some a => .ok a
    | none => .error .secondBeyondMinute

/-- Read a stamp to the second. -/
def readSeconds (s : String) : Except Fault Instant :=
  match head? s.toList with
  | none => .error (.unlikeStamp s)
  | some (date, hour, minute, cs) =>
    match secondRun? cs with
    | none => .error (.unlikeStamp s)
    | some (second, []) => assemble date hour minute second 0
    | some (_, rest) => .error (.trailing (String.ofList rest))

/-- Read a stamp with a fraction of one to six digits. -/
def readFraction? (s : String) : Option Instant := do
  let (date, hour, minute, cs) ← head? s.toList
  let (second, cs) ← upTo? (· == '.') cs
  match secondRun? second with
  | some (second, []) =>
    if cs.isEmpty || 6 < cs.length || !cs.all Char.isDigit then none
    else
      let micro := digitsValue ((cs ++ List.replicate 6 '0').take 6)
      (assemble date hour minute second micro).toOption
  | _ => none

/-- Read a stamp, with or without a fraction and a closing mark. -/
def read (s : String) : Except Fault Instant :=
  let bare := ((trim s).toList.reverse.dropWhile (· == 'Z')).reverse
  let bare := String.ofList bare
  match readFraction? bare with
  | some a => .ok a
  | none => readSeconds bare

end Courier.Stamp

import Courier.Calendar.Reading
import Courier.Value.Text
import Courier.Yaml.Cursor
import Courier.Yaml.Fault

/-!
# Dates and times in YAML

A date is a year of four digits, a month and a day. A time may follow after a `T` or after blanks,
with a fraction of a second and a distance from universal time. A plain scalar is a date only if
month and day have two digits each, unless there is a time as well.
-/

namespace Courier.Yaml

/-- The parts of a time, none of which is checked yet. -/
structure ClockParts where
  hour : Nat
  minute : Nat
  second : Nat
  micro : Nat
  /-- The distance from universal time in minutes, if one is given. -/
  ahead : Option Int
deriving DecidableEq, Repr

/-- The parts of a date, none of which is checked yet, with those of a time. -/
structure TimeParts where
  date : Date
  clock : Option ClockParts
deriving DecidableEq, Repr

namespace TimeParts

/-- The value of a run of digits. -/
def valueOf (digits : List Char) : Nat := digits.foldl (fun n d => 10 * n + (d.toNat - 48)) 0

/-- A number of at least and at most so many digits at the beginning of a text. -/
def digits? (least most : Nat) (cs : List Char) : Option (Nat × List Char) :=
  let run := (cs.take most).takeWhile Char.isDigit
  if run.length < least then none else some (valueOf run, cs.drop run.length)

/-- A text without the sign that it must begin with. -/
def after? (sign : Char) : List Char → Option (List Char)
  | c :: rest => if c == sign then some rest else none
  | [] => none

/-- The microseconds that the digits after a point stand for. -/
def microsOf (digits : List Char) : Nat :=
  let shown := digits.take 6
  valueOf shown * Nat.pow 10 (6 - shown.length)

/-- A distance from universal time in minutes; blanks may stand before it. -/
def ahead? (cs : List Char) : Option (Option Int) :=
  match cs.dropWhile isSpace with
  | [] => if cs.isEmpty then some none else none
  | ['Z'] => some (some 0)
  | sign :: rest => do
    if sign != '+' && sign != '-' then none
    let (hours, rest) ← digits? 1 2 rest
    let minutes ← match rest with
      | [] => some 0
      | ':' :: rest => do
        let (minutes, rest) ← digits? 2 2 rest
        if rest.isEmpty then some minutes else none
      | _ => none
    let distance : Int := (60 * hours + minutes : Nat)
    return some (if sign == '-' then -distance else distance)

/-- The parts of a time. -/
def clock? (cs : List Char) : Option ClockParts := do
  let (hour, cs) ← digits? 1 2 cs
  let (minute, cs) ← digits? 2 2 (← after? ':' cs)
  let (second, cs) ← digits? 2 2 (← after? ':' cs)
  let (micro, cs) := match cs with
    | '.' :: rest => (microsOf (rest.takeWhile Char.isDigit), rest.dropWhile Char.isDigit)
    | _ => (0, cs)
  return ⟨hour, minute, second, micro, ← ahead? cs⟩

/-- The text after what separates a time from its date. -/
def afterDate? : List Char → Option (List Char)
  | c :: rest =>
    if c == 'T' || c == 't' then some rest
    else if isSpace c then some (rest.dropWhile isSpace)
    else none
  | [] => none

/-- The parts of a date or a date with a time. -/
def read? (text : String) : Option TimeParts := do
  let (year, cs) ← digits? 4 4 text.toList
  let (month, cs) ← digits? 1 2 (← after? '-' cs)
  let (day, cs) ← digits? 1 2 (← after? '-' cs)
  if cs.isEmpty then return ⟨⟨year, month, day⟩, none⟩
  else return ⟨⟨year, month, day⟩, some (← clock? (← afterDate? cs))⟩

/-- Whether a plain scalar is a date or a time. -/
def isTime (text : String) : Bool :=
  match read? text with
  | some parts => parts.clock.isSome || text.length == 10
  | none => false

/-- A date that exists. -/
def checkDate (d : Date) : Except Fault Unit :=
  if d.year = 0 then .error (.calendar "year 0 is out of range")
  else if d.month = 0 || 12 < d.month then .error (.calendar "month must be in 1..12")
  else if d.day = 0 || Date.monthLength d.year d.month < d.day then
    .error (.calendar "day is out of range for month")
  else .ok ()

/-- A distance from universal time in microseconds, which must be less than a day. -/
def offsetOf (minutes : Int) : Except Fault Int :=
  if minutes.natAbs < 1440 then .ok (minutes * 60000000)
  else .error (.calendar
    ("offset must be a timedelta strictly between -timedelta(hours=24) and " ++
      "timedelta(hours=24), not " ++ Value.quotedSpan (minutes * 60000000) ++ "."))

/-- The date or the moment that parts stand for. -/
def toValue (parts : TimeParts) : Except Fault Value :=
  match parts.clock with
  | none => do
    checkDate parts.date
    return .date parts.date
  | some clock => do
    let offset ← match clock.ahead with
      | none => pure none
      | some minutes => (offsetOf minutes).map some
    checkDate parts.date
    if 23 < clock.hour then throw (.calendar "hour must be in 0..23")
    if 59 < clock.minute then throw (.calendar "minute must be in 0..59")
    if 59 < clock.second then throw (.calendar "second must be in 0..59")
    match Instant.ofParts? parts.date clock.hour clock.minute clock.second clock.micro with
    | some face => return .moment ⟨face, offset⟩
    | none => throw .noTime

end TimeParts

end Courier.Yaml

import Courier.Form.Scalar

/-!
# Checking times

A time is a reading, a date, a text in the usual form or a count of seconds since 1970; counts too
large for seconds are taken as milliseconds. A text that is no time is tried as a date, and what is
wrong with the date is what the caller is told.
-/

namespace Courier.Form

open Checked

/-- The greatest count that is taken as seconds. -/
def secondsLimit : Nat := 20000000000

/-- The reading of a count of microseconds since 1970. -/
def readingOfMicros (n : Int) : Checked Reading :=
  if n < -377705116800 * 1000000 then problem (.unreadableTime .early)
  else match Instant.ofMicros? (Instant.epoch + n) with
    | some a => ok (Reading.ofInstant a)
    | none => problem (.unreadableTime .late)

/-- The reading of a count of seconds or milliseconds. -/
def readingOfCount (n : Int) : Checked Reading :=
  if n.natAbs ≤ secondsLimit then readingOfMicros (n * 1000000) else readingOfMicros (n * 1000)

/-- The reading of a fractional count of seconds or milliseconds, cut to microseconds. -/
def readingOfNumber (x : Double) : Checked Reading :=
  match x.truncate? with
  | none => problem .notATime
  | some n =>
    let scale := if n.natAbs ≤ secondsLimit then 1000000 else 1000
    readingOfMicros (((x.mulNat scale).truncate?).getD 0)

/-- Two digits at a place of a text. -/
def twoDigits? (cs : List Char) (place : Nat) : Option Nat :=
  match cs[place]?, cs[place + 1]? with
  | some a, some b =>
    if a.isDigit && b.isDigit then some (10 * (a.toNat - 48) + (b.toNat - 48)) else none
  | _, _ => none

/-- The date at the start of a text. -/
def datePrefix (cs : List Char) : Except TimeProblem Date :=
  if (String.ofList cs).utf8ByteSize < 10 then .error .short
  else match twoDigits? cs 0, twoDigits? cs 2 with
    | some high, some low =>
      if cs[4]? != some '-' then .error .separator
      else match twoDigits? cs 5 with
        | none => .error .monthCharacter
        | some month =>
          if cs[7]? != some '-' then .error .separator
          else match twoDigits? cs 8 with
            | none => .error .dayCharacter
            | some day =>
              let year := 100 * high + low
              if month = 0 || 12 < month then .error .month
              else if day = 0 || Date.monthLength year month < day then .error .day
              else .ok ⟨year, month, day⟩
    | _, _ => .error .yearCharacter

/-- A text that is a whole date. -/
def wholeDate (cs : List Char) : Except TimeProblem Date :=
  (datePrefix cs).bind fun d => if cs.length = 10 then .ok d else .error .trailing

/-- The reading of midnight on a date. -/
def midnight (d : Date) : Checked Reading :=
  match Instant.ofParts? d 0 0 0 0 with
  | some a => ok ⟨a, none⟩
  | none => problem .notATime

/-- Hours and minutes at the start of a text, with seconds and their fraction if they follow. -/
def clock? (cs : List Char) : Option (Nat × Nat × Nat × Nat × List Char) := do
  let (hour, cs) ← Reading.digits? 2 cs
  let (minute, cs) ← Reading.digits? 2 (← Reading.mark? ':' cs)
  match cs with
  | ':' :: cs =>
    let (second, cs) ← Reading.digits? 2 cs
    let (micro, cs) ← match cs with
      | ',' :: rest => Reading.fraction? ('.' :: rest)
      | cs => Reading.fraction? cs
    return (hour, minute, second, micro, cs)
  | cs => return (hour, minute, 0, 0, cs)

/-- The reading of a text with date and time. -/
def timeText? (cs : List Char) : Option Reading := do
  let d ← (datePrefix cs).toOption
  let cs ← match cs.drop 10 with
    | c :: rest => if ['T', 't', ' ', '_'].contains c then some rest else none
    | [] => none
  let (hour, minute, second, micro, cs) ← clock? cs
  let offset ← match cs with
    | ['z'] => some (some 0)
    | cs => Reading.offset? cs
  let face ← Instant.ofParts? d hour minute second micro
  return ⟨face, offset⟩

/-- The reading of a text. -/
def readTime (s : String) : Checked Reading :=
  let cs := s.toList
  match timeText? cs with
  | some r => ok r
  | none =>
    match wholeDate cs with
    | .ok d => midnight d
    | .error p =>
      let (_, body) := Double.signOf cs
      if !body.isEmpty && body.all Char.isDigit then
        let n : Int := Double.naturalOf body
        readingOfCount (if cs.head? == some '-' then -n else n)
      else match if body.any Char.isDigit && body.all fun c => c.isDigit || c == '.' then
          Double.read? cs else none with
        | some x => readingOfNumber x
        | none => problem (.unreadableTime p)

/-- A time. -/
def reading : Value → Checked Reading
  | .moment r => ok r
  | .date d => midnight d
  | .int n => readingOfCount n
  | .float x => readingOfNumber x
  | v => match text v with
    | ok s => readTime s
    | wrong _ => problem .notATime

end Courier.Form

import Courier.Calendar.Instant

/-!
# Clock readings

A reading is what a clock shows, together with the clock's distance from universal time where that
is known. `Reading.toInstant?` turns a reading into an instant; a reading without a distance counts
as universal time. A reading near either end of the calendar may have no instant.

`Reading.ofIso?` reads the usual text form, and `Reading.isoText` writes it.
-/

namespace Courier

/-- A clock face, and the microseconds by which the clock is ahead of universal time. -/
structure Reading where
  /-- The clock face, as though it showed universal time. -/
  face : Instant
  offset : Option Int := none
deriving DecidableEq, Repr, Inhabited

namespace Reading

/-- An instant read from a clock that shows universal time. -/
def ofInstant (a : Instant) : Reading := ⟨a, some 0⟩

/-- The instant of a reading, if it lies within the calendar. -/
def toInstant? (r : Reading) : Option Instant :=
  match r.offset with
  | none => some r.face
  | some ahead => r.face.shift? (-ahead)

@[simp] theorem toInstant?_ofInstant (a : Instant) : (ofInstant a).toInstant? = some a := by
  simp [ofInstant, toInstant?, Instant.shift?, Instant.ofMicros?_micros]

@[simp] theorem toInstant?_naive (a : Instant) : toInstant? ⟨a, none⟩ = some a := rfl

/-- The instant of a reading is what it shows less the distance from universal time. -/
theorem toInstant?_eq_some_iff {r : Reading} {a : Instant} :
    r.toInstant? = some a ↔ (a.micros : Int) + r.offset.getD 0 = r.face.micros := by
  unfold toInstant?
  cases r.offset with
  | none =>
    rw [Option.some.injEq, Option.getD_none, Int.add_zero, Int.ofNat_inj, eq_comm]
    exact ⟨congrArg Instant.micros, Instant.ext_micros⟩
  | some ahead =>
    dsimp only
    rw [Instant.shift?_eq_some_iff, Option.getD_some]
    omega

/-! ## Text -/

/-- An offset as hours and minutes, with seconds and their fraction only where they are not
zero. -/
def offsetText (ahead : Int) : String :=
  let micros := ahead.natAbs % 1000000
  let n := ahead.natAbs / 1000000
  (if ahead < 0 then "-" else "+") ++ Date.padded 2 (n / 3600) ++ ":" ++
    Date.padded 2 (n / 60 % 60) ++
    (if n % 60 = 0 && micros = 0 then "" else ":" ++ Date.padded 2 (n % 60)) ++
    (if micros = 0 then "" else "." ++ Date.padded 6 micros)

/-- The reading with a chosen separator between date and time. -/
def textWith (separator : String) (r : Reading) : String :=
  r.face.date.text ++ separator ++ r.face.clockText ++ r.face.fractionText ++
    (match r.offset with | none => "" | some ahead => offsetText ahead)

/-- The reading as one word. -/
def isoText : Reading → String := textWith "T"

/-- The reading as a reader sees it, with a space between date and time. -/
def text : Reading → String := textWith " "

/-! ## Reading text -/

/-- A run of exactly `count` ASCII digits at the start of a text. -/
def digits? (count : Nat) (cs : List Char) : Option (Nat × List Char) :=
  let run := cs.take count
  if run.length = count && run.all Char.isDigit then
    some (run.foldl (fun n c => 10 * n + (c.toNat - 48)) 0, cs.drop count)
  else none

/-- A fixed character at the start of a text. -/
def mark? (c : Char) : List Char → Option (List Char)
  | d :: rest => if c == d then some rest else none
  | [] => none

/-- A date at the start of a text. -/
def date? (cs : List Char) : Option (Date × List Char) := do
  let (year, cs) ← digits? 4 cs
  let (month, cs) ← digits? 2 (← mark? '-' cs)
  let (day, cs) ← digits? 2 (← mark? '-' cs)
  if Date.Valid ⟨year, month, day⟩ then some (⟨year, month, day⟩, cs) else none

/-- The fraction of a second at the start of a text, cut off after six digits. -/
def fraction? : List Char → Option (Nat × List Char)
  | '.' :: rest =>
    let run := rest.takeWhile Char.isDigit
    if run.isEmpty then none
    else
      let six := (run ++ List.replicate 6 '0').take 6
      some (six.foldl (fun n c => 10 * n + (c.toNat - 48)) 0, rest.dropWhile Char.isDigit)
  | cs => some (0, cs)

/-- The distance from universal time at the end of a text: nothing, a `Z`, or a signed time. -/
def offset? : List Char → Option (Option Int)
  | [] => some none
  | ['Z'] => some (some 0)
  | sign :: cs => do
    guard (sign == '+' || sign == '-')
    let (hours, cs) ← digits? 2 cs
    let (minutes, cs) ← digits? 2 ((mark? ':' cs).getD cs)
    let (seconds, cs) ← match cs with
      | [] => some (0, [])
      | cs => digits? 2 ((mark? ':' cs).getD cs)
    let (micros, cs) ← fraction? cs
    guard (cs.isEmpty && hours < 24 && minutes < 60 && seconds < 60)
    let n : Int := (((hours * 60 + minutes) * 60 + seconds) * 1000000 + micros : Nat)
    some (some (if sign == '-' then -n else n))

/-- The reading that a text in the usual form stands for. -/
def ofIso? (s : String) : Option Reading := do
  let (date, cs) ← date? s.toList
  let cs ← mark? 'T' cs
  let (hour, cs) ← digits? 2 cs
  let (minute, cs) ← digits? 2 (← mark? ':' cs)
  let (second, cs) ← digits? 2 (← mark? ':' cs)
  let (micro, cs) ← fraction? cs
  let offset ← offset? cs
  let face ← Instant.ofParts? date hour minute second micro
  some ⟨face, offset⟩

end Reading

end Courier

import Courier.Form.Checked
import Courier.Double.Text

/-!
# Checking single values

Forms come from files and command lines as well as from programs, so a check takes what clearly
means the wanted kind: numbers and truth values written as text, whole floating point numbers where
an integer is wanted, times as text or as a count of seconds. What a check takes and how it words
a refusal is settled here for each kind.
-/

namespace Courier

/-! ## Limits -/

namespace Bound

/-- Whether an integer keeps a limit. -/
def admitsInt : Bound → Int → Bool
  | .above n, m => n < m
  | .atLeast n, m => n ≤ m
  | .atMost n, m => m ≤ n

/-- Whether a floating point number keeps a limit; what is not a number keeps none. -/
def admits : Bound → Double → Bool
  | .above n, x => (Double.ofInt n).lt x
  | .atLeast n, x => (Double.ofInt n).le x
  | .atMost n, x => x.le (Double.ofInt n)

end Bound

namespace Form

open Checked

/-! ## Text -/

/-- A text; bytes that are a text will do. -/
def text : Value → Checked String
  | .text s => ok s
  | .bytes bs => match String.fromUTF8? ⟨bs.toArray⟩ with
    | some s => ok s
    | none => problem .undecodable
  | _ => problem .notText

/-- A text with at least one character. -/
def someText (v : Value) : Checked String :=
  (text v).andThen fun s => if s.isEmpty then problem .emptyText else ok s

/-- A value that may be absent. -/
def optional {α : Type} (check : Value → Checked α) : Value → Checked (Option α)
  | .null => ok none
  | v => (check v).map some

/-- One of several names. -/
def choice {α : Type} (names : List String) (ofName? : String → Option α) : Value → Checked α
  | .text s => match ofName? s with
    | some a => ok a
    | none => problem (.notAChoice names)
  | _ => problem (.notAChoice names)

/-! ## Truth values -/

/-- The truth value of a word. -/
def wordTruth? (s : String) : Option Bool :=
  let s := s.map Char.toLower
  if ["0", "off", "f", "false", "n", "no"].contains s then some false
  else if ["1", "on", "t", "true", "y", "yes"].contains s then some true
  else none

/-- The bound of the integers of 64 bits, `2 ^ 63`. -/
def wordBound : Int := 9223372036854775808

/-- The truth value of an integer. -/
def integerTruth (n : Int) : Checked Bool :=
  if n = 0 then ok false
  else if n = 1 then ok true
  else if -wordBound ≤ n ∧ n < wordBound then problem .unclearBoolean
  else problem .notABoolean

/-- A truth value. -/
def boolean : Value → Checked Bool
  | .bool b => ok b
  | .int n => integerTruth n
  | .float x => match x.toInt? with
    | some n => integerTruth n
    | none => problem .notABoolean
  | v => match text v with
    | ok s => match wordTruth? s with
      | some b => ok b
      | none => problem .unclearBoolean
    | wrong _ => problem .notABoolean

/-! ## Numbers -/

/-- Whether a character is white space around a number. -/
def isPadding (c : Char) : Bool := Text.isBlank c && !(28 ≤ c.toNat && c.toNat ≤ 31)

/-- A text without white space at either end. -/
def unpadded (s : String) : List Char :=
  ((s.toList.dropWhile isPadding).reverse.dropWhile isPadding).reverse

/-- A number without the low lines between its digits, if they are single and inside. -/
def withoutLowLines? (cs : List Char) : Option (List Char) :=
  if cs.head? == some '_' || cs.getLast? == some '_' || MailAddress.adjacent '_' '_' cs then none
  else some (cs.filter (· != '_'))

/-- An integer without a point and the zeros after it. -/
def withoutZeroFraction (cs : List Char) : List Char :=
  let whole := cs.takeWhile (· != '.')
  if (cs.drop (whole.length + 1)).all (· == '0') then whole else cs

/-- Text without one leading plus sign, unless a minus sign follows it. -/
def unsigned (cs : List Char) : Option (List Char) :=
  match cs with
  | '+' :: '-' :: _ => none
  | '+' :: rest => some rest
  | cs => some cs

/-- The digits of an integer, and whether it is negative. -/
def integerDigits? (s : String) : Option (Bool × List Char) := do
  let cs ← unsigned (unpadded s)
  let (negative, body) := match cs with
    | '-' :: rest => (true, rest)
    | cs => (false, cs)
  let digits ← withoutLowLines? (withoutZeroFraction body)
  guard (!digits.isEmpty && digits.all Char.isDigit)
  guard (!(negative && 1 < digits.length && digits.head? == some '0'))
  return (negative, digits)

/-- An integer, as text or as a number without a fraction. -/
def integer : Value → Checked Int
  | .bool b => ok (if b then 1 else 0)
  | .int n => ok n
  | .float x =>
    if !x.isFinite then problem .infiniteInteger
    else match x.toInt? with
      | none => problem .brokenInteger
      | some n => if -wordBound < n ∧ n < wordBound then ok n else problem .hugeInteger
  | v => match text v with
    | ok s => match integerDigits? s with
      | none => problem .unreadableInteger
      | some (negative, digits) =>
        if digitLimit < digits.length then problem .hugeInteger
        else
          let n : Int := Double.naturalOf digits
          ok (if negative then -n else n)
    | wrong _ => problem .notAnInteger

/-- A floating point number, as text or as a number. -/
def number : Value → Checked Double
  | .bool b => ok (Double.ofInt (if b then 1 else 0))
  | .int n => match Double.ofInt n with
    | .infinite _ => problem .notANumber
    | x => ok x
  | .float x => ok x
  | v => match text v with
    | ok s =>
      match (withoutLowLines? (unpadded s)).bind Double.read? with
      | some x => ok x
      | none => problem .unreadableNumber
    | wrong _ => problem .notANumber

/-- An integer that keeps limits; the first limit that it breaks is reported. -/
def integerWithin (bounds : List Bound) (v : Value) : Checked Int :=
  (integer v).andThen fun n => match bounds.find? fun b => !b.admitsInt n with
    | some b => problem (.beyond b)
    | none => ok n

/-- A floating point number that keeps limits; the first limit that it breaks is reported. -/
def numberWithin (bounds : List Bound) (v : Value) : Checked Double :=
  (number v).andThen fun x => match bounds.find? fun b => !b.admits x with
    | some b => problem (.beyond b)
    | none => ok x

theorem admits_of_numberWithin {bounds : List Bound} {v : Value} {x : Double}
    (h : numberWithin bounds v = ok x) {b : Bound} (hb : b ∈ bounds) : b.admits x = true := by
  obtain ⟨y, _, hy⟩ := andThen_eq_ok_iff.mp h
  split at hy
  · simp [problem] at hy
  · rename_i hn
    cases hy
    have := List.find?_eq_none.mp hn b hb
    simpa using this

end Form

end Courier

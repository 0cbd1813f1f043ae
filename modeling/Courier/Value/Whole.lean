import Courier.Text.Blank
import Courier.Text.Digit
import Courier.Value.Text

/-!
# Whole numbers from values

`Value.whole?` reads a whole number from a value of any kind. Floating point numbers lose their
fraction. A text may have blanks around the number, a sign, digits of any script and single low
lines between digits; its digits are counted before they are read, and there is a limit.
-/

namespace Courier

/-- Why a value is no whole number. -/
inductive WholeFault where
  /-- The text is none of a whole number. -/
  | unreadable (text : String)
  /-- The text has more digits than are read. -/
  | tooManyDigits (count : Nat)
  | nan
  | infinite
  /-- Values of this kind are never whole numbers. -/
  | wrongKind (kind : String)
deriving DecidableEq, Repr

namespace WholeFault

/-- The name of a fault. -/
def label : WholeFault → String
  | unreadable _ | tooManyDigits _ | nan => "ValueError"
  | infinite => "OverflowError"
  | wrongKind _ => "TypeError"

/-- What a caller is told. -/
def message : WholeFault → String
  | unreadable text =>
    "invalid literal for int() with base 10: " ++ String.ofList ((Text.quoted text).toList.take 200)
  | tooManyDigits count =>
    "Exceeds the limit (4300 digits) for integer string conversion: value has " ++
      Value.natText count ++ " digits; use sys.set_int_max_str_digits() to increase the limit"
  | nan => "cannot convert float NaN to integer"
  | infinite => "cannot convert float infinity to integer"
  | wrongKind kind =>
    "int() argument must be a string, a bytes-like object or a real number, not '" ++ kind ++ "'"

end WholeFault

namespace Text

/-- Whether a character may stand among the digits of a number. -/
def isNumeral (c : Char) : Bool := isDigit c || c == '_'

/-- Whether a character may stand around a number: a blank that is no separator control. -/
def isMargin (c : Char) : Bool := isBlank c && !(28 ≤ c.toNat && c.toNat ≤ 31)

/-- A text without what may stand around a number. -/
def withinMargins (cs : List Char) : List Char :=
  ((cs.dropWhile isMargin).reverse.dropWhile isMargin).reverse

/-- Whether low lines stand singly and only between digits. -/
def isGrouped : List Char → Bool
  | [] => true
  | ['_'] => false
  | '_' :: '_' :: _ => false
  | _ :: rest => isGrouped rest

/-- A text without its sign, and whether the sign was a minus. -/
def unsign : List Char → Bool × List Char
  | '-' :: rest => (true, rest)
  | '+' :: rest => (false, rest)
  | cs => (false, cs)

/-- The whole number that a text writes. -/
def whole? (s : String) : Except WholeFault Int :=
  let (negative, cs) := unsign (withinMargins s.toList)
  let numerals := cs.takeWhile isNumeral
  let digits := numerals.filter (· != '_')
  if numerals.isEmpty || numerals.head? == some '_' || !isGrouped numerals then
    .error (.unreadable s)
  else if digitLimit < digits.length then .error (.tooManyDigits digits.length)
  else if cs.length != numerals.length then .error (.unreadable s)
  else
    let n : Int := digitsValue digits
    .ok (if negative then -n else n)

end Text

namespace Value

/-- The whole number that a value is, with the fraction cut off. -/
def whole? : Value → Except WholeFault Int
  | bool b => .ok (if b then 1 else 0)
  | int n => .ok n
  | float x =>
    match x.truncate? with
    | some n => .ok n
    | none => .error (if x.isNan then .nan else .infinite)
  | text s => Text.whole? s
  | v => .error (.wrongKind v.kind)

end Value

end Courier

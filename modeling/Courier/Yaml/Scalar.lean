import Courier.Double.Basic
import Courier.Double.Text
import Courier.Yaml.Quoted
import Courier.Yaml.Time

/-!
# What scalars stand for

A scalar without a tag and without quotes stands for what it looks like (`Kind.implied`): nothing, a
truth value, a number, a date or a time; everything else is a text. A tag says outright what a
scalar stands for, whether it looks like it or not.

Numbers may have low lines among their digits, may be written to the bases two, eight, sixteen and
sixty, and need a sign in their exponents.
-/

namespace Courier.Yaml

/-- What a node stands for. -/
inductive Kind where
  | null
  | bool
  | int
  | float
  | binary
  | time
  | text
  | sequence
  | mapping
  | set
  | pairs
  /-- The entries of other mappings. -/
  | merge
  /-- The value of a mapping that stands for a scalar. -/
  | default
  | other (tag : String)
deriving DecidableEq, Repr

namespace Kind

/-- The common beginning of the tags. -/
def tagLead : String := "tag:yaml.org,2002:"

/-- The tags by what comes after their common beginning. -/
def names : List (String × Kind) :=
  [("null", null), ("bool", bool), ("int", int), ("float", float), ("binary", binary),
    ("timestamp", time), ("str", text), ("seq", sequence), ("map", mapping), ("set", set),
    ("omap", pairs), ("pairs", pairs), ("merge", merge), ("value", default)]

/-- What a tag stands for. -/
def ofTag (tag : String) : Kind :=
  if tag.startsWith tagLead then
    (names.lookup (tag.drop tagLead.length).toString).getD (other tag)
  else other tag

/-! ## The looks of scalars -/

/-- The words for truth and for its opposite. -/
def truths : List (String × Bool) :=
  [("yes", true), ("no", false), ("true", true), ("false", false), ("on", true), ("off", false)]

/-- A word, the word with a capital, and the word in capitals. -/
def spellings (word : String) : List String :=
  [word, String.ofList (match word.toList with
    | [] => []
    | c :: rest => c.toUpper :: rest), String.ofList (word.toList.map Char.toUpper)]

/-- Whether a text is a word for truth or its opposite. -/
def looksTrue (s : String) : Bool := truths.any fun t => (spellings t.1).contains s

/-- Whether a text stands for nothing. -/
def looksNull (s : String) : Bool := s.isEmpty || s == "~" || (spellings "null").contains s

/-- Whether a character is a digit or a low line. -/
def isDigitOrLine (c : Char) : Bool := c.isDigit || c == '_'

/-- Whether a text is a run of digits and low lines that begins with a digit. -/
def isDigitRun : List Char → Bool
  | [] => false
  | c :: rest => c.isDigit && rest.all isDigitOrLine

/-- Whether a text is an exponent with its sign, or nothing. -/
def isExponent : List Char → Bool
  | [] => true
  | e :: sign :: digits =>
    (e == 'e' || e == 'E') && (sign == '+' || sign == '-') && !digits.isEmpty &&
      digits.all Char.isDigit
  | _ => false

/-- Whether a text is a place to the base sixty after the first. -/
def isSixtieth : List Char → Bool
  | [c] => c.isDigit
  | [c, d] => c.isDigit && c.toNat < 54 && d.isDigit
  | _ => false

/-- The pieces of a text between colons. -/
def colonPieces : List Char → List (List Char)
  | [] => [[]]
  | c :: rest =>
    match colonPieces rest with
    | [] => [[c]]
    | first :: more => if c == ':' then [] :: first :: more else (c :: first) :: more

/-- Whether a text without a sign is a number with a point to the base ten. -/
def isDecimal (cs : List Char) : Bool :=
  isDigitRun (cs.takeWhile isDigitOrLine) &&
    match cs.dropWhile isDigitOrLine with
    | '.' :: rest => isExponent (rest.dropWhile isDigitOrLine)
    | _ => false

/-- Whether a text without a sign begins with a point and is a number. -/
def isFraction : List Char → Bool
  | '.' :: rest =>
    isDigitRun (rest.takeWhile isDigitOrLine) && isExponent (rest.dropWhile isDigitOrLine)
  | _ => false

/-- Whether a text without a sign is a number with a point to the base sixty. -/
def isSexagesimalFraction (cs : List Char) : Bool :=
  let part := cs.dropWhile (· != '.')
  match colonPieces (cs.takeWhile (· != '.')), part with
  | first :: second :: more, '.' :: digits =>
    isDigitRun first && (second :: more).all isSixtieth && digits.all isDigitOrLine
  | _, _ => false

/-- A text without its sign. -/
def unsigned (cs : List Char) : List Char := (Text.unsign cs).2

/-- Whether a text is a number with a point, or one that is none. -/
def looksFloat (s : String) : Bool :=
  let cs := s.toList
  let body := unsigned cs
  isDecimal body || isFraction cs || isSexagesimalFraction body ||
    [".inf", ".Inf", ".INF"].contains (String.ofList body) || [".nan", ".NaN", ".NAN"].contains s

/-- Whether a text without a sign is a whole number. -/
def isWhole : List Char → Bool
  | ['0'] => true
  | '0' :: 'b' :: rest => !rest.isEmpty && rest.all fun c => c == '0' || c == '1' || c == '_'
  | '0' :: 'x' :: rest => !rest.isEmpty && rest.all fun c => isHexDigit c || c == '_'
  | '0' :: rest => rest.all fun c => ('0' ≤ c && c ≤ '7') || c == '_'
  | cs =>
    match colonPieces cs with
    | first :: more => isDigitRun first && more.all isSixtieth
    | [] => false

/-- Whether a text is a whole number. -/
def looksInt (s : String) : Bool := isWhole (unsigned s.toList)

/-- What a plain scalar stands for. -/
def implied (s : String) : Kind :=
  if looksTrue s then bool
  else if looksFloat s then float
  else if looksInt s then int
  else if s == "<<" then merge
  else if looksNull s then null
  else if TimeParts.isTime s then time
  else if s == "=" then default
  else text

end Kind

/-! ## The values of scalars -/

/-- The truth value of a word. -/
def truthOf (s : String) : Except Fault Value :=
  let word := s.map Char.toLower
  match Kind.truths.lookup word with
  | some b => .ok (.bool b)
  | none => .error (.noTruth word)

/-- The value of a digit to the base sixteen or less; digits of any script count. -/
def digitTo? (base : Nat) (c : Char) : Option Nat :=
  let value := if isHexDigit c then some (hexValue c) else Text.digitValue? c
  value.filter (· < base)

/-- The digits to a base without the sign of the base that may stand before them. -/
def withoutBase (sign : Char) : List Char → List Char
  | '0' :: c :: rest => if c.toLower == sign then rest else '0' :: c :: rest
  | cs => cs

/-- The whole number that a text writes to a base: digits, perhaps with a sign, the sign of the base
once more, and blanks around. -/
def wholeTo (base : Nat) (sign : Char) (cs : List Char) : Except Fault Int :=
  let (negative, body) := Text.unsign (Text.withinMargins cs)
  let digits := withoutBase sign body
  match digits.mapM (digitTo? base) with
  | some (first :: more) =>
    let n : Int := ((first :: more).foldl (fun n d => base * n + d) 0 : Nat)
    .ok (if negative then -n else n)
  | _ => .error (.digits base (String.ofList cs))

/-- The whole number to the base ten. -/
def wholeOf (cs : List Char) : Except Fault Int := (Text.whole? (String.ofList cs)).mapError .number

/-- The number that places to the base sixty make. -/
def sixtieths (places : List Int) : Int := places.foldl (fun n p => 60 * n + p) 0

/-- The whole number that a text without sign and low lines writes. -/
def unsignedWhole : List Char → Except Fault Int
  | [] => .error .emptyNumber
  | ['0'] => .ok 0
  | '0' :: 'b' :: rest => wholeTo 2 'b' rest
  | '0' :: 'x' :: rest => wholeTo 16 'x' rest
  | '0' :: rest => wholeTo 8 'o' ('0' :: rest)
  | cs =>
    if cs.contains ':' then ((Kind.colonPieces cs).mapM wholeOf).map sixtieths else wholeOf cs

/-- The whole number that a text writes. -/
def intOf (s : String) : Except Fault Value := do
  let (negative, cs) := Text.unsign (s.toList.filter (· != '_'))
  let n ← unsignedWhole cs
  return .int (if negative then -n else n)

/-- The floating point number to the base ten; digits of any script count, and blanks may stand
around it. -/
def decimalOf (cs : List Char) : Except Fault Double :=
  let ascii := cs.map fun c => ((Text.digitValue? c).map Nat.digitChar).getD c
  match Double.read? (Text.withinMargins ascii) with
  | some x => .ok x
  | none => .error (.float (String.ofList cs))

/-- The number that places to the base sixty make, the last of which comes first; `weight` is that
of this place. -/
def sixtiethsFrom (sum : Double) (weight : Nat) : List Double → Except Fault Double
  | [] => .ok sum
  | x :: rest =>
    match Double.ofInt weight with
    | .infinite _ => .error .hugeWeight
    | w => sixtiethsFrom (sum.add (x.mul w)) (60 * weight) rest

/-- The floating point number that places to the base sixty make. -/
def sixtiethsFloat (cs : List Char) : Except Fault Double := do
  let places ← (Kind.colonPieces cs).mapM decimalOf
  sixtiethsFrom .zero 1 places.reverse

/-- The floating point number that a text writes. -/
def floatOf (s : String) : Except Fault Value :=
  let written := (s.toList.filter (· != '_')).map Char.toLower
  let (negative, cs) := Text.unsign written
  let body := String.ofList cs
  let signed (x : Double) : Value := .float (if negative then x.neg else x)
  if written.isEmpty then .error .emptyNumber
  else if body == ".inf" then .ok (signed (.infinite false))
  else if body == ".nan" then .ok (.float .nan)
  else if cs.contains ':' then (sixtiethsFloat cs).map signed
  else (decimalOf cs).map signed

/-- The value of a sign of base64. -/
def sextet? (c : Char) : Option Nat :=
  if 'A' ≤ c && c ≤ 'Z' then some (c.toNat - 65)
  else if 'a' ≤ c && c ≤ 'z' then some (c.toNat - 71)
  else if c.isDigit then some (c.toNat + 4)
  else if c == '+' then some 62
  else if c == '/' then some 63
  else none

/-- The bytes of base64 data, of which `place` signs of a group are read and `held` is what they
leave over, after so many padding signs in a row. Other signs are passed over; padding that fills a
group ends the data. -/
def bytesFrom (place held pads : Nat) : List Char → Except Fault (List UInt8)
  | [] => if place = 0 then .ok [] else .error .base64
  | c :: rest =>
    if c == '=' then
      if 2 ≤ place && 4 ≤ place + pads + 1 then .ok [] else bytesFrom place held (pads + 1) rest
    else match sextet? c, place with
      | none, _ => bytesFrom place held pads rest
      | some n, 0 => bytesFrom 1 n 0 rest
      | some n, 1 => ((4 * held + n / 16).toUInt8 :: ·) <$> bytesFrom 2 (n % 16) 0 rest
      | some n, 2 => ((16 * held + n / 4).toUInt8 :: ·) <$> bytesFrom 3 (n % 4) 0 rest
      | some n, _ => ((64 * held + n).toUInt8 :: ·) <$> bytesFrom 0 0 0 rest

/-- The bytes that a text in base64 writes. -/
def binaryOf (s : String) : Except Fault Value :=
  if s.toList.all fun c => c.toNat < 128 then (bytesFrom 0 0 0 s.toList).map .bytes
  else .error .base64

/-- The date or time that a text writes. -/
def timeOf (s : String) : Except Fault Value :=
  match TimeParts.read? s with
  | some parts => parts.toValue
  | none => .error .noTime

/-- The value of a scalar of some kind. -/
def scalarOf (kind : Kind) (s : String) : Except Fault Value :=
  match kind with
  | .null => .ok .null
  | .bool => truthOf s
  | .int => intOf s
  | .float => floatOf s
  | .binary => binaryOf s
  | .time => timeOf s
  | .text => .ok (.text s)
  | .sequence | .mapping | .set | .pairs => .error (.wrongKind s)
  | .merge | .default => .error (.unknownTag s)
  | .other tag => .error (.unknownTag tag)

end Courier.Yaml

import Courier.Value.Basic
import Courier.Double.Text
import Courier.Text.Quoted

/-!
# The text of a value

`Value.text?` is the text of a value as it stands in a message of this program; `Value.quoted?` is
its form inside a collection, where texts are quoted and dates are spelled out. Both fail for a
value that cannot be shown and for an integer with too many digits.

`Value.written?` is the text that takes the place of a placeholder, and `Value.isTruthy` decides
whether a section of a template is kept.
-/

namespace Courier

/-- Why a value has no text. -/
inductive TextFault where
  /-- The value refuses, with a reason of its own. -/
  | refused (reason : String)
  /-- The value is or holds an integer of more than 4300 digits. -/
  | tooManyDigits
deriving DecidableEq, Repr

/-- The name of a fault. -/
def TextFault.label : TextFault → String
  | .refused _ => "RuntimeError"
  | .tooManyDigits => "ValueError"

/-- What a caller is told. -/
def TextFault.message : TextFault → String
  | .refused reason => reason
  | .tooManyDigits =>
    "Exceeds the limit (4300 digits) for integer string conversion; " ++
      "use sys.set_int_max_str_digits() to increase the limit"

/-- The most digits that an integer is written or read with. -/
def digitLimit : Nat := 4300

namespace Value

/-- The decimal text of a natural number. -/
def natText (n : Nat) : String := String.ofList (Nat.toDigits 10 n)

/-- The decimal text of an integer. -/
def intText (n : Int) : String :=
  if n < 0 then "-" ++ natText n.natAbs else natText n.natAbs

/-- The decimal text of an integer, unless it has too many digits. -/
def intText? (n : Int) : Except TextFault String :=
  if n.natAbs < Nat.pow 10 digitLimit then .ok (intText n) else .error .tooManyDigits

/-- The name of a truth value inside a collection. -/
def boolText (b : Bool) : String := if b then "True" else "False"

/-- A distance in time, spelled out. -/
def quotedSpan (micros : Int) : String :=
  let days := micros / 86400000000
  let within := (micros % 86400000000).toNat
  let seconds := within / 1000000
  let rest := within % 1000000
  let parts :=
    (if days = 0 then [] else ["days=" ++ intText days]) ++
    (if seconds = 0 then [] else ["seconds=" ++ intText seconds]) ++
    (if rest = 0 then [] else ["microseconds=" ++ intText rest])
  "datetime.timedelta(" ++ ", ".intercalate parts ++ ")"

/-- A distance from universal time, spelled out. -/
def quotedOffset (ahead : Int) : String :=
  if ahead = 0 then "datetime.timezone.utc" else "datetime.timezone(" ++ quotedSpan ahead ++ ")"

/-- A date spelled out. -/
def quotedDate (d : Date) : String :=
  "datetime.date(" ++ ", ".intercalate ([d.year, d.month, d.day].map natText) ++ ")"

/-- A reading spelled out; seconds and microseconds are left out where nothing but zeros would
follow. -/
def quotedReading (r : Reading) : String :=
  let a := r.face
  let seconds :=
    if a.microsecond ≠ 0 then [a.second, a.microsecond]
    else if a.second ≠ 0 then [a.second] else []
  let parts := [a.date.year, a.date.month, a.date.day, a.hour, a.minute] ++ seconds
  let zone := match r.offset with
    | none => []
    | some ahead => ["tzinfo=" ++ quotedOffset ahead]
  "datetime.datetime(" ++ ", ".intercalate (parts.map natText ++ zone) ++ ")"

/-- One byte of a quoted run of bytes. -/
def quotedByte (mark : Char) (b : UInt8) : String :=
  let c := Char.ofNat b.toNat
  if c == mark || c == '\\' then String.ofList ['\\', c]
  else if 32 ≤ b.toNat && b.toNat < 127 then String.singleton c
  else if c == '\t' then "\\t" else if c == '\n' then "\\n" else if c == '\r' then "\\r"
  else "\\x" ++ Text.hex 2 b.toNat

/-- A run of bytes between quotes. -/
def quotedBytes (bs : List UInt8) : String :=
  let mark := Text.quoteMark (bs.map fun b => Char.ofNat b.toNat)
  "b" ++ String.singleton mark ++ String.join (bs.map (quotedByte mark)) ++ String.singleton mark

mutual

/-- The text of a value inside a collection. -/
def quoted? : Value → Except TextFault String
  | null => .ok "None"
  | bool b => .ok (boolText b)
  | int n => intText? n
  | float x => .ok x.text
  | text s => .ok (Text.quoted s)
  | bytes bs => .ok (quotedBytes bs)
  | date d => .ok (quotedDate d)
  | moment r => .ok (quotedReading r)
  | list xs => (quotedItems? xs).map fun parts => "[" ++ ", ".intercalate parts ++ "]"
  | tuple xs => (quotedItems? xs).map fun parts => match parts with
    | [one] => "(" ++ one ++ ",)"
    | parts => "(" ++ ", ".intercalate parts ++ ")"
  | set xs => (quotedItems? xs).map fun parts =>
    if parts.isEmpty then "set()" else "\x7b" ++ ", ".intercalate parts ++ "\x7d"
  | dict es => (quotedEntries? es).map fun parts => "\x7b" ++ ", ".intercalate parts ++ "\x7d"
  | object _ name fs => (quotedFields? fs).map fun parts =>
    name ++ "(" ++ ", ".intercalate parts ++ ")"
  | unshowable reason => .error (.refused reason)

/-- The texts of the items of a collection. -/
def quotedItems? : List Value → Except TextFault (List String)
  | [] => .ok []
  | x :: xs => do
    let first ← quoted? x
    let rest ← quotedItems? xs
    return first :: rest

/-- The texts of the pairs of a bag. -/
def quotedEntries? : List (Value × Value) → Except TextFault (List String)
  | [] => .ok []
  | (k, v) :: es => do
    let key ← quoted? k
    let value ← quoted? v
    let rest ← quotedEntries? es
    return (key ++ ": " ++ value) :: rest

/-- The texts of the fields of an object. -/
def quotedFields? : List (String × Value) → Except TextFault (List String)
  | [] => .ok []
  | (name, v) :: fs => do
    let value ← quoted? v
    let rest ← quotedFields? fs
    return (name ++ "=" ++ value) :: rest

end

/-- The text of a value. A model shows its fields alone. -/
def text? : Value → Except TextFault String
  | text s => .ok s
  | date d => .ok d.text
  | moment r => .ok r.text
  | object .model _ fs => (quotedFields? fs).map fun parts => " ".intercalate parts
  | v => quoted? v

/-- The bound below which a whole floating point number is written as an integer. -/
def wholeLimit : Nat := Nat.pow 10 21

/-- The text put in place of a placeholder: nothing for an absent value, truth values in lower
case, and whole floating point numbers as integers. -/
def written? : Value → Except TextFault String
  | null => .ok ""
  | bool b => .ok (if b then "true" else "false")
  | float x => match x.toInt? with
    | some n => if n.natAbs < wholeLimit then .ok (intText n) else .ok x.text
    | none => .ok x.text
  | v => text? v

/-- Whether a section of a template is kept: absent values, false, empty texts, zero and what is
not a number do not count; collections do even when they are empty. -/
def isTruthy : Value → Bool
  | null => false
  | bool b => b
  | text s => s != ""
  | int n => n != 0
  | float x => !x.isZero && !x.isNan
  | _ => true

end Value

end Courier

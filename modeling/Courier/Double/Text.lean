import Courier.Double.Digits

/-!
# Writing and reading numbers

A number is written with its shortest digits: positionally where the point falls within the
first sixteen places or after at most three zeros, with an exponent otherwise. `Double.brief`
keeps six digits and no trailing zeros. `Double.read?` reads decimal text back.
-/

namespace Courier.Double

/-- How the digits of a number are laid out. -/
structure Layout where
  /-- The most digits before the point that are still written without an exponent. -/
  places : Int
  /-- Whether a whole number ends in a point and a zero. -/
  keepsPoint : Bool

/-- The exponent part: a sign and at least two digits. -/
def exponentText (e : Int) : String :=
  let digits := toString e.natAbs
  (if e < 0 then "e-" else "e+") ++ (if digits.length < 2 then "0" ++ digits else digits)

/-- Text of zeros. -/
def zerosText (n : Nat) : String := String.ofList (List.replicate n '0')

/-- The digits with their point, where `point` counts the digits before it. -/
def Layout.write (layout : Layout) (digits : String) (point : Int) : String :=
  let count : Int := digits.length
  if -4 < point ∧ point ≤ layout.places then
    if point ≤ 0 then "0." ++ zerosText (-point).toNat ++ digits
    else if count ≤ point then
      digits ++ zerosText (point - count).toNat ++ (if layout.keepsPoint then ".0" else "")
    else (digits.take point.toNat).toString ++ "." ++ (digits.drop point.toNat).toString
  else
    let lead := (digits.take 1).toString
    let rest := (digits.drop 1).toString
    lead ++ (if rest.isEmpty then "" else "." ++ rest) ++ exponentText (point - 1)

/-- A number laid out with the digits that `pick` chooses. -/
def writeWith (layout : Layout) (pick : Nat → Int → Nat × Int) : Double → String
  | nan => "nan"
  | infinite s => if s then "-inf" else "inf"
  | finite s m e =>
    let body :=
      if m = 0 then layout.write "0" 1
      else
        let (digits, scale) := pick m e
        let written := toString digits
        layout.write written (written.length + scale)
    if s then "-" ++ body else body

/-- The shortest text that reads back as the number. -/
def text : Double → String := writeWith ⟨16, true⟩ shortest

/-- The number to six significant digits. -/
def brief : Double → String := writeWith ⟨6, false⟩ (rounded 6)

/-! ## Reading -/

/-- The value of a run of ASCII digits. -/
def naturalOf (digits : List Char) : Nat := digits.foldl (fun n c => 10 * n + (c.toNat - 48)) 0

/-- An optional sign and what follows it. -/
def signOf : List Char → Bool × List Char
  | '-' :: rest => (true, rest)
  | '+' :: rest => (false, rest)
  | cs => (false, cs)

/-- A written exponent, or zero where the text ends. -/
def exponentOf? : List Char → Option Int
  | [] => some 0
  | c :: rest =>
    if c == 'e' || c == 'E' then
      let (negative, digits) := signOf rest
      if digits.isEmpty || !digits.all Char.isDigit then none
      else
        let n : Int := naturalOf digits
        some (if negative then -n else n)
    else none

/-- An unsigned decimal: digits with an optional point and an optional exponent. -/
def readUnsigned? (negative : Bool) (cs : List Char) : Option Double :=
  let whole := cs.takeWhile Char.isDigit
  let rest := cs.dropWhile Char.isDigit
  let (part, rest) : List Char × List Char := match rest with
    | '.' :: more => (more.takeWhile Char.isDigit, more.dropWhile Char.isDigit)
    | _ => ([], rest)
  if whole.isEmpty && part.isEmpty then none
  else (exponentOf? rest).map fun e =>
    ofDecimal negative (naturalOf (whole ++ part)) (e - part.length)

/-- The number a decimal text stands for, names of infinities and of what is not a number
included in any case. -/
def read? (cs : List Char) : Option Double :=
  let (negative, body) := signOf cs
  let name := String.ofList (body.map Char.toLower)
  if name == "inf" || name == "infinity" then some (infinite negative)
  else if name == "nan" then some nan
  else readUnsigned? negative body

end Courier.Double

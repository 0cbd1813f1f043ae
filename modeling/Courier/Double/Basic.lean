/-!
# Binary floating point numbers

A `Double` is a number `± mantissa * 2 ^ exponent` of the 64-bit binary format, an infinity, or
not a number. Every operation is exact arithmetic on integers followed by one rounding,
`Double.ofRatio`, which gives the nearest representable number to a quotient and takes the even
neighbour of a tie.

The mantissa stays below `2 ^ 53` and the exponent at or above `-1074`; a number whose mantissa
is below `2 ^ 52` has exactly that least exponent. So two finite numbers of one sign are equal
exactly if their fields are.
-/

namespace Courier

/-- A number of the 64-bit binary floating point format. -/
inductive Double where
  /-- Not a number. -/
  | nan
  /-- One of the two infinities. -/
  | infinite (negative : Bool)
  /-- The number `mantissa * 2 ^ exponent` or its negative; zero has a sign too. -/
  | finite (negative : Bool) (mantissa : Nat) (exponent : Int)
deriving DecidableEq, Repr, Inhabited

namespace Double

/-! ## Rounding -/

/-- The integer nearest to a quotient, the even one of two equally near. -/
def nearest (num den : Nat) : Nat :=
  let q := num / den
  let r := num % den
  if 2 * r < den then q
  else if den < 2 * r then q + 1
  else if q % 2 = 0 then q else q + 1

/-- The integer nearest to `num / den / 2 ^ e`. -/
def nearestScaled (num den : Nat) (e : Int) : Nat :=
  if 0 ≤ e then nearest num (den * Nat.pow 2 e.toNat)
  else nearest (num * Nat.pow 2 (-e).toNat) den

/-- The exponent of every number too small for a full mantissa. -/
def leastExponent : Int := -1074

/-- The exponent of the largest finite numbers. -/
def greatestExponent : Int := 971

/-- The exponent with which `num / den` has a mantissa of 53 bits, or the least one. -/
def exponentOf (num den : Nat) : Int :=
  let low : Int := (num.log2 : Int) - den.log2 - 53
  let full :=
    if 0 ≤ low then den * Nat.pow 2 (53 + low.toNat) ≤ num
    else den * Nat.pow 2 53 ≤ num * Nat.pow 2 (-low).toNat
  max (if full then low + 1 else low) leastExponent

/-- The number nearest to a quotient of naturals, with the given sign. -/
def ofRatio (negative : Bool) (num den : Nat) : Double :=
  if num = 0 then finite negative 0 leastExponent
  else
    let e := exponentOf num den
    let m := nearestScaled num den e
    let (m, e) := if m = Nat.pow 2 53 then (Nat.pow 2 52, e + 1) else (m, e)
    if greatestExponent < e then infinite negative else finite negative m e

/-- The number nearest to an integer. -/
def ofInt (n : Int) : Double := ofRatio (n < 0) n.natAbs 1

/-- Positive zero. -/
def zero : Double := finite false 0 leastExponent

/-- The number nearest to `digits * 10 ^ scale`, with the given sign. Scales beyond the range of
the format are cut off first, since they decide the answer alone. -/
def ofDecimal (negative : Bool) (digits : Nat) (scale : Int) : Double :=
  if digits = 0 then finite negative 0 leastExponent
  else if 400 < scale then infinite negative
  else if scale < -400 - (Nat.toDigits 10 digits).length then finite negative 0 leastExponent
  else if 0 ≤ scale then ofRatio negative (digits * Nat.pow 10 scale.toNat) 1
  else ofRatio negative digits (Nat.pow 10 (-scale).toNat)

/-! ## Order -/

/-- The mantissa with its sign, scaled to an exponent not above its own. -/
def scaledTo (least : Int) (negative : Bool) (mantissa : Nat) (exponent : Int) : Int :=
  let n : Int := (mantissa * Nat.pow 2 (exponent - least).toNat : Nat)
  if negative then -n else n

/-- The order of two numbers; nothing compares with what is not a number. -/
def compare? : Double → Double → Option Ordering
  | nan, _ => none
  | _, nan => none
  | infinite a, infinite b => some (compare b a)
  | infinite a, finite .. => some (if a then .lt else .gt)
  | finite .., infinite b => some (if b then .gt else .lt)
  | finite s m e, finite t n f =>
    some (compare (scaledTo (min e f) s m e) (scaledTo (min e f) t n f))

/-- Strictly below. -/
def lt (x y : Double) : Bool := compare? x y == some .lt

/-- Below or equal; the two zeros are equal. -/
def le (x y : Double) : Bool := compare? x y == some .lt || compare? x y == some .eq

/-- Equal as numbers. -/
def same (x y : Double) : Bool := compare? x y == some .eq

/-- Whether a value is not a number. -/
def isNan : Double → Bool
  | nan => true
  | _ => false

/-- Whether a value is neither an infinity nor not a number. -/
def isFinite : Double → Bool
  | finite .. => true
  | _ => false

/-- Whether a value is one of the two zeros. -/
def isZero : Double → Bool
  | finite _ m _ => m == 0
  | _ => false

@[simp] theorem le_nan (x : Double) : le x nan = false := by cases x <;> rfl

/-! ## Integers -/

/-- The absolute value as a fraction of naturals. -/
def fraction (mantissa : Nat) (exponent : Int) : Nat × Nat :=
  if 0 ≤ exponent then (mantissa * Nat.pow 2 exponent.toNat, 1)
  else (mantissa, Nat.pow 2 (-exponent).toNat)

/-- The number without its fractional part, if it is finite. -/
def truncate? : Double → Option Int
  | finite s m e =>
    let (num, den) := fraction m e
    let n : Int := (num / den : Nat)
    some (if s then -n else n)
  | _ => none

/-- The integer equal to the number, if there is one. -/
def toInt? : Double → Option Int
  | finite s m e =>
    let (num, den) := fraction m e
    if num % den = 0 then
      let n : Int := (num / den : Nat)
      some (if s then -n else n)
    else none
  | _ => none

/-- The product with a natural number, rounded once. -/
def mulNat (x : Double) (k : Nat) : Double :=
  match x with
  | finite s m e =>
    let (num, den) := fraction m e
    ofRatio s (num * k) den
  | infinite s => if k = 0 then nan else infinite s
  | nan => nan

/-! ## Sums and products

Sums and products are those of the exact values, rounded once. A sum of zero is positive unless
both numbers are negative.
-/

/-- The number with the other sign. -/
def neg : Double → Double
  | nan => nan
  | infinite s => infinite !s
  | finite s m e => finite (!s) m e

/-- The product of two numbers. -/
def mul : Double → Double → Double
  | nan, _ | _, nan => nan
  | infinite s, infinite t => infinite (s != t)
  | infinite s, finite t n _ | finite t n _, infinite s => if n = 0 then nan else infinite (s != t)
  | finite s m e, finite t n f =>
    let (num, den) := fraction m e
    let (num', den') := fraction n f
    ofRatio (s != t) (num * num') (den * den')

/-- The sum of two numbers. -/
def add : Double → Double → Double
  | nan, _ | _, nan => nan
  | infinite s, infinite t => if s = t then infinite s else nan
  | infinite s, finite .. | finite .., infinite s => infinite s
  | finite s m e, finite t n f =>
    let least := min e f
    let sum := scaledTo least s m e + scaledTo least t n f
    let (num, den) := fraction sum.natAbs least
    ofRatio (if sum = 0 then s && t else sum < 0) num den

example : add (ofRatio false 1 10) (ofRatio false 2 10) = finite false 5404319552844596 (-54) := by
  decide +kernel

end Double

end Courier

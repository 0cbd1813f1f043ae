import Courier.Double.Basic

/-!
# Decimal digits of a number

`Double.shortest` gives the fewest decimal digits that read back as the number, and of those the
nearest to it. `Double.rounded` gives the nearest decimal with a fixed count of digits. Both
answer with an integer and a power of ten.

For each count of digits only the two neighbours of the number on that decimal grid are tried: if
any point of the grid reads back, one of them does.
-/

namespace Courier.Double

/-- The count of decimal digits of a natural number. -/
def digitCount (n : Nat) : Nat := (Nat.toDigits 10 n).length

/-- The power of ten just above a positive quotient: the least `k` with `num / den < 10 ^ k`. -/
def magnitude (num den : Nat) : Int :=
  if den ≤ num then digitCount (num / den)
  else 1 - (digitCount ((den + num - 1) / num - 1) : Int)

/-- The quotient `num / den / 10 ^ scale` as a fraction. -/
def overPowerOfTen (num den : Nat) (scale : Int) : Nat × Nat :=
  if 0 ≤ scale then (num, den * Nat.pow 10 scale.toNat) else (num * Nat.pow 10 (-scale).toNat, den)

/-- Of the two decimals around the number on one grid, the nearest that reads back. -/
def onGrid? (mantissa : Nat) (exponent : Int) (scale : Int) : Option Nat :=
  let (num, den) := fraction mantissa exponent
  let (n, d) := overPowerOfTen num den scale
  let below := n / d
  let readsBack := fun digits => ofDecimal false digits scale == finite false mantissa exponent
  let r := n % d
  let belowFirst := 2 * r < d || (2 * r == d && below % 2 == 0)
  let candidates := if belowFirst then [below, below + 1] else [below + 1, below]
  candidates.find? readsBack

/-- The decimal without trailing zeros; `fuel` bounds how many are taken away. -/
def stripZeros : Nat → Nat → Int → Nat × Int
  | 0, digits, scale => (digits, scale)
  | fuel + 1, digits, scale =>
    if digits % 10 = 0 then stripZeros fuel (digits / 10) (scale + 1) else (digits, scale)

/-- The first grid on which the number reads back, from `count` digits on for `fuel` grids. -/
def shortestFrom (mantissa : Nat) (exponent top : Int) : Nat → Nat → Nat × Int
  | 0, count => (0, top - count)
  | fuel + 1, count =>
    match onGrid? mantissa exponent (top - count) with
    | some digits => (digits, top - count)
    | none => shortestFrom mantissa exponent top fuel (count + 1)

/-- The shortest digits of a positive finite number. -/
def shortest (mantissa : Nat) (exponent : Int) : Nat × Int :=
  let (num, den) := fraction mantissa exponent
  let (digits, scale) := shortestFrom mantissa exponent (magnitude num den) 17 1
  stripZeros 18 digits scale

/-- The nearest decimal with a fixed count of digits to a positive finite number. -/
def rounded (count mantissa : Nat) (exponent : Int) : Nat × Int :=
  let (num, den) := fraction mantissa exponent
  let scale := magnitude num den - count
  let (n, d) := overPowerOfTen num den scale
  stripZeros (count + 1) (nearest n d) scale

end Courier.Double

import Courier.Double.Basic

/-!
# The delivery rate

A rate is a percentage with one decimal, a half being rounded up. The quotient behind it is first
rounded to 28 significant digits, a half going to the even neighbour, and the rate is kept only if
it has no more digits than that. A rate of nothing is zero.
-/

namespace Courier.Rate

/-- The significant digits that a quotient and a rate are kept with. -/
def precision : Nat := 28

/-- The count of decimal digits. -/
def digitCount (n : Nat) : Nat := (Nat.toDigits 10 n).length

/-- A quotient divided by a power of ten, as a fraction. -/
def scaled (num den : Nat) (e : Int) : Nat × Nat :=
  if 0 ≤ e then (num, den * Nat.pow 10 e.toNat) else (num * Nat.pow 10 (-e).toNat, den)

/-- The power of ten that leaves a quotient with all its significant digits before the point. -/
def exponentOf (num den : Nat) : Int :=
  let low : Int := (digitCount num : Int) - digitCount den - precision
  let (n, d) := scaled num den low
  if d * Nat.pow 10 precision ≤ n then low + 1 else low

/-- A quotient of positive numbers with its significant digits, and their power of ten. -/
def quotient (num den : Nat) : Nat × Int :=
  let e := exponentOf num den
  (Double.nearest (scaled num den e).1 (scaled num den e).2, e)

/-- The tenths in a decimal number, a half being rounded up. -/
def tenths (digits : Nat) (e : Int) : Nat :=
  if 0 ≤ e + 1 then digits * Nat.pow 10 (e + 1).toNat
  else
    let unit := Nat.pow 10 (-(e + 1)).toNat
    (2 * digits + unit) / (2 * unit)

/-- The percentage of `total` that `reached` is, unless it has too many digits. -/
def percent? (reached total : Int) : Option Double :=
  if total = 0 then some .zero
  else
    let negative := decide (reached < 0) != decide (total < 0)
    let whole := 100 * reached.natAbs
    if whole = 0 then some (Double.ofRatio negative 0 10)
    else
      let q := quotient whole total.natAbs
      let t := tenths q.1 q.2
      if Nat.pow 10 precision ≤ t then none else some (Double.ofRatio negative t 10)

end Courier.Rate

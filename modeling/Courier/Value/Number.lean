import Courier.Double.Text
import Courier.Value.Text

/-!
# Numbers of either kind

A time to wait or a share may be handed over as a whole number or as a floating point number. It is
kept and written as it came; comparisons go by what it is worth.
-/

namespace Courier

/-- A number, whole or not. -/
inductive Number where
  | whole (n : Int)
  | real (x : Double)
deriving DecidableEq, Repr

namespace Number

instance : Inhabited Number := ⟨whole 0⟩

/-- The number as a floating point number. -/
def toDouble : Number → Double
  | whole n => Double.ofInt n
  | real x => x

/-- The number as a value. -/
def toValue : Number → Value
  | whole n => .int n
  | real x => .float x

/-- The number that a value is; truth values count as zero and one. -/
def ofValue? : Value → Option Number
  | .int n => some (whole n)
  | .bool b => some (whole (if b then 1 else 0))
  | .float x => some (real x)
  | _ => none

/-- The number in full. -/
def text : Number → String
  | whole n => Value.intText n
  | real x => x.text

/-- The number with at most six significant digits. -/
def brief (n : Number) : String := n.toDouble.brief

/-- Whether a number is not above zero. -/
def isNonpositive : Number → Bool
  | whole n => n ≤ 0
  | real x => x.le .zero

/-- Whether a number is below zero. -/
def isNegative : Number → Bool
  | whole n => n < 0
  | real x => x.lt .zero

/-- Whether a number lies between zero and one. -/
def isShare : Number → Bool
  | whole n => n == 0 || n == 1
  | real x => Double.le .zero x && x.le (Double.ofInt 1)

end Number

end Courier

import FlavoredMarkdown.Decimal.Shortest
import FlavoredMarkdown.Text.Digits

/-!
# Numbers

A number is a whole number of any size or a floating-point number. Numbers of the two kinds are
compared by their exact values, and a sum of whole numbers is exact; a sum with a floating-point number
in it is one, and there is none if the other number is too large for it.
-/

namespace FlavoredMarkdown

/-- A number of either kind. -/
inductive Number
  | int (n : Int)
  | float (x : Float)

namespace Number

/-- Whether a floating-point number has a sign in front, which zero may have too. -/
def isSigned (x : Float) : Bool := 1 <<< 63 ≤ x.toBits.toNat

/-- Whether a floating-point number is exactly a whole number. -/
def isWhole (x : Float) (n : Int) : Bool :=
  if x.isNaN || x.isInf then false
  else
    let b := Decimal.Binary.ofBits x.toBits
    n.natAbs * (1 <<< (-b.exponent).toNat) == b.mantissa * (1 <<< b.exponent.toNat) &&
      (n == 0 || isSigned x == decide (n < 0))

/-- Whether two numbers have the same value. -/
def same : Number → Number → Bool
  | .int m, .int n => m == n
  | .int n, .float x | .float x, .int n => isWhole x n
  | .float x, .float y => x == y

/-- The floating-point number nearest to a number, unless it is too large. -/
def nearest? : Number → Option Float
  | .int n =>
    let x := Text.nearestFloat n.natAbs 0
    if x.isInf then none else some (if n < 0 then -x else x)
  | .float x => some x

/-- The sum of two numbers, unless one is too large for the kind of the other. -/
def sum? : Number → Number → Option Number
  | .int m, .int n => some (.int (m + n))
  | a, b => a.nearest?.bind fun x => b.nearest?.map fun y => .float (x + y)

end Number

end FlavoredMarkdown

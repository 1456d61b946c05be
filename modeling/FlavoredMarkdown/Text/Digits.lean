/-!
# Digits

Numbers written in digits: of base ten, of base sixteen, and with a power of ten behind them.
-/

namespace FlavoredMarkdown.Text

/-- The value of a hexadecimal digit. -/
def hexValue? (c : Char) : Option Nat :=
  if '0' ≤ c ∧ c ≤ '9' then some (c.toNat - '0'.toNat)
  else if 'a' ≤ c ∧ c ≤ 'f' then some (c.toNat - 'a'.toNat + 10)
  else if 'A' ≤ c ∧ c ≤ 'F' then some (c.toNat - 'A'.toNat + 10)
  else none

/-- The number written in some hexadecimal digits. -/
def hexNumber? (cs : List Char) : Option Nat :=
  cs.foldl (fun n c => n.bind fun n => (hexValue? c).map fun d => n * 16 + d) (some 0)

/-- The digits in front. -/
def digits (cs : List Char) : List Char × List Char :=
  (cs.takeWhile Char.isDigit, cs.dropWhile Char.isDigit)

/-- The number written in some decimal digits. -/
def decimalNumber (cs : List Char) : Nat :=
  cs.foldl (fun n c => n * 10 + (c.toNat - '0'.toNat)) 0

/-- The floating-point number nearest to `n · 10 ^ exponent`. -/
def nearestFloat (n : Nat) (exponent : Int) : Float :=
  if 400 < exponent + (toString n).length ∧ n ≠ 0 then 1.0 / 0.0
  else if exponent < -1500 then 0.0
  else Float.ofScientific n (exponent < 0) exponent.natAbs

end FlavoredMarkdown.Text

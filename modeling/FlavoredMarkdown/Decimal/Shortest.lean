/-!
# The shortest decimal that reads back

A binary floating-point number is `m · 2 ^ q`. All reals in an interval around it round to it, and
among the decimals in that interval the one with the fewest digits stands for the number in text; of
two with equally many digits the nearer one, and of two that are equally near the even one. `shortest`
looks for it grid by grid: on the grid of decimals with `n` digits only the two neighbours of the
number can be in the interval, if any is. All arithmetic is exact.
-/

namespace FlavoredMarkdown.Decimal

/-- The positive number `mantissa · 2 ^ exponent`. `narrow` says that the next number below is only
half as far away as the next one above, as it is at a power of two. -/
structure Binary where
  mantissa : Nat
  exponent : Int
  narrow : Bool
  deriving DecidableEq, Repr

/-- The number `digits · 10 ^ exponent`. -/
structure Scientific where
  digits : Nat
  exponent : Int
  deriving DecidableEq, Repr

/-- The positive finite number with these bits; the sign is not looked at. -/
def Binary.ofBits (bits : UInt64) : Binary :=
  let hidden : Nat := 1 <<< 52
  let raw : Nat := bits.toNat % (1 <<< 63)
  let field : Nat := raw / hidden
  let fraction : Nat := raw % hidden
  if field = 0 then ⟨fraction, -1074, false⟩
  else ⟨fraction + hidden, (field : Int) - 1075, fraction = 0 && 1 < field⟩

/-- The number of decimal digits of `n`, at most `fuel`. -/
def digitCount (fuel n : Nat) : Nat :=
  match fuel with
  | 0 => 0
  | fuel + 1 => if n < 10 then 1 else digitCount fuel (n / 10) + 1

/-- The number of zeros between the decimal point of `num / den < 1` and its first other digit. -/
def leadingZeros (fuel num den : Nat) : Nat :=
  match fuel with
  | 0 => 0
  | fuel + 1 => if den ≤ num * 10 then 0 else leadingZeros fuel (num * 10) den + 1

/-- The power of ten just above `num / den`: the number is at least a tenth of it. -/
def magnitude (num den : Nat) : Int :=
  if den ≤ num then ((digitCount 400 (num / den) : Nat) : Int)
  else -((leadingZeros 400 num den : Nat) : Int)

/-- The two decimals with `n` digits around the number, and whether each lies in the interval of
reals that round to it. The nearer of those that do is the result, or the even one if both are
equally near. -/
def onGrid? (b : Binary) (n : Nat) : Option Scientific :=
  let up := 1 <<< b.exponent.toNat
  let down := 1 <<< (-b.exponent).toNat
  let scale := magnitude (b.mantissa * up) down - n
  -- Everything below is four times the number over one denominator.
  let den := down * Nat.pow 10 scale.toNat
  let unit := up * Nat.pow 10 (-scale).toNat
  let here := 4 * b.mantissa * unit
  let low := here - (if b.narrow then 1 else 2) * unit
  let high := here + 2 * unit
  let closed := b.mantissa % 2 = 0
  let inside (d : Nat) : Bool :=
    let at4 := 4 * d * den
    if closed then low ≤ at4 && at4 ≤ high else low < at4 && at4 < high
  let below := here / (4 * den)
  let above := below + 1
  let downward := here - 4 * below * den
  let upward := 4 * above * den - here
  let prefersBelow := downward < upward || (downward = upward && below % 2 = 0)
  if inside below && (prefersBelow || !inside above) then some ⟨below, scale⟩
  else if inside above then some ⟨above, scale⟩
  else none

/-- The same number without zeros at the end of its digits. -/
def Scientific.stripZeros (fuel : Nat) (s : Scientific) : Scientific :=
  match fuel with
  | 0 => s
  | fuel + 1 =>
    if s.digits % 10 = 0 && s.digits ≠ 0 then stripZeros fuel ⟨s.digits / 10, s.exponent + 1⟩ else s

/-- The shortest decimal that reads back as the number. Seventeen digits are always enough. -/
def shortest (b : Binary) : Scientific :=
  match (List.range 17).findSome? fun k => onGrid? b (k + 1) with
  | some s => s.stripZeros 20
  | none => ⟨b.mantissa, b.exponent⟩

/-- How numbers are laid out: with a decimal point from `10 ^ smallest` up to, not including,
`10 ^ largest`, and with a power of ten outside. -/
structure Layout where
  smallest : Int
  largest : Int

/-- Zero, then the shortest digits: with a point, and a zero behind it if nothing else is, or with an
exponent of at least two digits. -/
def Layout.magnitudeText (layout : Layout) (s : Scientific) : String :=
  let digits := (toString s.digits).toList
  let point := s.exponent + digits.length
  if layout.smallest < point && point ≤ layout.largest then
    if point ≤ 0 then
      String.ofList (['0', '.'] ++ List.replicate (-point).toNat '0' ++ digits)
    else if point.toNat < digits.length then
      String.ofList (digits.take point.toNat ++ '.' :: digits.drop point.toNat)
    else
      String.ofList (digits ++ List.replicate (point.toNat - digits.length) '0' ++ ['.', '0'])
  else
    let power := point - 1
    let head := digits.take 1
    let tail := digits.drop 1
    let size := toString power.natAbs
    String.ofList (head ++ (if tail.isEmpty then [] else '.' :: tail) ++
      ['e', if power < 0 then '-' else '+'] ++ (if size.length < 2 then ['0'] else []) ++ size.toList)

/-- A number in values and messages has a point from 0.0001 up to sixteen digits. -/
def plain : Layout := ⟨-4, 16⟩

/-- The text of a floating-point number. -/
def Layout.text (layout : Layout) (x : Float) : String :=
  if x.isNaN then "nan"
  else
    let sign := if x.toBits.toNat < 1 <<< 63 then "" else "-"
    if x.isInf then sign ++ "inf"
    else if x == 0.0 then sign ++ "0.0"
    else sign ++ layout.magnitudeText (shortest (Binary.ofBits x.toBits))

end FlavoredMarkdown.Decimal

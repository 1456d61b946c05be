import FlavoredMarkdown.Text.Digits
import FlavoredMarkdown.Text.Split
import FlavoredMarkdown.Value

/-!
# Plain scalars

What is written in YAML without quotes means what it means in version 1.1: yes and off are truth
values, numbers can be of base two, eight, sixteen and sixty, and what is nothing else is a text.
`resolved?` is the meaning of such a text.
-/

namespace FlavoredMarkdown.Yaml

open Text (decimalNumber hexValue? nearestFloat)

/-- The spellings of nothing. -/
def nullWords : List String := ["~", "null", "Null", "NULL", ""]

/-- The spellings of true. -/
def trueWords : List String :=
  ["yes", "Yes", "YES", "true", "True", "TRUE", "on", "On", "ON"]

/-- The spellings of false. -/
def falseWords : List String :=
  ["no", "No", "NO", "false", "False", "FALSE", "off", "Off", "OFF"]

/-- The number written in digits of a base. -/
def numberOf (base : Nat) (ds : List Char) : Nat :=
  ds.foldl (fun n c => n * base + (hexValue? c).getD 0) 0

/-- Whether all characters are digits of a base, at least one. -/
def areDigits (base : Nat) (ds : List Char) : Bool :=
  !ds.isEmpty && ds.all fun c => (hexValue? c).any (· < base)

/-- The digits behind a colon, for numbers of base sixty: one or two, below sixty. -/
def isSixty (ds : List Char) : Bool := areDigits 10 ds && ds.length ≤ 2 && decimalNumber ds < 60

/-- A natural number. A zero in front means base eight unless a letter tells the base, and colons part
digits of base sixty. Low lines between digits mean nothing. -/
def natural? (cs : List Char) : Option Nat :=
  let grouped (base : Nat) (ds : List Char) : Option Nat :=
    let plain := ds.filter (· != '_')
    if areDigits base plain then some (numberOf base plain) else none
  match cs with
  | '0' :: 'b' :: ds => grouped 2 ds
  | '0' :: 'x' :: ds => grouped 16 ds
  | '0' :: ds => grouped 8 ('0' :: ds)
  | c :: _ =>
    if !c.isDigit then none
    else
      match Text.partsAt ':' cs with
      | first :: more =>
        if more.all isSixty then
          (grouped 10 first).map (more.foldl fun n ds => n * 60 + decimalNumber ds)
        else none
      | [] => none
  | [] => none

/-- What stands behind a point: digits, and a power of ten, which has a sign. -/
def fraction? (cs : List Char) : Option (List Char × Int) :=
  let ds := cs.takeWhile fun c => c.isDigit || c == '_'
  let plain := ds.filter (· != '_')
  match cs.drop ds.length with
  | [] => some (plain, 0)
  | e :: sign :: power =>
    if (e == 'e' || e == 'E') && areDigits 10 power then
      if sign = '-' then some (plain, -(decimalNumber power))
      else if sign = '+' then some (plain, decimalNumber power)
      else none
    else none
  | _ => none

/-- A number with a point. Only digits in front of the point can have a sign before them, and they may
be of base sixty if there is no power of ten. -/
def real? (signed : Bool) (cs : List Char) : Option Float :=
  match Text.cutAt? '.' cs with
  | none => none
  | some (front, behind) =>
    (fraction? behind).bind fun (fraction, power) =>
      let number (whole : List Char) : Float :=
        nearestFloat (decimalNumber (whole ++ fraction)) (power - fraction.length)
      let plain := front.filter (· != '_')
      if front.isEmpty then
        if signed || !behind.head?.any Char.isDigit then none else some (number [])
      else if !front.head?.any Char.isDigit then none
      else if areDigits 10 plain then some (number plain)
      else
        match Text.partsAt ':' front with
        | first :: more =>
          let first := first.filter (· != '_')
          if areDigits 10 first && more.all isSixty && !behind.any Char.isAlpha then
            let last := more.getLastD []
            let above := (first :: more.dropLast).map decimalNumber
            some (number last + 60.0 * Float.ofNat (above.foldl (fun n d => n * 60 + d) 0))
          else none
        | [] => none

/-- Plain scalars that mean nothing by themselves. -/
def reservedWords : List String := ["=", "<<"]

/-- What a plain scalar means. -/
def resolved? (cs : List Char) : Option Value :=
  let s := String.ofList cs
  let (sign, rest) : Option Char × List Char :=
    match cs with
    | '-' :: rest => (some '-', rest)
    | '+' :: rest => (some '+', rest)
    | _ => (none, cs)
  let negative := sign == some '-'
  if reservedWords.contains s then none
  else if nullWords.contains s then some .null
  else if trueWords.contains s then some (.bool true)
  else if falseWords.contains s then some (.bool false)
  else if [".inf", ".Inf", ".INF"].contains (String.ofList rest) then
    some (.float (if negative then -1.0 / 0.0 else 1.0 / 0.0))
  else if [".nan", ".NaN", ".NAN"].contains s then some (.float (0.0 / 0.0))
  else
    match natural? rest with
    | some n => some (.int (if negative then -n else n))
    | none =>
      match real? sign.isSome rest with
      | some x => some (.float (if negative then -x else x))
      | none => some (.str s)

end FlavoredMarkdown.Yaml

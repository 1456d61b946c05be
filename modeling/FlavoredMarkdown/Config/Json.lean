import FlavoredMarkdown.Text.Digits
import FlavoredMarkdown.Value

/-!
# Reading JSON

Objects keep the order of their keys, and a key that is given twice keeps the last value. Beside the
standard numbers, the three spellings for infinities and for what is no number are read. Why a text is
not JSON is not told.

Every reader takes fuel, one more than the number of characters left, and gives back what it has not
read.
-/

namespace FlavoredMarkdown.Json

open Text (digits decimalNumber hexNumber? nearestFloat)

/-- Leaves out the white space in front. -/
def skipSpace (cs : List Char) : List Char :=
  cs.dropWhile fun c => c == ' ' || c == '\t' || c == '\n' || c == '\r'

/-- Four hexadecimal digits in front. -/
def readUnit? (cs : List Char) : Option (Nat × List Char) :=
  match cs with
  | a :: b :: c :: d :: rest => (hexNumber? [a, b, c, d]).map (·, rest)
  | _ => none

/-- A character given by one number of sixteen bits, or by two that make up a pair. -/
def readEscapedUnit? (cs : List Char) : Option (Char × List Char) :=
  match readUnit? cs with
  | none => none
  | some (high, rest) =>
    if 0xD800 ≤ high ∧ high < 0xDC00 then
      match rest with
      | '\\' :: 'u' :: rest2 =>
        match readUnit? rest2 with
        | some (low, rest3) =>
          if 0xDC00 ≤ low ∧ low < 0xE000 then
            some (Char.ofNat (0x10000 + (high - 0xD800) * 0x400 + (low - 0xDC00)), rest3)
          else some (Char.ofNat 0xFFFD, rest)
        | none => none
      | _ => some (Char.ofNat 0xFFFD, rest)
    else if 0xDC00 ≤ high ∧ high < 0xE000 then some (Char.ofNat 0xFFFD, rest)
    else some (Char.ofNat high, rest)

/-- The character that a short escape stands for. -/
def shortEscape? : Char → Option Char
  | '"' => some '"'
  | '\\' => some '\\'
  | '/' => some '/'
  | 'b' => some '\x08'
  | 'f' => some '\x0c'
  | 'n' => some '\n'
  | 'r' => some '\r'
  | 't' => some '\t'
  | _ => none

/-- The rest of a string behind its opening quote. `read` are its characters so far, the latest
first. -/
def readString (fuel : Nat) (read : List Char) (cs : List Char) : Option (String × List Char) :=
  match fuel with
  | 0 => none
  | fuel + 1 =>
    match cs with
    | [] => none
    | '"' :: rest => some (String.ofList read.reverse, rest)
    | '\\' :: 'u' :: rest =>
      match readEscapedUnit? rest with
      | some (c, rest) => readString fuel (c :: read) rest
      | none => none
    | '\\' :: e :: rest =>
      match shortEscape? e with
      | some c => readString fuel (c :: read) rest
      | none => none
    | c :: rest => if c.toNat < 0x20 || c == '\\' then none else readString fuel (c :: read) rest

/-- The digits behind a decimal point in front, if they are there. -/
def readFraction (cs : List Char) : List Char × List Char :=
  match cs with
  | '.' :: rest =>
    let (ds, rest2) := digits rest
    if ds.isEmpty then ([], cs) else (ds, rest2)
  | _ => ([], cs)

/-- The exponent in front, if there is one. -/
def readExponent (cs : List Char) : Option Int × List Char :=
  match cs with
  | e :: rest =>
    if e == 'e' || e == 'E' then
      let (negative, rest2) :=
        match rest with
        | '-' :: r => (true, r)
        | '+' :: r => (false, r)
        | r => (false, r)
      let (ds, rest3) := digits rest2
      if ds.isEmpty then (none, cs)
      else
        let n : Int := decimalNumber ds
        (some (if negative then -n else n), rest3)
    else (none, cs)
  | [] => (none, cs)

/-- A number in front: an integer unless it has a fraction or an exponent. -/
def readNumber (cs : List Char) : Option (Value × List Char) :=
  let (negative, cs) :=
    match cs with
    | '-' :: rest => (true, rest)
    | _ => (false, cs)
  let (whole, rest) :=
    match cs with
    | '0' :: rest => (['0'], rest)
    | _ => digits cs
  if whole.isEmpty then none
  else
    let (fraction, rest) := readFraction rest
    let (exponent, rest) := readExponent rest
    if fraction.isEmpty && exponent.isNone then
      let n : Int := decimalNumber whole
      some (.int (if negative then -n else n), rest)
    else
      let x := nearestFloat (decimalNumber (whole ++ fraction))
        (exponent.getD 0 - (fraction.length : Int))
      some (.float (if negative then -x else x), rest)

/-- The words that are values. -/
def words : List (List Char × Value) :=
  [("null".toList, .null), ("true".toList, .bool true), ("false".toList, .bool false),
   ("NaN".toList, .float (0.0 / 0.0)), ("Infinity".toList, .float (1.0 / 0.0)),
   ("-Infinity".toList, .float (-1.0 / 0.0))]

/-- A word or a number in front. -/
def readPlain (cs : List Char) : Option (Value × List Char) :=
  match words.find? fun (word, _) => word.isPrefixOf cs with
  | some (word, v) => some (v, cs.drop word.length)
  | none => readNumber cs

mutual

/-- A value in front. -/
def readValue (fuel : Nat) (cs : List Char) : Option (Value × List Char) :=
  match fuel with
  | 0 => none
  | fuel + 1 =>
    match cs with
    | '"' :: rest => (readString (rest.length + 1) [] rest).map fun (s, rest) => (.str s, rest)
    | '[' :: rest =>
      match skipSpace rest with
      | ']' :: rest => some (.list [], rest)
      | rest => (readItems fuel [] rest).map fun (vs, rest) => (.list vs, rest)
    | '{' :: rest =>
      match skipSpace rest with
      | '}' :: rest => some (.dict [], rest)
      | rest => (readEntries fuel [] rest).map fun (es, rest) => (.dict es, rest)
    | _ => readPlain cs

/-- The items of a list from the next one on. `read` are those so far, the latest first. -/
def readItems (fuel : Nat) (read : List Value) (cs : List Char) :
    Option (List Value × List Char) :=
  match fuel with
  | 0 => none
  | fuel + 1 =>
    match readValue fuel cs with
    | none => none
    | some (v, rest) =>
      match skipSpace rest with
      | ',' :: rest => readItems fuel (v :: read) (skipSpace rest)
      | ']' :: rest => some ((v :: read).reverse, rest)
      | _ => none

/-- The entries of an object from the next one on, onto those so far. -/
def readEntries (fuel : Nat) (read : List (String × Value)) (cs : List Char) :
    Option (List (String × Value) × List Char) :=
  match fuel with
  | 0 => none
  | fuel + 1 =>
    match cs with
    | '"' :: rest =>
      match readString (rest.length + 1) [] rest with
      | none => none
      | some (key, rest) =>
        match skipSpace rest with
        | ':' :: rest =>
          match readValue fuel (skipSpace rest) with
          | none => none
          | some (v, rest) =>
            let read := setEntry key v read
            match skipSpace rest with
            | ',' :: rest => readEntries fuel read (skipSpace rest)
            | '}' :: rest => some (read, rest)
            | _ => none
        | _ => none
    | _ => none

end

/-- The value of a text that is JSON. -/
def parse? (s : String) : Option Value :=
  let cs := skipSpace s.toList
  match readValue (cs.length + 1) cs with
  | some (v, rest) => if (skipSpace rest).isEmpty then some v else none
  | none => none

end FlavoredMarkdown.Json

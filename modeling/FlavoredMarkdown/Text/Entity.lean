import FlavoredMarkdown.Text.Digits
import FlavoredMarkdown.Text.EntityTable
import FlavoredMarkdown.Text.Split

/-!
# Character references

A character can be written as an ampersand, a number or a name, and a semicolon. `decoded` reads the
references of a text. A number that no character has is written as the replacement character or as
nothing, and a name that is not known may begin with one that is.
-/

namespace FlavoredMarkdown.Text

/-- An entry of the table: a name, whether it is known without a semicolon, and what it stands for. -/
structure Entity where
  name : List Char
  bare : Bool
  value : List Char

/-- The entry that a word of the table describes. -/
def Entity.ofWord? (word : List Char) : Option Entity :=
  let name := word.takeWhile Char.isAlphanum
  match word.drop name.length with
  | sign :: codes =>
    ((partsAt '+' codes).mapM hexNumber?).map fun ns => ⟨name, sign == '!', ns.map Char.ofNat⟩
  | [] => none

/-- All entries of the table. -/
def entities : List Entity :=
  entityLines.flatMap fun line => (partsAt ' ' line.toList).filterMap Entity.ofWord?

/-- The entry of a name. -/
def entity? (name : List Char) : Option Entity := entities.find? fun e => e.name == name

/-- What a name before a semicolon stands for. A name that is not known keeps what follows the longest
name in front of it that is known without a semicolon. -/
def named (name : List Char) : List Char :=
  match entity? name with
  | some e => e.value
  | none =>
    let fronts := ((List.range (name.length + 1)).drop 2).reverse
    match fronts.findSome? fun n => ((entity? (name.take n)).filter Entity.bare).map fun e => (n, e) with
    | some (n, e) => e.value ++ name.drop n ++ [';']
    | none => '&' :: name ++ [';']

/-- The characters that some numbers of controls stand for. -/
def renumbered : List (Nat × Nat) :=
  [(0x80, 0x20AC), (0x82, 0x201A), (0x83, 0x0192), (0x84, 0x201E), (0x85, 0x2026),
   (0x86, 0x2020), (0x87, 0x2021), (0x88, 0x02C6), (0x89, 0x2030), (0x8A, 0x0160),
   (0x8B, 0x2039), (0x8C, 0x0152), (0x8E, 0x017D), (0x91, 0x2018), (0x92, 0x2019),
   (0x93, 0x201C), (0x94, 0x201D), (0x95, 0x2022), (0x96, 0x2013), (0x97, 0x2014),
   (0x98, 0x02DC), (0x99, 0x2122), (0x9A, 0x0161), (0x9B, 0x203A), (0x9C, 0x0153),
   (0x9E, 0x017E), (0x9F, 0x0178)]

/-- Numbers of controls and of code points that are never assigned. -/
def isUnassigned (n : Nat) : Bool :=
  (0x01 ≤ n && n ≤ 0x08) || n == 0x0B || (0x0E ≤ n && n ≤ 0x1F) || n == 0x7F ||
    (0xFDD0 ≤ n && n ≤ 0xFDEF) || (n % 0x10000) / 2 == 0x7FFF

/-- What a number stands for. -/
def numbered (n : Nat) : List Char :=
  if n = 0 || (0xD800 ≤ n && n ≤ 0xDFFF) || 0x10FFFF < n then ['\uFFFD']
  else
    match renumbered.lookup n with
    | some m => [Char.ofNat m]
    | none => if isUnassigned n then [] else [Char.ofNat n]

/-- A character that the name in a reference may hold. -/
def isNameChar (c : Char) : Bool := !(['\t', '\n', '\x0c', ' ', '<', '&', '#', ';'].contains c)

/-- The digits up to a semicolon: one to six of them. -/
def digitsBeforeSemicolon? (isDigit : Char → Bool) (cs : List Char) :
    Option (List Char × List Char) :=
  let ds := cs.takeWhile isDigit
  match cs.drop ds.length with
  | ';' :: rest => if 1 ≤ ds.length && ds.length ≤ 6 then some (ds, rest) else none
  | _ => none

/-- What the reference stands for whose ampersand is just read, and what is left. -/
def reference? (cs : List Char) : Option (List Char × List Char) :=
  match cs with
  | '#' :: x :: rest =>
    if x = 'x' || x = 'X' then
      (digitsBeforeSemicolon? (fun c => (hexValue? c).isSome) rest).map fun (ds, left) =>
        (numbered ((hexNumber? ds).getD 0), left)
    else
      (digitsBeforeSemicolon? Char.isDigit (x :: rest)).map fun (ds, left) =>
        (numbered (decimalNumber ds), left)
  | _ =>
    let name := cs.takeWhile isNameChar
    match cs.drop name.length with
    | ';' :: rest => if 1 ≤ name.length && name.length ≤ 32 then some (named name, rest) else none
    | _ => none

/-- The text with its references read, without the `skip` characters that belong to the last one. -/
def decodedFrom (skip : Nat) : List Char → List Char
  | [] => []
  | c :: rest =>
    match skip with
    | skip + 1 => decodedFrom skip rest
    | 0 =>
      match if c = '&' then reference? rest else none with
      | some (value, left) => value ++ decodedFrom (rest.length - left.length) rest
      | none => c :: decodedFrom 0 rest

/-- The text with its references read. -/
def decoded (cs : List Char) : List Char := decodedFrom 0 cs

end FlavoredMarkdown.Text

/-!
# UTF-8

Text is written as UTF-8 and read back from it. Reading refuses what is not well formed, says why,
and tells which bytes are to blame: a byte that starts no character, a character cut short by a byte
that does not continue it (surrogates and overlong forms count as such), or the end of the data
inside a character.
-/

namespace FlavoredMarkdown.Text.Utf8

/-- The bytes of a text. -/
def encode (cs : List Char) : List UInt8 := cs.flatMap String.utf8EncodeChar

/-- Why bytes are not a text. -/
inductive Fault
  | badStart
  | badContinuation
  | cutShort
  deriving DecidableEq, Repr

/-- The bytes from `first` to `last` that could not be read; `byte` is the first of them. -/
structure Error where
  fault : Fault
  byte : UInt8
  first : Nat
  last : Nat
  deriving DecidableEq, Repr

/-- What can be read at the front of some bytes. -/
inductive Step
  | char (c : Char) (width : Nat)
  | fault (f : Fault) (width : Nat)

/-- A byte of the form `10xxxxxx`. -/
def isContinuation (b : UInt8) : Bool := 0x80 ≤ b && b < 0xC0

/-- Whether `b` may be the second byte after `lead`: surrogates, overlong forms and numbers above
U+10FFFF are refused here. -/
def isSecond (lead b : UInt8) : Bool :=
  isContinuation b &&
    (if lead == 0xE0 then 0xA0 ≤ b
     else if lead == 0xED then b < 0xA0
     else if lead == 0xF0 then 0x90 ≤ b
     else if lead == 0xF4 then b < 0x90
     else true)

/-- The six bits that a continuation byte carries. -/
def payload (b : UInt8) : Nat := b.toNat % 0x40

/-- The number of bytes of a character that starts with `lead`; none starts with other bytes. -/
def widthOf (lead : UInt8) : Option Nat :=
  if lead < 0x80 then some 1
  else if lead < 0xC2 then none
  else if lead < 0xE0 then some 2
  else if lead < 0xF0 then some 3
  else if lead < 0xF5 then some 4
  else none

/-- Reads one character. -/
def step (lead : UInt8) (rest : List UInt8) : Step :=
  match widthOf lead with
  | none => .fault .badStart 1
  | some 1 => .char (Char.ofNat lead.toNat) 1
  | some width =>
    match rest with
    | [] => .fault .cutShort 1
    | b :: rest =>
      if !isSecond lead b then .fault .badContinuation 1
      else if width = 2 then .char (Char.ofNat (lead.toNat % 0x20 * 0x40 + payload b)) 2
      else
        match rest with
        | [] => .fault .cutShort 2
        | c :: rest =>
          if !isContinuation c then .fault .badContinuation 2
          else if width = 3 then
            .char (Char.ofNat ((lead.toNat % 0x10 * 0x40 + payload b) * 0x40 + payload c)) 3
          else
            match rest with
            | [] => .fault .cutShort 3
            | d :: _ =>
              if !isContinuation d then .fault .badContinuation 3
              else
                .char (Char.ofNat
                  (((lead.toNat % 0x08 * 0x40 + payload b) * 0x40 + payload c) * 0x40 + payload d)) 4

/-- Reads the bytes from position `pos` on, leaving out the `skip` bytes that belong to the last
character, onto the characters read so far, the latest first. -/
def decodeFrom (pos skip : Nat) (read : List Char) : List UInt8 → Except Error (List Char)
  | [] => .ok read.reverse
  | lead :: rest =>
    match skip with
    | skip + 1 => decodeFrom (pos + 1) skip read rest
    | 0 =>
      match step lead rest with
      | .char c width => decodeFrom (pos + 1) (width - 1) (c :: read) rest
      | .fault f width => .error ⟨f, lead, pos, pos + width - 1⟩

/-- The text of some bytes. -/
def decode (bytes : List UInt8) : Except Error (List Char) := decodeFrom 0 0 [] bytes

end FlavoredMarkdown.Text.Utf8

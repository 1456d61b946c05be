import FlavoredMarkdown.Text.CaseTable

/-!
# Upper and lower case

The full mappings of Unicode 14: a character may become several, and a capital sigma at the end of a
word becomes a final sigma. A sigma is at the end of a word when, accents and apostrophes aside, a
letter with case stands before it and none stands behind it.
-/

namespace FlavoredMarkdown.Text

/-- Whether the nearest character that matters for case has one. -/
def meetsCased (cs : List Char) : Bool :=
  match cs.dropWhile fun c => inRanges c.toNat caseIgnorableRanges with
  | [] => false
  | c :: _ => inRanges c.toNat casedRanges

/-- The lower case of a character that does not depend on its neighbours. -/
def lowerChar (c : Char) : List Char :=
  if c.toNat = 0x130 then ['i', Char.ofNat 0x307]
  else
    match CaseRun.move? c.toNat lowerRuns with
    | some n => [Char.ofNat n]
    | none => [c]

/-- The lower case of a text that follows `before`, the nearest character first. -/
def lowerAfter (before : List Char) : List Char → List Char
  | [] => []
  | c :: rest =>
    (if c.toNat = 0x3A3 then
      [Char.ofNat (if meetsCased before && !meetsCased rest then 0x3C2 else 0x3C3)]
    else lowerChar c) ++ lowerAfter (c :: before) rest

/-- The lower case of a text. -/
def lower (cs : List Char) : List Char := lowerAfter [] cs

/-- The upper case of a character. -/
def upperChar (c : Char) : List Char :=
  match upperSequences.lookup c.toNat with
  | some ns => ns.map Char.ofNat
  | none =>
    match CaseRun.move? c.toNat upperRuns with
    | some n => [Char.ofNat n]
    | none => [c]

/-- The upper case of a text. -/
def upper (cs : List Char) : List Char := cs.flatMap upperChar

/-- `lower` on strings. -/
def lowered (s : String) : String := String.ofList (lower s.toList)

/-- `upper` on strings. -/
def uppered (s : String) : String := String.ofList (upper s.toList)

end FlavoredMarkdown.Text

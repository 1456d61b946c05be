import FlavoredMarkdown.Markdown.Token
import FlavoredMarkdown.Text.Blank
import FlavoredMarkdown.Text.Punctuation

/-!
# Emphasis

Asterisks and low lines mark emphasis in pairs of runs. A `Run` of one mark can open or close emphasis
depending on the characters beside it, and `resolved` pairs the runs of a text: a run that closes takes
the nearest run before it that can open, two marks from both for strong emphasis and one for simple
emphasis, as long as there are any. Marks that find no partner are text.
-/

namespace FlavoredMarkdown.Markdown

/-- Text that is read: literal characters, a token, a tag of raw HTML, a reference to a footnote, a URL
that is a link of its own, or something around other text. -/
inductive Inline
  | text (s : List Char)
  | token (t : Token)
  | html (source : List Char)
  | note (key : String)
  | address (source : List Char) (t : Token)
  | node (type : String) (fields : List (String × Value)) (content : List Inline)

/-- A run of marks: how many are left and how many there were, and whether it can open and close
emphasis. -/
structure Run where
  mark : Char
  count : Nat
  size : Nat
  opens : Bool
  closes : Bool

/-- A part of a text whose emphasis is not yet known: something that is read, or a run of marks. -/
inductive Part
  | inline (i : Inline)
  | run (r : Run)

namespace Run

/-- A run of `size` marks between two characters, if there are any. A run that no white space follows
can open emphasis, and one that none precedes can close it. Beside punctuation the other side has to be
white space or punctuation too. Low lines do neither inside a word. -/
def between (mark : Char) (size : Nat) (before behind : Option Char) : Run :=
  let blankBefore := before.all Text.isBlank
  let blankBehind := behind.all Text.isBlank
  let signBefore := before.any Text.isPunctuation
  let signBehind := behind.any Text.isPunctuation
  let left := !blankBehind && (!signBehind || blankBefore || signBefore)
  let right := !blankBefore && (!signBefore || blankBehind || signBehind)
  if mark = '_' then ⟨mark, size, size, left && (!right || signBefore), right && (!left || signBehind)⟩
  else ⟨mark, size, size, left, right⟩

/-- Whether a run can be closed by another. Where one of them could be both, their sizes must not add up
to a multiple of three, unless both are one. -/
def closedBy (o c : Run) : Bool :=
  o.mark == c.mark && o.opens &&
    !((o.closes || c.opens) && c.size % 3 != 0 && (o.size + c.size) % 3 == 0)

/-- The marks that are left. -/
def literal (r : Run) : List Char := List.replicate r.count r.mark

end Run

/-- A part that means nothing more than its characters. -/
def Part.settled : Part → Inline
  | .inline i => i
  | .run r => .text r.literal

/-- The nearest run that another closes, among parts of which the latest come first: the parts behind
it, the run, and the parts before it. -/
def opener? (c : Run) : List Part → Option (List Part × Run × List Part)
  | [] => none
  | .run o :: before =>
    if o.closedBy c then some ([], o, before)
    else (opener? c before).map fun (inner, r, before) => (.run o :: inner, r, before)
  | p :: before => (opener? c before).map fun (inner, r, before) => (p :: inner, r, before)

/-- Puts emphasis in the place of `used` marks of a run and what is behind it, the latest first. -/
def emphasised (type : String) (used : Nat) (o : Run) (inner before : List Part) : List Part :=
  let left := if o.count ≤ used then before else .run { o with count := o.count - used } :: before
  .inline (.node type [] (inner.reverse.map Part.settled)) :: left

/-- The parts, the latest first, behind which a run with some marks left follows. -/
def followed (c : Run) : Nat → List Part → List Part
  | 0, parts => parts
  | 1, parts =>
    match opener? c parts with
    | some (inner, o, before) => emphasised "emphasis" 1 o inner before
    | none => .run { c with count := 1 } :: parts
  | n + 2, parts =>
    match opener? c parts with
    | some (inner, o, before) =>
      if 2 ≤ o.count then followed c n (emphasised "strong" 2 o inner before)
      else followed c (n + 1) (emphasised "emphasis" 1 o inner before)
    | none => .run { c with count := n + 2 } :: parts

/-- Puts a part behind others, of which the latest come first. -/
def pushPart (parts : List Part) : Part → List Part
  | .run r => if r.closes then followed r r.count parts else .run r :: parts
  | p => p :: parts

/-- The text that parts make up. -/
def resolved (parts : List Part) : List Inline :=
  (parts.foldl pushPart []).reverse.map Part.settled

end FlavoredMarkdown.Markdown

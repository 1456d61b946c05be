import FlavoredMarkdown.Text.Blank

/-!
# Lines

Markdown is cut into blocks by looking at lines one after the other. A `Line` is what is left of a line
behind the marks of the containers around it, with the column at which it starts: a tab reaches to the
next column that is a multiple of four, so its width depends on where it stands. This module also knows
what a line alone can start or end: fences, headings, underlines of headings, thematic breaks, quotes
and list items.
-/

namespace FlavoredMarkdown.Markdown

/-- What is left of a line, without its end, and the column at which it starts. -/
structure Line where
  column : Nat
  text : List Char

/-- The lines of a text whose first characters, the latest first, are already on a line. -/
def linesFrom (line : List Char) : List Char → List (List Char)
  | [] => if line.isEmpty then [] else [line.reverse]
  | '\r' :: '\n' :: rest => line.reverse :: linesFrom [] rest
  | '\r' :: rest => line.reverse :: linesFrom [] rest
  | '\n' :: rest => line.reverse :: linesFrom [] rest
  | c :: rest => linesFrom (c :: line) rest

/-- The lines of a text. A return, alone or before a line feed, ends a line too, and an end of line at
the end of the text starts no further one. -/
def linesOf (cs : List Char) : List (List Char) := linesFrom [] cs

/-- Lines as one text, with an end after each. -/
def joinLines (lines : List (List Char)) : List Char := lines.flatMap fun l => l ++ ['\n']

/-- A space or a tab. -/
def isGap (c : Char) : Bool := c == ' ' || c == '\t'

/-- The text without the gaps in front. -/
def dropGap (cs : List Char) : List Char := cs.dropWhile isGap

/-- The text without the gaps behind. -/
def dropGapBehind (cs : List Char) : List Char := (cs.reverse.dropWhile isGap).reverse

/-- A character that may be escaped by a backslash. -/
def isEscapable (c : Char) : Bool :=
  let n := c.toNat
  (0x21 ≤ n && n ≤ 0x2F) || (0x3A ≤ n && n ≤ 0x40) || (0x5B ≤ n && n ≤ 0x60) ||
    (0x7B ≤ n && n ≤ 0x7E)

/-- The text without the backslashes that escape something. -/
def unescaped : List Char → List Char
  | [] => []
  | '\\' :: c :: rest => if isEscapable c then c :: unescaped rest else '\\' :: unescaped (c :: rest)
  | c :: rest => c :: unescaped rest

/-- Whether there is nothing in a text that stands on one line. -/
def isBlankText (cs : List Char) : Bool := cs.all fun c => isGap c || c == '\x0b' || c == '\x0c'

/-! ## Columns -/

/-- The number of columns that a tab takes. -/
def tabWidth (column : Nat) : Nat := 4 - column % 4

/-- The number of columns of the gap in front of a text that starts at a column. -/
def gapWidth (column : Nat) : List Char → Nat
  | ' ' :: rest => 1 + gapWidth (column + 1) rest
  | '\t' :: rest => tabWidth column + gapWidth (column + tabWidth column) rest
  | _ => 0

/-- The text behind some columns of its gap. What is left of a tab are spaces. -/
def skipColumns (column : Nat) : Nat → List Char → Line
  | 0, cs => ⟨column, cs⟩
  | n + 1, ' ' :: rest => skipColumns (column + 1) n rest
  | n + 1, '\t' :: rest =>
    let width := tabWidth column
    if width ≤ n + 1 then skipColumns (column + width) (n + 1 - width) rest
    else ⟨column + n + 1, List.replicate (width - (n + 1)) ' ' ++ rest⟩
  | _ + 1, cs => ⟨column, cs⟩

namespace Line

/-- A whole line. -/
def whole (text : List Char) : Line := ⟨0, text⟩

/-- How far the line is indented. -/
def indent (l : Line) : Nat := gapWidth l.column l.text

/-- The line without its gap. -/
def body (l : Line) : List Char := dropGap l.text

/-- The line without some columns of its gap, or without all of it if it has fewer. -/
def skip (n : Nat) (l : Line) : Line := skipColumns l.column n l.text

/-- The line without its gap and the characters that follow it. -/
def behind (width : Nat) (l : Line) : Line := ⟨l.column + l.indent + width, l.body.drop width⟩

/-- Whether there is nothing on the line. -/
def isBlank (l : Line) : Bool := isBlankText l.text

/-- Whether the line is indented so far that it can only be code or text. -/
def isDeep (l : Line) : Bool := 4 ≤ l.indent

/-- What stands on a line that is not indented like code. -/
def body? (l : Line) : Option (List Char) := if l.isDeep then none else some l.body

end Line

/-! ## Fences -/

/-- The start of fenced code: how far it is indented, what its fence is made of, and what is written
behind it. -/
structure Fence where
  indent : Nat
  mark : Char
  length : Nat
  info : List Char

/-- The fence that a line starts. What is written behind backticks holds none. -/
def Line.fence? (l : Line) : Option Fence :=
  match l.body? with
  | some (c :: rest) =>
    let length := (rest.takeWhile (· == c)).length + 1
    let info := dropGap ((c :: rest).drop length)
    if (c == '~' || (c == '\x60' && !info.contains '\x60')) && 3 ≤ length then
      some ⟨l.indent, c, length, info⟩
    else none
  | _ => none

/-- Whether a line closes the fence. -/
def Fence.closedBy (f : Fence) (l : Line) : Bool :=
  match l.body? with
  | some b =>
    f.length ≤ (b.takeWhile (· == f.mark)).length && (b.dropWhile (· == f.mark)).all isGap
  | none => false

/-! ## Headings and breaks -/

/-- The text of a heading without the signs that close it. Signs that touch a word belong to it. -/
def dropClosing (text : List Char) : List Char :=
  let t := dropGapBehind text
  let rest := (t.reverse.dropWhile (· == '#')).reverse
  if (rest.getLast?.all isGap) then dropGapBehind rest else t

/-- The level and the text of a heading that is marked by signs in front. -/
def Line.heading? (l : Line) : Option (Nat × List Char) :=
  match l.body? with
  | some b =>
    let level := (b.takeWhile (· == '#')).length
    let rest := b.drop level
    if 1 ≤ level && level ≤ 6 && (rest.take 1).all isGap then some (level, dropClosing (dropGap rest))
    else none
  | none => none

/-- The level of a heading whose underline the line is. -/
def Line.underline? (l : Line) : Option Nat :=
  match l.body? with
  | some (c :: rest) =>
    if (c == '=' || c == '-') && (rest.dropWhile (· == c)).all isGap then
      some (if c == '=' then 1 else 2)
    else none
  | _ => none

/-- Whether the line is a thematic break: three signs of one kind or more, and gaps. -/
def Line.isRule (l : Line) : Bool :=
  match l.body? with
  | some (c :: rest) =>
    (c == '-' || c == '_' || c == '*') && rest.all (fun d => d == c || isGap d) &&
      2 ≤ (rest.filter (· == c)).length
  | _ => false

/-! ## Quotes and items -/

/-- What stands behind the mark of a quote. One column of the gap there belongs to the mark. -/
def Line.quoted? (l : Line) : Option Line :=
  match l.body? with
  | some ('>' :: _) => some ((l.behind 1).skip 1)
  | _ => none

/-- The mark of a list item: the number before it, and its sign. -/
structure Bullet where
  number : Option (List Char)
  sign : Char

/-- The number of characters of a mark. -/
def Bullet.width (b : Bullet) : Nat := b.number.elim 0 List.length + 1

/-- The number that a mark gives to its item: one, if it has none. -/
def Bullet.start (b : Bullet) : Nat :=
  b.number.elim 1 (·.foldl (fun n c => 10 * n + (c.toNat - '0'.toNat)) 0)

/-- Whether two marks belong to the same list. -/
def Bullet.continues (b c : Bullet) : Bool := b.sign == c.sign

/-- The mark of an item at the front of a text: up to nine digits with a sign behind them, or a sign
alone, and then a gap or nothing. -/
def bullet? (cs : List Char) : Option Bullet :=
  let digits := cs.takeWhile Char.isDigit
  match cs.drop digits.length with
  | c :: rest =>
    let isMark :=
      if digits.isEmpty then c == '-' || c == '+' || c == '*'
      else digits.length ≤ 9 && (c == '.' || c == ')')
    if isMark && (rest.take 1).all isGap then
      some ⟨if digits.isEmpty then none else some digits, c⟩
    else none
  | [] => none

/-- The start of a list item: its mark, the number of columns by which its lines are indented, and its
first line. -/
structure ItemStart where
  bullet : Bullet
  width : Nat
  first : Line

/-- The item that a line starts. The gap behind the mark belongs to it, unless the item starts with code
or with a blank line: then it is one column. -/
def Line.item? (l : Line) : Option ItemStart :=
  (l.body?.bind bullet?).map fun bullet =>
    let behind := l.behind bullet.width
    let gap := if behind.isBlank || 5 ≤ behind.indent then 1 else behind.indent
    ⟨bullet, l.indent + bullet.width + gap, behind.skip gap⟩

end FlavoredMarkdown.Markdown

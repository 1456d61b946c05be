import FlavoredMarkdown.Markdown.Draft

/-!
# Blocks

`Draft.read` reads one more line. The line first goes through the open containers as far as its marks
and its indentation continue them. What is left of it belongs to the open leaf, or starts containers and
then a leaf, or is text. Text that does not continue all containers still continues a paragraph in them.
-/

namespace FlavoredMarkdown.Markdown

/-- What starts at a line. -/
inductive Start
  | quote (inside : Line)
  | item (s : ItemStart)
  | heading (level : Nat) (text : List Char)
  | fence (f : Fence)
  | html (ending : HtmlEnd)
  | underline (level : Nat)
  | rule
  | code

namespace Draft

/-- Whether the open paragraph holds text that can be a heading, and not only definitions. -/
def holdsText (d : Draft) : Bool :=
  match d.leaf with
  | .paragraph lines => !(d.withDefinitions lines).2.isEmpty
  | _ => false

/-- Whether an item can start where the innermost container that continues is `continuing` or not: in a
paragraph it needs text, and the number one if it has any. -/
def allowsItem (continuing : Bool) (s : ItemStart) (d : Draft) : Bool :=
  !(continuing && d.inParagraph) || (s.bullet.start == 1 && !s.first.isBlank)

/-- What starts at a line that continues all open containers, or does not. -/
def start? (continuing : Bool) (l : Line) (d : Draft) : Option Start :=
  if l.isBlank then none
  else if l.isDeep then (if d.inParagraph then none else some .code)
  else
    let quote := l.quoted?.map Start.quote
    let heading := l.heading?.map fun (level, text) => Start.heading level text
    let fence := l.fence?.map Start.fence
    let html := (l.html?.filter fun h => h.interrupts || !d.inParagraph).map fun h => Start.html h.ending
    let underline := if continuing && d.holdsText then l.underline?.map Start.underline else none
    let rule := if l.isRule then some Start.rule else none
    let item := (l.item?.filter fun s => d.allowsItem continuing s).map Start.item
    quote.or (heading.or (fence.or (html.or (underline.or (rule.or item)))))

/-- Opens the list item `s`, in the open list if it belongs there. -/
def openItem (n : Nat) (s : ItemStart) (d : Draft) : Draft :=
  let last := d.number - 1
  let d := (d.closeTo n last).closeLeaf last
  let belongs : Bool :=
    match d.frames with
    | f :: _ =>
      match f.kind with
      | .list bullet => bullet.continues s.bullet
      | _ => false
    | [] => false
  let d := if belongs then d else (d.closeList last).openFrame (.list s.bullet) []
  d.openFrame (.item s.width) []

/-- Puts text into the open paragraph, or starts one. -/
def text (n : Nat) (l : Line) (d : Draft) : Draft :=
  match d.leaf with
  | .paragraph lines => { d with leaf := .paragraph (l.body :: lines) }
  | _ => (d.makeRoom n).openLeaf (.paragraph [l.body])

/-- A blank line: it ends a paragraph and what it does not continue. -/
def blank (n : Nat) (d : Draft) : Draft :=
  let last := d.number - 1
  let d := (d.closeTo n last).closeLeaf last
  { d with blanks := d.number :: d.blanks }

/-- Makes the open paragraph a heading. -/
def underlined (level : Nat) (d : Draft) : Draft :=
  match d.leaf with
  | .paragraph lines =>
    let (shut, text) := { d with leaf := .none }.withDefinitions lines
    shut.addToken d.leafFirst d.number (headingToken level text)
  | _ => d

/-- Reads what is left of a line behind the `n` outermost containers, which it continues. At most
`starts` containers start on it. -/
def place (starts n : Nat) (l : Line) (d : Draft) : Draft :=
  match d.start? (n == d.frames.length) l with
  | some (.quote inside) =>
    let d := (d.makeRoom n).openFrame .quote [inside.text]
    match starts with
    | starts + 1 => place starts d.frames.length inside d
    | 0 => d
  | some (.item s) =>
    let d := d.openItem n s
    match starts with
    | starts + 1 => place starts d.frames.length s.first d
    | 0 => d
  | some (.heading level text) =>
    (d.makeRoom n).addToken d.number d.number (headingToken level text)
  | some (.fence f) => (d.makeRoom n).openLeaf (.fenced f [])
  | some (.html ending) =>
    let d := (d.makeRoom n).openLeaf (.html ending [l.text])
    if ending.reachedBy l.text then d.closeLeaf d.number else d
  | some (.underline level) => d.underlined level
  | some .rule => (d.makeRoom n).addToken d.number d.number ruleToken
  | some .code => (d.makeRoom n).openLeaf (.indented [(l.skip 4).text])
  | none => if l.isBlank then d.blank n else d.text n l

/-- How many of some containers, the outermost first, a line continues, and what is left of it. A list
goes on as long as its items may. `empty` says whether nothing stands in the innermost of them. -/
def continued (empty : Bool) : List Frame → Line → Nat × Line
  | [], l => (0, l)
  | f :: rest, l =>
    let through (l : Line) : Nat × Line :=
      let (n, left) := continued empty rest l
      (n + 1, left)
    match f.kind with
    | .quote => l.quoted?.elim (0, l) through
    | .list _ => through l
    | .item width =>
      if l.isBlank then (if rest.isEmpty && f.blocks.isEmpty && empty then (0, l) else through l)
      else if width ≤ l.indent then through (l.skip width)
      else (0, l)

/-- How many of the open containers a line continues, and what is left of it. -/
def continuedBy (text : List Char) (d : Draft) : Nat × Line :=
  let empty : Bool :=
    match d.leaf with
    | .none => true
    | _ => false
  continued empty d.frames.reverse (.whole text)

/-- Reads a line that continues all open containers as a line of the open leaf, if it is one. -/
def absorbed? (l : Line) (d : Draft) : Option Draft :=
  match d.leaf with
  | .fenced f lines =>
    some (if f.closedBy l then d.closeLeaf d.number
      else { d with leaf := .fenced f ((l.skip f.indent).text :: lines) })
  | .indented lines =>
    let more := { d with leaf := .indented ((l.skip 4).text :: lines) }
    if l.isBlank then some { more with blanks := d.number :: d.blanks }
    else if l.isDeep then some more
    else none
  | .html ending lines =>
    match ending with
    | .blankLine => if l.isBlank then none else some { d with leaf := .html ending (l.text :: lines) }
    | .marks _ =>
      let d := { d with leaf := .html ending (l.text :: lines) }
      some (if ending.reachedBy l.text then d.closeLeaf d.number else d)
  | _ => none

/-- The draft in which the outermost quote, if it was open before the line, knows the line too. -/
def withQuoted (line : List Char) (d : Draft) : Draft :=
  match d.frames.reverse with
  | f :: rest =>
    match f.kind with
    | .quote =>
      if f.first < d.number then
        let inside := ((Line.whole line).quoted?.map Line.text).getD line
        { d with frames := ({ f with quoted := inside :: f.quoted } :: rest).reverse }
      else d
    | _ => d
  | [] => d

/-- Reads a line. -/
def read (d : Draft) (line : List Char) : Draft :=
  let d := { d with number := d.number + 1 }
  let (n, l) := d.continuedBy line
  let absorbed := if n = d.frames.length then d.absorbed? l else none
  (absorbed.getD (d.place line.length n l)).withQuoted line

/-- Whether a line is text outside of all containers, where an extension may start. -/
def isOuterText (line : List Char) (d : Draft) : Bool :=
  let (n, l) := d.continuedBy line
  let outside : Bool :=
    match d.frames.reverse, n with
    | _, 0 => true
    | f :: _, 1 =>
      match f.kind with
      | .list _ => true
      | _ => false
    | _, _ => false
  let all := n == d.frames.length
  outside && !l.isBlank && (all || !d.inParagraph) && !(all && (d.absorbed? l).isSome) &&
    (d.start? all l).isNone

end Draft

/-- The blocks of some lines without any extensions, and the targets that are known behind them. -/
def plainBlocks (targets : List (String × Target)) (lines : List (List Char)) :
    List Token × List (String × Target) :=
  let d := (lines.foldl Draft.read (.start targets)).finished
  (d.blocks.reverse.map Closed.token, d.targets)

end FlavoredMarkdown.Markdown

import FlavoredMarkdown.Markdown.Line

/-!
# Raw HTML

Markdown may hold markup of its own. Inside text it is a single tag, comment, instruction, declaration
or literal section. A block of it starts with one of these on a line of its own and ends, depending on
what it starts with, at a closing mark or at the next blank line.
-/

namespace FlavoredMarkdown.Markdown

/-- Tags that start a block wherever they start a line. -/
def blockTags : List String :=
  ["address", "article", "aside", "base", "basefont", "blockquote", "body", "caption", "center",
    "col", "colgroup", "dd", "details", "dialog", "dir", "div", "dl", "dt", "fieldset", "figcaption",
    "figure", "footer", "form", "frame", "frameset", "h1", "h2", "h3", "h4", "h5", "h6", "head",
    "header", "hr", "html", "iframe", "legend", "li", "link", "main", "menu", "menuitem", "meta",
    "nav", "noframes", "ol", "optgroup", "option", "p", "param", "search", "section", "source",
    "summary", "table", "tbody", "td", "tfoot", "th", "thead", "title", "tr", "track", "ul"]

/-- Tags whose content is literal up to their closing tag. -/
def literalTags : List String := ["pre", "script", "style", "textarea"]

/-- A tag name in front, and what follows. -/
def tagName? (cs : List Char) : Option (List Char × List Char) :=
  match cs with
  | c :: rest =>
    if c.isAlpha then
      let name := c :: rest.takeWhile fun d => d.isAlphanum || d == '-'
      some (name, cs.drop name.length)
    else none
  | [] => none

/-- What follows the first place where `mark` stands. -/
def afterFirst? (mark : List Char) : List Char → Option (List Char)
  | [] => if mark.isEmpty then some [] else none
  | c :: rest =>
    if mark.isPrefixOf (c :: rest) then some ((c :: rest).drop mark.length)
    else afterFirst? mark rest

/-- What follows the value of an attribute, if one is given. -/
def afterValue? (cs : List Char) : Option (List Char) :=
  match cs with
  | '"' :: rest => afterFirst? ['"'] rest
  | '\'' :: rest => afterFirst? ['\''] rest
  | _ =>
    let value := cs.takeWhile fun c =>
      0x20 < c.toNat && !(['"', '\'', '=', '<', '>', '\x60'].contains c)
    if value.isEmpty then none else some (cs.drop value.length)

/-- What follows an attribute and the white space before it. -/
def afterAttribute? (cs : List Char) : Option (List Char) :=
  match cs with
  | c :: _ =>
    match Text.isBlank c, Text.trimStart cs with
    | true, d :: rest =>
      if d.isAlpha || d == '_' || d == ':' then
        let rest := rest.dropWhile fun e => e.isAlphanum || ['_', '.', ':', '-'].contains e
        match Text.trimStart rest with
        | '=' :: value => (afterValue? (Text.trimStart value)).or (some rest)
        | _ => some rest
      else none
    | _, _ => none
  | [] => none

/-- What follows all attributes. -/
def afterAttributes (cs : List Char) : List Char :=
  match afterAttribute? cs with
  | some rest => if rest.length < cs.length then afterAttributes rest else cs
  | none => cs
termination_by cs.length

/-- What follows an opening tag whose bracket is just read. -/
def afterOpenTag? (cs : List Char) : Option (List Char) :=
  match tagName? cs with
  | some (_, rest) =>
    match Text.trimStart (afterAttributes rest) with
    | '>' :: rest => some rest
    | '/' :: '>' :: rest => some rest
    | _ => none
  | none => none

/-- What follows a closing tag whose bracket and slash are just read. -/
def afterCloseTag? (cs : List Char) : Option (List Char) :=
  match tagName? cs with
  | some (_, rest) =>
    match Text.trimStart rest with
    | '>' :: rest => some rest
    | _ => none
  | none => none

/-- What follows a comment whose opening mark is just read. -/
def afterComment? (cs : List Char) : Option (List Char) :=
  match cs with
  | '>' :: rest => some rest
  | '-' :: '>' :: rest => some rest
  | _ => afterFirst? ['-', '-', '>'] cs

/-- What follows the markup that a text starts with. -/
def afterHtml? (cs : List Char) : Option (List Char) :=
  match cs with
  | '<' :: '/' :: rest => afterCloseTag? rest
  | '<' :: '!' :: '-' :: '-' :: rest => afterComment? rest
  | '<' :: '?' :: rest => afterFirst? ['?', '>'] rest
  | '<' :: '!' :: rest =>
    if "[CDATA[".toList.isPrefixOf rest then afterFirst? [']', ']', '>'] (rest.drop 7)
    else
      match rest with
      | c :: rest => if c.isAlpha then afterFirst? ['>'] rest else none
      | [] => none
  | '<' :: rest => afterOpenTag? rest
  | _ => none

/-! ## Blocks -/

/-- Where a block of raw HTML ends: with the line that holds one of some marks, or before a blank
line. -/
inductive HtmlEnd
  | marks (ms : List (List Char))
  | blankLine

/-- How a line starts a block of raw HTML: where the block ends, and whether it can follow a paragraph
directly. -/
structure HtmlStart where
  ending : HtmlEnd
  interrupts : Bool

/-- A text with its ASCII letters in lower case. -/
def lowerAscii (cs : List Char) : List Char := cs.map Char.toLower

/-- The closing tags of literal content. Each closes the content of any of them. -/
def literalEnds : List (List Char) := literalTags.map fun tag => "</".toList ++ tag.toList ++ ['>']

/-- Whether a tag may end after its name in front of some text. -/
def endsTagName (behind : List Char) : Bool := behind.head?.all fun c => Text.isBlank c || c == '>'

/-- The start of a block with the tag whose name stands in front, if its name says so. -/
def namedStart? (closing : Bool) (cs : List Char) : Option HtmlStart :=
  match tagName? cs with
  | some (name, behind) =>
    let tag := String.ofList (lowerAscii name)
    if literalTags.contains tag && !closing && endsTagName behind then
      some ⟨.marks literalEnds, true⟩
    else if blockTags.contains tag && (endsTagName behind || ['/', '>'].isPrefixOf behind) then
      some ⟨.blankLine, true⟩
    else none
  | none => none

/-- The start of a block of raw HTML. A whole tag that has a line for itself starts one too. -/
def Line.html? (l : Line) : Option HtmlStart :=
  match l.body? with
  | some ('<' :: '!' :: '-' :: '-' :: _) => some ⟨.marks [['-', '-', '>']], true⟩
  | some ('<' :: '?' :: _) => some ⟨.marks [['?', '>']], true⟩
  | some ('<' :: '!' :: rest) =>
    if "[CDATA[".toList.isPrefixOf rest then some ⟨.marks [[']', ']', '>']], true⟩
    else if (rest.take 1).any Char.isAlpha then some ⟨.marks [['>']], true⟩
    else none
  | some ('<' :: '/' :: rest) =>
    (namedStart? true rest).or
      (if (afterCloseTag? rest).any (·.all Text.isBlank) then some ⟨.blankLine, false⟩ else none)
  | some ('<' :: rest) =>
    (namedStart? false rest).or
      (if (afterOpenTag? rest).any (·.all Text.isBlank) then some ⟨.blankLine, false⟩ else none)
  | _ => none

/-- Whether a line ends a block of raw HTML that it belongs to. -/
def HtmlEnd.reachedBy (e : HtmlEnd) (text : List Char) : Bool :=
  match e with
  | .marks ms => ms.any fun m => (afterFirst? m (lowerAscii text)).isSome
  | .blankLine => false

end FlavoredMarkdown.Markdown

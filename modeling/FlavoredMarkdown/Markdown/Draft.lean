import FlavoredMarkdown.Markdown.Link
import FlavoredMarkdown.Markdown.RawHtml
import FlavoredMarkdown.Markdown.Token

/-!
# Drafts

A `Draft` is what is known of a text when some of its lines are read: the blocks that are closed, and
the containers and the leaf that are still open, one inside the other. Closing a leaf or a container
makes a token of it and puts it into the container around it. Blocks hold their text as it is written;
what it means is read later, since the definitions of links may stand anywhere.
-/

namespace FlavoredMarkdown.Markdown

/-- A block whose lines are all read: the numbers of its first and its last line, and its token. An item
knows whether blank lines set its blocks apart, and a quote knows its lines. -/
structure Closed where
  first : Nat
  last : Nat
  token : Token
  apart : Bool
  quoted : List (List Char)

/-- What a container is. The lines of an item are indented by its width. -/
inductive FrameKind
  | quote
  | list (bullet : Bullet)
  | item (width : Nat)

/-- An open container: the number of its first line, and the blocks in it and the lines of a quote, the
latest first. -/
structure Frame where
  kind : FrameKind
  first : Nat
  blocks : List Closed
  quoted : List (List Char)

/-- An open block without blocks in it. Its lines have the latest first. -/
inductive OpenLeaf
  | none
  | paragraph (lines : List (List Char))
  | fenced (f : Fence) (lines : List (List Char))
  | indented (lines : List (List Char))
  | html (ending : HtmlEnd) (lines : List (List Char))

/-- What is known when the lines up to `number` are read. The innermost container comes first, and so do
the latest blocks outside of all containers and the latest blank lines. -/
structure Draft where
  number : Nat
  frames : List Frame
  blocks : List Closed
  leaf : OpenLeaf
  leafFirst : Nat
  blanks : List Nat
  targets : List (String × Target)

/-- Adds an entry unless there is one under its key. -/
def keepFirst {α : Type} (entries : List (String × α)) (entry : String × α) : List (String × α) :=
  if (entries.lookup entry.1).isSome then entries else entries ++ [entry]

/-! ## Tokens of blocks -/

/-- A token of a block of text. -/
def paragraphToken (text : List Char) : Token :=
  .plain "paragraph" [("text", .str (String.ofList text))]

/-- A heading token. -/
def headingToken (level : Nat) (text : List Char) : Token :=
  .plain "heading"
    [("text", .str (String.ofList text)), ("attrs", .dict [("level", .int level)])]

/-- Fenced code. -/
def fencedToken (f : Fence) (lines : List (List Char)) : Token :=
  let attrs :=
    if f.info.isEmpty then []
    else [("attrs", .dict [("info", .str (String.ofList (Text.trim (unescaped f.info))))])]
  .plain "block_code" (("raw", .str (String.ofList (joinLines lines))) :: attrs)

/-- Indented code. It ends with its last line, not behind it. -/
def indentedToken (lines : List (List Char)) : Token :=
  .plain "block_code" [("raw", .str (String.ofList (['\n'].intercalate lines)))]

/-- A block of raw HTML. -/
def htmlToken (lines : List (List Char)) : Token :=
  .plain "block_html" [("raw", .str (String.ofList (joinLines lines)))]

/-- A thematic break. -/
def ruleToken : Token := .plain "thematic_break" []

/-- A block of a tight list: its paragraphs are bare text. -/
def tightened (t : Token) : Token :=
  if t.isOfType "paragraph" then t.setField "type" (.str "block_text") else t

/-- A list item. -/
def itemToken (tight : Bool) (item : Token) : Token :=
  .node "list_item" [] (if tight then item.children.map tightened else item.children)

/-- A list. One that starts with number one does not say so. -/
def listToken (bullet : Bullet) (tight : Bool) (items : List Token) : Token :=
  let attrs : List (String × Value) :=
    ("ordered", .bool bullet.number.isSome) ::
      if bullet.start = 1 then [] else [("start", .int bullet.start)]
  .node "list" [("tight", .bool tight), ("attrs", .dict attrs)] (items.map (itemToken tight))

/-- Whether a blank line stands between two of some blocks, of which the latest come first. -/
def setsApart (blanks : List Nat) : List Closed → Bool
  | b :: a :: rest =>
    blanks.any (fun n => a.last < n && n < b.first) || setsApart blanks (a :: rest)
  | _ => false

/-- The block that a container makes when it is closed behind the line `last`. A list and an item end
with their last block. -/
def Frame.closed (blanks : List Nat) (last : Nat) (f : Frame) : Closed :=
  let tokens := f.blocks.reverse.map Closed.token
  let lastBlock := (f.blocks.head?.map Closed.last).getD f.first
  match f.kind with
  | .quote => ⟨f.first, last, .node "block_quote" [] tokens, false, f.quoted.reverse⟩
  | .item _ =>
    ⟨f.first, lastBlock, .node "list_item" [] tokens, setsApart blanks f.blocks, []⟩
  | .list bullet =>
    let tight := !(setsApart blanks f.blocks || f.blocks.any Closed.apart)
    ⟨f.first, lastBlock, listToken bullet tight tokens, false, []⟩

namespace Draft

/-- The draft of a text none of whose lines are read, with the targets that are known before. -/
def start (targets : List (String × Target)) : Draft := ⟨0, [], [], .none, 0, [], targets⟩

/-- Puts a block into the innermost container. -/
def add (b : Closed) (d : Draft) : Draft :=
  match d.frames with
  | [] => { d with blocks := b :: d.blocks }
  | f :: rest => { d with frames := { f with blocks := b :: f.blocks } :: rest }

/-- Puts a block without blocks in it into the innermost container. -/
def addToken (first last : Nat) (t : Token) (d : Draft) : Draft := d.add ⟨first, last, t, false, []⟩

/-- The draft with the definitions in front of a paragraph taken out of it, and the text that is
left. -/
def withDefinitions (lines : List (List Char)) (d : Draft) : Draft × List Char :=
  let (found, text) := definitions (joinLines lines.reverse)
  ({ d with targets := found.foldl keepFirst d.targets }, text)

/-- Closes the open leaf behind the line `last`. -/
def closeLeaf (last : Nat) (d : Draft) : Draft :=
  let shut := { d with leaf := .none }
  match d.leaf with
  | .none => d
  | .paragraph lines =>
    let (shut, text) := shut.withDefinitions lines
    if text.isEmpty then shut else shut.addToken d.leafFirst last (paragraphToken text)
  | .fenced f lines => shut.addToken d.leafFirst last (fencedToken f lines.reverse)
  | .indented lines =>
    let kept := (lines.dropWhile isBlankText).reverse
    shut.addToken d.leafFirst (d.leafFirst + kept.length - 1) (indentedToken kept)
  | .html _ lines => shut.addToken d.leafFirst last (htmlToken lines.reverse)

/-- Closes the innermost container behind the line `last`. -/
def closeFrame (last : Nat) (d : Draft) : Draft :=
  match d.frames with
  | [] => d
  | f :: rest => { d with frames := rest }.add (f.closed d.blanks last)

/-- Closes the containers behind the line `last` until `n` are open. -/
def closeTo (n last : Nat) (d : Draft) : Draft :=
  if n < d.frames.length then
    (List.range (d.frames.length - n)).foldl (fun d _ => d.closeFrame last) (d.closeLeaf last)
  else d

/-- Closes the innermost container if it is a list. Nothing but items can stand in it. -/
def closeList (last : Nat) (d : Draft) : Draft :=
  match d.frames with
  | f :: _ =>
    match f.kind with
    | .list _ => d.closeFrame last
    | _ => d
  | [] => d

/-- Makes room for a block inside the `n` outermost containers: all else is closed. -/
def makeRoom (n : Nat) (d : Draft) : Draft :=
  let last := d.number - 1
  ((d.closeTo n last).closeLeaf last).closeList last

/-- Closes everything. -/
def finished (d : Draft) : Draft := (d.closeTo 0 d.number).closeLeaf d.number

/-- Whether the open leaf is a paragraph. -/
def inParagraph (d : Draft) : Bool :=
  match d.leaf with
  | .paragraph _ => true
  | _ => false

/-- Opens a container. -/
def openFrame (kind : FrameKind) (quoted : List (List Char)) (d : Draft) : Draft :=
  { d with frames := ⟨kind, d.number, [], quoted⟩ :: d.frames }

/-- Opens a leaf. -/
def openLeaf (leaf : OpenLeaf) (d : Draft) : Draft := { d with leaf, leafFirst := d.number }

end Draft

end FlavoredMarkdown.Markdown

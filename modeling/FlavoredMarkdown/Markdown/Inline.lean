import FlavoredMarkdown.Markdown.Emphasis
import FlavoredMarkdown.Markdown.Piece

/-!
# Text

`inlineTokens` reads the text of a block from front to back. A bracket is a link if a target follows the
bracket that closes it, and if there is no other link inside. What is inside links and the markup of
extensions is read in the same way. Footnotes are numbered in the order in which they are first referred
to, so reading keeps the list of their keys.
-/

namespace FlavoredMarkdown.Markdown

/-! ## Links -/

mutual

/-- Whether something in a text is or holds a link, at any depth. A URL that is a link of its own does
not count. -/
def Inline.holdsLink : Inline → Bool
  | .node type _ content => type == "link" || holdLink content
  | _ => false

/-- Whether a text holds a link. -/
def holdLink : List Inline → Bool
  | [] => false
  | i :: rest => i.holdsLink || holdLink rest

end

/-- The label up to the bracket that closes it, inside `depth` further brackets, and what is left. The
first `skip` characters belong to something that is already read. Brackets in code, URLs and tags do not
count. -/
def linkLabel? (depth skip : Nat) : List Char → Option (List Char × List Char)
  | [] => none
  | c :: rest =>
    let next (depth skip : Nat) := (linkLabel? depth skip rest).map fun (l, left) => (c :: l, left)
    match skip with
    | skip + 1 => next depth skip
    | 0 =>
      match c with
      | '\\' => next depth 1
      | '[' => next (depth + 1) 0
      | ']' =>
        match depth with
        | depth + 1 => next depth 0
        | 0 => some ([], rest)
      | '\x60' => next depth ((code? (c :: rest)).elim 0 fun (_, left) => rest.length - left.length)
      | '<' =>
        let tag := (autoLink? (c :: rest)).or (html? (c :: rest))
        next depth (tag.elim 0 fun (_, left) => rest.length - left.length)
      | _ => next depth 0

/-- The target of a link whose label is written in front of `behind`: in parentheses, or defined under
the label that follows or under its own. -/
def linkTarget? (source : Source) (label behind : List Char) : Option (Target × List Char) :=
  let direct :=
    match behind with
    | '(' :: rest => inlineTarget? rest
    | _ => none
  let defined (label : List Char) : Option Target := source.targets.lookup (labelKey label)
  let own : Option Target :=
    match label? maxLabelLength (label ++ [']']) with
    | some (_, []) => defined label
    | _ => none
  direct.or <|
    match behind with
    | '[' :: rest =>
      match label? maxLabelLength rest with
      | some ([], left) => own.map fun t => (t, left)
      | some (other, left) => (defined other).map fun t => (t, left)
      | none => own.map fun t => (t, behind)
    | _ => own.map fun t => (t, behind)

/-- A link or an image whose opening bracket is just read: its target, its label, and what is left. -/
def linkBehind? (source : Source) (cs : List Char) : Option (Target × List Char × List Char) := do
  let (label, behind) ← linkLabel? 0 0 cs
  let (target, left) ← linkTarget? source label behind
  pure (target, label, left)

/-! ## Parts -/

/-- Whether a tag that starts with these characters is that of a link. -/
def isAnchorTag (c d : Char) : Bool := (c == 'a' || c == 'A') && (d == ' ' || d == '>')

/-- Whether a raw link is open behind a tag, if it was or was not before. -/
def anchoredBehind (anchored : Bool) : List Char → Bool
  | '<' :: '/' :: c :: d :: _ => anchored && !isAnchorTag c d
  | '<' :: c :: d :: _ => anchored || isAnchorTag c d
  | _ => anchored

/-- Literal text, of which the last characters come first, behind parts. -/
def withHeld (held : List Char) (parts : List Part) : List Part :=
  if held.isEmpty then parts else .inline (.text held.reverse) :: parts

/-- The last character before what is left of a text. -/
def lastBefore (left cs : List Char) : Option Char := (cs.take (cs.length - left.length)).getLast?

/-- The parts of a text, the latest first. The text follows the character `before`, the literal text
`held` and the parts `parts`. Inside a raw link there are no other links. -/
def partsFrom (source : Source) (anchored : Bool) (before : Option Char) (held : List Char)
    (parts : List Part) (cs : List Char) : List Part :=
  match cs with
  | [] => withHeld held parts
  | c :: rest =>
    let literal := fun (_ : Unit) => partsFrom source anchored (some c) (c :: held) parts rest
    let behind (anchored : Bool) (parts : List Part) (left : List Char) : List Part :=
      if left.length < rest.length + 1 then
        partsFrom source anchored (lastBefore left (c :: rest)) [] parts left
      else parts
    match piece? source (c :: rest) with
    | some (.text s, left) => behind anchored (.inline (.text s) :: withHeld held parts) left
    | some (.token t, left) => behind anchored (.inline (.token t) :: withHeld held parts) left
    | some (.html s, left) =>
      behind (anchoredBehind anchored s) (.inline (.html s) :: withHeld held parts) left
    | some (.note key, left) => behind anchored (.inline (.note key) :: withHeld held parts) left
    | some (.address s t, left) =>
      let i := if anchored then Inline.text s else .address s t
      behind anchored (.inline i :: withHeld held parts) left
    | some (.markup type content, left) =>
      let inside :=
        if content.length < rest.length + 1 then
          resolved (partsFrom source anchored none [] [] content).reverse
        else []
      behind anchored (.inline (.node type [] inside) :: withHeld held parts) left
    | none =>
      if c = '*' || c = '_' then
        let size := (rest.takeWhile (· == c)).length
        let left := rest.drop size
        behind anchored (.run (.between c (size + 1) before left.head?) :: withHeld held parts) left
      else
        let image := c = '!'
        let opened : Option (List Char) :=
          match c, rest with
          | '!', '[' :: rest => some rest
          | '[', rest => if anchored then none else some rest
          | _, _ => none
        match opened.bind (linkBehind? source) with
        | some (target, label, left) =>
          let content :=
            if label.length < rest.length + 1 then
              resolved (partsFrom source anchored none [] [] label).reverse
            else []
          if !image && holdLink content then literal ()
          else
            let link := Inline.node (if image then "image" else "link")
              [("attrs", .dict target.attributes)] content
            behind anchored (.inline link :: withHeld held parts) left
        | none => literal ()
termination_by cs.length
decreasing_by
  all_goals (simp only [List.length_cons]; omega)

/-! ## Tokens -/

/-- A token of literal text. -/
def textToken (cs : List Char) : Token := .plain "text" [("raw", .str (String.ofList cs))]

/-- The number of a footnote, which is new if the footnote is. -/
def noteNumber (key : String) : StateM (List String) Nat := do
  let keys ← get
  match keys.findIdx? (· == key) with
  | some i => pure (i + 1)
  | none =>
    set (keys ++ [key])
    pure (keys.length + 1)

mutual

/-- The token of something in a text. Inside a link a URL is no link of its own. -/
def Inline.toToken (inLink : Bool) : Inline → StateM (List String) Token
  | .text s => pure (textToken s)
  | .token t => pure t
  | .html s => pure (.plain "inline_html" [("raw", .str (String.ofList s))])
  | .note key => do
    let number ← noteNumber key
    pure (.plain "footnote_ref" [("raw", .str key), ("attrs", .dict [("index", .int number)])])
  | .address s t => pure (if inLink then textToken s else t)
  | .node type fields content => do
    return .node type fields (← Inline.toTokens (inLink || type == "link") content)

/-- The tokens of a text. -/
def Inline.toTokens (inLink : Bool) : List Inline → StateM (List String) (List Token)
  | [] => pure []
  | i :: rest => do
    let first ← Inline.toToken inLink i
    return first :: (← Inline.toTokens inLink rest)

end

/-- The tokens of the text of a block. -/
def inlineTokens (source : Source) (cs : List Char) : StateM (List String) (List Token) :=
  let isEdge (c : Char) := c == ' ' || c == '\r' || c == '\n' || c == '\t' || c == '\x0c'
  let text := ((cs.dropWhile isEdge).reverse.dropWhile isEdge).reverse
  if text.isEmpty then pure [textToken []]
  else Inline.toTokens false (resolved (partsFrom source false none [] [] text).reverse)

mutual

/-- A token with its text read. -/
def readToken (source : Source) : Token → StateM (List String) Token
  | .stray v => pure (.stray v)
  | .mk fields listed children => do
    if listed then return .mk fields true (← readTokens source children)
    else
      match fields.lookup "text" with
      | some (.str s) =>
        return .mk (fields.filter fun (name, _) => name != "text") true
          (← inlineTokens source s.toList)
      | _ => return .mk fields listed children

/-- Tokens with their text read. -/
def readTokens (source : Source) : List Token → StateM (List String) (List Token)
  | [] => pure []
  | t :: rest => do
    let first ← readToken source t
    return first :: (← readTokens source rest)

end

end FlavoredMarkdown.Markdown

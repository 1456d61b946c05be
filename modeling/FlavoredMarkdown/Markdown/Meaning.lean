import FlavoredMarkdown.Document.Checked
import FlavoredMarkdown.Log
import FlavoredMarkdown.Markdown.Token

/-!
# The document that tokens mean

`documentOf` makes a document of the tokens of a Markdown text. Every block token gives some blocks and
every inline token at most one node; types that are not known give none, which is noted in the log.
Texts that come to stand side by side are joined. Model of `MarkdownToAstConverter`: what its methods
`_process_x` and `_handle_x` do with a token.

Tokens are loose records, so each field has a rule for what else it may hold: levels that do not exist
count as one, missing children as none, and values that no node can hold are kept aside in
`Info.asGiven`. What cannot be read at all is a `TokenError`. Tokens are read in order and each before
its children, so the first fault decides, and what is not looked at can have no fault.
-/

namespace FlavoredMarkdown

/-- Why tokens have no meaning: a field with a value that no node takes, something that has no fields
where a record is needed, a value of a wrong kind, or a number that cannot be added to another one. -/
inductive TokenError
  | node (e : NodeError)
  | noFields
  | wrongKind
  | tooLarge

/-- A step in the reading of tokens: it may fail, and it writes the log in any case. -/
abbrev Reading := ExceptT TokenError (StateM (List LogRecord))

/-- The types of block tokens that have a meaning. -/
inductive BlockKind
  | heading
  | paragraph
  | codeBlock
  | blockQuote
  | blockSpoiler
  | list
  | table
  | thematicBreak
  | html
  | math
  | footnotes
  | definitionList
  deriving DecidableEq, Repr

/-- The block type with a name, as `_process_token` tells them apart. The text of an item in a tight list
is a paragraph like any other. -/
def BlockKind.named? : String → Option BlockKind
  | "heading" => some .heading
  | "paragraph" | "block_text" => some .paragraph
  | "block_code" => some .codeBlock
  | "block_quote" => some .blockQuote
  | "block_spoiler" => some .blockSpoiler
  | "list" => some .list
  | "table" => some .table
  | "thematic_break" => some .thematicBreak
  | "block_html" => some .html
  | "block_math" => some .math
  | "footnotes" => some .footnotes
  | "def_list" => some .definitionList
  | _ => none

/-- The types of inline tokens that have a meaning. -/
inductive InlineKind
  | text
  | code
  | html
  | math
  | lineBreak (soft : Bool)
  | footnoteReference
  | link
  | image
  | span (kind : Container)
  deriving DecidableEq, Repr

/-- The inline type with a name, as `_process_inline_token` tells them apart. -/
def InlineKind.named? : String → Option InlineKind
  | "text" => some .text
  | "strong" => some (.span .strong)
  | "emphasis" => some (.span .emphasis)
  | "codespan" => some .code
  | "link" => some .link
  | "image" => some .image
  | "linebreak" => some (.lineBreak false)
  | "softbreak" => some (.lineBreak true)
  | "strikethrough" => some (.span .strikethrough)
  | "insert" => some (.span .underline)
  | "superscript" => some (.span .superscript)
  | "subscript" => some (.span .subscript)
  | "inline_spoiler" => some (.span .spoiler)
  | "inline_html" => some .html
  | "inline_math" => some .math
  | "footnote_ref" => some .footnoteReference
  | _ => none

namespace Token

/-- The type of a token, if it is a text. -/
def typeName? (t : Token) : Option String :=
  match t.type with
  | .str s => some s
  | _ => none

/-! ## Fields -/

/-- A record is needed where fields are looked up. -/
def checkRecord : Token → Reading Unit
  | .mk _ _ _ => pure ()
  | .stray _ => throw .noFields

/-- The attributes of a token. What counts as false stands for none. -/
def attributes (t : Token) : Reading (List (String × Value)) := do
  checkRecord t
  match t.field? "attrs" with
  | some (.dict entries) => pure entries
  | some (.keyed entries) => pure (Mapping.named entries)
  | some v => if v.isTrue then throw .noFields else pure []
  | none => pure []

/-- A text that a field holds. Any other value leaves the text empty and is kept under `name`. -/
def textField (name : String) : Option Value → String × Info
  | none => ("", {})
  | some (.str s) => (s, {})
  | some v => ("", { asGiven := [(name, v)] })

/-- A text that a field may hold. -/
def textField? (name : String) : Option Value → Option String × Info
  | none | some .null => (none, {})
  | some (.str s) => (some s, {})
  | some v => (none, { asGiven := [(name, v)] })

/-- A whole number that a field holds, or `missing` if there is no field. -/
def intField (name : String) (missing : Int) : Option Value → Int × Info
  | none => (missing, {})
  | some (.int n) => (n, {})
  | some v => (missing, { asGiven := [(name, v)] })

/-- The level of a heading: what is no level counts as the first one (`_process_heading`). -/
def levelField : Option Value → HeadingLevel × Info
  | some (.int n) => ((HeadingLevel.ofInt? n).getD .top, {})
  | some (.bool true) => (.top, { asGiven := [("level", .bool true)] })
  | _ => (.top, {})

/-- The symbol of a task item: nothing, or something of length one, as `TaskItem` checks it. -/
def symbolField (v : Value) : Except TokenError (Option Char × Info) :=
  let kept (size : Nat) : Except TokenError (Option Char × Info) :=
    if size = 1 then .ok (none, { asGiven := [("symbol", v)] })
    else .error (.node (.symbolLength v))
  match v with
  | .null => .ok (none, {})
  | .str s =>
    match checkedSymbol s with
    | .ok c => .ok (some c, {})
    | .error e => .error (.node e)
  | .list items => kept items.length
  | .dict entries => kept entries.length
  | .keyed entries => kept entries.length
  | _ => .error .wrongKind

/-- What is kept aside in both. -/
def bothInfo (a b : Info) : Info := { asGiven := a.asGiven ++ b.asGiven }

/-- Going through the children of a token must be possible. -/
def checkChildren (t : Token) : Reading Unit :=
  match t.childFault? with
  | none => pure ()
  | some .noFields => throw .noFields
  | some .wrongKind => throw .wrongKind

/-- The info string of a code block, without the blanks around it (`_process_code_block`). -/
def infoField (v : Option Value) : Reading (Option String) :=
  match v with
  | some (.str s) => pure (if s.isEmpty then none else some (Text.trimmed s))
  | some v => if v.isTrue then throw .noFields else pure none
  | none => pure none

/-- Whether a list is tight (`_process_list`). The token says so, or else its attributes; a list that is
not said to be loose is tight. -/
def tightField (t : Token) (attrs : List (String × Value)) : Bool :=
  ((t.field? "tight").or (attrs.lookup "tight")).elim true Value.isTrue

/-- A note that a token is left out. -/
def noteSkipped (what : String) (type : Value) : Reading Unit :=
  modify (· ++ [.ofReading ("Skipping unsupported " ++ what ++ " token: " ++ type.shown)])

/-! ## Inline tokens -/

/-- A leaf that holds the literal text of a token. -/
def rawLeaf (leaf : String → Leaf) (t : Token) : Node :=
  let (raw, info) := textField "content" (t.field? "raw")
  .leaf (leaf raw) info

/-- The literal text of a leaf, or the value that is kept in its place. -/
def literal (text : String) (info : Info) : Value :=
  (info.asGiven.lookup "content").getD (.str text)

/-- A text with a literal text of any kind. -/
def textOf (v : Value) : Node :=
  let (text, info) := textField "content" (some v)
  .leaf (.text text) info

/-- The text of two texts that meet. -/
def joined (a b : Value) : Reading Node :=
  match a.sum b with
  | .ok v => pure (textOf v)
  | .error .wrongKind => throw .wrongKind
  | .error .tooLarge => throw .tooLarge

/-- Puts a node behind others, of which the latest comes first: two texts that meet become one. -/
def addInline (n : Node) (before : List Node) : Reading (List Node) :=
  match before, n with
  | .leaf (.text a) ia :: before, .leaf (.text b) ib =>
    return (← joined (literal a ia) (literal b ib)) :: before
  | _, _ => pure (n :: before)

/-- What an inline container without a list of children holds: its literal text, if it has any
(`_children`). -/
def rawContent (t : Token) : List Node :=
  match t.field? "raw" with
  | some v =>
    if v.isTrue then [textOf v] else []
  | none => []

/-- The number and the name of a footnote that a token refers to (`_handle_footnote_ref_token`). -/
def footnoteReference (t : Token) : Reading Node := do
  let attrs ← t.attributes
  let (index, info) := intField "index" 1 (attrs.lookup "index")
  pure (.leaf (.footnoteReference ((t.field? "raw").elim "" Value.shown) index) info)

/-- The target and the title in the attributes of a link or an image (`_handle_link_token`,
`_handle_image_token`). -/
def targetFields (attrs : List (String × Value)) : String × Option String × Info :=
  let (url, urlInfo) := textField "url" (attrs.lookup "url")
  let (title, titleInfo) := textField? "title" (attrs.lookup "title")
  (url, title, bothInfo urlInfo titleInfo)

mutual

/-- The nodes of some inline tokens behind others, of which the latest comes first
(`_process_inline_tokens`). -/
def inlinesBehind (before : List Node) : List Token → Reading (List Node)
  | [] => pure before.reverse
  | t :: rest => do
    match ← inline t with
    | some n => inlinesBehind (← addInline n before) rest
    | none => inlinesBehind before rest

/-- The node of an inline token (`_process_inline_token`). -/
def inline : Token → Reading (Option Node)
  | .stray _ => throw .noFields
  | .mk fields listed children => do
    let t := Token.mk fields listed children
    match t.type with
    | .list _ | .dict _ | .keyed _ => throw .wrongKind
    | _ => pure ()
    match t.typeName?.bind InlineKind.named? with
    | none => noteSkipped "inline" t.type; pure none
    | some .text => pure (some (rawLeaf .text t))
    | some .code => pure (some (rawLeaf .code t))
    | some .html => pure (some (rawLeaf .htmlInline t))
    | some .math => pure (some (rawLeaf .mathInline t))
    | some (.lineBreak soft) => pure (some (.leaf (.lineBreak soft) {}))
    | some .footnoteReference => some <$> footnoteReference t
    | some (.span kind) =>
      let content ← if listed then inlinesBehind [] children else pure (rawContent t)
      pure (some (.box kind {} content))
    | some .link =>
      let (url, title, info) := targetFields (← t.attributes)
      let content ← if listed then inlinesBehind [] children else pure (rawContent t)
      pure (some (.box (.link url title) info content))
    | some .image =>
      let (url, title, info) := targetFields (← t.attributes)
      let content ← if listed then inlinesBehind [] children else pure (rawContent t)
      pure (some (.box (.image url title) info content))

end

/-- The nodes of some inline tokens (`_process_inline_tokens`). -/
def inlines (tokens : List Token) : Reading (List Node) := inlinesBehind [] tokens

/-- The nodes of the inline tokens in a block. -/
def inlineContent (t : Token) : Reading (List Node) := do
  checkChildren t
  inlines t.children

/-! ## Tables and definition lists -/

/-- The cells of a table row (`_process_table_cells`). -/
def cells : List Token → Reading (List Node)
  | [] => pure []
  | t :: rest => do
    let (alignment, info) := textField? "alignment" ((← t.attributes).lookup "align")
    let cell := Node.box (.tableCell alignment) info (← inlineContent t)
    return cell :: (← cells rest)

/-- The rows of a table body. -/
def rows : List Token → Reading (List Node)
  | [] => pure []
  | t :: rest => do
    checkChildren t
    let row := Node.box (.tableRow false) {} (← cells t.children)
    return row :: (← rows rest)

/-- The last header and all rows among the parts of a table, onto those before (`_process_table`). -/
def tableParts (header : Option Node) (body : List Node) :
    List Token → Reading (Option Node × List Node)
  | [] => pure (header, body)
  | t :: rest => do
    checkRecord t
    if t.isOfType "table_head" then
      checkChildren t
      tableParts (some (.box (.tableRow true) {} (← cells t.children))) body rest
    else if t.isOfType "table_body" then
      checkChildren t
      tableParts header (body ++ (← rows t.children)) rest
    else tableParts header body rest

/-- A table with the given parts. -/
def table : Option Node × List Node → Node
  | (some header, body) => .box (.table true) {} (header :: body)
  | (none, body) => .box (.table false) {} body

/-! ## Block tokens -/

/-- A leaf for a block token without children. -/
def rawBlock (leaf : String → Leaf) (t : Token) : List Node := [rawLeaf leaf t]

/-- A code block (`_process_code_block`). -/
def codeBlock (t : Token) : Reading (List Node) := do
  let attrs ← t.attributes
  let (raw, info) := textField "content" (t.field? "raw")
  pure [.leaf (.codeBlock raw (← infoField (attrs.lookup "info"))) info]

/-- A heading (`_process_heading`). -/
def heading (t : Token) : Reading (List Node) := do
  let (level, info) := levelField ((← t.attributes).lookup "level")
  pure [.box (.heading level) info (← inlineContent t)]

/-- Whether a node is a task item. -/
def isTask : Node → Bool
  | .box (.taskItem _) _ _ => true
  | _ => false

/-- A list with the given items (`_process_list`). Only an ordered list has a start of its own. -/
def listOf (t : Token) (attrs : List (String × Value)) (items : List Node) : Node :=
  let ordered := (attrs.lookup "ordered").elim false Value.isTrue
  let (start, info) := intField "start" 1 (if ordered then attrs.lookup "start" else none)
  .box (.list ordered start (tightField t attrs) (items.any isTask)) info items

mutual

/-- The blocks of some block tokens (`_process_tokens`). -/
def blocks : List Token → Reading (List Node)
  | [] => pure []
  | t :: rest => do
    let here ← block t
    return here ++ (← blocks rest)

/-- The blocks of a block token (`_process_token`). -/
def block : Token → Reading (List Node)
  | .stray _ => throw .noFields
  | .mk fields listed children => do
    let t := Token.mk fields listed children
    match t.typeName?.bind BlockKind.named? with
    | none =>
      if !(t.isOfType "blank_line" || t.isOfType "") then noteSkipped "block" t.type
      pure []
    | some .heading => heading t
    | some .paragraph => return [.box .paragraph {} (← inlineContent t)]
    | some .codeBlock => codeBlock t
    | some .thematicBreak => pure [.leaf .thematicBreak {}]
    | some .html => pure (rawBlock .htmlBlock t)
    | some .math => pure (rawBlock .mathBlock t)
    | some .blockQuote =>
      checkChildren t
      return [.box .blockQuote {} (← blocks children)]
    | some .blockSpoiler =>
      checkChildren t
      return [.box .blockQuote { metadata := [("spoiler", .bool true)] } (← blocks children)]
    | some .list =>
      let attrs ← t.attributes
      checkChildren t
      return [listOf t attrs (← items children)]
    | some .table =>
      checkChildren t
      return [table (← tableParts none [] children)]
    | some .footnotes =>
      checkChildren t
      footnotes 1 children
    | some .definitionList =>
      checkChildren t
      return [.box .definitionList {} (← definitions children)]

/-- The items of a list (`_process_list`). Whatever else is among them is read, but left out. -/
def items : List Token → Reading (List Node)
  | [] => pure []
  | .stray _ :: _ => throw .noFields
  | .mk fields listed children :: rest => do
    let t := Token.mk fields listed children
    checkChildren t
    let content ← blocks children
    if t.isOfType "task_list_item" then
      let attrs ← t.attributes
      let (symbol, info) ← symbolField ((attrs.lookup "symbol").getD .null)
      return .box (.taskItem symbol) info content :: (← items rest)
    else if t.isOfType "list_item" then
      return .box .listItem {} content :: (← items rest)
    else items rest

/-- The footnotes of the tokens from number `next` on (`_process_footnotes`). -/
def footnotes (next : Int) : List Token → Reading (List Node)
  | [] => pure []
  | .stray _ :: _ => throw .noFields
  | .mk fields listed children :: rest => do
    let t := Token.mk fields listed children
    let attrs ← t.attributes
    let (index, info) := intField "index" next (attrs.lookup "index")
    checkChildren t
    let content ← blocks children
    let identifier := (attrs.lookup "key").elim "" Value.shown
    return .box (.footnoteDefinition identifier index) info content :: (← footnotes (next + 1) rest)

/-- The terms and descriptions of a definition list (`_process_definition_list`). -/
def definitions : List Token → Reading (List Node)
  | [] => pure []
  | .stray _ :: _ => throw .noFields
  | .mk fields listed children :: rest => do
    let t := Token.mk fields listed children
    if t.isOfType "def_list_head" then
      let term := Node.box .definitionTerm {} (← inlineContent t)
      return term :: (← definitions rest)
    else if t.isOfType "def_list_content" then
      checkChildren t
      let description := Node.box .definitionDescription {} (← blocks children)
      return description :: (← definitions rest)
    else definitions rest

end

end Token

/-- The document that tokens mean, and the log of reading them (`MarkdownToAstConverter.parse`, when the
tokens are there). -/
def documentOf (tokens : List Token) : Except TokenError Node × List LogRecord :=
  (do return .box .document {} (← Token.blocks tokens) : Reading Node).run.run []

end FlavoredMarkdown

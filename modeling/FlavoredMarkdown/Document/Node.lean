import FlavoredMarkdown.Text.Blank
import FlavoredMarkdown.Value

/-!
# Documents

A document is a tree of nodes. A `Leaf` never has children and a `Container` may have any number of
them, in order; what a node carries beside its own fields is its `Info`. A table keeps its header row
as its first child and remembers whether it has one.

Model of the classes below `Node`: a constructor of `Leaf` or `Container` is the class of that name with
its own fields, and `Info` holds the fields that all classes have. `Node.weight` counts the visits of a
walk through a tree. It is what every loop over a tree decreases.
-/

namespace FlavoredMarkdown

/-- Where a node came from: lines and columns of its first and its last character (`SourcePosition`). -/
structure Span where
  startLine : Int
  startColumn : Int
  endLine : Int
  endColumn : Int
  deriving DecidableEq, Repr

/-- A span in text: `first line:column-last line:column`. -/
def Span.text (s : Span) : String :=
  s!"{s.startLine}:{s.startColumn}-{s.endLine}:{s.endColumn}"

/-- The level of a heading, from one to six. -/
structure HeadingLevel where
  val : Nat
  one_le : 1 ≤ val
  le_six : val ≤ 6
  deriving DecidableEq, Repr

/-- The level with a given number, if there is one. -/
def HeadingLevel.ofInt? (n : Int) : Option HeadingLevel :=
  if h : 1 ≤ n ∧ n ≤ 6 then some ⟨n.toNat, by omega, by omega⟩ else none

/-- The first level. -/
def HeadingLevel.top : HeadingLevel := ⟨1, by decide, by decide⟩

/-- The names of the kinds of node that have markup. -/
def knownKinds : List String :=
  ["document", "heading", "paragraph", "code_block", "block_quote", "list", "list_item", "task_item",
    "table", "table_row", "table_cell", "thematic_break", "html_block", "footnote_definition",
    "definition_list", "definition_term", "definition_description", "math_block", "text", "emphasis",
    "strong", "code", "link", "image", "line_break", "strikethrough", "underline", "superscript",
    "subscript", "spoiler", "html_inline", "footnote_reference", "math_inline"]

/-- A kind of node that has no markup. -/
structure ForeignKind where
  name : String
  notKnown : name ∉ knownKinds
  deriving DecidableEq, Repr

/-- The foreign kind of a name. A name that is taken stands for a bare node. -/
def ForeignKind.named (name : String) : ForeignKind :=
  if h : name ∈ knownKinds then ⟨"node", by decide⟩ else ⟨name, h⟩

instance : Coe String ForeignKind := ⟨ForeignKind.named⟩

/-- The kinds of node that never have children. -/
inductive Leaf
  | codeBlock (content : String) (info : Option String)
  | thematicBreak
  | htmlBlock (content : String)
  | mathBlock (content : String)
  | text (content : String)
  | code (content : String)
  | lineBreak (soft : Bool)
  | htmlInline (content : String)
  | footnoteReference (identifier : String) (index : Int)
  | mathInline (content : String)
  | other (kind : ForeignKind)
  deriving DecidableEq, Repr

/-- The kinds of node that may have children. `table` says whether its first child is the header row;
`other` is a kind that no formatter knows. -/
inductive Container
  | document
  | heading (level : HeadingLevel)
  | paragraph
  | blockQuote
  | list (ordered : Bool) (start : Int) (tight isTaskList : Bool)
  | listItem
  | taskItem (symbol : Option Char)
  | table (hasHeader : Bool)
  | tableRow (isHeader : Bool)
  | tableCell (alignment : Option String)
  | footnoteDefinition (identifier : String) (index : Int)
  | definitionList
  | definitionTerm
  | definitionDescription
  | emphasis
  | strong
  | link (url : String) (title : Option String)
  | image (url : String) (title : Option String)
  | strikethrough
  | underline
  | superscript
  | subscript
  | spoiler
  | other (kind : ForeignKind)
  deriving DecidableEq, Repr

/-- What any node may carry. `asGiven` keeps the fields whose value was of another kind than the field
holds, so that they can be shown as they came; nothing else reads them. -/
structure Info where
  position : Option Span := none
  metadata : List (String × Value) := []
  asGiven : List (String × Value) := []
  deriving Inhabited

/-- A node with everything below it. -/
inductive Node
  | leaf (kind : Leaf) (info : Info)
  | box (kind : Container) (info : Info) (children : List Node)

instance : Inhabited Node := ⟨.leaf .thematicBreak {}⟩

/-- The name of a kind of leaf. -/
def Leaf.name : Leaf → String
  | .codeBlock .. => "code_block"
  | .thematicBreak => "thematic_break"
  | .htmlBlock _ => "html_block"
  | .mathBlock _ => "math_block"
  | .text _ => "text"
  | .code _ => "code"
  | .lineBreak _ => "line_break"
  | .htmlInline _ => "html_inline"
  | .footnoteReference .. => "footnote_reference"
  | .mathInline _ => "math_inline"
  | .other kind => kind.name

/-- The name of a kind of container. -/
def Container.name : Container → String
  | .document => "document"
  | .heading _ => "heading"
  | .paragraph => "paragraph"
  | .blockQuote => "block_quote"
  | .list .. => "list"
  | .listItem => "list_item"
  | .taskItem _ => "task_item"
  | .table _ => "table"
  | .tableRow _ => "table_row"
  | .tableCell _ => "table_cell"
  | .footnoteDefinition .. => "footnote_definition"
  | .definitionList => "definition_list"
  | .definitionTerm => "definition_term"
  | .definitionDescription => "definition_description"
  | .emphasis => "emphasis"
  | .strong => "strong"
  | .link .. => "link"
  | .image .. => "image"
  | .strikethrough => "strikethrough"
  | .underline => "underline"
  | .superscript => "superscript"
  | .subscript => "subscript"
  | .spoiler => "spoiler"
  | .other kind => kind.name

namespace Node

/-- What the node carries beside its own fields. -/
def info : Node → Info
  | .leaf _ info => info
  | .box _ info _ => info

/-- The nodes directly below, in order (`get_node_children`). -/
def children : Node → List Node
  | .leaf .. => []
  | .box _ _ children => children

/-- The name of the node's kind. -/
def kindName : Node → String
  | .leaf kind _ => kind.name
  | .box kind _ _ => kind.name

/-- Whether the node is of a kind that never has children. -/
def isLeaf : Node → Bool
  | .leaf .. => true
  | .box .. => false

mutual

/-- The number of visits of a walk through the tree: two for every container, and one, rounded up to
two, for every leaf. -/
def weight : Node → Nat
  | .leaf .. => 2
  | .box _ _ children => weights children + 2

/-- The weight of several trees together. -/
def weights : List Node → Nat
  | [] => 0
  | n :: rest => weight n + weights rest

end

@[simp] theorem weights_append (as bs : List Node) :
    weights (as ++ bs) = weights as + weights bs := by
  induction as with
  | nil => simp [weights]
  | cons a as ih => simp [weights, ih, Nat.add_assoc]

theorem two_le_weight (n : Node) : 2 ≤ n.weight := by
  cases n <;> simp [weight]

/-- What is below a node weighs less by the visits of the node itself. -/
theorem weights_children (n : Node) : weights n.children + 2 = n.weight := by
  cases n <;> simp [weight, children, weights]

end Node

/-- The rows of a table below its header. -/
def tableRows (hasHeader : Bool) (children : List Node) : List Node :=
  if hasHeader then children.drop 1 else children

/-- The first word of a code block's info string: its language (`CodeBlock.language`). -/
def Leaf.language? : Leaf → Option String
  | .codeBlock _ (some info) => (Text.firstWord? info.toList).map String.ofList
  | _ => none

end FlavoredMarkdown

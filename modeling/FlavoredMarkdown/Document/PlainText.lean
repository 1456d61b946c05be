import FlavoredMarkdown.Document.Node

/-!
# Plain text

Model of `plain_text`, the text of a tree without its markup: the literal text of its leaves in order,
with a space for each line break. `Node.plainText` is defined along the tree; `plainText` computes the
same with a list of the nodes that are still to come, so that the depth of a tree does not matter.
-/

namespace FlavoredMarkdown

/-- The text that a leaf stands for. -/
def Leaf.literal : Leaf → String
  | .text content => content
  | .code content => content
  | .htmlInline content => content
  | .mathInline content => content
  | .lineBreak _ => " "
  | _ => ""

namespace Node

mutual

/-- The text of a tree. -/
def plainText : Node → String
  | .leaf kind _ => kind.literal
  | .box _ _ children => plainTexts children

/-- The text of several trees, one after the other. -/
def plainTexts : List Node → String
  | [] => ""
  | n :: rest => plainText n ++ plainTexts rest

end

end Node

/-- Adds the text of the nodes to come to the text so far. -/
def flattenOnto (text : String) : (pending : List Node) → String
  | [] => text
  | .leaf kind _ :: rest => flattenOnto (text ++ kind.literal) rest
  | .box _ _ children :: rest => flattenOnto text (children ++ rest)
termination_by pending => Node.weights pending
decreasing_by
  all_goals simp [Node.weights, Node.weight]; try omega

/-- The text of some nodes and of all that is below them (`plain_text`). -/
def plainText (nodes : List Node) : String := flattenOnto "" nodes

end FlavoredMarkdown

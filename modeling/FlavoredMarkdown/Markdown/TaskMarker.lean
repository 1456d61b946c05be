import FlavoredMarkdown.Markdown.Token
import FlavoredMarkdown.Text.Blank

/-!
# Task markers

A list item whose first block starts with a character in brackets, and white space behind them, is a
task item. `markTasks` finds these items among the tokens of blocks, before the text of the blocks is
read: it notes the character and takes the marker out of the text. Only a space or an x counts in strict
reading, and anything but a closing bracket or the end of a line in relaxed reading.

Tokens from outside may have a shape in which nothing can be looked for; `tasksMarked?` marks tasks
unless there is such a `TaskFault`, the first in order. Model of `task_items_plugin`, whose hook is
`rewrite`.
-/

namespace FlavoredMarkdown

/-- Whether a character can stand in the brackets of a marker, by `RELAXED_TASK_ITEM_PATTERN` or by
`STRICT_TASK_ITEM_PATTERN`. -/
def isTaskSymbol (relaxed : Bool) (c : Char) : Bool :=
  if relaxed then c != ']' && c != '\r' && c != '\n' else c == ' ' || c == 'x' || c == 'X'

/-- The marker at the front of a text: its character, and the text behind it and behind the white space
that follows. -/
def readMarker? (relaxed : Bool) (cs : List Char) : Option (Char × List Char) :=
  match cs with
  | '[' :: c :: ']' :: rest =>
    if isTaskSymbol relaxed c && !rest.isEmpty && (rest.take 1).all Text.isBlank then
      some (c, Text.trimStart rest)
    else none
  | _ => none

/-- What the symbol of a task item is set to. A space makes an open task, which has no symbol. -/
def symbolValue (c : Char) : Value := if c = ' ' then .null else .str (String.singleton c)

/-- The marker at the front of the first block of a list item. -/
def itemMarker? (relaxed : Bool) (item : Token) : Option (Char × List Char) :=
  if item.isOfType "list_item" then
    match (item.children.headD default).field? "text" with
    | some (.str text) => readMarker? relaxed text.toList
    | _ => none
  else none

/-- The blocks of an item whose first block has lost its marker. -/
def withoutMarker (text : List Char) : List Token → List Token
  | [] => []
  | first :: rest => first.setField "text" (.str (String.ofList text)) :: rest

mutual

/-- The token with the tasks in it marked, itself included (`rewrite`). -/
def markTask (relaxed : Bool) : Token → Token
  | .stray v => .stray v
  | .mk fields listed children =>
    let below := markTasks relaxed children
    match itemMarker? relaxed (.mk fields listed children) with
    | some (c, text) =>
      .mk (setEntry "attrs" (.dict [("symbol", symbolValue c)])
        (setEntry "type" (.str "task_list_item") fields)) listed (withoutMarker text below)
    | none => .mk fields listed below

/-- The tokens with the tasks in them marked. -/
def markTasks (relaxed : Bool) : List Token → List Token
  | [] => []
  | t :: rest => markTask relaxed t :: markTasks relaxed rest

end

/-! ## Shapes in which nothing can be looked for -/

/-- Why one cannot look for tasks: a token or its children have no fit shape, or what stands for the
children of an item has entries, but no first one. -/
inductive TaskFault
  | shape (f : ShapeFault)
  | noFirst
  deriving DecidableEq, Repr

/-- What is wrong with the first child of an item: it must be a token whose text, if it has one, is a
text. Where children are expected, what counts as false stands for none. -/
def firstChildFault? (item : Token) : Option TaskFault :=
  match item.children, item.field? "children" with
  | .stray _ :: _, _ => some (.shape .noFields)
  | first :: _, _ =>
    match first.field? "text" with
    | none | some (.str _) => none
    | some _ => some (.shape .wrongKind)
  | [], none => none
  | [], some v =>
    if !v.isTrue then none
    else
      match v with
      | .str _ => some (.shape .noFields)
      | .dict _ | .keyed _ => some .noFirst
      | _ => some (.shape .wrongKind)

mutual

/-- Why one cannot look for tasks in a token. -/
def taskFault? : Token → Option TaskFault
  | .stray _ => some (.shape .noFields)
  | .mk fields listed children =>
    let t := Token.mk fields listed children
    (if t.isOfType "list_item" then firstChildFault? t else none).or
      (if listed then taskFaults? children else t.childFault?.map TaskFault.shape)

/-- Why one cannot look for tasks in some tokens. -/
def taskFaults? : List Token → Option TaskFault
  | [] => none
  | t :: rest => (taskFault? t).or (taskFaults? rest)

end

/-- The tokens with the tasks in them marked, if one can look for them (`rewrite`). -/
def tasksMarked? (relaxed : Bool) (tokens : List Token) : Except TaskFault (List Token) :=
  match taskFaults? tokens with
  | some f => .error f
  | none => .ok (markTasks relaxed tokens)

end FlavoredMarkdown

import FlavoredMarkdown.Document.Node

/-!
# Checked fields

Two fields of nodes do not take every value: a heading has a level from one to six, and the symbol of a
task item is a single character. Model of the `__post_init__` of `Heading` and of `TaskItem`.
-/

namespace FlavoredMarkdown

/-- Why a node cannot be made. -/
inductive NodeError
  | levelOutOfRange (level : Int)
  | symbolLength (symbol : Value)

/-- The wording of a refusal. -/
def NodeError.message : NodeError → String
  | .levelOutOfRange level => s!"Heading level must be between 1 and 6, got {level}"
  | .symbolLength symbol => "Task symbol must be a single character, got " ++ symbol.quoted

/-- The level of a `Heading`. -/
def checkedLevel (level : Int) : Except NodeError HeadingLevel :=
  match HeadingLevel.ofInt? level with
  | some l => .ok l
  | none => .error (.levelOutOfRange level)

/-- The symbol of a `TaskItem`. -/
def checkedSymbol (symbol : String) : Except NodeError Char :=
  match symbol.toList with
  | [c] => .ok c
  | _ => .error (.symbolLength (.str symbol))

end FlavoredMarkdown

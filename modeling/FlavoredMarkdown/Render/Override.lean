import FlavoredMarkdown.Placeholder
import FlavoredMarkdown.Render.Default

/-!
# Overrides

Five kinds of node can have markup of their own in place of the default: text marks its placeholders,
links and images say that their URL holds one, lists and their items know tasks that do not apply. An
override changes nothing but its own tags, and whatever it has no opinion on is left to the default.
Model of `render_text`, `render_link`, `render_image`, `render_list` and `render_task_item`.
-/

namespace FlavoredMarkdown

/-- An override, named for the kind of node it is for. -/
inductive Override
  | text
  | link
  | image
  | list
  | taskItem
  deriving DecidableEq, Repr

namespace Override

/-- The kind of node an override is for. -/
def kindName : Override → String
  | .text => "text"
  | .link => "link"
  | .image => "image"
  | .list => "list"
  | .taskItem => "task_item"

/-- The override for each kind that has one (`GLFM_OVERRIDES`). -/
def standard : List (String × Override) :=
  [text, link, image, list, taskItem].map fun o => (o.kindName, o)

/-- A record of a decision, if decisions are to be noted (`_debug`). -/
def noted (style : Style) (message : String) : List LogRecord :=
  if style.user.on .debug then [.ofOverride message] else []

/-- Whether a text or a URL counts as holding a placeholder (`_url_has_placeholder`). -/
def marksIn (style : Style) (s : String) : Bool :=
  style.user.on .placeholderDetection && Placeholder.occursIn s

/-- The attribute of what holds a placeholder. -/
def mark : Attribute := ⟨"data-placeholder", none⟩

/-- A piece of a text, its placeholders in tags of their own. -/
def itemPieces : Placeholder.Item → List Piece
  | .char c => [.text (String.singleton c)]
  | .placeholder p =>
    [.openTag "span" [mark], .text (String.ofList p.source), .closeTag "span"]

/-- The kind of the link or image directly around a node. -/
def labelKind? (ancestors : List Occurrence) : Option String :=
  match parentKind? ancestors with
  | some (.link url title) => some (Container.link url title).name
  | some (.image url title) => some (Container.image url title).name
  | _ => none

/-- Text: every placeholder is marked, except in the label of a link or an image (`render_text`). -/
def visitText (style : Style) (ancestors : List Occurrence) (marks : Marks) (o : Occurrence)
    (content : String) (phase : Phase) : Visited :=
  let default := Default.visit style ancestors marks o phase
  if !marksIn style content then default
  else
    match labelKind? ancestors with
    | some kind =>
      { default with
        log := noted style ("Placeholder in " ++ kind ++ " label left unmarked") ++ default.log }
    | none =>
      match phase with
      | .entering =>
        { pieces := (Placeholder.scan content.toList).flatMap itemPieces, marks
          log := noted style ("Marked placeholders in text " ++ Text.quoted content) }
      | .leaving => { marks }

/-- A link: marked if its URL holds a placeholder (`render_link`). A link without a label is written with
its tags even where the default would not. -/
def visitLink (style : Style) (ancestors : List Occurrence) (marks : Marks) (o : Occurrence)
    (info : Info) (url : String) (title : Option String) (phase : Phase) : Visited :=
  if !marksIn style url then Default.visit style ancestors marks o phase
  else if style.html.on .relaxedAutolinks && inLink ancestors then { marks }
  else
    match phase with
    | .entering =>
      { pieces := Default.linkOpening style info url title [mark], marks
        log := style.urlLog url ++ noted style ("Marked placeholder link " ++ Text.quoted url) }
    | .leaving => { pieces := [.closeTag "a"], marks }

/-- An image: marked if its URL holds a placeholder (`render_image`). -/
def visitImage (style : Style) (ancestors : List Occurrence) (marks : Marks) (o : Occurrence)
    (info : Info) (url : String) (title : Option String) (phase : Phase) : Visited :=
  if !marksIn style url then Default.visit style ancestors marks o phase
  else
    match phase with
    | .leaving => { pieces := Default.imageClosing style title, marks }
    | .entering =>
      { pieces := Default.imageOpening style info url [mark], marks
        log := style.urlLog url ++ noted style ("Marked placeholder image " ++ Text.quoted url)
        outcome := .ok .plain }

/-- A list: a task list has a class of its own, if classes are wanted (`render_list`). -/
def visitList (style : Style) (ancestors : List Occurrence) (marks : Marks) (o : Occurrence)
    (info : Info) (ordered : Bool) (start : Int) (isTaskList : Bool) (phase : Phase) : Visited :=
  if phase = .leaving || !style.html.on .tasklistClasses then
    Default.visit style ancestors marks o phase
  else
    { pieces := Default.listOpening style info ordered start
        (if isTaskList then [classAttribute "task-list"] else [])
      marks }

/-- The opening of a task that does not apply. -/
def inapplicableOpening (style : Style) (info : Info) : List Piece :=
  let name := if style.html.on .tasklistClasses then "inapplicable task-list-item"
    else "inapplicable"
  [.freshLine, .openTag "li" (classAttribute name :: style.position info),
    .openTag "input" (⟨"type", some "checkbox"⟩ :: Default.checkboxClass style ++
      [⟨"data-inapplicable", none⟩, ⟨"disabled", some ""⟩]),
    .text " "]

/-- A task item: one that does not apply has a box that says so, and one with a symbol of its own shows
the symbol (`render_task_item`). -/
def visitTaskItem (style : Style) (ancestors : List Occurrence) (marks : Marks) (o : Occurrence)
    (info : Info) (symbol : Option Char) (phase : Phase) : Visited :=
  if !style.user.on .inapplicableTasks then Default.visit style ancestors marks o phase
  else
    match symbol.filter fun c => !Default.isChecked c with
    | none => Default.visit style ancestors marks o phase
    | some c =>
      match phase with
      | .leaving => { pieces := [.closeTag "li", .newline], marks }
      | .entering =>
        if c = '~' then
          { pieces := inapplicableOpening style info, marks
            log := noted style "Rendered inapplicable task item" }
        else
          { pieces := Default.customTask style info c, marks
            log := noted style ("Rendered task item with unsupported symbol " ++
              Text.quoted (String.singleton c)) }

/-- The visit of an override. Any other kind of node than its own is an error (`NodeKindError`). -/
def visit (override : Override) : Visitor := fun style ancestors marks o phase =>
  match override, o.node with
  | .text, .leaf (.text content) _ => visitText style ancestors marks o content phase
  | .link, .box (.link url title) info _ =>
    visitLink style ancestors marks o info url title phase
  | .image, .box (.image url title) info _ =>
    visitImage style ancestors marks o info url title phase
  | .list, .box (.list ordered start _ isTaskList) info _ =>
    visitList style ancestors marks o info ordered start isTaskList phase
  | .taskItem, .box (.taskItem symbol) info _ =>
    visitTaskItem style ancestors marks o info symbol phase
  | _, node => { marks, outcome := .error (.wrongKind override.kindName node.kindName) }

end Override

end FlavoredMarkdown

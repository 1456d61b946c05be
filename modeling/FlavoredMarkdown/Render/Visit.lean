import FlavoredMarkdown.Document.Walk
import FlavoredMarkdown.Log
import FlavoredMarkdown.Options.Settings
import FlavoredMarkdown.Render.Page
import FlavoredMarkdown.Url.Danger
import FlavoredMarkdown.Url.Href

/-!
# What a visit can see and what it answers

A visit to a node sees the options, the open containers and the marks that earlier visits left: the
heading anchors in use, whether the footnote section is open, and the footnotes that have their back
link. It answers with the pieces to write, the new marks, records for the log and the signal for the
walk, or the error that ends it. Pieces and marks count even when the visit fails. Model of
`RenderContext`, which holds all of this while a document is rendered.
-/

namespace FlavoredMarkdown

/-- The options of a rendering: those of the default markup and those of the overrides. -/
structure Style where
  html : Settings := {}
  user : Settings := {}
  deriving Inhabited

/-- What earlier visits left behind in the `RenderContext`. Footnotes are known by their places. -/
structure Marks where
  anchors : List String := []
  footnotesOpen : Bool := false
  backlinked : List (List Nat) := []
  deriving Inhabited

/-- Why a document cannot be rendered. -/
inductive RenderError
  | noMarkup (kind : String)
  | wrongKind (expected received : String)
  | anchorPrefixNotText
  | sinkFailed
  deriving DecidableEq, Repr

/-- The wording of an error. -/
def RenderError.message : RenderError → String
  | .noMarkup kind => "No HTML handler for node kind '" ++ kind ++ "'"
  | .wrongKind expected received =>
    "Attempt to render invalid node as " ++ expected ++ " (got " ++ received ++ ")"
  | .anchorPrefixNotText => "The prefix of heading anchors is no text"
  | .sinkFailed => "Failed to write rendered HTML to the output sink"

/-- The step of the rendering at which an error arises. -/
def RenderError.stage : RenderError → String
  | .sinkFailed => "sink_write"
  | _ => "dispatch"

/-- The answer of a visit. -/
structure Visited where
  pieces : List Piece := []
  marks : Marks
  log : List LogRecord := []
  outcome : Except RenderError Signal := .ok .html

/-- A visit to a node, inside the open containers, the nearest first. -/
abbrev Visitor :=
  Style → (ancestors : List Occurrence) → Marks → Occurrence → Phase → Visited

/-- The container of the given occurrence, if it is one. -/
def Occurrence.container? (o : Occurrence) : Option Container :=
  match o.node with
  | .box kind .. => some kind
  | .leaf .. => none

/-- The kind of the container directly around a node (`RenderContext.parent`). -/
def parentKind? (ancestors : List Occurrence) : Option Container :=
  ancestors.head?.bind Occurrence.container?

/-- Whether a node stands directly in an item of a tight list (`RenderContext.in_tight_list`). -/
def inTightList : (ancestors : List Occurrence) → Bool
  | item :: list :: _ =>
    match item.container?, list.container? with
    | some .listItem, some (.list _ _ tight _) => tight
    | some (.taskItem _), some (.list _ _ tight _) => tight
    | _, _ => false
  | _ => false

/-- Whether a node stands directly in a link. -/
def inLink (ancestors : List Occurrence) : Bool :=
  match parentKind? ancestors with
  | some (.link ..) => true
  | _ => false

namespace Style

/-- The attribute for the source position, if positions are wanted and the node has one
(`RenderContext.render_sourcepos`). -/
def position (style : Style) (info : Info) : List Attribute :=
  if style.html.on .sourcepos then
    match info.position with
    | some span => [⟨"data-sourcepos", some span.text⟩]
    | none => []
  else []

/-- Whether a URL is left out of the page. -/
def suppresses (style : Style) (url : String) : Bool :=
  !style.html.on .trusted && Url.isDangerous url

/-- A URL as it is written in an attribute: nothing if it is dangerous, else rewritten and escaped
(`RenderContext.write_url`). -/
def urlText (style : Style) (rewriter : Setting) (url : String) : String :=
  if style.suppresses url then ""
  else
    Url.href (match rewriter.rewriter? with
      | some r => r.apply url
      | none => url)

/-- The record that `is_dangerous_url` makes of a URL that is left out; it shows the first fifty
characters. -/
def urlLog (style : Style) (url : String) : List LogRecord :=
  if style.suppresses url then
    [.ofUrl ("Suppressing dangerous URL: " ++ String.ofList (url.toList.take 50))]
  else []

end Style

/-- A class attribute. -/
def classAttribute (name : String) : Attribute := ⟨"class", some name⟩

/-- A title attribute, if there is a title that is not empty. -/
def titleAttribute : Option String → List Attribute
  | some title => if title.isEmpty then [] else [⟨"title", some (Html.escape title)⟩]
  | none => []

/-- A title that is there and not empty. -/
def nonEmpty? (title : Option String) : Option String := title.filter fun t => !t.isEmpty

end FlavoredMarkdown

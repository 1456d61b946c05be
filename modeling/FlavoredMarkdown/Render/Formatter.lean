import FlavoredMarkdown.Render.Override

/-!
# Rendering a document

A formatter chooses the visit for each node: always the default markup, or an override where its table
has one for the kind. `render` walks through a document and puts what the visits answer onto a page;
`format` is the page of a whole document, and `handOver` sends it elsewhere in a single write. A
document that cannot be rendered gives no page at all, and nothing is written.

Model of `format_document` and of the two classes that share it: `Formatter.plain` is `HtmlFormatter`,
and `Formatter.flavored` is `GlfmHtmlFormatter` with its table of overrides.
-/

namespace FlavoredMarkdown

/-- How visits are chosen. -/
inductive Formatter
  | plain
  | flavored (table : List (String × Override))
  deriving DecidableEq, Repr

/-- The formatter with all overrides (`GlfmHtmlFormatter` with `GLFM_OVERRIDES`). -/
def Formatter.standard : Formatter := .flavored Override.standard

/-- The visit that a formatter chooses for a node (`dispatch`). -/
def Formatter.visitor (formatter : Formatter) (style : Style) (kind : String) : Visitor :=
  match formatter with
  | .plain => Default.visit
  | .flavored table =>
    if style.user.on .defaultHtml then Default.visit
    else
      match table.lookup kind with
      | some override => override.visit
      | none => Default.visit

/-- A rendering under way. -/
structure Rendering where
  page : Page := .empty
  marks : Marks := {}
  log : List LogRecord := []
  deriving Inhabited

/-- Steps of a rendering. What was done before an error is kept. -/
abbrev RenderM := EStateM RenderError Rendering

/-- Puts the answer of a visit onto the page. -/
def Visited.apply (v : Visited) : RenderM Signal := fun r =>
  let r : Rendering := ⟨r.page.addAll v.pieces, v.marks, r.log ++ v.log⟩
  match v.outcome with
  | .ok signal => .ok signal r
  | .error e => .error e r

/-- One visit of a formatter (`dispatch`). -/
def Formatter.dispatch (formatter : Formatter) (style : Style) (ancestors : List Occurrence)
    (o : Occurrence) (phase : Phase) : RenderM Signal := fun r =>
  (formatter.visitor style o.node.kindName style ancestors r.marks o phase).apply r

/-- Writes text to the page, escaped (`RenderContext.write_plain`). -/
def writeText (s : String) : RenderM Unit := fun r =>
  .ok () { r with page := r.page.add (.text s) }

/-- What a formatter does at the visits of a walk. -/
def Formatter.handler (formatter : Formatter) (style : Style) : Handler RenderM where
  visit := formatter.dispatch style
  writePlain := writeText

/-- Renders a document onto a page. -/
def Formatter.render (formatter : Formatter) (style : Style) (doc : Node) : RenderM Unit := do
  let _ ← walk (formatter.handler style) [] (.root doc 0)

/-- The HTML of a document, or why it has none, and the log of the rendering (`format_document` without a
sink). -/
def Formatter.format (formatter : Formatter) (style : Style) (doc : Node) :
    Except RenderError String × List LogRecord :=
  match formatter.render style doc {} with
  | .ok _ r => (.ok r.page.html, r.log)
  | .error e r => (.error e, r.log)

/-- Why HTML has not been handed over: there is none, or its write was refused, with a fault that is up
to the place it was sent to. -/
inductive DeliveryError (ε : Type)
  | render (e : RenderError)
  | refused (fault : ε)
  deriving DecidableEq, Repr

/-- The error that is reported for a page that was not handed over. -/
def DeliveryError.reported {ε : Type} : DeliveryError ε → RenderError
  | .render e => e
  | .refused _ => .sinkFailed

/-- Hands the HTML of a rendering over (`RenderContext.flush_to`): one write if there is any, none if there
is none. The answer is empty, since the HTML has gone elsewhere. -/
def handOver {m : Type → Type} [Monad m] {ε : Type} (write : String → m (Except ε Unit)) :
    Except RenderError String → m (Except (DeliveryError ε) String)
  | .error e => pure (.error (.render e))
  | .ok html => do
    match ← write html with
    | .ok () => pure (.ok "")
    | .error fault => pure (.error (.refused fault))

/-- A place in memory where pages can be sent: what it has received, write by write, and whether it
refuses more. -/
structure Sink where
  received : List String := []
  fails : Bool := false
  deriving DecidableEq, Repr

/-- One write to a sink. -/
def Sink.write (s : String) : StateM Sink (Except Unit Unit) := fun sink =>
  if sink.fails then (.error (), sink) else (.ok (), { sink with received := sink.received ++ [s] })

/-- Hands the HTML of a rendering to a sink, which comes back with what happened (`format_document` with a
sink). -/
def deliver (html : Except RenderError String) (sink : Sink) : Except RenderError String × Sink :=
  let (answer, sink) := (handOver Sink.write html).run sink
  (answer.mapError DeliveryError.reported, sink)

end FlavoredMarkdown

import FlavoredMarkdown.Markdown.Meaning
import FlavoredMarkdown.Markdown.Reader
import FlavoredMarkdown.Render.Formatter
import FlavoredMarkdown.Text.Utf8

/-!
# From Markdown to HTML

The ways through the whole library: `renderDocument` writes a document as HTML, and `renderText` reads
it from Markdown first. Both take one record of all options, of which every stage gets its part. Model
of `render`, `render_bytes` and `render_document`.
-/

namespace FlavoredMarkdown

/-- Why there is no HTML, or no document: the options are refused, the Markdown cannot be read, its
tokens have no meaning, or the document cannot be rendered. -/
inductive Failure
  | options (e : SettingsError)
  | unread (reason : String)
  | tokens (e : TokenError)
  | render (e : RenderError)

/-- The wording for Markdown that cannot be read (`ParsingError`). -/
def unreadMessage (reason : String) : String := "Failed to parse Markdown: " ++ reason

/-- The step of the reading at which Markdown cannot be read. -/
def unreadStage : String := "mistune"

/-- A step through the library: it may fail, and it writes the log in any case. -/
abbrev Attempt := ExceptT Failure (StateM (List LogRecord))

/-- The result of an attempt and its log. -/
def Attempt.result {α : Type} (a : Attempt α) : Except Failure α × List LogRecord :=
  StateT.run (ExceptT.run a) []

/-- An attempt whose result and log are known. -/
def Attempt.of {α ε : Type} (wrap : ε → Failure) (result : Except ε α × List LogRecord) :
    Attempt α := do
  modify (· ++ result.2)
  match result.1 with
  | .ok a => pure a
  | .error e => throw (wrap e)

/-- What is handed over in place of a record of options: nothing, a record, or something else of the
named kind. -/
inductive GivenOptions
  | absent
  | record (s : Settings)
  | other (kind : String)

/-- The options that are given, or those by default (`_resolve_options`). -/
def GivenOptions.settings? (component : String) (expected : Schema) :
    GivenOptions → Except SettingsError Settings
  | .absent => .ok {}
  | .record s => .ok s
  | .other kind => .error (.wrongRecord component expected kind)

/-- Options with single ones in place of what they were (`_resolve_options`). -/
def withOverrides (s : Settings) (overrides : List (String × Setting)) :
    Except SettingsError Settings :=
  if overrides.isEmpty then .ok s
  else if overrides.all fun (name, _) => (Schema.render.field? name).isSome then
    s.updated? .render (Settings.givenBy .render overrides)
  else .error (.unknownOverrides (Settings.sorted (overrides.map Prod.fst)))

/-- The options of a rendering (`_resolve_options`). -/
def renderSettings? (given : GivenOptions) (overrides : List (String × Setting)) :
    Except SettingsError Settings := do
  withOverrides (← given.settings? "render" .render) overrides

/-- The document of tokens, unless they could not be read (`MarkdownToAstConverter.parse`). -/
def documentRead (s : Settings) (outcome : Except String (List Token)) : Attempt Node := do
  modify (· ++ ignoredLog s)
  match outcome with
  | .error reason => throw (.unread reason)
  | .ok tokens => Attempt.of .tokens (documentOf tokens)

/-- The document of a Markdown text, by the options of reading (`markdown_to_ast`). -/
def readDocument (s : Settings) (text : String) : Attempt Node :=
  documentRead s (.ok (Markdown.tokensOf (.ofSettings s) text))

/-- The HTML of a document, by a record of all options (`render_document`). -/
def renderDocument (s : Settings) (doc : Node) : Attempt String := do
  let html ← Attempt.of .options (s.projected? .html, [])
  let user ← Attempt.of .options (s.projected? .user, [])
  Attempt.of .render (Formatter.standard.format ⟨html, user⟩ doc)

/-- The HTML of a Markdown text, by a record of all options (`render`). -/
def renderText (s : Settings) (text : String) : Attempt String := do
  modify (· ++ [.ofRendering s!"Rendering {text.length} characters of Markdown"])
  let reader ← Attempt.of .options (s.projected? .reader, [])
  renderDocument s (← readDocument reader text)

/-- The HTML of a Markdown text, as UTF-8 (`render_bytes`). -/
def renderBytes (s : Settings) (text : String) : Attempt (List UInt8) := do
  return Text.Utf8.encode (← renderText s text).toList

end FlavoredMarkdown

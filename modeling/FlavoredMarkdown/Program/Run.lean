import FlavoredMarkdown.Program.Invocation
import FlavoredMarkdown.Program.Journal
import FlavoredMarkdown.Program.Merge
import FlavoredMarkdown.Render

/-!
# The program

`run` is the whole program: it follows the command line, puts the options together, reads Markdown
from a file or from standard input, and writes HTML to a file or to standard output. It ends with zero
if all went well, with one if the Markdown could not be rendered, with two if the invocation or an
option is refused, and with three if a file cannot be read or written. Options are put together before
the input is read, and nothing is written unless there is HTML. Model of `main`.
-/

namespace FlavoredMarkdown

/-- A failure that the program does not account for: it ends without a message of its own. -/
inductive Breakdown
  | toolsNotTable
  | failure (f : Failure)

/-- How the program ends. -/
inductive Ending
  | exit (code : Nat)
  | breakdown (b : Breakdown)

namespace Ending

/-- All went well (`EXIT_SUCCESS`). -/
def success : Ending := .exit 0

/-- The Markdown cannot be rendered (`EXIT_RENDERING_ERROR`). -/
def notRendered : Ending := .exit 1

/-- The invocation or an option is refused (`EXIT_VALIDATION_ERROR`). -/
def refused : Ending := .exit 2

/-- A file cannot be read or written (`EXIT_FILE_ERROR`). -/
def fileFault : Ending := .exit 3

end Ending

/-- The message of a failure that the program accounts for. -/
def Failure.message? : Failure → Option String
  | .options e => some e.message
  | .unread reason => some (unreadMessage reason)
  | .tokens _ => none
  | .render .anchorPrefixNotText => none
  | .render e => some e.message

/-- The name of the program in its messages. -/
def commandName : String := "glfm-markdown"

/-- A file that is named, unless the name is empty. -/
def named? (file : Option String) : Option String := file.filter fun s => !s.isEmpty

/-- The arguments of the program. -/
def programArguments : List Argument := Argument.all Schema.render.options

/-- What the program tells about its arguments. -/
def helpText : String :=
  let line (a : Argument) : String :=
    let help :=
      match a.destination with
      | .option o => o.help
      | .help => "Show this text and end"
      | .out => "Write HTML to a file instead of standard output"
      | .config => "Load options from a JSON, TOML, YAML or pyproject.toml file"
      | .logLevel => "Logging level"
      | .logFile => "Also write log records to a file"
      | .trace => "Include times and sources in log records"
    "  " ++ ", ".intercalate a.spellings ++ "  " ++ help ++ "\n"
  "usage: " ++ commandName ++ " [arguments] [input]\n\n" ++ String.join (programArguments.map line)

section Effects

variable {m : Type → Type} [Monad m]

/-- The part of the environment that the program looks at. -/
def seenEnvironment (host : Host m) : m Environment := do
  let options := Schema.render.options
  (flagNames options ++ textNames options).filterMapM fun name => do
    return (← host.environment (variableFor name)).map fun text => (variableFor name, text)

/-- Writes the message of a failure. -/
def report (host : Host m) (message : String) : m Unit :=
  host.complain ("Error: " ++ message ++ "\n")

/-- The configuration that an invocation or the environment names, if one does. -/
def namedConfig (host : Host m) (journal : Journal) (i : Invocation) :
    m (Except LoadError Mapping) := do
  let fallback ← host.environment configVariable
  match (named? i.config).or (named? fallback) with
  | none => return .ok []
  | some file =>
    journal.write host (.ofCommand ("Loading configuration from " ++ file))
    loadConfig host (.ofText file)

/-- The options of an invocation (`build_options`), or the end of the program. -/
def chosenSettings (host : Host m) (journal : Journal) (i : Invocation) :
    m (Except Ending Settings) := do
  match ← namedConfig host journal i with
  | .error .toolsNotTable => return .error (.breakdown .toolsNotTable)
  | .error (.refused e) =>
    report host e.message
    return .error .refused
  | .ok config =>
    match mergedSettings config (← seenEnvironment host) (i.given Schema.render.options) with
    | .ok s => return .ok s
    | .error e =>
      report host e.message
      return .error .refused

/-- The Markdown of an invocation (`_read_input`). In what comes from standard input the ends of lines are
as given. -/
def inputText (host : Host m) (i : Invocation) : m (Except ReadFault (List Char)) := do
  if i.input = Invocation.standardInput then return (Text.Utf8.decode (← host.input)).mapError .notText
  match ← host.read (.ofText i.input) with
  | .ok bytes => return textOf bytes
  | .error f => return .error (.file f)

/-- Writes the HTML of an invocation (`_write_output`). -/
def outputHtml (host : Host m) (i : Invocation) (html : String) : m Ending := do
  match named? i.out with
  | none =>
    host.print html
    return .success
  | some file =>
    let p := Path.ofText file
    match ← host.write p (Text.Utf8.encode html.toList) with
    | .ok _ => return .success
    | .error f =>
      report host ("cannot write output: " ++ f.message p)
      return .fileFault

/-- Renders some Markdown. -/
def renderInput (host : Host m) (journal : Journal) (i : Invocation) (s : Settings)
    (text : List Char) : m Ending := do
  let (result, log) := (renderText s (String.ofList text)).result
  log.forM (journal.write host)
  match result with
  | .ok html => outputHtml host i html
  | .error f =>
    match f.message? with
    | none => return .breakdown (.failure f)
    | some message =>
      journal.write host (.ofCommand "Rendering failed")
      report host message
      return .notRendered

/-- Does what an invocation asks for. -/
def runInvocation (host : Host m) (i : Invocation) : m Ending := do
  let journal ← Journal.start host (levelOf (i.value Destination.logLevel.name)) (i.logFile.getD "") i.trace
  match ← chosenSettings host journal i with
  | .error ending => return ending
  | .ok s =>
    match ← inputText host i with
    | .ok text => renderInput host journal i s text
    | .error f =>
      report host ("cannot read " ++ i.input ++ ": " ++ f.message (.ofText i.input))
      return .fileFault

/-- The whole program, on the words of its command line (`main`). -/
def run (host : Host m) (words : List String) : m Ending := do
  match Invocation.ofWords programArguments words with
  | .ok i => runInvocation host i
  | .error .help =>
    host.print helpText
    return .success
  | .error e =>
    host.complain (commandName ++ ": error: " ++ e.message ++ "\n")
    return .refused

end Effects

end FlavoredMarkdown

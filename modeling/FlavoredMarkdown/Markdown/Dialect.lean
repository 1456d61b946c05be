import FlavoredMarkdown.Log
import FlavoredMarkdown.Options.Settings

/-!
# Dialects of Markdown

The options of reading turn extensions of Markdown on. Some options are only accepted so that a record
can be shared with other programs: nothing comes of them but a note in the log. Model of
`_build_plugins`.
-/

namespace FlavoredMarkdown

/-- What Markdown can be extended by. -/
inductive Extension
  | strikethrough
  | table
  | footnotes
  | autolink
  | descriptionLists
  | math
  | superscript
  | subscript
  | spoiler
  | underline
  deriving DecidableEq, Repr

namespace Extension

/-- All extensions, in the order in which they are looked at (`_PLUGIN_FLAGS`). -/
def all : List Extension :=
  [.strikethrough, .table, .footnotes, .autolink, .descriptionLists, .math, .superscript,
    .subscript, .spoiler, .underline]

/-- The flag that turns an extension on. -/
def flag : Extension → Flag
  | strikethrough => .strikethrough
  | table => .table
  | footnotes => .footnotes
  | autolink => .autolink
  | descriptionLists => .descriptionLists
  | math => .mathDollars
  | superscript => .superscript
  | subscript => .subscript
  | spoiler => .spoiler
  | underline => .underline

/-- The name of an extension among the parts of the reader. -/
def name : Extension → String
  | strikethrough => "strikethrough"
  | table => "table"
  | footnotes => "footnotes"
  | autolink => "url"
  | descriptionLists => "def_list"
  | math => "math"
  | superscript => "superscript"
  | subscript => "subscript"
  | spoiler => "spoiler"
  | underline => "insert"

end Extension

/-- A dialect: the extensions that are on, and how task markers are read, if they are. -/
structure Dialect where
  extensions : List Extension := []
  relaxedTasks : Option Bool := none
  deriving Inhabited

namespace Dialect

/-- Whether an extension is on. -/
def has (d : Dialect) (e : Extension) : Bool := d.extensions.contains e

/-- The dialect that a record of options asks for (`_build_plugins`). -/
def ofSettings (s : Settings) : Dialect where
  extensions := Extension.all.filter fun e => s.on e.flag
  relaxedTasks := if s.on .tasklist then some (s.on .relaxedTasklistCharacter) else none

end Dialect

/-- The flags that nothing comes of (`_UNSUPPORTED_FLAGS`). -/
def ignoredFlags : List Flag :=
  [.alerts, .gemojis, .greentext, .ignoreSetext, .mathCode, .multilineBlockQuotes,
    .relaxedAutolinks, .smart, .wikilinksTitleAfterPipe, .wikilinksTitleBeforePipe]

/-- A note for every flag that is on and ignored. -/
def ignoredLog (s : Settings) : List LogRecord :=
  (ignoredFlags.filter s.on).map fun f =>
    .ofReading ("Markdown option '" ++ f.name ++ "' is not supported by the parser and is ignored")

end FlavoredMarkdown

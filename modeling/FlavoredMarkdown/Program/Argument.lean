import FlavoredMarkdown.Options.Help
import FlavoredMarkdown.Options.Settings
import FlavoredMarkdown.Text.LetterCase

/-!
# Arguments of the command line

Besides its own arguments, the program takes one for every option of a record, unless the option is
hidden. A flag is switched by its mere presence, to what it is not by default; any other option is
followed by its text. Model of `DynamicCLIBuilder`.
-/

namespace FlavoredMarkdown

/-- An option as the command line sees it. -/
structure ExposedOption where
  name : String
  isFlag : Bool
  startsOn : Bool := false
  help : String := ""
  hidden : Bool := false
  deriving DecidableEq, Repr

/-- The options of a record, in order. -/
def Schema.options (schema : Schema) : List ExposedOption :=
  schema.fields.map fun field =>
    { name := field.name, isFlag := field.isFlag, help := schema.help field,
      hidden := !field.onCommandLine }

/-- The options that can be given on the command line (`cli_fields`). -/
def exposed (options : List ExposedOption) : List ExposedOption :=
  options.filter fun o => !o.hidden

/-- The names of the exposed flags (`bool_field_names`). -/
def flagNames (options : List ExposedOption) : List String :=
  ((exposed options).filter ExposedOption.isFlag).map ExposedOption.name

/-- The names of the exposed options that are no flags (`str_field_names`). -/
def textNames (options : List ExposedOption) : List String :=
  ((exposed options).filter fun o => !o.isFlag).map ExposedOption.name

namespace ExposedOption

/-- A name as arguments spell it, with hyphens (`snake_to_kebab`). -/
def hyphenated (name : String) : String :=
  String.ofList (name.toList.map fun c => if c = '_' then '-' else c)

/-- Whether giving the argument switches the option on. -/
def switchesOn (o : ExposedOption) : Bool := !o.startsOn

/-- The spelling of the option's argument (`get_argument_kwargs`). -/
def spelling (o : ExposedOption) : String :=
  (if o.isFlag && o.startsOn then "--no-" else "--") ++ hyphenated o.name

/-- What stands for the text of an option in descriptions. -/
def valueName (o : ExposedOption) : String := hyphenated (Text.uppered o.name)

end ExposedOption

/-- What an argument sets. -/
inductive Destination
  | help
  | out
  | config
  | logLevel
  | logFile
  | trace
  | option (o : ExposedOption)
  deriving DecidableEq, Repr

namespace Destination

/-- Whether a value follows the argument. -/
def takesValue : Destination → Bool
  | .help | .trace => false
  | .option o => !o.isFlag
  | _ => true

/-- The name under which the value is kept. -/
def name : Destination → String
  | .help => "help"
  | .out => "out"
  | .config => "config"
  | .logLevel => "log_level"
  | .logFile => "log_file"
  | .trace => "trace"
  | .option o => o.name

end Destination

/-- An argument with all its spellings. -/
structure Argument where
  spellings : List String
  destination : Destination
  deriving DecidableEq, Repr

namespace Argument

/-- The arguments that do not set options (`build_parser`). -/
def general : List Argument :=
  [⟨["-h", "--help"], .help⟩, ⟨["--out", "-o"], .out⟩, ⟨["--config"], .config⟩,
    ⟨["--log-level"], .logLevel⟩, ⟨["--log-file"], .logFile⟩, ⟨["--trace"], .trace⟩]

/-- The argument of an option. -/
def ofOption (o : ExposedOption) : Argument := ⟨[o.spelling], .option o⟩

/-- All arguments, in the order in which they are looked through (`build_parser`,
`add_options_arguments`). -/
def all (options : List ExposedOption) : List Argument :=
  general ++ (exposed options).map ofOption

/-- The argument with all its spellings, as messages name it. -/
def title (a : Argument) : String := "/".intercalate a.spellings

/-- A spelling that two of the arguments share, the first in order. -/
def clash? (arguments : List Argument) : Option String :=
  let spellings := arguments.flatMap spellings
  spellings.find? fun s => 1 < spellings.count s

end Argument

end FlavoredMarkdown

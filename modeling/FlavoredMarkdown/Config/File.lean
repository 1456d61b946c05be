import FlavoredMarkdown.Config.Error
import FlavoredMarkdown.Config.Json
import FlavoredMarkdown.Config.Toml
import FlavoredMarkdown.Config.Yaml
import FlavoredMarkdown.Host

/-!
# Configuration files

A configuration file is a mapping from options to values. Its name tells how it is written; in a
project file the mapping is one of its tables. `ConfigFormat.entries` is the mapping of a file, by what
reading it has given, and `loadConfig` reads it. Model of `load_config_file` and
`_load_pyproject_section`.
-/

namespace FlavoredMarkdown

/-- How a configuration file is written. -/
inductive ConfigFormat
  | project
  | toml
  | yaml
  | json
  deriving DecidableEq, Repr

/-- Why there is no configuration: it is refused, or the table of tools in a project file is no table,
which is not a fault of the configuration but of the whole file. -/
inductive LoadError
  | refused (e : ConfigError)
  | toolsNotTable
  deriving DecidableEq, Repr

namespace ConfigFormat

/-- The name of a project file. -/
def projectFile : String := "pyproject.toml"

/-- How the file at a path is written, by its name. -/
def ofPath (p : Path) : Except ConfigError ConfigFormat :=
  if Text.lowered p.name = projectFile then .ok .project
  else if p.extension = ".toml" then .ok .toml
  else if p.extension = ".yaml" || p.extension = ".yml" then .ok .yaml
  else if p.extension = ".json" then .ok .json
  else .error (.unsupported p.extension)

/-- The reason given for a text that is not of its format. -/
def malformed : String := "the text is malformed"

/-- The value of a text. -/
def valueOf (format : ConfigFormat) (cs : List Char) : Option Value :=
  match format with
  | .project | .toml => Toml.parse? cs
  | .yaml => Yaml.parse? (plainLineEnds cs)
  | .json => Json.parse? (String.ofList (plainLineEnds cs))

/-- The value of the bytes of a file, or the reason why there is none. -/
def parsed (format : ConfigFormat) (p : Path) :
    Except FileFault (List UInt8) → Except String Value
  | .error f => .error (f.message p)
  | .ok bytes =>
    match Text.Utf8.decode bytes with
    | .error e => .error (ReadFault.message p (.notText e))
    | .ok cs =>
      match format.valueOf cs with
      | some v => .ok v
      | none => .error malformed

/-- The mapping that a value is. Nothing counts as an empty mapping. -/
def mapping (p : Path) (v : Value) : Except LoadError Mapping :=
  match v, Mapping.ofValue? v with
  | _, some entries => .ok entries
  | .null, none => .ok []
  | v, none => .error (.refused (.notMapping p.text v.kindName))

/-- The table of a project file that holds the configuration (`_load_pyproject_section`). A table that is
not there is empty. -/
def projectTable (p : Path) (v : Value) : Except LoadError Mapping :=
  let table? (key : String) (v : Value) : Option Value :=
    (Mapping.ofValue? v).map fun entries => (entries.at? key).getD (.dict [])
  match (table? "tool" v).bind (table? configSection) with
  | none => .error .toolsNotTable
  | some v =>
    match Mapping.ofValue? v with
    | some entries => .ok entries
    | none => .error (.refused (.sectionNotTable p.text v.kindName))

/-- The configuration of a file, by what reading it has given. -/
def entries (format : ConfigFormat) (p : Path) :
    Except String Value → Except LoadError Mapping
  | .error detail => .error (.refused (.unreadable p.text detail))
  | .ok v => if format = .project then projectTable p v else mapping p v

end ConfigFormat

/-- The configuration of the file at a path (`load_config_file`). -/
def loadConfig {m : Type → Type} [Monad m] (host : Host m) (p : Path) :
    m (Except LoadError Mapping) := do
  if !(← host.isFile p) then return .error (.refused (.missing p.text))
  match ConfigFormat.ofPath p with
  | .error e => return .error (.refused e)
  | .ok format => return format.entries p (format.parsed p (← host.read p))

end FlavoredMarkdown

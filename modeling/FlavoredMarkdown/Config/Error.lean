/-!
# What can be wrong with a configuration

The reasons for which a configuration file or a variable of the environment is refused: what
`load_config_file` and `parse_bool` say in a `ConfigError`.
-/

namespace FlavoredMarkdown

/-- The table of a project file that holds the configuration (`CONFIG_TOOL_SECTION`). -/
def configSection : String := "glfm-markdown"

/-- Why a configuration is refused. -/
inductive ConfigError
  | missing (path : String)
  | unsupported (extension : String)
  | unreadable (path detail : String)
  | notMapping (path kind : String)
  | sectionNotTable (path kind : String)
  | badVariable (name quotedValue : String)
  deriving DecidableEq, Repr

/-- The wording of a refusal. -/
def ConfigError.message : ConfigError → String
  | .missing path => "Configuration file does not exist: " ++ path
  | .unsupported extension =>
    "Unsupported config file format: " ++ extension ++ ". Use .json, .toml, or .yaml"
  | .unreadable path detail => "Error reading config file " ++ path ++ ": " ++ detail
  | .notMapping path kind => "Config file " ++ path ++ " must contain a mapping, got " ++ kind
  | .sectionNotTable path kind =>
    "[tool." ++ configSection ++ "] section in " ++ path ++ " must be a table, got " ++ kind
  | .badVariable name quotedValue =>
    "Environment variable " ++ name ++ " must be true or false, got " ++ quotedValue

end FlavoredMarkdown

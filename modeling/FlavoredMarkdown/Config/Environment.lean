import FlavoredMarkdown.Config.Error
import FlavoredMarkdown.Options.Settings
import FlavoredMarkdown.Text.Blank
import FlavoredMarkdown.Text.LetterCase
import FlavoredMarkdown.Text.Quoted

/-!
# Options from the environment

Every option can be set by a variable of its own, named for it in capitals. A flag is spelt in one of a
few ways, blanks and letter case aside; any other option takes the text as it is. Model of `parse_bool`
and `load_env_options`.
-/

namespace FlavoredMarkdown

/-- The variables that are set, with their texts. -/
abbrev Environment := List (String × String)

/-- What the names of all variables start with (`ENV_PREFIX`). -/
def variableFront : String := "GLFM_MARKDOWN_"

/-- The variable of an option. -/
def variableFor (name : String) : String := variableFront ++ Text.uppered name

/-- The variable that names the configuration file (`CONFIG_ENV_VAR`). -/
def configVariable : String := variableFront ++ "CONFIG"

/-- The spellings that switch a flag on (`_TRUE_VALUES`). -/
def trueSpellings : List String := ["1", "true", "yes", "on"]

/-- The spellings that switch a flag off (`_FALSE_VALUES`). -/
def falseSpellings : List String := ["0", "false", "no", "off", ""]

/-- Whether the text of a variable switches its flag on or off (`parse_bool`). -/
def readFlag (text name : String) : Except ConfigError Bool :=
  let spelling := Text.lowered (Text.trimmed text)
  if trueSpellings.contains spelling then .ok true
  else if falseSpellings.contains spelling then .ok false
  else .error (.badVariable name (Text.quoted text))

/-- The options among `names`, in order, whose variables are set. -/
def readVariables (isFlag : String → Bool) (environment : Environment) :
    (names : List String) → Except ConfigError (List (String × Setting))
  | [] => .ok []
  | name :: rest =>
    match environment.lookup (variableFor name) with
    | none => readVariables isFlag environment rest
    | some text => do
      let setting ←
        if isFlag name then
          (readFlag text (variableFor name)).map fun b => Setting.value (.bool b)
        else pure (.value (.str text))
      let others ← readVariables isFlag environment rest
      pure ((name, setting) :: others)

/-- The options that the environment sets: the flags and the others, in the order of their names
(`load_env_options`). -/
def environmentOptions (flags others : List String) (environment : Environment) :
    Except ConfigError (List (String × Setting)) :=
  readVariables flags.contains environment
    (Settings.sorted (Settings.distinct (flags ++ others)))

end FlavoredMarkdown

import FlavoredMarkdown.Config.Environment
import FlavoredMarkdown.Config.File
import FlavoredMarkdown.Program.Argument

/-!
# Options from all sources

An option can be set in the configuration file, by its variable and by its argument. What is set by an
argument counts before a variable, and a variable before the file; an option set nowhere is at its
default. A flag must be on or off only in what counts: a wrong value in the file does no harm under a
right one. Model of `build_options`, once the configuration has been loaded.
-/

namespace FlavoredMarkdown

/-- Why there are no options. -/
inductive OptionsError
  | config (e : ConfigError)
  | settings (e : SettingsError)

/-- The wording of a refusal. -/
def OptionsError.message : OptionsError → String
  | .config e => e.message
  | .settings e => e.message

/-- The entries of a configuration under the names of fields (`normalize_keys`). Keys that are no texts
count as what they are in text, and of several for one name the last one counts. -/
def normalized (config : Mapping) : List (String × Value) :=
  config.shown.foldl (fun entries (key, v) => setEntry (Settings.fieldKey key) v entries) []

/-- The options of a configuration. -/
def configured (config : Mapping) : List (String × Setting) :=
  (normalized config).map fun (name, v) => (name, .value v)

/-- The options that the environment sets (`load_env_options`). -/
def fromEnvironment (environment : Environment) : Except ConfigError (List (String × Setting)) :=
  environmentOptions (flagNames Schema.render.options) (textNames Schema.render.options) environment

/-- The options by a configuration, the environment and the arguments given (`build_options`). -/
def mergedSettings (config : Mapping) (environment : Environment)
    (given : List (String × Setting)) : Except OptionsError Settings :=
  match fromEnvironment environment with
  | .error e => .error (.config e)
  | .ok set =>
    match Settings.ofPairs? .render (configured config ++ set ++ given) with
    | .error e => .error (.settings e)
    | .ok s => .ok s

end FlavoredMarkdown

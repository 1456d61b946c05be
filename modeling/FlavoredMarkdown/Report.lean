import FlavoredMarkdown.Options.Field
import FlavoredMarkdown.Render.Visit
import FlavoredMarkdown.Value

/-!
# Error reports

Whoever catches an error sees a report: its class, a message and further attributes. Classes form a
tree, so that errors can be caught by what they have in common. A report is made from named parameters,
some of which may be left out. Model of `GlfmError` and of the classes below it.

`ErrorClass.lineage_getLast`: every class is below the general one.
-/

namespace FlavoredMarkdown

/-- The classes of errors. -/
inductive ErrorClass
  | general
  | validation
  | invalidOptions
  | config
  | parsing
  | rendering
  | outputWrite
  | nodeKind
  deriving DecidableEq, Repr

namespace ErrorClass

/-- All classes. -/
def all : List ErrorClass :=
  [.general, .validation, .invalidOptions, .config, .parsing, .rendering, .outputWrite, .nodeKind]

/-- The name of a class. -/
def name : ErrorClass → String
  | .general => "GlfmError"
  | .validation => "ValidationError"
  | .invalidOptions => "InvalidOptionsError"
  | .config => "ConfigError"
  | .parsing => "ParsingError"
  | .rendering => "RenderingError"
  | .outputWrite => "OutputWriteError"
  | .nodeKind => "NodeKindError"

/-- The class with a name. -/
def ofName? (s : String) : Option ErrorClass := all.find? fun c => c.name == s

/-- A class and all classes above it (`GlfmError` is the root). -/
def lineage : ErrorClass → List ErrorClass
  | .general => [.general]
  | .validation => [.validation, .general]
  | .invalidOptions => [.invalidOptions, .validation, .general]
  | .config => [.config, .general]
  | .parsing => [.parsing, .general]
  | .rendering => [.rendering, .general]
  | .outputWrite => [.outputWrite, .rendering, .general]
  | .nodeKind => [.nodeKind, .rendering, .general]

theorem lineage_getLast (c : ErrorClass) : c.lineage.getLast? = some .general := by
  cases c <;> rfl

/-- The parameters without which there is no report. -/
def required : ErrorClass → List String
  | .invalidOptions => ["component_name", "expected_type", "received_type"]
  | .outputWrite => []
  | .nodeKind => ["expected_kind", "received_kind"]
  | _ => ["message"]

/-- The parameters that may be left out. -/
def optional : ErrorClass → List String
  | .general => ["original_error"]
  | .validation => ["parameter_name", "parameter_value", "original_error"]
  | .invalidOptions => ["message", "original_error"]
  | .config => ["config_path", "original_error"]
  | .parsing => ["parsing_stage", "original_error"]
  | .rendering => ["rendering_stage", "original_error"]
  | .outputWrite => ["message", "original_error"]
  | .nodeKind => []

end ErrorClass

/-- A parameter or an attribute: a value, the name of a kind of value, or another error, of which only
the text is known. -/
inductive Detail
  | value (v : Value)
  | kind (name : String)
  | cause (text : String)
  deriving Inhabited

namespace Detail

/-- Nothing. -/
def nothing : Detail := .value .null

/-- The text of a detail inside a message. -/
def shown : Detail → String
  | .value v => v.shown
  | .kind name => name
  | .cause text => text

/-- Whether there is nothing. -/
def isNothing : Detail → Bool
  | .value .null => true
  | _ => false

end Detail

/-- The report of an error. -/
structure ErrorReport where
  cls : ErrorClass
  message : Detail
  attributes : List (String × Detail)

namespace ErrorReport

/-- The text of a report. -/
def text (r : ErrorReport) : String := r.message.shown

/-- The message of a report for which none is given. -/
def defaultMessage (cls : ErrorClass) (given : String → Detail) : String :=
  match cls with
  | .invalidOptions =>
    (given "component_name").shown ++ " expected options of type '" ++
      (given "expected_type").shown ++ "' but received '" ++ (given "received_type").shown ++ "'."
  | .nodeKind =>
    (RenderError.wrongKind (given "expected_kind").shown (given "received_kind").shown).message
  | _ => RenderError.sinkFailed.message

/-- The message of a report. Only some classes word it themselves if none is given. -/
def messageOf (cls : ErrorClass) (given : String → Detail) : Detail :=
  let own := given "message"
  if own.isNothing && !cls.required.contains "message" then
    .value (.str (defaultMessage cls given))
  else own

/-- The attributes of a report that are not those of every report. -/
def attributesOf (cls : ErrorClass) (given : String → Detail) : List (String × Detail) :=
  let same (name : String) : String × Detail := (name, given name)
  let stage (e : RenderError) : String × Detail := ("rendering_stage", .value (.str e.stage))
  match cls with
  | .general => []
  | .validation => [same "parameter_name", same "parameter_value"]
  | .invalidOptions =>
    [("parameter_name", .value (.str "options")), ("parameter_value", given "received_type"),
      same "component_name", same "expected_type", same "received_type"]
  | .config => [same "config_path"]
  | .parsing => [same "parsing_stage"]
  | .rendering => [same "rendering_stage"]
  | .outputWrite => [stage .sinkFailed]
  | .nodeKind => [stage (.wrongKind "" ""), same "expected_kind", same "received_kind"]

/-- The report of a class with given parameters, if all that are required are given and no others than
those of the class. -/
def make? (cls : ErrorClass) (parameters : List (String × Detail)) : Option ErrorReport :=
  let known := cls.required ++ cls.optional
  let given (name : String) : Detail := (parameters.lookup name).getD .nothing
  if cls.required.all (fun name => (parameters.lookup name).isSome) &&
      parameters.all fun (name, _) => known.contains name then
    let message := messageOf cls given
    some
      { cls, message,
        attributes := [("message", message), ("original_error", given "original_error")] ++
          attributesOf cls given }
  else none

end ErrorReport

end FlavoredMarkdown

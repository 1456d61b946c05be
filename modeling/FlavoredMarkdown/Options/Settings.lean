import FlavoredMarkdown.Options.Field
import FlavoredMarkdown.Url.Rewriter
import FlavoredMarkdown.Value

/-!
# Option records

An option record is filled from named settings that come from files, the environment or a caller and
may be of any kind. `Settings` is what is left when they have been checked: every flag is on or off.
The other options keep what they were given, since not every record checks them.

`Settings.updated?` is the one place where settings are checked, against the fields of a schema in
their order; `Settings.ofPairs?` also refuses names that the schema does not have. When two names
mean the same field, the later one counts. Model of `CloneFrozenMixin`, from which all records have
`from_dict` and `create_updated`, and of what their `__post_init__` checks.
-/

namespace FlavoredMarkdown

/-- What an option is set to. -/
inductive Setting
  | value (v : Value)
  | rewriter (r : Url.Rewriter)
  deriving Inhabited

/-- Nothing given. -/
def Setting.none : Setting := .value .null

/-- Whether nothing is given. -/
def Setting.isNone : Setting → Bool
  | .value .null => true
  | _ => false

/-- On or off, if the setting says so. -/
def Setting.bool? : Setting → Option Bool
  | .value (.bool b) => some b
  | _ => Option.none

/-- The rewriter that is given, if there is one. -/
def Setting.rewriter? : Setting → Option Url.Rewriter
  | .rewriter r => some r
  | _ => Option.none

/-- The name of the kind of a setting in messages. -/
def Setting.kindName : Setting → String
  | .value v => v.kindName
  | .rewriter _ => "function"

/-- A setting in a message. -/
def Setting.quoted : Setting → String
  | .value v => v.quoted
  | .rewriter _ => "<function>"

/-- The checked options of a record. Fields that the record does not have are at their defaults. -/
structure Settings where
  on : Flag → Bool := fun _ => false
  headerIds : Setting := .none
  linkUrlRewriter : Setting := .none
  imageUrlRewriter : Setting := .none
  deriving Inhabited

/-- Why a record was refused. -/
inductive SettingsError
  | unknownKeys (schema : Schema) (keys : List String)
  | notBool (name : String) (given : Setting)
  | notCallable (name : String) (given : Setting)
  | wrongRecord (component : String) (expected : Schema) (received : String)
  | unknownOverrides (names : List String)

/-- The wording of a refusal. -/
def SettingsError.message : SettingsError → String
  | .unknownKeys schema keys =>
    "Unknown option(s) for " ++ schema.name ++ ": " ++ ", ".intercalate keys
  | .notBool name given => name ++ " must be a bool, got " ++ given.quoted
  | .notCallable name given => name ++ " must be callable, got " ++ given.kindName
  | .wrongRecord component expected received =>
    component ++ " expected options of type '" ++ expected.name ++ "' but received '" ++ received ++
      "'."
  | .unknownOverrides names => "Invalid render option(s): " ++ ", ".intercalate names

namespace Settings

/-- What a field is set to. -/
def get (s : Settings) : Field → Setting
  | .flag f => .value (.bool (s.on f))
  | .headerIds => s.headerIds
  | .linkUrlRewriter => s.linkUrlRewriter
  | .imageUrlRewriter => s.imageUrlRewriter

/-- The first of some flags that is given something else than on or off (`_validate_bool_fields`). -/
def firstNotBool? (given : Field → Option Setting) : List Field → Option SettingsError
  | [] => none
  | .flag f :: rest =>
    match given (.flag f) with
    | some setting =>
      if setting.bool?.isSome then firstNotBool? given rest else some (.notBool f.name setting)
    | none => firstNotBool? given rest
  | _ :: rest => firstNotBool? given rest

/-- The first rewriter of the markup record that is neither absent nor a rewriter, which the
`__post_init__` of `HtmlFormatterOptions` refuses. -/
def firstNotCallable? (schema : Schema) (s : Settings) : Option SettingsError :=
  if schema = .html then
    if !s.linkUrlRewriter.isNone && s.linkUrlRewriter.rewriter?.isNone then
      some (.notCallable Field.linkUrlRewriter.name s.linkUrlRewriter)
    else if !s.imageUrlRewriter.isNone && s.imageUrlRewriter.rewriter?.isNone then
      some (.notCallable Field.imageUrlRewriter.name s.imageUrlRewriter)
    else none
  else none

/-- The settings with what is given in place of what they had. -/
def replaced (s : Settings) (given : Field → Option Setting) : Settings where
  on f := ((given (.flag f)).bind Setting.bool?).getD (s.on f)
  headerIds := (given .headerIds).getD s.headerIds
  linkUrlRewriter := (given .linkUrlRewriter).getD s.linkUrlRewriter
  imageUrlRewriter := (given .imageUrlRewriter).getD s.imageUrlRewriter

/-- The settings with what is given, if the schema allows it (`create_updated`): flags are checked before
rewriters, and each in the order of the fields. -/
def updated? (schema : Schema) (s : Settings) (given : Field → Option Setting) :
    Except SettingsError Settings :=
  match firstNotBool? given schema.fields with
  | some e => .error e
  | none =>
    let s := s.replaced given
    match firstNotCallable? schema s with
    | some e => .error e
    | none => .ok s

/-- The field name that a key stands for: hyphens may be written for low lines. -/
def fieldKey (key : String) : String :=
  String.ofList (key.toList.map fun c => if c = '-' then '_' else c)

/-- What is given for each field of a schema under names, the later ones first to be looked at. -/
def givenBy (schema : Schema) (pairs : List (String × Setting)) (field : Field) : Option Setting :=
  if schema.fields.contains field then pairs.reverse.lookup field.name else none

/-- The elements without those that are in the list again further on. -/
def distinct (xs : List String) : List String :=
  xs.foldr (fun x rest => if rest.contains x then rest else x :: rest) []

/-- Texts in the order of their code points. -/
def sorted (xs : List String) : List String := xs.mergeSort fun a b => !(b < a)

/-- The names that no field of the schema has, each once and in order. -/
def unknownNames (schema : Schema) (names : List String) : List String :=
  sorted (distinct (names.filter fun name => (schema.field? name).isNone))

/-- A record from settings under keys (`from_dict`). -/
def ofPairs? (schema : Schema) (pairs : List (String × Setting)) : Except SettingsError Settings :=
  let named := pairs.map fun (key, setting) => (fieldKey key, setting)
  let unknown := unknownNames schema (named.map Prod.fst)
  if unknown.isEmpty then updated? schema {} (givenBy schema named)
  else .error (.unknownKeys schema unknown)

/-- The options of a record that another record has too; the rest is at its defaults. -/
def restricted (schema : Schema) (s : Settings) : Settings where
  on f := schema.fields.contains (.flag f) && s.on f
  headerIds := if schema.fields.contains .headerIds then s.headerIds else .none
  linkUrlRewriter := if schema.fields.contains .linkUrlRewriter then s.linkUrlRewriter else .none
  imageUrlRewriter := if schema.fields.contains .imageUrlRewriter then s.imageUrlRewriter else .none

/-- The part of a record that a stage reads, checked as that stage's record (`_project`, for
`to_parser_options`, `to_formatter_options` and `to_user_options`). -/
def projected? (schema : Schema) (s : Settings) : Except SettingsError Settings :=
  let part := s.restricted schema
  match firstNotCallable? schema part with
  | some e => .error e
  | none => .ok part

end Settings

end FlavoredMarkdown

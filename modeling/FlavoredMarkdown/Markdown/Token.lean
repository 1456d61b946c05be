import FlavoredMarkdown.Value

/-!
# Tokens

Reading Markdown gives tokens: records with a type, some fields and, for what holds other things, a
list of further tokens. Which fields a token has depends on its type, and their values may be of any
kind, so they are looked up by name.

Tokens that come from outside are not always records. A `stray` value among them does no harm as long
as nobody looks for its fields, so it is kept where it is. `MarkdownToAstConverter` and
`task_items_plugin` look their fields up in such records.
-/

namespace FlavoredMarkdown

/-- Why something cannot be read as a token, or as a list of them: it has no fields, or it is of a kind
that holds nothing. -/
inductive ShapeFault
  | noFields
  | wrongKind
  deriving DecidableEq, Repr

/-- A token, or a value in the place of one. `listed` says whether a token has a list of children at all;
one that has may be empty. Children that were given as something else than a list are among the
fields. -/
inductive Token
  | mk (fields : List (String × Value)) (listed : Bool) (children : List Token)
  | stray (value : Value)

instance : Inhabited Token := ⟨.mk [] false []⟩

namespace Token

/-- The fields of a token, its list of children aside. -/
def fields : Token → List (String × Value)
  | .mk fields _ _ => fields
  | .stray _ => []

/-- Whether the token has a list of children. -/
def listed : Token → Bool
  | .mk _ listed _ => listed
  | .stray _ => false

/-- The children of a token. -/
def children : Token → List Token
  | .mk _ _ children => children
  | .stray _ => []

/-- The value of a field, if the token has it. -/
def field? (t : Token) (name : String) : Option Value := t.fields.lookup name

/-- The type of a token. One without any has the empty text. -/
def type (t : Token) : Value := (t.field? "type").getD (.str "")

/-- Whether the token is of the type with that name. -/
def isOfType (t : Token) (name : String) : Bool :=
  match t.type with
  | .str s => s == name
  | _ => false

/-- The token with a field set. -/
def setField (name : String) (value : Value) : Token → Token
  | .mk fields listed children => .mk (setEntry name value fields) listed children
  | .stray v => .stray v

/-- Why one cannot go through the children of a token. They are a list, or there are none; what is in a
text or in a dictionary has no fields, so these must be empty. -/
def childFault? : Token → Option ShapeFault
  | .stray _ => some .noFields
  | .mk _ true _ => none
  | .mk fields false _ =>
    match fields.lookup "children" with
    | none => none
    | some (.str s) => if s.isEmpty then none else some .noFields
    | some (.dict entries) => if entries.isEmpty then none else some .noFields
    | some (.keyed entries) => if entries.isEmpty then none else some .noFields
    | some _ => some .wrongKind

/-- A token without children. -/
def plain (type : String) (fields : List (String × Value)) : Token :=
  .mk (("type", .str type) :: fields) false []

/-- A token with children. -/
def node (type : String) (fields : List (String × Value)) (children : List Token) : Token :=
  .mk (("type", .str type) :: fields) true children

mutual

/-- The token that a value describes: a dictionary, whose children, if they are a list, are tokens too.
Any other value is stray. -/
def ofValue : Value → Token
  | .dict entries => ofEntries [] entries
  | v => .stray v

/-- The token that has the fields so far, the latest first, and those of some entries. -/
def ofEntries (fields : List (String × Value)) : List (String × Value) → Token
  | [] => .mk fields.reverse false []
  | ("children", .list items) :: rest => .mk (fields.reverse ++ rest) true (ofValues items)
  | (name, v) :: rest => ofEntries ((name, v) :: fields) rest

/-- The tokens that some values describe. -/
def ofValues : List Value → List Token
  | [] => []
  | v :: rest => ofValue v :: ofValues rest

end

mutual

/-- The value that describes a token. -/
def toValue : Token → Value
  | .mk fields listed children =>
    .dict (fields ++ if listed then [("children", .list (toValues children))] else [])
  | .stray v => v

/-- The values that describe tokens. -/
def toValues : List Token → List Value
  | [] => []
  | t :: rest => toValue t :: toValues rest

end

end Token

end FlavoredMarkdown

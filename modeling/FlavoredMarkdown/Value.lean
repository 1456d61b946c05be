import FlavoredMarkdown.Number
import FlavoredMarkdown.Text.Quoted

/-!
# Values from outside

Configuration files, metadata and the attributes of tokens hold values whose kind is only known when
they are read. Messages name the kind of a value or show the value itself: `Value.quoted` is the
spelling in which every value can be told from every other, `Value.shown` writes a text as it is.

Values are the `same` if they are equal as numbers, as texts, as lists or as dictionaries. Truth values
are numbers, and the order of keys means nothing. No two keys of a dictionary are the same.
-/

namespace FlavoredMarkdown

/-- A value of a kind not known beforehand. Keys of a dictionary are in the order in which they came.
They are texts in a `dict`; a `keyed` dictionary has some key that is none. -/
inductive Value
  | null
  | bool (b : Bool)
  | int (n : Int)
  | float (x : Float)
  | str (s : String)
  | list (items : List Value)
  | dict (entries : List (String × Value))
  | keyed (entries : List (Value × Value))
  deriving Inhabited

namespace Value

/-- The name of the kind of a value. -/
def kindName : Value → String
  | .null => "NoneType"
  | .bool _ => "bool"
  | .int _ => "int"
  | .float _ => "float"
  | .str _ => "str"
  | .list _ => "list"
  | .dict _ | .keyed _ => "dict"

/-- Whether the value counts as true: everything but null, false, zero and what is empty. -/
def isTrue : Value → Bool
  | .null => false
  | .bool b => b
  | .int n => n != 0
  | .float x => !(x == 0.0)
  | .str s => !s.isEmpty
  | .list items => !items.isEmpty
  | .dict entries => !entries.isEmpty
  | .keyed entries => !entries.isEmpty

/-! ## Spelling -/

mutual

/-- The spelling of a value in a message. -/
def quoted : Value → String
  | .null => "None"
  | .bool true => "True"
  | .bool false => "False"
  | .int n => toString n
  | .float x => Decimal.plain.text x
  | .str s => Text.quoted s
  | .list items => "[" ++ ", ".intercalate (quotedItems items) ++ "]"
  | .dict entries => "\x7b" ++ ", ".intercalate (quotedEntries entries) ++ "\x7d"
  | .keyed entries => "\x7b" ++ ", ".intercalate (quotedKeyed entries) ++ "\x7d"

/-- The spellings of the items of a list. -/
def quotedItems : List Value → List String
  | [] => []
  | v :: rest => quoted v :: quotedItems rest

/-- The spellings of the entries of a dictionary whose keys are texts. -/
def quotedEntries : List (String × Value) → List String
  | [] => []
  | (key, v) :: rest => (Text.quoted key ++ ": " ++ quoted v) :: quotedEntries rest

/-- The spellings of the entries of a dictionary with keys of any kind. -/
def quotedKeyed : List (Value × Value) → List String
  | [] => []
  | (key, v) :: rest => (quoted key ++ ": " ++ quoted v) :: quotedKeyed rest

end

/-- The text of a value: a text is its own, any other value is spelt as in a message. -/
def shown : Value → String
  | .str s => s
  | v => quoted v

/-! ## Equality -/

/-- The number that a value is. Truth values count as zero and one. -/
def number? : Value → Option Number
  | .bool b => some (.int (if b then 1 else 0))
  | .int n => some (.int n)
  | .float x => some (.float x)
  | _ => none

mutual

/-- Whether two values are equal. -/
def same : Value → Value → Bool
  | .null, .null => true
  | .str a, .str b => a == b
  | .list a, .list b => sameItems a b
  | .dict a, .dict b => a.length == b.length && sameEntries a b
  | .keyed a, .keyed b => a.length == b.length && sameKeyed a b
  | a, b =>
    match a.number?, b.number? with
    | some m, some n => m.same n
    | _, _ => false

/-- Whether the items of two lists are equal. -/
def sameItems : List Value → List Value → Bool
  | [], [] => true
  | v :: rest, w :: rest2 => same v w && sameItems rest rest2
  | _, _ => false

/-- Whether every entry is among some others. -/
def sameEntries : List (String × Value) → List (String × Value) → Bool
  | [], _ => true
  | (key, v) :: rest, others => (others.lookup key).any (same v) && sameEntries rest others

/-- Whether every entry is among some others, for keys of any kind. -/
def sameKeyed : List (Value × Value) → List (Value × Value) → Bool
  | [], _ => true
  | (key, v) :: rest, others =>
    (others.any fun (other, w) => same key other && same v w) && sameKeyed rest others

end

/-! ## Sums -/

/-- Why two values have no sum. -/
inductive SumError
  | wrongKind
  | tooLarge
  deriving DecidableEq, Repr

/-- The sum of two values: texts and lists are joined, and numbers are added. -/
def sum : Value → Value → Except SumError Value
  | .str a, .str b => .ok (.str (a ++ b))
  | .list a, .list b => .ok (.list (a ++ b))
  | a, b =>
    match a.number?, b.number? with
    | some m, some n =>
      match m.sum? n with
      | some (.int n) => .ok (.int n)
      | some (.float x) => .ok (.float x)
      | none => .error .tooLarge
    | _, _ => .error .wrongKind

end Value

/-- `key` set to `value`: in its old place if it is there, else at the end. -/
def setEntry {α : Type} (key : String) (value : α) : List (String × α) → List (String × α)
  | [] => [(key, value)]
  | (k, v) :: rest => if k = key then (k, value) :: rest else (k, v) :: setEntry key value rest

/-! ## Mappings -/

/-- The entries of a dictionary with keys of any kind. -/
abbrev Mapping := List (Value × Value)

namespace Mapping

/-- `key` set to `value`: in the old place and under the old key if an equal one is there, else at the
end. -/
def set (key value : Value) : Mapping → Mapping
  | [] => [(key, value)]
  | (k, v) :: rest => if k.same key then (k, value) :: rest else (k, v) :: set key value rest

/-- The mapping of a dictionary whose keys are texts. -/
def ofEntries (entries : List (String × Value)) : Mapping :=
  entries.map fun (key, v) => (.str key, v)

/-- The entries with texts for keys. -/
def shown (m : Mapping) : List (String × Value) := m.map fun (key, v) => (key.shown, v)

/-- The entries whose keys are texts. -/
def named (m : Mapping) : List (String × Value) :=
  m.filterMap fun (key, v) => match key with
    | .str s => some (s, v)
    | _ => none

/-- What is held under a text. -/
def at? (m : Mapping) (key : String) : Option Value := m.named.lookup key

/-- The mapping that a value is, if it is a dictionary. -/
def ofValue? : Value → Option Mapping
  | .dict entries => some (ofEntries entries)
  | .keyed entries => some entries
  | _ => none

/-- The dictionary of a mapping. -/
def toValue (m : Mapping) : Value :=
  match m.mapM fun (key, v) => (match key with | .str s => some (s, v) | _ => none) with
  | some entries => .dict entries
  | none => .keyed m

end Mapping

end FlavoredMarkdown

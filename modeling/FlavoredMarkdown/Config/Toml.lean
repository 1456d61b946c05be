import FlavoredMarkdown.Text.Digits
import FlavoredMarkdown.Value

/-!
# Reading TOML

A document is a list of statements, one a line: a table header, or a key with its value. Tables may be
opened once, and a key may be set once. Dates are not read. Why a text is not TOML is not told.

Readers of nested values take fuel, one more than the number of characters left, and give back what
they have not read.
-/

namespace FlavoredMarkdown.Toml

open Text (digits decimalNumber hexNumber? hexValue? nearestFloat)

/-- A key with its parts, the outermost first. -/
abbrev Key := List String

/-- Leaves out spaces and tabs in front. -/
def skipGap (cs : List Char) : List Char := cs.dropWhile fun c => c == ' ' || c == '\t'

/-- Whether a character can be in a text that stands on one line. -/
def isTextChar (c : Char) : Bool := c == '\t' || (0x20 ≤ c.toNat && c.toNat != 0x7f)

/-- Leaves out a comment in front, if there is one. -/
def skipComment? (cs : List Char) : Option (List Char) :=
  match cs with
  | '#' :: rest =>
    let comment := rest.takeWhile (· != '\n')
    if comment.all isTextChar then some (rest.drop comment.length) else none
  | _ => some cs

/-- Leaves out gaps, ends of lines and comments in front. -/
def skipFiller? (fuel : Nat) (cs : List Char) : Option (List Char) :=
  match fuel with
  | 0 => none
  | fuel + 1 =>
    match cs.dropWhile fun c => c == ' ' || c == '\t' || c == '\n' with
    | '#' :: rest => (skipComment? ('#' :: rest)).bind (skipFiller? fuel)
    | rest => some rest

/-! ## Strings -/

/-- A character given by hexadecimal digits. -/
def readCodePoint? (width : Nat) (cs : List Char) : Option (Char × List Char) :=
  let ds := cs.take width
  if ds.length = width then
    match hexNumber? ds with
    | some n => if n.isValidChar then some (Char.ofNat n, cs.drop width) else none
    | none => none
  else none

/-- The character behind a backslash. -/
def readEscape? : List Char → Option (Char × List Char)
  | 'b' :: rest => some ('\x08', rest)
  | 't' :: rest => some ('\t', rest)
  | 'n' :: rest => some ('\n', rest)
  | 'f' :: rest => some ('\x0c', rest)
  | 'r' :: rest => some ('\r', rest)
  | '"' :: rest => some ('"', rest)
  | '\\' :: rest => some ('\\', rest)
  | 'u' :: rest => readCodePoint? 4 rest
  | 'U' :: rest => readCodePoint? 8 rest
  | _ => none

/-- A string on one line behind its opening quote. -/
def readBasic? (fuel : Nat) (read : List Char) (cs : List Char) : Option (String × List Char) :=
  match fuel with
  | 0 => none
  | fuel + 1 =>
    match cs with
    | '"' :: rest => some (String.ofList read.reverse, rest)
    | '\\' :: rest => (readEscape? rest).bind fun (c, rest) => readBasic? fuel (c :: read) rest
    | c :: rest => if isTextChar c then readBasic? fuel (c :: read) rest else none
    | [] => none

/-- A literal string on one line behind its opening quote. -/
def readLiteral? (cs : List Char) : Option (String × List Char) :=
  let text := cs.takeWhile fun c => c != '\'' && isTextChar c
  match cs.drop text.length with
  | '\'' :: rest => some (String.ofList text, rest)
  | _ => none

/-- A string on several lines behind its opening quotes. Up to two quotes may stand before the three
that close it. In a basic string, a backslash at the end of a line joins it with the next text. -/
def readLines? (quote : Char) (fuel : Nat) (read : List Char) (cs : List Char) :
    Option (String × List Char) :=
  match fuel with
  | 0 => none
  | fuel + 1 =>
    match cs with
    | [] => none
    | c :: rest =>
      let run := (cs.takeWhile (· == quote)).length
      if 3 ≤ run then
        let extra := min (run - 3) 2
        some (String.ofList (read.reverse ++ List.replicate extra quote), cs.drop (3 + extra))
      else if c = '\\' && quote = '"' then
        let gap := rest.takeWhile fun d => d == ' ' || d == '\t'
        match rest.drop gap.length with
        | '\n' :: more =>
          readLines? quote fuel read (more.dropWhile fun d => d == ' ' || d == '\t' || d == '\n')
        | _ => (readEscape? rest).bind fun (d, rest) => readLines? quote fuel (d :: read) rest
      else if c = '\n' || isTextChar c then readLines? quote fuel (c :: read) rest
      else none

/-- A string behind its first quote. -/
def readString? (quote : Char) (cs : List Char) : Option (String × List Char) :=
  match cs with
  | a :: b :: rest =>
    if a = quote && b = quote then
      readLines? quote (rest.length + 1) []
        (match rest with
          | '\n' :: more => more
          | _ => rest)
    else if quote = '"' then readBasic? (cs.length + 1) [] cs
    else readLiteral? cs
  | _ => if quote = '"' then readBasic? (cs.length + 1) [] cs else readLiteral? cs

/-! ## Keys -/

/-- Whether a character can be in a key without quotes. -/
def isBareKeyChar (c : Char) : Bool := c.isAlphanum || c == '-' || c == '_'

/-- A part of a key. -/
def readKeyPart? (cs : List Char) : Option (String × List Char) :=
  match cs with
  | '"' :: rest => readBasic? (rest.length + 1) [] rest
  | '\'' :: rest => readLiteral? rest
  | _ =>
    let part := cs.takeWhile isBareKeyChar
    if part.isEmpty then none else some (String.ofList part, cs.drop part.length)

/-- A key, whose parts are parted by points. -/
def readKey? (fuel : Nat) (cs : List Char) : Option (Key × List Char) :=
  match fuel with
  | 0 => none
  | fuel + 1 =>
    (readKeyPart? cs).bind fun (part, rest) =>
      match skipGap rest with
      | '.' :: rest => (readKey? fuel (skipGap rest)).map fun (key, rest) => (part :: key, rest)
      | rest => some ([part], rest)

/-! ## Numbers -/

/-- The digits in front for which `isDigit` holds, single low lines between them left out. -/
def groupedDigits (isDigit : Char → Bool) : List Char → List Char × List Char
  | c :: '_' :: d :: rest =>
    if isDigit c then
      if isDigit d then
        let (ds, left) := groupedDigits isDigit (d :: rest)
        (c :: ds, left)
      else ([c], '_' :: d :: rest)
    else ([], c :: '_' :: d :: rest)
  | c :: rest =>
    if isDigit c then
      let (ds, left) := groupedDigits isDigit rest
      (c :: ds, left)
    else ([], c :: rest)
  | [] => ([], [])

/-- The number written in digits of a base. -/
def numberOf (base : Nat) (ds : List Char) : Nat :=
  ds.foldl (fun n c => n * base + (hexValue? c).getD 0) 0

/-- An integer in another base than ten, behind the mark of the base. -/
def readBased? (base : Nat) (cs : List Char) : Option (Value × List Char) :=
  let (ds, rest) := groupedDigits (fun c => (hexValue? c).any (· < base)) cs
  if ds.isEmpty then none else some (.int (numberOf base ds), rest)

/-- The sign in front: whether it is a minus. -/
def readSign (cs : List Char) : Bool × List Char :=
  match cs with
  | '-' :: rest => (true, rest)
  | '+' :: rest => (false, rest)
  | _ => (false, cs)

/-- A number. -/
def readNumber? (cs : List Char) : Option (Value × List Char) :=
  match cs with
  | '0' :: 'x' :: rest => readBased? 16 rest
  | '0' :: 'o' :: rest => readBased? 8 rest
  | '0' :: 'b' :: rest => readBased? 2 rest
  | _ =>
    let (negative, rest) := readSign cs
    match rest with
    | 'i' :: 'n' :: 'f' :: rest => some (.float (if negative then -1.0 / 0.0 else 1.0 / 0.0), rest)
    | 'n' :: 'a' :: 'n' :: rest => some (.float (0.0 / 0.0), rest)
    | _ =>
      let (whole, rest) :=
        match rest with
        | '0' :: rest => (['0'], rest)
        | _ => groupedDigits Char.isDigit rest
      if whole.isEmpty then none
      else
        let (fraction, rest) :=
          match rest with
          | '.' :: more =>
            let (ds, left) := groupedDigits Char.isDigit more
            if ds.isEmpty then ([], rest) else (ds, left)
          | _ => ([], rest)
        let (exponent, rest) : Option Int × List Char :=
          match rest with
          | e :: more =>
            let (minus, more) := readSign more
            let (ds, left) := groupedDigits Char.isDigit more
            if (e == 'e' || e == 'E') && !ds.isEmpty then
              (some (if minus then -(decimalNumber ds : Int) else decimalNumber ds), left)
            else (none, rest)
          | [] => (none, rest)
        if fraction.isEmpty && exponent.isNone then
          let n : Int := decimalNumber whole
          some (.int (if negative then -n else n), rest)
        else
          let x := nearestFloat (decimalNumber (whole ++ fraction))
            (exponent.getD 0 - fraction.length)
          some (.float (if negative then -x else x), rest)

/-! ## Values -/

/-- The dictionary at a place, made where it is missing. The last item of a list stands for the list. -/
def nestAt? (f : List (String × Value) → Option (List (String × Value))) (lists : Bool) :
    Key → List (String × Value) → Option (List (String × Value))
  | [], entries => f entries
  | part :: key, entries =>
    match entries.lookup part with
    | none => (nestAt? f lists key []).map fun inner => setEntry part (.dict inner) entries
    | some (.dict inner) =>
      (nestAt? f lists key inner).map fun inner => setEntry part (.dict inner) entries
    | some (.list items) =>
      match if lists then items.getLast? else none with
      | some (.dict inner) =>
        (nestAt? f lists key inner).map fun inner =>
          setEntry part (.list (items.dropLast ++ [.dict inner])) entries
      | _ => none
    | some _ => none

/-- Sets a key that is not set. -/
def insertNew? (part : String) (v : Value) (entries : List (String × Value)) :
    Option (List (String × Value)) :=
  if (entries.lookup part).isSome then none else some (entries ++ [(part, v)])

/-- A key cut before its last part. -/
def splitKey (key : Key) : Key × String := (key.dropLast, key.getLastD "")

mutual

/-- A value. -/
def readValue? (fuel : Nat) (cs : List Char) : Option (Value × List Char) :=
  match fuel with
  | 0 => none
  | fuel + 1 =>
    match cs with
    | '"' :: rest => (readString? '"' rest).map fun (s, rest) => (.str s, rest)
    | '\'' :: rest => (readString? '\'' rest).map fun (s, rest) => (.str s, rest)
    | 't' :: 'r' :: 'u' :: 'e' :: rest => some (.bool true, rest)
    | 'f' :: 'a' :: 'l' :: 's' :: 'e' :: rest => some (.bool false, rest)
    | '[' :: rest => (readItems? fuel [] rest).map fun (vs, rest) => (.list vs, rest)
    | '{' :: rest =>
      match skipGap rest with
      | '}' :: rest => some (.dict [], rest)
      | rest => (readInline? fuel [] rest).map fun (es, rest) => (.dict es, rest)
    | _ => readNumber? cs

/-- The items of an array from the next one on, onto those so far, the latest first. -/
def readItems? (fuel : Nat) (read : List Value) (cs : List Char) : Option (List Value × List Char) :=
  match fuel with
  | 0 => none
  | fuel + 1 =>
    match skipFiller? (cs.length + 1) cs with
    | some (']' :: rest) => some (read.reverse, rest)
    | some rest =>
      (readValue? fuel rest).bind fun (v, rest) =>
        match skipFiller? (rest.length + 1) rest with
        | some (',' :: rest) => readItems? fuel (v :: read) rest
        | some (']' :: rest) => some ((v :: read).reverse, rest)
        | _ => none
    | none => none

/-- The entries of a table on one line from the next one on, onto those so far. -/
def readInline? (fuel : Nat) (read : List (String × Value)) (cs : List Char) :
    Option (List (String × Value) × List Char) :=
  match fuel with
  | 0 => none
  | fuel + 1 =>
    (readKey? (cs.length + 1) cs).bind fun (key, rest) =>
      match rest with
      | '=' :: rest =>
        (readValue? fuel (skipGap rest)).bind fun (v, rest) =>
          let (parent, part) := splitKey key
          (nestAt? (insertNew? part v) false parent read).bind fun read =>
            match skipGap rest with
            | ',' :: rest => readInline? fuel read (skipGap rest)
            | '}' :: rest => some (read, rest)
            | _ => none
      | _ => none

end

/-! ## Documents -/

/-- What has been read: the tables, the header in force, and the keys that cannot be opened as tables
again or added to. `pending` are opened by keys of the section being read. -/
structure Document where
  entries : List (String × Value) := []
  header : Key := []
  opened : List Key := []
  pending : List Key := []
  closed : List Key := []

namespace Document

/-- Whether nothing can be added below a key. -/
def isClosed (d : Document) (key : Key) : Bool := d.closed.any (·.isPrefixOf key)

/-- Sets a key of the section being read. -/
def set? (d : Document) (key : Key) (v : Value) : Option Document :=
  let (parent, part) := splitKey key
  let inner := (List.range (key.length - 1)).map fun i => d.header ++ key.take (i + 1)
  if inner.any d.opened.contains || d.isClosed (d.header ++ parent) then none
  else
    (nestAt? (insertNew? part v) true (d.header ++ parent) d.entries).map fun entries =>
      let full := d.header ++ key
      { d with
        entries
        pending := d.pending ++ inner
        closed := match v with
          | .list _ | .dict _ => full :: d.closed
          | _ => d.closed }

/-- Opens a table. -/
def openTable? (d : Document) (key : Key) : Option Document :=
  let opened := d.opened ++ d.pending
  if opened.contains key || d.isClosed key then none
  else
    (nestAt? some true key d.entries).map fun entries =>
      { d with entries, header := key, opened := key :: opened, pending := [] }

/-- Adds an item to a list of tables, and opens it. -/
def openItem? (d : Document) (key : Key) : Option Document :=
  let opened := (d.opened ++ d.pending).filter fun k => !key.isPrefixOf k
  let closed := d.closed.filter fun k => !key.isPrefixOf k
  let (parent, part) := splitKey key
  let addItem (entries : List (String × Value)) : Option (List (String × Value)) :=
    match entries.lookup part with
    | none => some (entries ++ [(part, .list [.dict []])])
    | some (.list items) => some (setEntry part (.list (items ++ [.dict []])) entries)
    | some _ => none
  if d.isClosed key then none
  else
    (nestAt? addItem true parent d.entries).map fun entries =>
      { entries, header := key, opened := key :: opened, pending := [], closed }

end Document

/-- One statement, and what is left of its line. -/
def readStatement? (d : Document) (cs : List Char) : Option (Document × List Char) :=
  match cs with
  | '[' :: '[' :: rest =>
    (readKey? (rest.length + 1) (skipGap rest)).bind fun (key, rest) =>
      match rest with
      | ']' :: ']' :: rest => (d.openItem? key).map fun d => (d, rest)
      | _ => none
  | '[' :: rest =>
    (readKey? (rest.length + 1) (skipGap rest)).bind fun (key, rest) =>
      match rest with
      | ']' :: rest => (d.openTable? key).map fun d => (d, rest)
      | _ => none
  | '#' :: _ => some (d, cs)
  | '\n' :: _ => some (d, cs)
  | [] => some (d, cs)
  | _ =>
    (readKey? (cs.length + 1) cs).bind fun (key, rest) =>
      match rest with
      | '=' :: rest =>
        (readValue? (rest.length + 1) (skipGap rest)).bind fun (v, rest) =>
          (d.set? key v).map fun d => (d, rest)
      | _ => none

/-- The statements from the next one on. -/
def readStatements? (fuel : Nat) (d : Document) (cs : List Char) : Option Document :=
  match fuel with
  | 0 => none
  | fuel + 1 =>
    (readStatement? d (skipGap cs)).bind fun (d, rest) =>
      match skipComment? (skipGap rest) with
      | some ('\n' :: rest) => readStatements? fuel d rest
      | some [] => some d
      | _ => none

/-- A text with one character for every end of a line. -/
def plainLines : List Char → List Char
  | [] => []
  | '\r' :: '\n' :: rest => '\n' :: plainLines rest
  | c :: rest => c :: plainLines rest

/-- The value of a text that is TOML: a dictionary. -/
def parse? (text : List Char) : Option Value :=
  let cs := plainLines text
  (readStatements? (cs.length + 2) {} cs).map fun d => .dict d.entries

end FlavoredMarkdown.Toml

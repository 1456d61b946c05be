import FlavoredMarkdown.Markdown.Line
import FlavoredMarkdown.Text.LetterCase
import FlavoredMarkdown.Url.Encoded
import FlavoredMarkdown.Value

/-!
# Links

What a link is made of: its text or label in brackets, and its target with a title, written behind it
in parentheses or defined elsewhere under the label. Each reader takes the text from where its part
starts and gives the part and what is left.
-/

namespace FlavoredMarkdown.Markdown

/-- Where a link leads. -/
structure Target where
  url : String
  title : Option String

/-- The attributes of a token that leads somewhere. -/
def Target.attributes (t : Target) : List (String × Value) :=
  ("url", .str t.url) :: (t.title.elim [] fun title => [("title", .str title)])

/-- What a label is looked up by: neither white space nor letter case counts. -/
def labelKey (label : List Char) : String :=
  String.ofList (Text.upper (Text.lower ([' '].intercalate (Text.words label))))

/-- The most characters of a label. -/
def maxLabelLength : Nat := 500

/-- A label up to its closing bracket. It holds no other bracket, unless escaped. -/
def label? (room : Nat) : List Char → Option (List Char × List Char)
  | ']' :: rest => some ([], rest)
  | '\\' :: c :: rest =>
    if c = '\n' then none
    else
      match room with
      | room + 1 => (label? room rest).map fun (l, left) => ('\\' :: c :: l, left)
      | 0 => none
  | c :: rest =>
    if c = '[' || c = '\\' then none
    else
      match room with
      | room + 1 => (label? room rest).map fun (l, left) => (c :: l, left)
      | 0 => none
  | [] => none

/-- A space, a tab or the end of a line. -/
def isGapOrEnd (c : Char) : Bool := isGap c || c == '\n'

/-- The text without gaps in front, over one end of line at the most. -/
def skipGap (cs : List Char) : List Char :=
  match dropGap cs with
  | '\n' :: rest => dropGap rest
  | rest => rest

/-- A target in angle brackets whose opening bracket is just read. -/
def bracketed? : List Char → Option (List Char × List Char)
  | '>' :: rest => some ([], rest)
  | '\\' :: c :: rest =>
    if c = '\n' then none else (bracketed? rest).map fun (t, left) => ('\\' :: c :: t, left)
  | c :: rest =>
    if c = '<' || c = '\n' || c = '\x00' || c = '\\' then none
    else (bracketed? rest).map fun (t, left) => (c :: t, left)
  | [] => none

/-- A target without brackets: up to a space or to a parenthesis that closes none of its own, inside
`depth` parentheses. -/
def bareTarget? (depth : Nat) : List Char → Option (List Char × List Char)
  | [] => if depth = 0 then some ([], []) else none
  | '\\' :: c :: rest =>
    if isEscapable c then (bareTarget? depth rest).map fun (t, left) => ('\\' :: c :: t, left)
    else (bareTarget? depth (c :: rest)).map fun (t, left) => ('\\' :: t, left)
  | ')' :: rest =>
    match depth with
    | 0 => some ([], ')' :: rest)
    | depth + 1 => (bareTarget? depth rest).map fun (t, left) => (')' :: t, left)
  | c :: rest =>
    if isGapOrEnd c || c = '\x0b' || c = '\x0c' then
      if depth = 0 then some ([], c :: rest) else none
    else (bareTarget? (if c = '(' then depth + 1 else depth) rest).map fun (t, left) => (c :: t, left)

/-- A target with brackets or without. -/
def url? (cs : List Char) : Option (List Char × List Char) :=
  match cs with
  | '<' :: rest => bracketed? rest
  | _ => bareTarget? 0 cs

/-- The text of a title up to the next `close` that is not escaped. A title in parentheses holds no
others. -/
def quotedTitle? (close : Char) : List Char → Option (List Char × List Char)
  | [] => none
  | '\\' :: c :: rest =>
    if isEscapable c then (quotedTitle? close rest).map fun (t, left) => ('\\' :: c :: t, left)
    else (quotedTitle? close (c :: rest)).map fun (t, left) => ('\\' :: t, left)
  | c :: rest =>
    if c = close then some ([], rest)
    else if close = ')' && c = '(' then none
    else (quotedTitle? close rest).map fun (t, left) => (c :: t, left)

/-- The sign that closes a title which opens with a given one. -/
def titleEnd? : Char → Option Char
  | '"' => some '"'
  | '\'' => some '\''
  | '(' => some ')'
  | _ => none

/-- A title behind a gap. -/
def title? (cs : List Char) : Option (List Char × List Char) :=
  if (cs.take 1).all isGapOrEnd then
    match skipGap cs with
    | c :: rest => do
      let close ← titleEnd? c
      let (t, left) ← quotedTitle? close rest
      pure (unescaped t, left)
    | [] => none
  else none

/-- A target with a title. An empty title is none. -/
def targetOf (url : List Char) (title : Option (List Char)) : Target where
  url := Url.encodedTarget (unescaped url)
  title := match title with
    | some (c :: rest) => some (String.ofList (c :: rest))
    | _ => none

/-- The target and title in parentheses, the first of which is just read. -/
def inlineTarget? (cs : List Char) : Option (Target × List Char) := do
  let (url, rest) ← url? (skipGap cs)
  let (title, rest) :=
    match title? rest with
    | some (t, left) => (some t, left)
    | none => (none, rest)
  match Text.trimStart rest with
  | ')' :: rest => some (targetOf url title, rest)
  | _ => none

/-- What is left of a line behind a definition, if there is nothing but gaps on it. -/
def lineEnd? (cs : List Char) : Option (List Char) :=
  match dropGap cs with
  | '\n' :: rest => some rest
  | [] => some []
  | _ => none

/-- The definition at the front of a text: the key of its label, its target and what is left. A title
that is followed by something else on its line does not belong to it. -/
def definition? (cs : List Char) : Option (String × Target × List Char) :=
  match cs with
  | '[' :: rest => do
    let (label, rest) ← label? maxLabelLength rest
    let rest ←
      match rest with
      | ':' :: rest => some (skipGap rest)
      | _ => none
    let (url, behind) ← url? rest
    let titled := (title? behind).bind fun (t, left) => (lineEnd? left).map fun left => (some t, left)
    let (title, left) ← titled.or ((lineEnd? behind).map fun left => (none, left))
    let key := labelKey label
    if key.isEmpty || rest.length = behind.length then none else some (key, targetOf url title, left)
  | _ => none

/-- The definitions at the front of a text, and what is left. -/
def definitions (cs : List Char) : List (String × Target) × List Char :=
  match definition? cs with
  | some (key, t, left) =>
    if left.length < cs.length then
      let (more, left) := definitions left
      ((key, t) :: more, left)
    else ([], cs)
  | none => ([], cs)
termination_by cs.length

end FlavoredMarkdown.Markdown

import FlavoredMarkdown.Markdown.Block

/-!
# Descriptions

A description list has terms, which are the lines of a paragraph, and descriptions, which start with a
colon and follow the terms, blank lines between them or not.
-/

namespace FlavoredMarkdown.Markdown

/-- What stands behind the colon of a line that starts a description. -/
def described? (l : List Char) : Option (List Char) :=
  match (Line.whole l).body? with
  | some (':' :: c :: rest) => if isGap c then some (c :: rest) else none
  | _ => none

/-- Whether a line starts a description. -/
def startsDescription (l : List Char) : Bool := (described? l).isSome

/-- The lines of descriptions, the first of which is already taken. While `lazy`, lines without
indentation belong to the description too. -/
def descriptionRest (lazy : Bool) : List (List Char) → List (List Char) × List (List Char)
  | [] => ([], [])
  | l :: rest =>
    let blank := isBlankText l
    if blank || startsDescription l || lazy || (l.take 1).all isGap then
      let (taken, left) := descriptionRest (!blank && (lazy || startsDescription l)) rest
      (l :: taken, left)
    else ([], l :: rest)

/-- Lines cut before each line that starts a description. -/
def cutDescriptions (current : List (List Char)) : List (List Char) → List (List (List Char))
  | [] => [current.reverse]
  | l :: rest =>
    if startsDescription l then current.reverse :: cutDescriptions [l] rest
    else cutDescriptions (l :: current) rest

/-- The line without its spaces in front, `most` of them at the most. -/
def dropSpaces (most : Nat) : List Char → List Char
  | ' ' :: rest =>
    match most with
    | most + 1 => dropSpaces most rest
    | 0 => ' ' :: rest
  | l => l

/-- A description as a text of its own. -/
def descriptionBody (lines : List (List Char)) : List (List Char) :=
  let unmarked :=
    match lines with
    | l :: rest => (described? l).getD l :: rest
    | [] => []
  unmarked.map (dropSpaces 4)

/-- The lines of the terms of descriptions: those of a paragraph, up to a line that starts a description.
The paragraph so far is that of the draft. -/
def terms? (d : Draft) : List (List Char) → Option (List (List Char) × List (List Char))
  | [] => none
  | l :: rest =>
    if startsDescription l then some ([], l :: rest)
    else if isBlankText l then
      let left := rest.dropWhile isBlankText
      if left.head?.any startsDescription then some ([], left) else none
    else if (d.start? true (.whole l)).isSome then none
    else (terms? (d.text 0 (.whole l)) rest).map fun (terms, left) => (l :: terms, left)

/-- Terms and the descriptions that follow them. -/
structure Entry where
  terms : List (List Char)
  bodies : List (List (List Char))

/-- The terms and descriptions at the start of some lines, and the lines that are left. -/
def entry? (lines : List (List Char)) : Option (Entry × List (List Char)) :=
  match lines with
  | [] => none
  | first :: rest =>
    let d := Draft.start []
    if isBlankText first || (d.start? true (.whole first)).isSome then none
    else
      match terms? (d.text 0 (.whole first)) rest with
      | some (terms, l :: left) =>
        let (taken, left) := descriptionRest true left
        some (⟨first :: terms, (cutDescriptions [l] taken).map descriptionBody⟩, left)
      | _ => none

/-- The entries of a description list: all that follow each other, and the lines that are left. -/
def entries (lines : List (List Char)) : List Entry × List (List Char) :=
  match entry? lines with
  | some (e, left) =>
    if left.length < lines.length then
      let (more, left) := entries left
      (e :: more, left)
    else ([], lines)
  | none => ([], lines)
termination_by lines.length

/-- The tokens of an entry. -/
def Entry.tokens (e : Entry) : List Token :=
  let terms := e.terms.map fun term =>
    Token.plain "def_list_head" [("text", .str (String.ofList term))]
  let bodies := e.bodies.map fun body => Token.node "def_list_item" [] (plainBlocks [] body).1
  terms ++ bodies

/-- A description list at the start of some lines, and the lines that are left. -/
def descriptions? (lines : List (List Char)) : Option (Token × List (List Char)) :=
  match entries lines with
  | ([], _) => none
  | (found, left) => some (.node "def_list" [] (found.flatMap Entry.tokens), left)

end FlavoredMarkdown.Markdown

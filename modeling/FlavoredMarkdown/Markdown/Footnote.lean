import FlavoredMarkdown.Markdown.Link

/-!
# Footnotes

The definition of a footnote has a label with a circumflex, a colon and a text, which goes on in
indented lines. A note of one line is one paragraph; one of several lines is a text of its own.
-/

namespace FlavoredMarkdown.Markdown

/-- The number of spaces in front. -/
def spacesInFront (l : List Char) : Nat := (l.takeWhile (· == ' ')).length

/-- Lines that belong to a note by their indentation, empty ones between them included. -/
def noteRest (lead : Nat) : List (List Char) → List (List Char) × List (List Char)
  | [] => ([], [])
  | l :: rest =>
    let inside := spacesInFront l
    if l.isEmpty || (lead < inside && inside ≤ lead + 4) then
      let (taken, left) := noteRest lead rest
      (l :: taken, left)
    else ([], l :: rest)

/-- The lines of a note with some text behind its label, and the lines that are left. -/
def noteLines (behind : List Char) (lead : Nat) (rest : List (List Char)) :
    List (List Char) × List (List Char) :=
  match behind, rest with
  | [], second :: rest =>
    let (taken, left) := noteRest lead rest
    (second :: taken, left)
  | _, _ =>
    let (taken, left) := noteRest lead rest
    (behind.drop 1 :: taken, left)

/-- The lines of a note as a text of its own: without the indentation that its further lines share.
`none` if it has only one line. -/
def noteBody? (lines : List (List Char)) : Option (List (List Char)) :=
  match (lines.drop 1).find? fun l => !l.isEmpty with
  | some second =>
    let indent := (second.takeWhile Text.isBlank).length
    some (lines.map fun l => if indent ≤ spacesInFront l then l.dropWhile (· == ' ') else l)
  | none => none

/-- The definition of a footnote at the start of some lines: its key, its lines, and the lines that are
left. -/
def note? (l : List Char) (rest : List (List Char)) :
    Option (String × List (List Char) × List (List Char)) :=
  match (Line.whole l).body? with
  | some ('[' :: '^' :: cs) =>
    match label? maxLabelLength cs with
    | some (label, ':' :: behind) =>
      if (behind.take 1).all isGap then
        let (taken, left) := noteLines behind (spacesInFront l) rest
        some (labelKey label, taken, left)
      else none
    | _ => none
  | _ => none

end FlavoredMarkdown.Markdown

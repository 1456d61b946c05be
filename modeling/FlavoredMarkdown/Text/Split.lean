/-!
# Cutting text at a character

A text is cut at every occurrence of a separator, or in two at the first one. The separators themselves
are in no part.
-/

namespace FlavoredMarkdown.Text

/-- The parts of a text between separators, at least one. -/
def partsAt (sep : Char) : List Char → List (List Char)
  | [] => [[]]
  | c :: rest =>
    if c = sep then [] :: partsAt sep rest
    else
      match partsAt sep rest with
      | part :: parts => (c :: part) :: parts
      | [] => [[c]]

/-- The text before the first separator and the text behind it, if there is one. -/
def cutAt? (sep : Char) : List Char → Option (List Char × List Char)
  | [] => none
  | c :: rest =>
    if c = sep then some ([], rest)
    else (cutAt? sep rest).map fun (front, behind) => (c :: front, behind)

end FlavoredMarkdown.Text

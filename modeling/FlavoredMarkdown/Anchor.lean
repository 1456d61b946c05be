import FlavoredMarkdown.Text.LetterCase
import FlavoredMarkdown.Text.WordChar

/-!
# Heading anchors

The anchor of a heading is its text in lower case, without punctuation and with hyphens for spaces.
Where that is taken, the first free number is added. Model of `anchorize`: its loop over numbers is the
search of `firstFree`, and the set of anchors it adds to is `Marks.anchors`.
-/

namespace FlavoredMarkdown.Anchor

/-- Whether a character of a heading is kept in its anchor. -/
def isKept (c : Char) : Bool := Text.isWord c || c == '-' || c == ' '

/-- The anchor of a text on its own. -/
def slug (text : String) : String :=
  String.ofList (((Text.lower text.toList).filter isKept).map fun c => if c = ' ' then '-' else c)

/-- The anchors to try for a slug: itself, then numbered from 1. -/
def candidate (slug : String) : Nat → String
  | 0 => slug
  | k + 1 => slug ++ "-" ++ toString (k + 1)

/-- The first candidate that is not taken. Among one more candidates than there are taken anchors, one
is free. -/
def firstFree (slug : String) (taken : List String) : String :=
  match (List.range (taken.length + 1)).find? fun k => !taken.contains (candidate slug k) with
  | some k => candidate slug k
  | none => candidate slug (taken.length + 1)

/-- The anchor of a text beside those that are taken (`anchorize`). -/
def unique (text : String) (taken : List String) : String := firstFree (slug text) taken

end FlavoredMarkdown.Anchor

import FlavoredMarkdown.Text.WordChar

/-!
# The filter for disallowed tags

Nine tags change how the rest of a page is read, so the filter disarms them: the bracket that opens
one, in its opening or its closing form, is written as an entity. A tag name counts only where no
word character follows it, and is recognised without regard to case. Three letters beyond ASCII fold
onto letters of the names: the long s, and the dotted capital and dotless small i. Model of
`_filter_tags`, whose pattern is `TAGFILTER_PATTERN`.
-/

namespace FlavoredMarkdown.Html

/-- The names of the disallowed tags (`TAGFILTER_TAGS`). -/
def disallowedTags : List (List Char) :=
  ["title", "textarea", "style", "xmp", "iframe", "noembed", "noframes", "script", "plaintext"].map
    String.toList

/-- Whether `c` is the small letter `letter` in any of its cases. -/
def foldsTo (letter c : Char) : Bool :=
  c == letter || c.toLower == letter || (letter == 's' && c.toNat == 0x17F) ||
    (letter == 'i' && (c.toNat == 0x130 || c.toNat == 0x131))

/-- Whether the text starts with `name`, in any case, and no word character follows. -/
def startsWithName : (name : List Char) → List Char → Bool
  | [], [] => true
  | [], c :: _ => !Text.isWord c
  | _ :: _, [] => false
  | letter :: name, c :: rest => foldsTo letter c && startsWithName name rest

/-- Whether a bracket before this text opens a disallowed tag. -/
def opensDisallowed : List Char → Bool
  | '/' :: rest => disallowedTags.any (startsWithName · rest)
  | rest => disallowedTags.any (startsWithName · rest)

/-- `filterTags` on characters. -/
def filterTagChars : List Char → List Char
  | [] => []
  | c :: rest =>
    if c = '<' && opensDisallowed rest then '&' :: 'l' :: 't' :: ';' :: filterTagChars rest
    else c :: filterTagChars rest

/-- The markup with its disallowed tags disarmed (`_filter_tags`). -/
def filterTags (html : String) : String := String.ofList (filterTagChars html.toList)

end FlavoredMarkdown.Html

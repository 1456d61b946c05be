import FlavoredMarkdown.Text.Blank
import FlavoredMarkdown.Text.LetterCase

/-!
# Dangerous URLs

A URL whose scheme runs a script or opens a local file is dangerous. So is one that carries its data
along, unless the data is an image of four common formats. Blanks in front and letter case do not
matter. Model of `is_dangerous_url`; what it notes of a URL that is left out is `Style.urlLog`.
-/

namespace FlavoredMarkdown.Url

/-- The schemes that are not let through (`DANGEROUS_URL_SCHEMES`). -/
def dangerousSchemes : List (List Char) :=
  ["javascript:", "vbscript:", "file:", "data:"].map String.toList

/-- The data URLs that are let through all the same (`SAFE_DATA_URL_PREFIXES`). -/
def safeDataUrls : List (List Char) :=
  ["data:image/png", "data:image/gif", "data:image/jpeg", "data:image/webp"].map String.toList

/-- Whether one of `fronts` stands at the front of the text. -/
def startsWithAny (fronts : List (List Char)) (cs : List Char) : Bool :=
  fronts.any (·.isPrefixOf cs)

/-- `isDangerous` on characters. -/
def isDangerousChars (cs : List Char) : Bool :=
  let folded := Text.lower (Text.trimStart cs)
  startsWithAny dangerousSchemes folded && !startsWithAny safeDataUrls folded

/-- Whether a page must not link to the URL (`is_dangerous_url`). -/
def isDangerous (url : String) : Bool := isDangerousChars url.toList

end FlavoredMarkdown.Url

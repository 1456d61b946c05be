import FlavoredMarkdown.Text.Entity
import FlavoredMarkdown.Url.Href

/-!
# Percent encoding of link targets

A URL that is read from Markdown is stored with percent escapes: letters, digits and the signs that
mean something in a URL stay, and everything else is written as the escapes of its UTF-8 bytes. The
character references in it are read first.
-/

namespace FlavoredMarkdown.Url

/-- The characters that stay as they are. -/
def isTargetSafe (c : Char) : Bool :=
  c.isAlphanum || "_.-~:/?#@!$&()*+,;=%".toList.contains c

/-- The target of a link as it is stored. -/
def encodedTarget (cs : List Char) : String :=
  String.ofList ((Text.decoded cs).flatMap fun c => if isTargetSafe c then [c] else percentChar c)

end FlavoredMarkdown.Url

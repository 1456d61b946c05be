/-!
# URL rewriters

A page can send its links and images elsewhere. A rewriter changes the URL before it is escaped
(`link_url_rewriter` and `image_url_rewriter`). Any function on texts is one; those that are written
down as data are named here.
-/

namespace FlavoredMarkdown.Url

/-- A change to every URL of one kind. -/
structure Rewriter where
  apply : String → String

/-- Every occurrence of `old`, from the left and without overlaps, becomes `new`; `skip` characters
of the last occurrence are still to be left out. -/
def replaceFrom (old new : List Char) (skip : Nat) : List Char → List Char
  | [] => []
  | c :: rest =>
    match skip with
    | skip + 1 => replaceFrom old new skip rest
    | 0 =>
      if old.isPrefixOf (c :: rest) then new ++ replaceFrom old new (old.length - 1) rest
      else c :: replaceFrom old new 0 rest

/-- Replaces every occurrence of `old`. The empty text occurs around every character. -/
def replaceAll (old new cs : List Char) : List Char :=
  if old.isEmpty then cs.flatMap (fun c => new ++ [c]) ++ new else replaceFrom old new 0 cs

namespace Rewriter

/-- Writes a text in front of every URL. -/
def before (front : String) : Rewriter := ⟨fun url => front ++ url⟩

/-- Writes a text behind every URL. -/
def after (back : String) : Rewriter := ⟨fun url => url ++ back⟩

/-- Puts one URL in place of all. -/
def always (target : String) : Rewriter := ⟨fun _ => target⟩

/-- Replaces every occurrence of a text. -/
def replacing (old new : String) : Rewriter :=
  ⟨fun url => String.ofList (replaceAll old.toList new.toList url.toList)⟩

end Rewriter

end FlavoredMarkdown.Url

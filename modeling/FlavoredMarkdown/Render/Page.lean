import FlavoredMarkdown.Html.Escape

/-!
# Pages

A page grows piece by piece. A `Piece` is what a visit to a node writes: a tag, some text, a new line.
Some pieces ask for a fresh line, so a page knows whether the next piece would start one. Model of the
buffer of `RenderContext`, with `write` and `cr`.
-/

namespace FlavoredMarkdown

/-- An attribute of a tag, with its value as it is written between the quotes. -/
structure Attribute where
  name : String
  value : Option String := none
  deriving DecidableEq, Repr

/-- An attribute as it is written, with the blank before it. -/
def Attribute.written (a : Attribute) : String :=
  match a.value with
  | some v => " " ++ a.name ++ "=\"" ++ v ++ "\""
  | none => " " ++ a.name

/-- Attributes as they are written. -/
def Attribute.writtenAll (attributes : List Attribute) : String :=
  String.join (attributes.map Attribute.written)

/-- One thing that is written to a page. An image is written in two pieces, since the text that stands
for it comes between them. -/
inductive Piece
  | freshLine
  | newline
  | text (s : String)
  | verbatim (html : String)
  | openTag (name : String) (attributes : List Attribute)
  | voidTag (name : String) (attributes : List Attribute)
  | closeTag (name : String)
  | omission
  | openImage (attributes : List Attribute)
  | closeImage (title : Option String)
  deriving DecidableEq, Repr

/-- What a piece adds to a page, a fresh line aside. -/
def Piece.written : Piece → String
  | .freshLine => ""
  | .newline => "\n"
  | .text s => Html.escape s
  | .verbatim html => html
  | .openTag name attributes => "<" ++ name ++ Attribute.writtenAll attributes ++ ">"
  | .voidTag name attributes => "<" ++ name ++ Attribute.writtenAll attributes ++ " />"
  | .closeTag name => "</" ++ name ++ ">"
  | .omission => "<!-- raw HTML omitted -->"
  | .openImage attributes => "<img" ++ Attribute.writtenAll attributes ++ " alt=\""
  | .closeImage none => "\" />"
  | .closeImage (some title) => "\" title=\"" ++ Html.escape title ++ "\" />"

/-- Whether what is written after the text starts a line. -/
def endsLine (s : String) : Bool :=
  match s.toList.getLast? with
  | none => true
  | some c => c == '\n'

theorem endsLine_append {a b : String} (h : b ≠ "") : endsLine (a ++ b) = endsLine b := by
  have hb : b.toList ≠ [] := fun he => h (String.toList_eq_nil_iff.mp he)
  unfold endsLine
  rw [String.toList_append, List.getLast?_append]
  obtain ⟨c, hc⟩ : ∃ c, b.toList.getLast? = some c :=
    ⟨_, List.getLast?_eq_some_getLast hb⟩
  simp [hc]

/-- A page so far, and whether the next piece would start a line. -/
structure Page where
  html : String := ""
  atLineStart : Bool := true
  atLineStart_eq : atLineStart = endsLine html := by decide

namespace Page

/-- The page with nothing on it. -/
def empty : Page := ⟨"", true, by decide⟩

instance : Inhabited Page := ⟨empty⟩

/-- The page with more text at its end (`RenderContext.write`). -/
def write (p : Page) (s : String) : Page :=
  if h : s = "" then p
  else ⟨p.html ++ s, endsLine s, (endsLine_append h).symm⟩

/-- The page with a piece at its end. A fresh line is a new line unless there is one already
(`RenderContext.cr`). -/
def add (p : Page) : Piece → Page
  | .freshLine => if p.atLineStart then p else p.write "\n"
  | piece => p.write piece.written

/-- The page with pieces at its end. -/
def addAll (p : Page) (pieces : List Piece) : Page := pieces.foldl add p

@[simp] theorem html_write (p : Page) (s : String) : (p.write s).html = p.html ++ s := by
  unfold write
  split
  · next h => simp [h]
  · rfl

@[simp] theorem addAll_nil (p : Page) : p.addAll [] = p := rfl

@[simp] theorem addAll_cons (p : Page) (piece : Piece) (rest : List Piece) :
    p.addAll (piece :: rest) = (p.add piece).addAll rest := rfl

@[simp] theorem addAll_append (p : Page) (as bs : List Piece) :
    p.addAll (as ++ bs) = (p.addAll as).addAll bs := by
  simp [addAll]

end Page

end FlavoredMarkdown

/-!
# Escaping text for HTML

Four characters cannot stand in the text of a page or in a quoted attribute: the ampersand, the two
angle brackets and the double quote. Each is written as a named entity; everything else, single
quotes included, is written as it is. Model of `escape_html`.
-/

namespace FlavoredMarkdown.Html

/-- How a character is written in text. -/
def escapeChar (c : Char) : List Char :=
  if c = '&' then ['&', 'a', 'm', 'p', ';']
  else if c = '<' then ['&', 'l', 't', ';']
  else if c = '>' then ['&', 'g', 't', ';']
  else if c = '"' then ['&', 'q', 'u', 'o', 't', ';']
  else [c]

/-- `escape` on characters. -/
def escapeChars (cs : List Char) : List Char := cs.flatMap escapeChar

/-- Text as it is written in a page (`escape_html`). -/
def escape (s : String) : String := String.ofList (escapeChars s.toList)

@[simp] theorem escapeChars_nil : escapeChars [] = [] := rfl

@[simp] theorem escapeChars_append (as bs : List Char) :
    escapeChars (as ++ bs) = escapeChars as ++ escapeChars bs := by
  simp [escapeChars]

/-- Escaped text holds no angle bracket and no quote. -/
theorem not_mem_escapeChars {c : Char} (h : c = '<' ∨ c = '>' ∨ c = '"') (cs : List Char) :
    c ∉ escapeChars cs := by
  intro hm
  obtain ⟨d, -, hd⟩ := List.mem_flatMap.mp hm
  unfold escapeChar at hd
  rcases h with rfl | rfl | rfl <;> (repeat' split at hd) <;> simp at hd <;>
    exact absurd hd.symm (by assumption)

end FlavoredMarkdown.Html

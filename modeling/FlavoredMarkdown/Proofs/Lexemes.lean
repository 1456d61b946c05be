import FlavoredMarkdown.Proofs.Unmark

/-!
# Reading a page

A reader of HTML sees characters and tags. `lex` cuts a page into these lexemes. A tag is known by its
words, which stand between blanks: its name, behind a slash if it closes an element, its attributes,
and the slash at the end of a void tag. What is in quotes belongs to one word.

* `Lexes s ls` speaks of a text as part of a page: whatever is behind it, it is read as `ls`. So it
  holds only of a text that ends outside of tags.
* An image has its tag in two pieces and the text between them, so the three are read together.

Results:
* `lexes_tag`: a tag with sound attributes is read as one lexeme, whatever is in its values.
* **`lexes_lineText`**: a sound piece is read as its lexemes.
* `lexes_image`: an image is read as one tag.
-/

namespace FlavoredMarkdown.Html

/-- What a page consists of for a reader: characters and tags. -/
inductive Lexeme
  | char (c : Char)
  | tag (words : List (List Char))
  deriving DecidableEq, Repr

/-- Where a reader is: between tags, or in a tag with some words, a word that may go on, and a quote
that may be open. -/
inductive LexState
  | text
  | tag (words : List (List Char)) (word : List Char) (quoted : Bool)

/-- Reads a page on. A tag without an end is no lexeme. -/
def lexFrom : LexState → List Char → List Lexeme
  | _, [] => []
  | .text, c :: rest =>
    if c = '<' then lexFrom (.tag [] [] false) rest else .char c :: lexFrom .text rest
  | .tag words word true, c :: rest =>
    lexFrom (.tag words (word ++ [c]) (c != '"')) rest
  | .tag words word false, c :: rest =>
    if c = '>' then .tag (words ++ [word]) :: lexFrom .text rest
    else if c = ' ' then lexFrom (.tag (words ++ [word]) [] false) rest
    else lexFrom (.tag words (word ++ [c]) (c == '"')) rest

/-- The lexemes of a page. -/
def lex (html : String) : List Lexeme := lexFrom .text html.toList

/-! ## Characters and words -/

/-- Inert text is read as its characters. -/
theorem lexFrom_inert {cs : List Char} (h : ∀ c ∈ cs, IsInert c) (rest : List Char) :
    lexFrom .text (cs ++ rest) = cs.map .char ++ lexFrom .text rest := by
  induction cs with
  | nil => rfl
  | cons c cs ih =>
    obtain ⟨⟨hl, -, -⟩, hcs⟩ := List.forall_mem_cons.mp h
    rw [List.cons_append, lexFrom, if_neg hl, ih hcs, List.map_cons, List.cons_append]

section Words

variable (words : List (List Char)) (word : List Char)

/-- Inert text without blanks belongs to the word that is read. -/
theorem lexFrom_word {cs : List Char} (h : ∀ c ∈ cs, IsInert c ∧ c ≠ ' ') (rest : List Char) :
    lexFrom (.tag words word false) (cs ++ rest) =
      lexFrom (.tag words (word ++ cs) false) rest := by
  induction cs generalizing word with
  | nil => simp
  | cons c cs ih =>
    obtain ⟨⟨⟨-, hg, hq⟩, hb⟩, hcs⟩ := List.forall_mem_cons.mp h
    rw [List.cons_append, lexFrom, if_neg hg, if_neg hb, beq_eq_false_iff_ne.mpr hq, ih _ hcs,
      List.append_assoc, List.singleton_append]

/-- In quotes, all inert text belongs to the word. -/
theorem lexFrom_quoted {cs : List Char} (h : ∀ c ∈ cs, IsInert c) (rest : List Char) :
    lexFrom (.tag words word true) (cs ++ rest) = lexFrom (.tag words (word ++ cs) true) rest := by
  induction cs generalizing word with
  | nil => simp
  | cons c cs ih =>
    obtain ⟨⟨-, -, hq⟩, hcs⟩ := List.forall_mem_cons.mp h
    rw [List.cons_append, lexFrom, bne_iff_ne.mpr hq, ih _ hcs, List.append_assoc,
      List.singleton_append]

theorem lexFrom_blank (rest : List Char) :
    lexFrom (.tag words word false) (' ' :: rest) =
      lexFrom (.tag (words ++ [word]) [] false) rest := rfl

end Words

/-- The text ends a tag, with further words of the tag in it. -/
def EndsTag (ending : String) (more : List (List Char)) : Prop :=
  ∀ words word rest, lexFrom (.tag words word false) (ending.toList ++ rest) =
    .tag (words ++ word :: more) :: lexFrom .text rest

theorem endsTag_angle : EndsTag ">" [] := fun _ _ _ => rfl

theorem endsTag_slash : EndsTag " />" [['/']] := by
  intro words word rest
  have h : lexFrom (.tag words word false) (" />".toList ++ rest) =
      .tag (words ++ [word] ++ [['/']]) :: lexFrom .text rest := rfl
  rw [h, List.append_assoc, List.singleton_append]

end FlavoredMarkdown.Html

namespace FlavoredMarkdown

open Html

/-- An attribute as a word of its tag. -/
def Attribute.word (a : Attribute) : List Char :=
  match a.value with
  | some value => a.name.toList ++ '=' :: '"' :: (value.toList ++ ['"'])
  | none => a.name.toList

theorem Attribute.toList_written (a : Attribute) : a.written.toList = ' ' :: a.word := by
  obtain ⟨name, value⟩ := a
  cases value with
  | none => exact Unmark.toList_written_none name
  | some value => exact Unmark.toList_written_some name value

/-- The words of an image tag. -/
def imageWords (attributes : List Attribute) (s : String) (title : Option String) :
    List (List Char) :=
  "img".toList :: ((attributes ++ imageAttributes s title).map Attribute.word ++ [['/']])

/-- The lexemes of a piece, on a page that is or is not at the start of a line. The pieces of an image
have none of their own. -/
def Piece.lexemes (fresh : Bool) : Piece → List Lexeme
  | .freshLine => if fresh then [] else [.char '\n']
  | .newline => [.char '\n']
  | .text s => (escape s).toList.map .char
  | .verbatim html => html.toList.map .char
  | .openTag name attributes => [.tag (name.toList :: attributes.map Attribute.word)]
  | .voidTag name attributes =>
    [.tag (name.toList :: (attributes.map Attribute.word ++ [['/']]))]
  | .closeTag name => [.tag ['/' :: name.toList]]
  | .omission => [.tag ["!--".toList, "raw".toList, "HTML".toList, "omitted".toList, "--".toList]]
  | .openImage _ | .closeImage _ => []

/-- The lexemes of a run of pieces. -/
def Piece.lexemesFrom (fresh : Bool) : List Piece → List Lexeme
  | [] => []
  | piece :: rest => piece.lexemes fresh ++ lexemesFrom (piece.lineAfter fresh) rest

/-! ## Tags -/

namespace Html

section Tags

variable {v : Vocabulary}

theorem isName_of_hasName {name : String} (h : v.HasName name) : Unmark.IsName name.toList := by
  rcases h with h | ⟨-, rfl⟩
  · exact Unmark.isName_attribute h
  · decide

/-- A name can stand in a tag. -/
theorem isInert_of_isName {cs : List Char} (h : Unmark.IsName cs) :
    ∀ c ∈ cs, IsInert c ∧ c ≠ ' ' := by
  intro c hc
  refine ⟨Unmark.isInert_of_isNameChar (h c hc), ?_⟩
  rintro rfl
  cases h _ hc

/-- No angle bracket stands in the attributes of a tag. -/
theorem not_mem_writtenAll {c : Char} (hc : c = '<' ∨ c = '>') {attributes : List Attribute}
    (h : SoundAttributes v attributes) : c ∉ (Attribute.writtenAll attributes).toList := by
  have hinert {cs : List Char} (hcs : ∀ d ∈ cs, IsInert d) : c ∉ cs := by
    intro hm
    obtain ⟨hl, hg, -⟩ := hcs c hm
    exact hc.elim hl hg
  have hsigns : c ≠ ' ' ∧ c ≠ '=' ∧ c ≠ '"' := by rcases hc with rfl | rfl <;> decide
  induction attributes with
  | nil => simp
  | cons a attributes ih =>
    obtain ⟨⟨hname, hvalue⟩, hrest⟩ := List.forall_mem_cons.mp h
    obtain ⟨name, value⟩ := a
    have hn : c ∉ name.toList :=
      hinert fun d hd => (isInert_of_isName (isName_of_hasName hname) d hd).1
    rw [Unmark.toList_writtenAll_cons, Attribute.toList_written]
    cases value with
    | none => simp [Attribute.word, hn, hsigns, ih hrest]
    | some value => simp [Attribute.word, hn, hinert (hvalue value rfl), hsigns, ih hrest]

theorem lexFrom_attribute (words : List (List Char)) {a : Attribute} (hname : v.HasName a.name)
    (hvalue : ∀ value ∈ a.value, Inert value) (rest : List Char) :
    lexFrom (.tag words [] false) (a.word ++ rest) = lexFrom (.tag words a.word false) rest := by
  obtain ⟨name, value⟩ := a
  have hn := isInert_of_isName (isName_of_hasName hname)
  cases value with
  | none => exact lexFrom_word words [] hn rest
  | some value =>
    have hopen (word tail : List Char) : lexFrom (.tag words word false) ('=' :: '"' :: tail) =
        lexFrom (.tag words (word ++ ['='] ++ ['"']) true) tail := rfl
    have hclose (word tail : List Char) : lexFrom (.tag words word true) ('"' :: tail) =
        lexFrom (.tag words (word ++ ['"']) false) tail := rfl
    have hw : Attribute.word ⟨name, some value⟩ =
        name.toList ++ '=' :: '"' :: (value.toList ++ ['"']) := rfl
    rw [hw]
    simp only [List.append_assoc, List.cons_append, List.nil_append]
    rw [lexFrom_word words [] hn, hopen, lexFrom_quoted words _ (hvalue value rfl), hclose]
    simp

/-- The attributes of a tag and its end. -/
theorem lexFrom_writtenAll {attributes : List Attribute} (h : SoundAttributes v attributes)
    {ending : String} {more : List (List Char)} (he : EndsTag ending more)
    (words : List (List Char)) (word rest : List Char) :
    lexFrom (.tag words word false)
        ((Attribute.writtenAll attributes).toList ++ (ending.toList ++ rest)) =
      .tag (words ++ word :: (attributes.map Attribute.word ++ more)) :: lexFrom .text rest := by
  induction attributes generalizing words word with
  | nil => exact he words word rest
  | cons a attributes ih =>
    obtain ⟨⟨hname, hvalue⟩, hrest⟩ := List.forall_mem_cons.mp h
    rw [Unmark.toList_writtenAll_cons, Attribute.toList_written, List.append_assoc,
      List.cons_append, lexFrom_blank, lexFrom_attribute _ hname hvalue, ih hrest]
    simp

end Tags

/-! ## Parts of a page -/

/-- Read as part of a page, the text gives the lexemes. -/
def Lexes (s : String) (lexemes : List Lexeme) : Prop :=
  ∀ rest, lexFrom .text (s.toList ++ rest) = lexemes ++ lexFrom .text rest

theorem lexes_empty : Lexes "" [] := fun _ => rfl

theorem Lexes.append {a b : String} {ls ms : List Lexeme} (ha : Lexes a ls) (hb : Lexes b ms) :
    Lexes (a ++ b) (ls ++ ms) := by
  intro rest
  rw [String.toList_append, List.append_assoc, ha, hb, List.append_assoc]

/-- What is read as part of a page is also read as a page. -/
theorem Lexes.lex_eq {s : String} {lexemes : List Lexeme} (h : Lexes s lexemes) :
    lex s = lexemes := by
  have hs := h []
  rwa [List.append_nil, lexFrom, List.append_nil] at hs

theorem lexes_inert {s : String} (h : Inert s) : Lexes s (s.toList.map .char) :=
  lexFrom_inert h

/-- **A tag with sound attributes** is one lexeme. -/
theorem lexes_tag {v : Vocabulary} {name ending : String} {attributes : List Attribute}
    {more : List (List Char)} (hname : name ∈ elementTags ++ voidTags)
    (h : SoundAttributes v attributes) (he : EndsTag ending more) :
    Lexes ("<" ++ name ++ Attribute.writtenAll attributes ++ ending)
      [.tag (name.toList :: (attributes.map Attribute.word ++ more))] := by
  intro rest
  have ht : ("<" ++ name ++ Attribute.writtenAll attributes ++ ending).toList ++ rest =
      '<' :: (name.toList ++
        ((Attribute.writtenAll attributes).toList ++ (ending.toList ++ rest))) := by
    simp
  have hopen (tail : List Char) :
      lexFrom .text ('<' :: tail) = lexFrom (.tag [] [] false) tail := rfl
  rw [ht, hopen, lexFrom_word [] [] (isInert_of_isName (Unmark.isName_tag hname)),
    lexFrom_writtenAll h he]
  rfl

theorem lexes_closeTag {name : String} (h : name ∈ elementTags) :
    Lexes ("</" ++ name ++ ">") [.tag ['/' :: name.toList]] := by
  intro rest
  have ht : ("</" ++ name ++ ">").toList ++ rest =
      '<' :: '/' :: (name.toList ++ (">".toList ++ rest)) := by
    simp
  have hopen (tail : List Char) :
      lexFrom .text ('<' :: '/' :: tail) = lexFrom (.tag [] ['/'] false) tail := rfl
  rw [ht, hopen,
    lexFrom_word [] ['/'] (isInert_of_isName (Unmark.isName_tag (List.mem_append_left _ h))),
    endsTag_angle]
  rfl

theorem lexes_omission : Lexes Piece.omission.written (Piece.omission.lexemes false) := by
  intro rest
  have ht : Piece.omission.written.toList ++ rest =
      '<' :: "!-- raw HTML omitted --".toList ++ '>' :: rest := rfl
  rw [ht]
  rfl

end Html

/-! ## Pieces -/

/-- **A sound piece is read as its lexemes**, if it is none of an image. -/
theorem lexes_lineText {v : Vocabulary} (hv : v.images = false) {piece : Piece} (h : piece.Sound v)
    (fresh : Bool) : Lexes (piece.lineText fresh) (piece.lexemes fresh) := by
  cases piece with
  | freshLine =>
    cases fresh with
    | true => exact lexes_empty
    | false => exact lexes_inert inert_newline
  | newline => exact lexes_inert inert_newline
  | text s => exact lexes_inert (inert_escape s)
  | verbatim html => exact lexes_inert h
  | openTag name attributes =>
    have ht := lexes_tag h.1 h.2 endsTag_angle
    rwa [List.append_nil] at ht
  | voidTag name attributes =>
    exact lexes_tag (List.mem_append_right _ h.1) h.2 endsTag_slash
  | closeTag name => exact lexes_closeTag h
  | omission => exact lexes_omission
  | openImage attributes => rw [Piece.Sound, hv] at h; cases h.1
  | closeImage title => rw [Piece.Sound, hv] at h; cases h

/-- A run of sound pieces is read as its lexemes. -/
theorem lexes_textFrom {v : Vocabulary} (hv : v.images = false) {pieces : List Piece}
    (h : Piece.AllSound v pieces) (fresh : Bool) :
    Lexes (Piece.textFrom fresh pieces) (Piece.lexemesFrom fresh pieces) := by
  induction pieces generalizing fresh with
  | nil => exact lexes_empty
  | cons piece rest ih =>
    obtain ⟨hp, hrest⟩ := Piece.allSound_cons.mp h
    rw [Piece.textFrom_cons]
    exact (lexes_lineText hv hp fresh).append (ih hrest _)

/-- An image is one tag. -/
theorem lexes_image {v : Vocabulary} {attributes : List Attribute}
    (h : SoundAttributes v attributes) (s : String) (title : Option String) :
    Lexes ("<" ++ "img" ++ Attribute.writtenAll (attributes ++ imageAttributes s title) ++ " />")
      [.tag (imageWords attributes s title)] :=
  lexes_tag (by decide) (soundAttributes_append.mpr ⟨h, sound_imageAttributes s title⟩)
    endsTag_slash

end FlavoredMarkdown

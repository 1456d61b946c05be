import FlavoredMarkdown.Proofs.PageText
import FlavoredMarkdown.Url.Href

/-!
# Well-nested HTML

The grammar of the pages that a rendering may give: inert text, the note for raw HTML that is left
out, void tags, elements whose two tags have one name, and one after the other. A page is written
piece by piece, so beside the grammar stands `nest`, which reads a run of pieces and keeps the
elements that are open. An image is read whole, since its tag stays open while the text that stands
for it is written.

* Raw HTML as it is written (`Piece.verbatim`) is sound only if it is inert.

Results:
* `inert_escape`, `inert_href`, `inert_int`: what is written into text and attributes is inert.
* `nest_append`: reading a run is reading its parts one after the other.
* **`wellNested_of_nest`**: sound pieces that leave no element open are written as well-nested HTML.
-/

namespace FlavoredMarkdown.Html

/-! ## Inert text -/

/-- A character that is neither an angle bracket nor a double quote. -/
def IsInert (c : Char) : Prop := c ≠ '<' ∧ c ≠ '>' ∧ c ≠ '"'

instance (c : Char) : Decidable (IsInert c) :=
  inferInstanceAs (Decidable (c ≠ '<' ∧ c ≠ '>' ∧ c ≠ '"'))

/-- Text that cannot become markup. -/
def Inert (s : String) : Prop := ∀ c ∈ s.toList, IsInert c

instance (s : String) : Decidable (Inert s) :=
  List.decidableBAll IsInert s.toList

theorem inert_empty : Inert "" := by decide

theorem inert_newline : Inert "\n" := by decide

theorem inert_append {a b : String} (ha : Inert a) (hb : Inert b) : Inert (a ++ b) := by
  intro c hc
  rw [String.toList_append] at hc
  rcases List.mem_append.mp hc with h | h
  · exact ha c h
  · exact hb c h

theorem escape_append (a b : String) : escape (a ++ b) = escape a ++ escape b := by
  simp [escape]

/-- Escaped text is inert. -/
theorem inert_escape (s : String) : Inert (escape s) := by
  intro c hc
  rw [escape, String.toList_ofList] at hc
  refine ⟨?_, ?_, ?_⟩ <;> rintro rfl <;> exact not_mem_escapeChars (by simp) _ hc

theorem isInert_of_isAlphanum {c : Char} (h : c.isAlphanum = true) : IsInert c := by
  refine ⟨?_, ?_, ?_⟩ <;> rintro rfl <;> revert h <;> decide

theorem isInert_of_isHrefSafe {c : Char} (h : Url.isHrefSafe c = true) : IsInert c := by
  have others : Inert "-_.+!*(),%#@?=;:/$~" := by decide
  unfold Url.isHrefSafe at h
  rcases Bool.or_eq_true_iff.mp h with ha | hl
  · exact isInert_of_isAlphanum ha
  · exact others c (List.contains_iff_mem.mp hl)

theorem isInert_upperHexDigit {n : Nat} (h : n < 16) : IsInert (Url.upperHexDigit n) := by
  revert n
  decide

theorem isInert_of_mem_percentByte {b : UInt8} {c : Char} (h : c ∈ Url.percentByte b) :
    IsInert c := by
  have hb : b.toNat < 256 := b.toNat_lt
  simp only [Url.percentByte, List.mem_cons, List.not_mem_nil, or_false] at h
  rcases h with rfl | rfl | rfl
  · decide
  · exact isInert_upperHexDigit (by omega)
  · exact isInert_upperHexDigit (by omega)

theorem isInert_of_mem_hrefChar {c d : Char} (h : d ∈ Url.hrefChar c) : IsInert d := by
  unfold Url.hrefChar at h
  split at h
  · next hs =>
    rw [List.mem_singleton.mp h]
    exact isInert_of_isHrefSafe hs
  · split at h
    · have hamp : Inert "&amp;" := by decide
      exact hamp d h
    · split at h
      · have hquote : Inert "&#x27;" := by decide
        exact hquote d h
      · obtain ⟨b, -, hd⟩ := List.mem_flatMap.mp h
        exact isInert_of_mem_percentByte hd

/-- A URL in an attribute is inert. -/
theorem inert_href (url : String) : Inert (Url.href url) := by
  intro c hc
  rw [Url.href, String.toList_ofList] at hc
  obtain ⟨d, -, hd⟩ := List.mem_flatMap.mp hc
  exact isInert_of_mem_hrefChar hd

theorem inert_nat (n : Nat) : Inert n.repr := by
  intro c hc
  rw [Nat.toList_repr] at hc
  have hd := Nat.isDigit_of_mem_toDigits (by decide) (by decide) hc
  exact isInert_of_isAlphanum (by simp [Char.isAlphanum, hd])

/-- A number is inert. -/
theorem inert_int (i : Int) : Inert i.repr := by
  cases i with
  | ofNat n => exact inert_nat n
  | negSucc n => exact inert_append (by decide) (inert_nat (n + 1))

/-! ## The grammar -/

/-- The names of the elements with content. -/
def elementTags : List String :=
  ["h1", "h2", "h3", "h4", "h5", "h6", "p", "pre", "code", "blockquote", "ol", "ul", "li",
    "section", "table", "thead", "tbody", "tr", "th", "td", "dl", "dt", "dd", "figure",
    "figcaption", "a", "span", "sup", "sub", "em", "strong", "del", "u"]

/-- The names of the elements without content. -/
def voidTags : List String := ["br", "hr", "img", "input"]

/-- The names of the attributes, apart from the mark of a placeholder. -/
def attributeNames : List String :=
  ["align", "alt", "aria-hidden", "aria-label", "checked", "class", "data-footnote-backref",
    "data-footnote-backref-idx", "data-footnote-ref", "data-footnotes", "data-inapplicable",
    "data-math-style", "data-meta", "data-sourcepos", "disabled", "href", "id", "lang", "src",
    "start", "title", "type"]

/-- What may be used in a page: the attribute that marks a placeholder, and images. -/
structure Vocabulary where
  marks : Bool
  images : Bool

/-- Everything may be used. -/
def Vocabulary.full : Vocabulary := ⟨true, true⟩

/-- Neither may be used. -/
def Vocabulary.basic : Vocabulary := ⟨false, false⟩

/-- Whether an attribute of this name may be used. -/
def Vocabulary.HasName (v : Vocabulary) (name : String) : Prop :=
  name ∈ attributeNames ∨ v.marks = true ∧ name = "data-placeholder"

/-- Attributes that may be used, whose values are inert where they have one. -/
def SoundAttributes (v : Vocabulary) (attributes : List Attribute) : Prop :=
  ∀ a ∈ attributes, v.HasName a.name ∧ ∀ value ∈ a.value, Inert value

section SoundAttributes

variable {v : Vocabulary}

@[simp] theorem hasName_iff {name : String} :
    v.HasName name ↔ name ∈ attributeNames ∨ v.marks = true ∧ name = "data-placeholder" := Iff.rfl

@[simp] theorem soundAttributes_nil : SoundAttributes v [] := fun _ h => nomatch h

@[simp] theorem soundAttributes_cons_none {name : String} {rest : List Attribute} :
    SoundAttributes v (⟨name, none⟩ :: rest) ↔ v.HasName name ∧ SoundAttributes v rest := by
  simp [SoundAttributes]

@[simp] theorem soundAttributes_cons_some {name value : String} {rest : List Attribute} :
    SoundAttributes v (⟨name, some value⟩ :: rest) ↔
      v.HasName name ∧ Inert value ∧ SoundAttributes v rest := by
  simp [SoundAttributes, and_assoc]

@[simp] theorem soundAttributes_append {as bs : List Attribute} :
    SoundAttributes v (as ++ bs) ↔ SoundAttributes v as ∧ SoundAttributes v bs :=
  List.forall_mem_append

/-- Without the mark of a placeholder, all names are of the one list. -/
theorem SoundAttributes.name_mem {attributes : List Attribute}
    (h : SoundAttributes .basic attributes) {a : Attribute} (ha : a ∈ attributes) :
    a.name ∈ attributeNames := by
  simpa [Vocabulary.basic] using (h a ha).1

end SoundAttributes

/-- Well-nested HTML. A void tag may or may not have a slash. -/
inductive WellNested : String → Prop
  | text {s : String} : Inert s → WellNested s
  | omission : WellNested "<!-- raw HTML omitted -->"
  | voidTag {name : String} {attributes : List Attribute} {ending : String} :
    name ∈ voidTags → SoundAttributes .full attributes → ending ∈ [">", " />"] →
    WellNested ("<" ++ name ++ Attribute.writtenAll attributes ++ ending)
  | element {name : String} {attributes : List Attribute} {inner : String} :
    name ∈ elementTags → SoundAttributes .full attributes → WellNested inner →
    WellNested ("<" ++ name ++ Attribute.writtenAll attributes ++ ">" ++ inner ++
      "</" ++ name ++ ">")
  | append {a b : String} : WellNested a → WellNested b → WellNested (a ++ b)

/-- HTML that closes the open elements, the innermost first. -/
def Closes : (opened : List String) → String → Prop
  | [], s => WellNested s
  | name :: opened, s =>
    ∃ inner rest, WellNested inner ∧ Closes opened rest ∧ s = inner ++ ("</" ++ name ++ ">" ++ rest)

theorem closes_append {a s : String} {opened : List String} (ha : WellNested a)
    (hs : Closes opened s) : Closes opened (a ++ s) := by
  cases opened with
  | nil => exact .append ha hs
  | cons name opened =>
    obtain ⟨inner, rest, hi, hr, rfl⟩ := hs
    exact ⟨a ++ inner, rest, .append ha hi, hr, (String.append_assoc ..).symm⟩

theorem closes_close {name s : String} {opened : List String} (hs : Closes opened s) :
    Closes (name :: opened) ("</" ++ name ++ ">" ++ s) :=
  ⟨"", s, .text inert_empty, hs, by simp⟩

theorem closes_open {name s : String} {attributes : List Attribute} {opened : List String}
    (hn : name ∈ elementTags) (ha : SoundAttributes .full attributes)
    (hs : Closes (name :: opened) s) :
    Closes opened ("<" ++ name ++ Attribute.writtenAll attributes ++ ">" ++ s) := by
  obtain ⟨inner, rest, hi, hr, rfl⟩ := hs
  have h := closes_append (.element hn ha hi) hr
  simpa only [String.append_assoc] using h

end FlavoredMarkdown.Html

namespace FlavoredMarkdown

open Html

/-! ## Pieces -/

/-- Whether a piece can stand in well-nested HTML, for its own part. -/
def Piece.Sound (v : Vocabulary) : Piece → Prop
  | .verbatim html => Inert html
  | .openTag name attributes => name ∈ elementTags ++ voidTags ∧ SoundAttributes v attributes
  | .voidTag name attributes => name ∈ voidTags ∧ SoundAttributes v attributes
  | .closeTag name => name ∈ elementTags
  | .openImage attributes => v.images = true ∧ SoundAttributes v attributes
  | .closeImage _ => v.images = true
  | _ => True

/-- Whether all pieces of a run are sound. -/
def Piece.AllSound (v : Vocabulary) (pieces : List Piece) : Prop := ∀ p ∈ pieces, p.Sound v

@[simp] theorem Piece.allSound_nil {v : Vocabulary} : AllSound v [] := fun _ h => nomatch h

@[simp] theorem Piece.allSound_cons {v : Vocabulary} {p : Piece} {rest : List Piece} :
    AllSound v (p :: rest) ↔ p.Sound v ∧ AllSound v rest := List.forall_mem_cons

@[simp] theorem Piece.allSound_append {v : Vocabulary} {as bs : List Piece} :
    AllSound v (as ++ bs) ↔ AllSound v as ∧ AllSound v bs := List.forall_mem_append

/-- Reads pieces inside open elements, the innermost first, and gives the elements that are then
open. There are none if a tag closes another element than the innermost. -/
def nest : (opened : List String) → List Piece → Option (List String)
  | opened, [] => some opened
  | opened, .openTag name _ :: rest =>
    nest (if name ∈ voidTags then opened else name :: opened) rest
  | name :: opened, .closeTag name' :: rest => if name = name' then nest opened rest else none
  | [], .closeTag _ :: _ => none
  | opened, .openImage _ :: .text _ :: .closeImage _ :: rest => nest opened rest
  | _, .openImage _ :: _ => none
  | _, .closeImage _ :: _ => none
  | opened, _ :: rest => nest opened rest

theorem nest_append {opened opened' : List String} {as : List Piece}
    (h : nest opened as = some opened') (bs : List Piece) :
    nest opened (as ++ bs) = nest opened' bs := by
  fun_induction nest opened as <;> simp_all [nest]

section Nest

variable (opened : List String) (rest : List Piece)

@[simp] theorem nest_nil : nest opened [] = some opened := by
  cases opened <;> rfl

@[simp] theorem nest_freshLine : nest opened (.freshLine :: rest) = nest opened rest := by
  cases opened <;> rfl

@[simp] theorem nest_newline : nest opened (.newline :: rest) = nest opened rest := by
  cases opened <;> rfl

@[simp] theorem nest_text (s : String) : nest opened (.text s :: rest) = nest opened rest := by
  cases opened <;> rfl

@[simp] theorem nest_verbatim (html : String) :
    nest opened (.verbatim html :: rest) = nest opened rest := by
  cases opened <;> rfl

@[simp] theorem nest_voidTag (name : String) (attributes : List Attribute) :
    nest opened (.voidTag name attributes :: rest) = nest opened rest := by
  cases opened <;> rfl

@[simp] theorem nest_omission : nest opened (.omission :: rest) = nest opened rest := by
  cases opened <;> rfl

@[simp] theorem nest_openTag (name : String) (attributes : List Attribute) :
    nest opened (.openTag name attributes :: rest) =
      nest (if name ∈ voidTags then opened else name :: opened) rest := by
  cases opened <;> rfl

@[simp] theorem nest_closeTag (name : String) :
    nest (name :: opened) (.closeTag name :: rest) = nest opened rest := if_pos rfl

@[simp] theorem nest_image (attributes : List Attribute) (s : String) (title : Option String) :
    nest opened (.openImage attributes :: .text s :: .closeImage title :: rest) =
      nest opened rest := by
  cases opened <;> rfl

end Nest

/-- The attributes that an image has behind those of its opening piece. -/
def imageAttributes (s : String) : (title : Option String) → List Attribute
  | none => [⟨"alt", some (escape s)⟩]
  | some title => [⟨"alt", some (escape s)⟩, ⟨"title", some (escape title)⟩]

theorem sound_imageAttributes {v : Vocabulary} (s : String) (title : Option String) :
    SoundAttributes v (imageAttributes s title) := by
  cases title <;> simp +decide [imageAttributes, inert_escape]

/-- The two pieces of an image and the text that stands for it make one void tag. -/
theorem written_image (attributes : List Attribute) (s : String) (title : Option String) :
    (Piece.openImage attributes).written ++ (Piece.text s).written ++
        (Piece.closeImage title).written =
      "<" ++ "img" ++ Attribute.writtenAll (attributes ++ imageAttributes s title) ++ " />" := by
  rw [← String.toList_inj]
  cases title <;>
    simp [Piece.written, imageAttributes, Attribute.writtenAll, Attribute.written]

theorem textFrom_image (fresh : Bool) (attributes : List Attribute) (s : String)
    (title : Option String) :
    Piece.textFrom fresh [.openImage attributes, .text s, .closeImage title] =
      "<" ++ "img" ++ Attribute.writtenAll (attributes ++ imageAttributes s title) ++ " />" := by
  rw [← written_image, Piece.textFrom_cons, Piece.textFrom_cons, Piece.textFrom_cons,
    Piece.textFrom_nil, String.append_empty, String.append_assoc]
  rfl

/-- **Sound pieces that leave no element open** are written as well-nested HTML. -/
theorem closes_of_nest {opened : List String} {pieces : List Piece} (fresh : Bool)
    (h : nest opened pieces = some []) (hs : Piece.AllSound .full pieces) :
    Closes opened (Piece.textFrom fresh pieces) := by
  fun_induction nest opened pieces generalizing fresh with
  | case1 opened =>
    cases h
    exact .text inert_empty
  | case2 opened name attributes rest ih =>
    obtain ⟨hp, hrest⟩ := Piece.allSound_cons.mp hs
    rw [Piece.textFrom_cons]
    have hc := ih ((Piece.openTag name attributes).lineAfter fresh) h hrest
    by_cases hv : name ∈ voidTags
    · rw [if_pos hv] at hc
      exact closes_append (.voidTag hv hp.2 (by decide)) hc
    · rw [if_neg hv] at hc
      have hn : name ∈ elementTags := (List.mem_append.mp hp.1).resolve_right hv
      exact closes_open hn hp.2 hc
  | case3 opened name rest ih =>
    exact closes_close (ih _ h (Piece.allSound_cons.mp hs).2)
  | case6 opened attributes s title rest ih =>
    obtain ⟨hp, hrest⟩ := Piece.allSound_cons.mp hs
    rw [Piece.textFrom_cons, Piece.textFrom_cons, Piece.textFrom_cons, ← String.append_assoc,
      ← String.append_assoc]
    have himage : WellNested ("<" ++ "img" ++
        Attribute.writtenAll (attributes ++ imageAttributes s title) ++ " />") :=
      .voidTag (by decide) (soundAttributes_append.mpr ⟨hp.2, sound_imageAttributes s title⟩)
        (by decide)
    rw [← written_image] at himage
    exact closes_append himage (ih _ h fun p hm => hrest p (by simp [hm]))
  | case9 opened piece rest h1 h2 h3 h4 h5 h6 ih =>
    obtain ⟨hp, hrest⟩ := Piece.allSound_cons.mp hs
    rw [Piece.textFrom_cons]
    refine closes_append ?_ (ih _ h hrest)
    cases piece with
    | freshLine =>
      cases fresh with
      | true => exact .text inert_empty
      | false => exact .text inert_newline
    | newline => exact .text inert_newline
    | text s => exact .text (inert_escape s)
    | verbatim html => exact .text hp
    | voidTag name attributes => exact .voidTag hp.1 hp.2 (by decide)
    | omission => exact .omission
    | openTag name attributes => exact (h1 _ _ rfl).elim
    | closeTag name =>
      cases opened with
      | nil => exact (h3 _ rfl rfl).elim
      | cons outer opened => exact (h2 _ _ _ rfl rfl).elim
    | openImage attributes => exact (h5 _ rfl).elim
    | closeImage title => exact (h6 _ rfl).elim
  | _ => cases h

/-- **A page of sound pieces that leave no element open** is well-nested. -/
theorem wellNested_of_nest {pieces : List Piece} (h : nest [] pieces = some [])
    (hs : Piece.AllSound .full pieces) : WellNested (Page.empty.addAll pieces).html := by
  rw [Page.html_addAll]
  have hc : WellNested (Piece.textFrom true pieces) := closes_of_nest true h hs
  simpa [Page.empty] using hc

end FlavoredMarkdown

import FlavoredMarkdown.Proofs.Grammar

/-!
# Taking the marks off a page

`unmark` reads a page from the left and takes away what marks placeholders: the tags of a marked
span, with the first closing tag behind its opening tag, and the attribute `data-placeholder` where
it ends a tag or stands before the text of an image. The attribute is looked for behind a double
quote.

* The value of an attribute may look like a mark itself: a title can be ` data-placeholder alt=`. So
  it counts which quote is read. `anywhere` looks behind every quote; otherwise only a quote that
  closes a value is looked behind.

Results:
* `reads_span`, `reads_marked`: the tags of a marked span and the mark of a tag are taken away.
* **`reads_lineText`**: what a sound piece without marks writes is read as it is written.
-/

namespace FlavoredMarkdown

open Html

namespace Unmark

/-- The tag that opens a marked span. -/
def opening : List Char := '<' :: "span data-placeholder>".toList

/-- The tag that closes a span. -/
def closing : List Char := '<' :: "/span>".toList

/-- The attribute of a marked tag, as it is written. -/
def attr : List Char := ' ' :: "data-placeholder".toList

/-- Whether a quote is followed by a mark. -/
def follows (cs : List Char) : Bool :=
  (attr ++ ['>']).isPrefixOf cs || (attr ++ " alt=\"".toList).isPrefixOf cs

/-- Reads a page on. The next `skip` characters belong to a mark; `quoted` says whether an odd
number of quotes was read, and `inMark` whether a marked span is open. -/
def readFrom (anywhere : Bool) : (skip : Nat) → (quoted inMark : Bool) → List Char → List Char
  | _, _, _, [] => []
  | skip + 1, quoted, inMark, _ :: rest => readFrom anywhere skip quoted inMark rest
  | 0, quoted, inMark, c :: rest =>
    if opening.isPrefixOf (c :: rest) then
      readFrom anywhere (opening.length - 1) quoted true rest
    else if inMark && closing.isPrefixOf (c :: rest) then
      readFrom anywhere (closing.length - 1) quoted false rest
    else if c = '"' then
      c :: readFrom anywhere (if (quoted || anywhere) && follows rest then attr.length else 0)
        (!quoted) inMark rest
    else c :: readFrom anywhere 0 quoted inMark rest

end Unmark

/-- The page without the marks of placeholders. -/
def unmark (anywhere : Bool) (html : String) : String :=
  String.ofList (Unmark.readFrom anywhere 0 false false html.toList)

namespace Unmark

/-! ## Single characters -/

theorem opening_isPrefixOf_cons {c : Char} (h : c ≠ '<') (rest : List Char) :
    opening.isPrefixOf (c :: rest) = false := by
  rw [opening, List.isPrefixOf_cons_cons, beq_eq_false_iff_ne.mpr h.symm, Bool.false_and]

theorem closing_isPrefixOf_cons {c : Char} (h : c ≠ '<') (rest : List Char) :
    closing.isPrefixOf (c :: rest) = false := by
  rw [closing, List.isPrefixOf_cons_cons, beq_eq_false_iff_ne.mpr h.symm, Bool.false_and]

section Characters

variable (quoted inMark : Bool)

theorem readFrom_skip (anywhere : Bool) (skip : Nat) (cs : List Char) :
    readFrom anywhere skip quoted inMark cs = readFrom anywhere 0 quoted inMark (cs.drop skip) := by
  induction cs generalizing skip with
  | nil => simp [readFrom]
  | cons c rest ih =>
    cases skip with
    | zero => rfl
    | succ skip => rw [readFrom, ih, List.drop_succ_cons]

/-- A character that begins no mark. -/
theorem readFrom_plain {c : Char} (hl : c ≠ '<') (hq : c ≠ '"') (rest : List Char) :
    readFrom false 0 quoted inMark (c :: rest) = c :: readFrom false 0 quoted inMark rest := by
  rw [readFrom, opening_isPrefixOf_cons hl, closing_isPrefixOf_cons hl]
  simp [hq]

theorem readFrom_inert {cs : List Char} (h : ∀ c ∈ cs, IsInert c) (rest : List Char) :
    readFrom false 0 quoted inMark (cs ++ rest) = cs ++ readFrom false 0 quoted inMark rest := by
  induction cs with
  | nil => rfl
  | cons c cs ih =>
    obtain ⟨⟨hl, -, hq⟩, hcs⟩ := List.forall_mem_cons.mp h
    rw [List.cons_append, readFrom_plain quoted inMark hl hq, ih hcs, List.cons_append]

/-- A quote that opens a value is never behind a value. -/
theorem readFrom_quote_open (rest : List Char) :
    readFrom false 0 false inMark ('"' :: rest) = '"' :: readFrom false 0 true inMark rest := by
  rw [readFrom, opening_isPrefixOf_cons (by decide), closing_isPrefixOf_cons (by decide)]
  simp

/-- A quote that closes a value goes together with the mark behind it, if there is one. -/
theorem readFrom_quote_close (rest : List Char) :
    readFrom false 0 true inMark ('"' :: rest) =
      '"' :: readFrom false 0 false inMark
        (rest.drop (if follows rest then attr.length else 0)) := by
  rw [readFrom, opening_isPrefixOf_cons (by decide), closing_isPrefixOf_cons (by decide),
    ← readFrom_skip]
  simp

end Characters

/-! ## Names -/

/-- The characters of names. -/
def isNameChar (c : Char) : Bool := c.isAlphanum || c == '-'

/-- Text in which every character is one of names. -/
def IsName (cs : List Char) : Prop := ∀ c ∈ cs, isNameChar c = true

instance (cs : List Char) : Decidable (IsName cs) := List.decidableBAll _ cs

/-- Text that a name cannot go on with. -/
def Breaks (cs : List Char) : Prop := ∀ c ∈ cs.head?, isNameChar c = false

theorem breaks_cons {c : Char} {rest : List Char} (h : isNameChar c = false) :
    Breaks (c :: rest) := by
  intro d hd
  rw [← Option.some.inj hd]
  exact h

theorem isName_tag {name : String} (h : name ∈ elementTags ++ voidTags) : IsName name.toList := by
  revert name
  decide

theorem isName_attribute {name : String} (h : name ∈ attributeNames) : IsName name.toList := by
  revert name
  decide

theorem isInert_of_isNameChar {c : Char} (h : isNameChar c = true) : IsInert c := by
  rcases Bool.or_eq_true_iff.mp h with ha | hd
  · exact isInert_of_isAlphanum ha
  · rw [eq_of_beq hd]
    decide

theorem takeWhile_name {n tail : List Char} (hn : IsName n) (ht : Breaks tail) :
    (n ++ tail).takeWhile isNameChar = n := by
  rw [List.takeWhile_append_of_pos hn]
  cases tail with
  | nil => simp
  | cons c rest => rw [List.takeWhile_cons_of_neg (by simp [ht c rfl]), List.append_nil]

/-- Two names with the same text behind are one, as the text shows where they end. -/
theorem name_append_inj {n n' tail tail' : List Char} (hn : IsName n) (hn' : IsName n')
    (ht : Breaks tail) (ht' : Breaks tail') (h : n ++ tail = n' ++ tail') :
    n = n' ∧ tail = tail' := by
  have e : n = n' := by rw [← takeWhile_name hn ht, h, takeWhile_name hn' ht']
  subst e
  exact ⟨rfl, List.append_cancel_left h⟩

/-- A mark begins with a blank and the name `data-placeholder`. -/
theorem eq_of_follows {cs : List Char} (h : follows cs = true) :
    ∃ tail, Breaks tail ∧ cs = ' ' :: ("data-placeholder".toList ++ tail) := by
  unfold follows at h
  rcases Bool.or_eq_true_iff.mp h with h | h
  · obtain ⟨rest, rfl⟩ := List.isPrefixOf_iff_prefix.mp h
    exact ⟨'>' :: rest, breaks_cons (by decide), by simp [attr]⟩
  · obtain ⟨rest, rfl⟩ := List.isPrefixOf_iff_prefix.mp h
    exact ⟨" alt=\"".toList ++ rest, breaks_cons (by decide), by simp [attr]⟩

theorem follows_of_head {c : Char} (h : c ≠ ' ') (rest : List Char) :
    follows (c :: rest) = false := by
  rw [Bool.eq_false_iff]
  intro hf
  obtain ⟨tail, -, ht⟩ := eq_of_follows hf
  exact h (List.cons.inj ht).1

/-- A blank and another name are no mark. -/
theorem follows_name {name : String} (h : name ∈ attributeNames) {tail : List Char}
    (ht : Breaks tail) : follows (' ' :: (name.toList ++ tail)) = false := by
  rw [Bool.eq_false_iff]
  intro hf
  obtain ⟨tail', ht', he⟩ := eq_of_follows hf
  have hn := (name_append_inj (isName_attribute h) (by decide) ht ht' (List.cons.inj he).2).1
  rw [String.toList_inj] at hn
  subst hn
  revert h
  decide

/-! ## Attributes -/

theorem toList_written_none (name : String) :
    (Attribute.written ⟨name, none⟩).toList = ' ' :: name.toList := by
  simp [Attribute.written]

theorem toList_written_some (name value : String) :
    (Attribute.written ⟨name, some value⟩).toList =
      ' ' :: (name.toList ++ '=' :: '"' :: (value.toList ++ ['"'])) := by
  simp [Attribute.written]

@[simp] theorem writtenAll_nil : Attribute.writtenAll [] = "" := rfl

theorem toList_writtenAll_cons (a : Attribute) (rest : List Attribute) :
    (Attribute.writtenAll (a :: rest)).toList =
      a.written.toList ++ (Attribute.writtenAll rest).toList := by
  simp [Attribute.writtenAll]

theorem toList_writtenAll_append (as bs : List Attribute) :
    (Attribute.writtenAll (as ++ bs)).toList =
      (Attribute.writtenAll as).toList ++ (Attribute.writtenAll bs).toList := by
  simp [Attribute.writtenAll]

theorem breaks_writtenAll (attributes : List Attribute) {tail : List Char} (ht : Breaks tail) :
    Breaks ((Attribute.writtenAll attributes).toList ++ tail) := by
  cases attributes with
  | nil => simpa using ht
  | cons a rest =>
    obtain ⟨name, value⟩ := a
    rw [toList_writtenAll_cons]
    cases value with
    | none =>
      rw [toList_written_none]
      exact breaks_cons (by decide)
    | some value =>
      rw [toList_written_some]
      exact breaks_cons (by decide)

theorem follows_written_some {name : String} (hn : name ∈ attributeNames) (value : String)
    (rest : List Char) :
    follows ((Attribute.written ⟨name, some value⟩).toList ++ rest) = false := by
  rw [toList_written_some, List.cons_append, List.append_assoc]
  exact follows_name hn (breaks_cons (by decide))

/-- Attributes without a mark do not look like one. -/
theorem follows_writtenAll {attributes : List Attribute} (h : SoundAttributes .basic attributes)
    {tail : List Char} (ht : Breaks tail) (hf : follows tail = false) :
    follows ((Attribute.writtenAll attributes).toList ++ tail) = false := by
  cases attributes with
  | nil => simpa using hf
  | cons a rest =>
    obtain ⟨name, value⟩ := a
    have hn : name ∈ attributeNames := h.name_mem List.mem_cons_self
    rw [toList_writtenAll_cons]
    cases value with
    | none =>
      rw [toList_written_none, List.cons_append, List.cons_append, List.append_assoc]
      exact follows_name hn (breaks_writtenAll rest ht)
    | some value =>
      rw [List.append_assoc]
      exact follows_written_some hn value _

theorem readFrom_name {name : String} (h : name ∈ attributeNames) (rest : List Char) :
    readFrom false 0 false false (' ' :: (name.toList ++ rest)) =
      ' ' :: (name.toList ++ readFrom false 0 false false rest) := by
  rw [readFrom_plain _ _ (by decide) (by decide),
    readFrom_inert _ _ fun c hc => isInert_of_isNameChar (isName_attribute h c hc)]

/-- An attribute with a value, and a mark behind it if there is one. -/
theorem readFrom_value {name value : String} (hn : name ∈ attributeNames) (hv : Inert value)
    (rest : List Char) :
    readFrom false 0 false false ((Attribute.written ⟨name, some value⟩).toList ++ rest) =
      (Attribute.written ⟨name, some value⟩).toList ++
        readFrom false 0 false false (rest.drop (if follows rest then attr.length else 0)) := by
  rw [toList_written_some]
  simp only [List.cons_append, List.append_assoc, List.nil_append]
  rw [readFrom_name hn, readFrom_plain _ _ (by decide) (by decide), readFrom_quote_open,
    readFrom_inert _ _ hv, readFrom_quote_close]

/-- Attributes without a mark are read as they are written. -/
theorem readFrom_writtenAll {attributes : List Attribute} (h : SoundAttributes .basic attributes)
    {tail : List Char} (ht : Breaks tail) (hf : follows tail = false) :
    readFrom false 0 false false ((Attribute.writtenAll attributes).toList ++ tail) =
      (Attribute.writtenAll attributes).toList ++ readFrom false 0 false false tail := by
  induction attributes with
  | nil => simp
  | cons a rest ih =>
    obtain ⟨⟨-, hv⟩, hrest⟩ := List.forall_mem_cons.mp h
    obtain ⟨name, value⟩ := a
    have hn : name ∈ attributeNames := h.name_mem List.mem_cons_self
    rw [toList_writtenAll_cons, List.append_assoc, List.append_assoc, ← ih hrest]
    cases value with
    | none =>
      rw [toList_written_none, List.cons_append, readFrom_name hn]
      rfl
    | some value =>
      rw [readFrom_value hn (hv value rfl), follows_writtenAll hrest ht hf]
      rfl

/-- The mark behind an attribute with a value is taken away. -/
theorem readFrom_marked {attributes : List Attribute} (h : SoundAttributes .basic attributes)
    {name value : String} (hn : name ∈ attributeNames) (hv : Inert value) {tail : List Char}
    (hf : follows (attr ++ tail) = true) :
    readFrom false 0 false false
        ((Attribute.writtenAll
          (attributes ++ [⟨name, some value⟩, ⟨"data-placeholder", none⟩])).toList ++ tail) =
      (Attribute.writtenAll (attributes ++ [⟨name, some value⟩])).toList ++
        readFrom false 0 false false tail := by
  have hmark : (Attribute.writtenAll [⟨"data-placeholder", none⟩]).toList = attr := by decide
  rw [toList_writtenAll_append, toList_writtenAll_append, toList_writtenAll_cons, hmark,
    List.append_assoc, List.append_assoc, List.append_assoc]
  rw [readFrom_writtenAll h ?_ (follows_written_some hn value _), readFrom_value hn hv, hf,
    if_pos rfl, List.drop_left]
  · simp [Attribute.writtenAll]
  · rw [toList_written_some]
    exact breaks_cons (by decide)

/-! ## Tags -/

theorem readFrom_angle {rest : List Char} (h : opening.isPrefixOf ('<' :: rest) = false) :
    readFrom false 0 false false ('<' :: rest) = '<' :: readFrom false 0 false false rest := by
  rw [readFrom, h]
  simp

/-- A tag without a mark begins no marked span. -/
theorem readFrom_openTag {name : String} (hname : name ∈ elementTags ++ voidTags)
    {rest : List Char} (hb : Breaks rest) (hs : name = "span" → follows rest = false) :
    readFrom false 0 false false ('<' :: (name.toList ++ rest)) =
      '<' :: (name.toList ++ readFrom false 0 false false rest) := by
  have hchars := isName_tag hname
  have ho : opening.isPrefixOf ('<' :: (name.toList ++ rest)) = false := by
    rw [Bool.eq_false_iff]
    intro h
    obtain ⟨tail, ht⟩ := List.isPrefixOf_iff_prefix.mp h
    have he : name.toList ++ rest = "span".toList ++ (attr ++ '>' :: tail) :=
      (List.cons.inj ht).2.symm
    obtain ⟨hn, (hr : rest = attr ++ '>' :: tail)⟩ :=
      name_append_inj hchars (by decide) hb (breaks_cons (by decide)) he
    have hf := hs (String.toList_inj.mp hn)
    have htrue : follows (attr ++ '>' :: tail) = true := by simp [follows, attr]
    rw [hr, htrue] at hf
    cases hf
  rw [readFrom_angle ho, readFrom_inert _ _ fun c hc => isInert_of_isNameChar (hchars c hc)]

/-- The end of a tag. -/
theorem readFrom_ending {ending : String} (h : ending ∈ [">", " />"]) (rest : List Char) :
    Breaks (ending.toList ++ rest) ∧ follows (ending.toList ++ rest) = false ∧
      readFrom false 0 false false (ending.toList ++ rest) =
        ending.toList ++ readFrom false 0 false false rest := by
  simp only [List.mem_cons, List.not_mem_nil, or_false] at h
  rcases h with rfl | rfl
  · refine ⟨breaks_cons (by decide), follows_of_head (by decide) _, ?_⟩
    exact readFrom_plain false false (by decide) (by decide) rest
  · refine ⟨breaks_cons (by decide), rfl, ?_⟩
    have hplain : Inert " /" := by decide
    have h := readFrom_inert false false hplain ('>' :: rest)
    rw [readFrom_plain false false (by decide) (by decide)] at h
    exact h

end Unmark

/-! ## Pieces -/

/-- Read as part of a page, the text `a` becomes `b`. -/
def Reads (a b : String) : Prop :=
  ∀ rest, Unmark.readFrom false 0 false false (a.toList ++ rest) =
    b.toList ++ Unmark.readFrom false 0 false false rest

theorem Reads.append {a b a' b' : String} (h : Reads a b) (h' : Reads a' b') :
    Reads (a ++ a') (b ++ b') := by
  intro rest
  rw [String.toList_append, String.toList_append, List.append_assoc, h, h', List.append_assoc]

theorem reads_inert {s : String} (h : Inert s) : Reads s s := fun rest =>
  Unmark.readFrom_inert false false h rest

/-- A page is read as its text is. -/
theorem unmark_eq {a b : String} (h : Reads a b) : unmark false a = b := by
  have he := h []
  rw [List.append_nil] at he
  rw [unmark, he, ← String.toList_inj]
  simp [Unmark.readFrom]

theorem reads_tag {name ending : String} {attributes : List Attribute}
    (hname : name ∈ elementTags ++ voidTags) (h : SoundAttributes .basic attributes)
    (he : ending ∈ [">", " />"]) :
    Reads ("<" ++ name ++ Attribute.writtenAll attributes ++ ending)
      ("<" ++ name ++ Attribute.writtenAll attributes ++ ending) := by
  intro rest
  obtain ⟨hb, hf, hr⟩ := Unmark.readFrom_ending he rest
  have hf' := Unmark.follows_writtenAll h hb hf
  have ht : ("<" ++ name ++ Attribute.writtenAll attributes ++ ending).toList ++ rest =
      '<' :: (name.toList ++
        ((Attribute.writtenAll attributes).toList ++ (ending.toList ++ rest))) := by
    simp
  rw [ht, Unmark.readFrom_openTag hname (Unmark.breaks_writtenAll _ hb) fun _ => hf',
    Unmark.readFrom_writtenAll h hb hf, hr]
  simp

/-- A marked tag: the mark stands behind a value, at the end of the tag or before the text of an
image. -/
theorem reads_marked (tag name ending : String) {value : String} {before after : List Attribute}
    (htag : tag ∈ elementTags ++ voidTags) (hspan : tag ≠ "span")
    (hbefore : SoundAttributes .basic before) (hn : name ∈ attributeNames) (hv : Inert value)
    (hafter : SoundAttributes .basic after) (he : ending ∈ [">", " />"])
    (hf : ∀ rest, Unmark.follows (Unmark.attr ++
      ((Attribute.writtenAll after).toList ++ (ending.toList ++ rest))) = true) :
    Reads
      ("<" ++ tag ++ Attribute.writtenAll
        (before ++ [⟨name, some value⟩, ⟨"data-placeholder", none⟩] ++ after) ++ ending)
      ("<" ++ tag ++ Attribute.writtenAll (before ++ [⟨name, some value⟩] ++ after) ++ ending) := by
  intro rest
  obtain ⟨hb, hfe, hr⟩ := Unmark.readFrom_ending he rest
  have ht : ("<" ++ tag ++ Attribute.writtenAll
        (before ++ [⟨name, some value⟩, ⟨"data-placeholder", none⟩] ++ after) ++ ending).toList ++
        rest =
      '<' :: (tag.toList ++ ((Attribute.writtenAll
        (before ++ [⟨name, some value⟩, ⟨"data-placeholder", none⟩])).toList ++
          ((Attribute.writtenAll after).toList ++ (ending.toList ++ rest)))) := by
    simp only [String.toList_append, Unmark.toList_writtenAll_append, List.append_assoc]
    rfl
  rw [ht, Unmark.readFrom_openTag htag ?_ fun h => (hspan h).elim,
    Unmark.readFrom_marked hbefore hn hv (hf rest), Unmark.readFrom_writtenAll hafter hb hfe, hr]
  · simp only [String.toList_append, Unmark.toList_writtenAll_append, List.append_assoc]
    rfl
  · exact Unmark.breaks_writtenAll _ (Unmark.breaks_writtenAll _ hb)

/-- The tags of a marked span are taken away, and what is between them is kept. -/
theorem reads_span {s : String} (h : Inert s) :
    Reads ("<span data-placeholder>" ++ s ++ "</span>") s := by
  intro rest
  have ht : ("<span data-placeholder>" ++ s ++ "</span>").toList ++ rest =
      '<' :: ("span data-placeholder>".toList ++ (s.toList ++ (Unmark.closing ++ rest))) := by
    simp [Unmark.closing]
  have ho (tail : List Char) :
      Unmark.opening.isPrefixOf ('<' :: ("span data-placeholder>".toList ++ tail)) = true :=
    List.isPrefixOf_iff_prefix.mpr ⟨tail, rfl⟩
  have hc : Unmark.readFrom false 0 false true (Unmark.closing ++ rest) =
      Unmark.readFrom false 0 false false rest := by
    have hp : Unmark.closing.isPrefixOf ('<' :: ("/span>".toList ++ rest)) = true :=
      List.isPrefixOf_iff_prefix.mpr ⟨rest, rfl⟩
    have hn : Unmark.opening.isPrefixOf ('<' :: ("/span>".toList ++ rest)) = false := rfl
    rw [show Unmark.closing ++ rest = '<' :: ("/span>".toList ++ rest) from rfl, Unmark.readFrom,
      hn, hp]
    exact Unmark.readFrom_skip ..
  rw [ht, Unmark.readFrom, ho, if_pos rfl, Unmark.readFrom_skip]
  exact (Unmark.readFrom_inert false true h _).trans (by rw [hc])

theorem reads_closeTag {name : String} (h : name ∈ elementTags) :
    Reads ("</" ++ name ++ ">") ("</" ++ name ++ ">") := by
  have hinert : Inert ("/" ++ name) := inert_append (by decide) fun c hc =>
    Unmark.isInert_of_isNameChar (Unmark.isName_tag (List.mem_append_left _ h) c hc)
  intro rest
  have ht : ("</" ++ name ++ ">").toList ++ rest =
      '<' :: (("/" ++ name).toList ++ '>' :: rest) := by
    simp
  rw [ht, Unmark.readFrom_angle (by rw [String.toList_append]; rfl),
    Unmark.readFrom_inert false false hinert, Unmark.readFrom_plain _ _ (by decide) (by decide)]
  simp

theorem reads_omission : Reads Piece.omission.written Piece.omission.written := by
  have hinert : Inert "!-- raw HTML omitted --" := by decide
  intro rest
  have ht : Piece.omission.written.toList ++ rest =
      '<' :: ("!-- raw HTML omitted --".toList ++ '>' :: rest) := rfl
  rw [ht, Unmark.readFrom_angle rfl, Unmark.readFrom_inert false false hinert,
    Unmark.readFrom_plain _ _ (by decide) (by decide)]
  rfl

/-- What a sound piece without marks writes is read as it is written. -/
theorem reads_lineText {piece : Piece} (h : piece.Sound .basic) (fresh : Bool) :
    Reads (piece.lineText fresh) (piece.lineText fresh) := by
  cases piece with
  | freshLine =>
    cases fresh with
    | true => exact reads_inert inert_empty
    | false => exact reads_inert inert_newline
  | newline => exact reads_inert inert_newline
  | text s => exact reads_inert (inert_escape s)
  | verbatim html => exact reads_inert h
  | openTag name attributes => exact reads_tag h.1 h.2 (by decide)
  | voidTag name attributes => exact reads_tag (List.mem_append_right _ h.1) h.2 (by decide)
  | closeTag name => exact reads_closeTag h
  | omission => exact reads_omission
  | openImage attributes => exact nomatch h.1
  | closeImage title => exact nomatch h

end FlavoredMarkdown

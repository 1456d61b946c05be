import FlavoredMarkdown.Proofs.Lexemes

/-!
# How often a tag stands in a page

A tag is looked for in the text of a page, at every place. In what sound pieces write, a `<` only
begins a tag, and the next `>` ends it. So a tag is found where a piece writes it, and nowhere across
pieces or within attributes and text.

* An image is written in several pieces, none of which writes a whole tag. It is told from the tag
  that is looked for by its first letter.

Results:
* `occurrencesIn_tag`: in front of a text, a tag is found if it is the one that is written there.
* `occurrences_append_le`, `occurrences_append_le_front`: a text is found at most as often as its end
  is, and as its beginning is.
* **`Piece.occurrences_textFrom`**: a tag stands in a page as often as pieces write it.
-/

namespace FlavoredMarkdown

namespace Html

/-- At how many places of a text another one stands. -/
def occurrencesIn (pattern : List Char) : List Char → Nat
  | [] => if pattern = [] then 1 else 0
  | c :: rest => (if pattern <+: c :: rest then 1 else 0) + occurrencesIn pattern rest

/-- How often a text stands in another one. -/
def occurrences (pattern s : String) : Nat := occurrencesIn pattern.toList s.toList

/-- Behind its first character, a text is found at least as often. -/
theorem occurrencesIn_cons_le (a : Char) (pattern : List Char) (c : Char) (rest : List Char) :
    occurrencesIn (a :: pattern) (c :: rest) ≤ occurrencesIn pattern rest := by
  induction rest generalizing c with
  | nil =>
    rw [occurrencesIn, occurrencesIn, occurrencesIn, if_neg (List.cons_ne_nil a pattern)]
    by_cases hp : a :: pattern <+: [c]
    · have hnil : pattern = [] := List.prefix_nil.mp (List.cons_prefix_cons.mp hp).2
      exact Nat.le_of_eq (by rw [if_pos hp, if_pos hnil])
    · rw [if_neg hp]
      exact Nat.zero_le _
  | cons d rest ih =>
    have hrest := ih d
    rw [occurrencesIn]
    conv => rhs; rw [occurrencesIn]
    by_cases hp : a :: pattern <+: c :: d :: rest
    · have htail : pattern <+: d :: rest := (List.cons_prefix_cons.mp hp).2
      rw [if_pos hp, if_pos htail]
      omega
    · rw [if_neg hp]
      omega

/-- A text is found at most as often as its end is. -/
theorem occurrences_append_le (front pattern s : String) :
    occurrences (front ++ pattern) s ≤ occurrences pattern s := by
  have hone (a : Char) (pattern : List Char) (cs : List Char) :
      occurrencesIn (a :: pattern) cs ≤ occurrencesIn pattern cs := by
    cases cs with
    | nil => exact Nat.zero_le _
    | cons c rest =>
      have hle := occurrencesIn_cons_le a pattern c rest
      conv => rhs; rw [occurrencesIn]
      omega
  unfold occurrences
  rw [String.toList_append]
  generalize pattern.toList = pattern
  induction front.toList with
  | nil => exact Nat.le_refl _
  | cons a front ih => exact Nat.le_trans (hone a _ _) ih

/-- A text is found at most as often as its beginning is. -/
theorem occurrences_append_le_front (pattern more s : String) :
    occurrences (pattern ++ more) s ≤ occurrences pattern s := by
  unfold occurrences
  rw [String.toList_append]
  generalize pattern.toList = pattern
  generalize more.toList = more
  induction s.toList with
  | nil =>
    rw [occurrencesIn, occurrencesIn]
    by_cases hp : pattern ++ more = []
    · have hfront : pattern = [] := (List.append_eq_nil_iff.mp hp).1
      exact Nat.le_of_eq (by rw [if_pos hp, if_pos hfront])
    · rw [if_neg hp]
      exact Nat.zero_le _
  | cons c rest ih =>
    rw [occurrencesIn, occurrencesIn]
    by_cases hp : pattern ++ more <+: c :: rest
    · have hfront : pattern <+: c :: rest := (List.prefix_append pattern more).trans hp
      rw [if_pos hp, if_pos hfront]
      omega
    · rw [if_neg hp]
      omega

/-- The end of a text is found in it. -/
theorem occurrences_end_pos (front pattern : String) :
    0 < occurrences pattern (front ++ pattern) := by
  unfold occurrences
  rw [String.toList_append]
  generalize pattern.toList = pattern
  induction front.toList with
  | nil =>
    cases pattern with
    | nil => exact Nat.one_pos
    | cons c rest =>
      rw [List.nil_append, occurrencesIn, if_pos List.prefix_rfl]
      omega
  | cons c front ih =>
    rw [List.cons_append, occurrencesIn]
    omega

/-! ## Tags in a text -/

/-- A text in which no tag begins or ends. -/
def FreeOfAngles (cs : List Char) : Prop := '<' ∉ cs ∧ '>' ∉ cs

/-- A tag, by what is between its angle brackets. -/
def tagChars (body : List Char) : List Char := '<' :: (body ++ ['>'])

section Tag

variable {body : List Char}

/-- Where no tag begins, no beginning of one is found. -/
theorem occurrencesIn_skip {pattern cs : List Char} (h : '<' ∉ cs) (rest : List Char) :
    occurrencesIn ('<' :: pattern) (cs ++ rest) = occurrencesIn ('<' :: pattern) rest := by
  induction cs with
  | nil => rfl
  | cons c cs ih =>
    obtain ⟨hc, hcs⟩ := not_or.mp fun he => h (List.mem_cons.mpr he)
    have hno : ¬ '<' :: pattern <+: c :: (cs ++ rest) := fun hp =>
      hc (List.cons_prefix_cons.mp hp).1
    rw [List.cons_append, occurrencesIn, if_neg hno, Nat.zero_add, ih hcs]

/-- Where no tag begins, none is found. -/
theorem occurrencesIn_of_not_mem {cs : List Char} (h : '<' ∉ cs) (rest : List Char) :
    occurrencesIn (tagChars body) (cs ++ rest) = occurrencesIn (tagChars body) rest :=
  occurrencesIn_skip h rest

/-- Two texts up to the first `>` are one. -/
theorem eq_of_append_end {a b as bs : List Char} (ha : '>' ∉ a) (hb : '>' ∉ b)
    (h : a ++ '>' :: as = b ++ '>' :: bs) : a = b := by
  have hfirst {cs : List Char} (hcs : '>' ∉ cs) (tail : List Char) :
      (cs ++ '>' :: tail).takeWhile (· != '>') = cs := by
    have hne : ∀ c ∈ cs, (c != '>') = true := by
      intro c hc
      rw [bne_iff_ne]
      rintro rfl
      exact hcs hc
    rw [List.takeWhile_append_of_pos hne]
    simp
  rw [← hfirst ha as, h, hfirst hb]

/-- A tag begins a text if it is the one that is written there. -/
theorem tagChars_prefix_iff (hbody : '>' ∉ body) {inner : List Char} (hinner : '>' ∉ inner)
    (rest : List Char) : tagChars body <+: tagChars inner ++ rest ↔ inner = body := by
  constructor
  · rintro ⟨tail, ht⟩
    simp only [tagChars, List.cons_append, List.append_assoc, List.nil_append, List.cons.injEq,
      true_and] at ht
    exact eq_of_append_end hinner hbody ht.symm
  · rintro rfl
    exact List.prefix_append _ _

/-- In front of a text, a tag is found if it is the one that is written there. -/
theorem occurrencesIn_tag (hbody : '>' ∉ body) {inner : List Char} (hinner : FreeOfAngles inner)
    (rest : List Char) :
    occurrencesIn (tagChars body) (tagChars inner ++ rest) =
      (if inner = body then 1 else 0) + occurrencesIn (tagChars body) rest := by
  have hbegin := tagChars_prefix_iff hbody hinner.2 rest
  have hrest : '<' ∉ inner ++ ['>'] := by simp [hinner.1]
  have hsplit : tagChars inner ++ rest = '<' :: ((inner ++ ['>']) ++ rest) := rfl
  rw [hsplit] at hbegin ⊢
  rw [occurrencesIn, occurrencesIn_of_not_mem hrest]
  by_cases he : inner = body
  · rw [if_pos (hbegin.mpr he), if_pos he]
  · rw [if_neg (mt hbegin.mp he), if_neg he]

end Tag

end Html

/-! ## Tags in a page -/

open Html

namespace Piece

section Written

variable {v : Vocabulary} {body : List Char} {name : String} {attributes : List Attribute}

theorem freeOfAngles_name (h : name ∈ elementTags ++ voidTags) : FreeOfAngles name.toList := by
  have hinert := isInert_of_isName (Unmark.isName_tag h)
  exact ⟨fun hm => (hinert _ hm).1.1 rfl, fun hm => (hinert _ hm).1.2.1 rfl⟩

theorem freeOfAngles_append {as bs : List Char} (ha : FreeOfAngles as) (hb : FreeOfAngles bs) :
    FreeOfAngles (as ++ bs) := by
  constructor <;> rw [List.mem_append] <;> rintro (h | h)
  · exact ha.1 h
  · exact hb.1 h
  · exact ha.2 h
  · exact hb.2 h

theorem freeOfAngles_attributes (h : SoundAttributes v attributes) :
    FreeOfAngles (Attribute.writtenAll attributes).toList :=
  ⟨not_mem_writtenAll (.inl rfl) h, not_mem_writtenAll (.inr rfl) h⟩

theorem not_mem_of_inert {cs : List Char} (h : ∀ c ∈ cs, IsInert c) : '<' ∉ cs :=
  fun hm => (h _ hm).1 rfl

/-- The text is one tag at most: it adds a tag if it is that tag, whatever is behind it. -/
def AddsTag (body s : List Char) : Prop :=
  ∀ rest, occurrencesIn (tagChars body) (s ++ rest) =
    (if s = tagChars body then 1 else 0) + occurrencesIn (tagChars body) rest

theorem addsTag_of_not_mem {s : List Char} (h : '<' ∉ s) : AddsTag body s := by
  intro rest
  have hne : s ≠ tagChars body := by
    rintro rfl
    exact h List.mem_cons_self
  rw [occurrencesIn_of_not_mem h, if_neg hne, Nat.zero_add]

theorem addsTag_tag (hbody : '>' ∉ body) {inner : List Char} (h : FreeOfAngles inner) :
    AddsTag body (tagChars inner) := by
  intro rest
  have hiff : tagChars inner = tagChars body ↔ inner = body := by simp [tagChars]
  rw [occurrencesIn_tag hbody h]
  simp only [hiff]

/-- The beginning of an image is no tag that begins otherwise. -/
theorem addsTag_image (hi : body.head? ≠ some 'i') (h : SoundAttributes v attributes) :
    AddsTag body (Piece.openImage attributes).written.toList := by
  intro rest
  have htext : (Piece.openImage attributes).written.toList =
      '<' :: 'i' :: ("mg".toList ++ (Attribute.writtenAll attributes).toList ++ " alt=\"".toList) := by
    simp [written]
  have hinside : '<' ∉
      'i' :: ("mg".toList ++ (Attribute.writtenAll attributes).toList ++ " alt=\"".toList) := by
    simp [(freeOfAngles_attributes h).1]
  have hno (tail : List Char) : ¬tagChars body <+: '<' :: 'i' :: tail := by
    intro hp
    have hbegin := (List.cons_prefix_cons.mp hp).2
    cases body with
    | nil =>
      have he : '>' = 'i' := (List.cons_prefix_cons.mp hbegin).1
      cases he
    | cons c body =>
      have he : c = 'i' := (List.cons_prefix_cons.mp hbegin).1
      exact hi (by rw [he]; rfl)
  rw [htext]
  generalize htail : "mg".toList ++ (Attribute.writtenAll attributes).toList ++ " alt=\"".toList = tail
  rw [htail] at hinside
  have hne : '<' :: 'i' :: tail ≠ tagChars body := by
    intro he
    exact hno tail (he ▸ List.prefix_rfl)
  have hno' : ¬tagChars body <+: '<' :: ('i' :: tail ++ rest) := hno (tail ++ rest)
  rw [if_neg hne, Nat.zero_add, List.cons_append, occurrencesIn, if_neg hno', Nat.zero_add,
    occurrencesIn_of_not_mem hinside]

/-- **What a sound piece writes is one tag at most.** -/
theorem addsTag_written (hbody : '>' ∉ body) (hi : body.head? ≠ some 'i') {p : Piece}
    (h : p.Sound v) : AddsTag body p.written.toList := by
  cases p with
  | freshLine => exact addsTag_of_not_mem (by decide)
  | newline => exact addsTag_of_not_mem (by decide)
  | text s => exact addsTag_of_not_mem (not_mem_of_inert (inert_escape s))
  | verbatim html => exact addsTag_of_not_mem (not_mem_of_inert h)
  | openTag name attributes =>
    have htext : (Piece.openTag name attributes).written.toList =
        tagChars (name.toList ++ (Attribute.writtenAll attributes).toList) := by
      simp [written, tagChars]
    rw [htext]
    exact addsTag_tag hbody
      (freeOfAngles_append (freeOfAngles_name h.1) (freeOfAngles_attributes h.2))
  | voidTag name attributes =>
    have htext : (Piece.voidTag name attributes).written.toList =
        tagChars (name.toList ++ (Attribute.writtenAll attributes).toList ++ " /".toList) := by
      simp [written, tagChars]
    have hslash : FreeOfAngles " /".toList := ⟨by decide, by decide⟩
    rw [htext]
    exact addsTag_tag hbody (freeOfAngles_append (freeOfAngles_append
      (freeOfAngles_name (List.mem_append_right _ h.1)) (freeOfAngles_attributes h.2)) hslash)
  | closeTag name =>
    have htext : (Piece.closeTag name).written.toList = tagChars ('/' :: name.toList) := by
      simp [written, tagChars]
    have hslash : FreeOfAngles ['/'] := ⟨by decide, by decide⟩
    rw [htext]
    exact addsTag_tag hbody
      (freeOfAngles_append hslash (freeOfAngles_name (List.mem_append_left _ h)))
  | omission =>
    have htext : Piece.omission.written.toList = tagChars "!-- raw HTML omitted --".toList := rfl
    rw [htext]
    exact addsTag_tag hbody ⟨by decide, by decide⟩
  | openImage attributes => exact addsTag_image hi h.2
  | closeImage title =>
    cases title with
    | none => exact addsTag_of_not_mem (by decide)
    | some title =>
      have htext : (Piece.closeImage (some title)).written.toList =
          "\" title=\"".toList ++ (escape title).toList ++ "\" />".toList := by
        simp [written]
      have hno : '<' ∉ "\" title=\"".toList ++ (escape title).toList ++ "\" />".toList := by
        simp [not_mem_of_inert (inert_escape title)]
      rw [htext]
      exact addsTag_of_not_mem hno

/-- **A tag stands in a page as often as pieces write it.** -/
theorem occurrences_textFrom (hbody : '>' ∉ body) (hi : body.head? ≠ some 'i')
    {pieces : List Piece} (h : AllSound v pieces) (fresh : Bool) :
    occurrencesIn (tagChars body) (textFrom fresh pieces).toList =
      pieces.countP fun p => p.written.toList = tagChars body := by
  induction pieces generalizing fresh with
  | nil => rfl
  | cons p rest ih =>
    obtain ⟨hp, hrest⟩ := allSound_cons.mp h
    rw [textFrom_cons, String.toList_append, List.countP_cons, ← ih hrest (p.lineAfter fresh)]
    have hadds := addsTag_written hbody hi hp
    cases p with
    | freshLine =>
      have hline : '<' ∉ (lineText fresh .freshLine).toList := by cases fresh <;> decide
      rw [occurrencesIn_of_not_mem hline]
      rfl
    | _ =>
      refine (hadds _).trans ?_
      rw [Nat.add_comm]
      simp

end Written

end Piece

end FlavoredMarkdown

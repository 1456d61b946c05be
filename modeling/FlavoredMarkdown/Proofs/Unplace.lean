import FlavoredMarkdown.Proofs.Soundness
import FlavoredMarkdown.Proofs.Unmark

/-!
# Taking source positions off a page

`unplace` reads a page from the left and deletes every ` data-sourcepos="a:b-c:d"`, four integers
between the quotes, wherever it stands; the page may be any text. The positions that were deleted come
with what is left.

* A text can end like such an attribute begins, up to the quote. What keeps it from being taken for one
  is what comes next: a tag, or a quote that closes a value, and behind a closing quote there is never
  an integer (`Follows`).
* Without its positions a page has its lines where it had them, since no piece is empty without them
  and no piece ends with one.

Results:
* `leading?_position`, `leading?_name`, `leading?_inert`: where a position begins, and where none does.
* `readFrom_lineText`: the position of a piece is deleted, and nothing else.
* **`unplace_page`**: the page of sound pieces without its positions is the page of the pieces without
  theirs.
-/

namespace FlavoredMarkdown

open Html

namespace Unplace

/-- What is behind an integer at the front of a text. -/
def afterInt? (cs : List Char) : Option (List Char) :=
  let digits := if cs.head? = some '-' then cs.tail else cs
  if (digits.takeWhile Char.isDigit).isEmpty then none else some (digits.dropWhile Char.isDigit)

/-- What is behind a character at the front of a text. -/
def after? (c : Char) (cs : List Char) : Option (List Char) :=
  if cs.head? = some c then some cs.tail else none

/-- Whether a text is the position of a node: `line:column-line:column`. -/
def isPosition (cs : List Char) : Bool :=
  let behind? := do
    afterInt? (← after? ':' (← afterInt? (← after? '-' (← afterInt? (← after? ':' (← afterInt? cs))))))
  behind? == some []

/-- The name of the attribute for positions. -/
def attributeName : String := "data-sourcepos"

/-- What the attribute of a position begins with. -/
def front : List Char := ' ' :: (attributeName.toList ++ ['=', '"'])

/-- The position at the front of a text, if its attribute stands there. -/
def leading? (cs : List Char) : Option (List Char) :=
  if front.isPrefixOf cs then
    let value := (cs.drop front.length).takeWhile (· != '"')
    if isPosition value && (cs.drop (front.length + value.length)).head? == some '"' then some value
    else none
  else none

/-- Reads a page on. The next `skip` characters belong to an attribute that is deleted. The answer is
what is left of the page and the positions that were deleted. -/
def readFrom : (skip : Nat) → List Char → List Char × List String
  | _, [] => ([], [])
  | skip + 1, _ :: rest => readFrom skip rest
  | 0, c :: rest =>
    match leading? (c :: rest) with
    | some value =>
      let read := readFrom (front.length + value.length) rest
      (read.1, String.ofList value :: read.2)
    | none =>
      let read := readFrom 0 rest
      (c :: read.1, read.2)

end Unplace

/-- A page without its positions, and the positions. -/
def unplace (html : String) : String × List String :=
  let read := Unplace.readFrom 0 html.toList
  (String.ofList read.1, read.2)

namespace Unplace

/-! ## Positions -/

theorem afterInt?_digits {digits rest : List Char} (hne : digits ≠ [])
    (hdigits : ∀ c ∈ digits, c.isDigit = true) (h : ∀ c ∈ rest.head?, c.isDigit = false) :
    (if ((digits ++ rest).takeWhile Char.isDigit).isEmpty then none
      else some ((digits ++ rest).dropWhile Char.isDigit)) = some rest := by
  have hrest : rest.dropWhile Char.isDigit = rest := by
    cases rest with
    | nil => rfl
    | cons c rest => rw [List.dropWhile_cons_of_neg (by simp [h c rfl])]
  rw [List.takeWhile_append_of_pos hdigits, List.dropWhile_append_of_pos hdigits, hrest, if_neg]
  rw [List.isEmpty_iff]
  exact fun he => hne (List.append_eq_nil_iff.mp he).1

/-- An integer ends where its digits end. -/
theorem afterInt?_int (i : Int) {rest : List Char} (h : ∀ c ∈ rest.head?, c.isDigit = false) :
    afterInt? (i.repr.toList ++ rest) = some rest := by
  have hdigits (n : Nat) : ∀ c ∈ Nat.toDigits 10 n, c.isDigit = true := fun c hc =>
    Nat.isDigit_of_mem_toDigits (by decide) (by decide) hc
  unfold afterInt?
  cases i with
  | ofNat n =>
    have hhead : ((Nat.toDigits 10 n) ++ rest).head? ≠ some '-' := by
      obtain ⟨d, ds, hd⟩ := List.exists_cons_of_ne_nil (Nat.toDigits_ne_nil (n := n) (b := 10))
      intro he
      rw [hd, List.cons_append, List.head?_cons, Option.some.injEq] at he
      have hdigit := hdigits n d (hd ▸ List.mem_cons_self)
      rw [he] at hdigit
      cases hdigit
    rw [show (Int.ofNat n).repr = n.repr from rfl, Nat.toList_repr, if_neg hhead]
    exact afterInt?_digits Nat.toDigits_ne_nil (hdigits n) h
  | negSucc n =>
    rw [show (Int.negSucc n).repr = "-" ++ n.succ.repr from rfl, String.toList_append,
      Nat.toList_repr, List.append_assoc]
    show (if ((Nat.toDigits 10 n.succ ++ rest).takeWhile Char.isDigit).isEmpty then none
      else some ((Nat.toDigits 10 n.succ ++ rest).dropWhile Char.isDigit)) = some rest
    exact afterInt?_digits Nat.toDigits_ne_nil (hdigits _) h

theorem after?_self (c : Char) (rest : List Char) : after? c (c :: rest) = some rest := if_pos rfl

/-- The text of a span is a position. -/
theorem isPosition_text (s : Span) : isPosition s.text.toList = true := by
  have htext : s.text.toList =
      s.startLine.repr.toList ++ ':' :: (s.startColumn.repr.toList ++
        '-' :: (s.endLine.repr.toList ++ ':' :: (s.endColumn.repr.toList ++ []))) := by
    simp [Span.text, ToString.toString]
  have hcolon (rest : List Char) : ∀ c ∈ (':' :: rest).head?, c.isDigit = false := by
    intro c hc
    rw [← Option.some.inj hc]
    rfl
  have hhyphen (rest : List Char) : ∀ c ∈ ('-' :: rest).head?, c.isDigit = false := by
    intro c hc
    rw [← Option.some.inj hc]
    rfl
  have hnil : ∀ c ∈ ([] : List Char).head?, c.isDigit = false := fun c hc => nomatch hc
  simp only [isPosition, htext, Option.bind_eq_bind, Option.bind_some, after?_self,
    afterInt?_int _ (hcolon _), afterInt?_int _ (hhyphen _), afterInt?_int _ hnil]
  rfl

/-- A text without quotes ends at a quote behind it. -/
theorem takeWhile_quote {cs : List Char} (h : ∀ c ∈ cs, IsInert c) (rest : List Char) :
    (cs ++ '"' :: rest).takeWhile (· != '"') = cs := by
  rw [List.takeWhile_append_of_pos fun c hc => by simp [(h c hc).2.2]]
  simp

/-- The attribute of a position. -/
def written (s : Span) : List Char := front ++ (s.text.toList ++ ['"'])

theorem leading?_position (s : Span) (rest : List Char) :
    leading? (written s ++ rest) = some s.text.toList := by
  have hfront : front.isPrefixOf (written s ++ rest) = true :=
    List.isPrefixOf_iff_prefix.mpr ⟨s.text.toList ++ ['"'] ++ rest, by simp [written]⟩
  have hdrop : (written s ++ rest).drop front.length = s.text.toList ++ '"' :: rest := by
    simp [written]
  have hvalue := takeWhile_quote (inert_span s) rest
  rw [leading?, if_pos hfront]
  simp [← List.drop_drop, hdrop, hvalue, isPosition_text]

theorem readFrom_skip (skip : Nat) (cs : List Char) :
    readFrom skip cs = readFrom 0 (cs.drop skip) := by
  induction cs generalizing skip with
  | nil => simp [readFrom]
  | cons c rest ih =>
    cases skip with
    | zero => rfl
    | succ skip => rw [readFrom, ih, List.drop_succ_cons]

/-- The position of a node is deleted. -/
theorem readFrom_position (s : Span) (rest : List Char) :
    readFrom 0 (written s ++ rest) = ((readFrom 0 rest).1, s.text :: (readFrom 0 rest).2) := by
  obtain ⟨cs, hcs⟩ : ∃ cs, written s ++ rest = ' ' :: cs := ⟨_, rfl⟩
  have hlead := leading?_position s rest
  have hdrop : cs.drop (front.length + s.text.toList.length) = rest := by
    have htail : cs = (front.tail ++ (s.text.toList ++ ['"'])) ++ rest := (List.cons.inj hcs).2.symm
    rw [htail, List.drop_left']
    simp only [front, List.length_append, List.length_cons, List.tail_cons, List.length_nil]
    omega
  rw [hcs] at hlead ⊢
  rw [readFrom, hlead]
  simp only
  rw [readFrom_skip, hdrop, String.ofList_toList]

/-! ## Where no position begins -/

theorem breaks_takeWhile {p : Char → Bool} {cs : List Char} (h : Unmark.Breaks cs) :
    Unmark.Breaks (cs.takeWhile p) := by
  cases cs with
  | nil => exact h
  | cons c rest =>
    rw [List.takeWhile_cons]
    split
    · exact Unmark.breaks_cons (h c rfl)
    · exact fun c hc => nomatch hc

/-- An integer begins with a character of names. -/
theorem afterInt?_breaks {cs : List Char} (h : Unmark.Breaks cs) : afterInt? cs = none := by
  cases cs with
  | nil => rfl
  | cons c rest =>
    have hc := h c rfl
    have hhyphen : (c :: rest).head? ≠ some '-' := by
      intro he
      rw [Option.some.inj he] at hc
      cases hc
    have hdigit : c.isDigit = false := by
      rw [Unmark.isNameChar, Bool.or_eq_false_iff, Char.isAlphanum, Bool.or_eq_false_iff] at hc
      exact hc.1.2
    unfold afterInt?
    rw [if_neg hhyphen]
    simp [hdigit]

/-- What stands where a position begins. -/
theorem exists_of_leading? {cs value : List Char} (h : leading? cs = some value) :
    ∃ back, cs = front ++ back ∧ ¬Unmark.Breaks back := by
  unfold leading? at h
  split at h
  · next hfront =>
    obtain ⟨back, rfl⟩ := List.isPrefixOf_iff_prefix.mp hfront
    refine ⟨back, rfl, fun hb => ?_⟩
    rw [List.drop_left] at h
    simp only at h
    split at h
    · next hposition =>
      rw [isPosition, afterInt?_breaks (breaks_takeWhile hb)] at hposition
      cases hposition
    · cases h
  · cases h

theorem leading?_of_head {c : Char} (h : c ≠ ' ') (rest : List Char) :
    leading? (c :: rest) = none := by
  cases hlead : leading? (c :: rest) with
  | none => rfl
  | some value =>
    obtain ⟨back, he, -⟩ := exists_of_leading? hlead
    exact absurd (List.cons.inj he).1 h

/-- A character where no position begins is kept. -/
theorem readFrom_cons {c : Char} {rest : List Char} (h : leading? (c :: rest) = none) :
    readFrom 0 (c :: rest) = (c :: (readFrom 0 rest).1, (readFrom 0 rest).2) := by
  rw [readFrom, h]

/-- A character that is no blank is kept. -/
theorem readFrom_solid {c : Char} (h : c ≠ ' ') (rest : List Char) :
    readFrom 0 (c :: rest) = (c :: (readFrom 0 rest).1, (readFrom 0 rest).2) :=
  readFrom_cons (leading?_of_head h rest)

/-- The name of another attribute. -/
theorem leading?_name {name tail : List Char} (hn : Unmark.IsName name)
    (hne : name ≠ attributeName.toList) (ht : Unmark.Breaks tail) :
    leading? (' ' :: (name ++ tail)) = none := by
  cases hlead : leading? (' ' :: (name ++ tail)) with
  | none => rfl
  | some value =>
    obtain ⟨back, he, -⟩ := exists_of_leading? hlead
    have hnames : name ++ tail = attributeName.toList ++ ('=' :: '"' :: back) := by
      simpa [front] using he
    exact absurd (Unmark.name_append_inj hn (by decide) ht (Unmark.breaks_cons (by decide)) hnames).1
      hne

/-- Behind the next quote, if only inert text is in front of it, there is no integer. -/
def Follows (rest : List Char) : Prop :=
  ∀ between back, rest = between ++ '"' :: back → (∀ c ∈ between, IsInert c) → Unmark.Breaks back

theorem follows_nil : Follows [] := by
  intro between back he
  simp at he

/-- A tag ends a text. -/
theorem follows_angle {c : Char} (h : c = '<' ∨ c = '>') (rest : List Char) :
    Follows (c :: rest) := by
  intro between back he hb
  cases between with
  | nil =>
    rw [List.nil_append, List.cons.injEq] at he
    rcases h with rfl | rfl <;> cases he.1
  | cons d between =>
    have hd := hb d List.mem_cons_self
    rw [← (List.cons.inj he).1] at hd
    rcases h with rfl | rfl
    · exact absurd rfl hd.1
    · exact absurd rfl hd.2.1

theorem follows_quote {back : List Char} (h : Unmark.Breaks back) : Follows ('"' :: back) := by
  intro between back' he hb
  cases between with
  | nil =>
    rw [List.nil_append, List.cons.injEq] at he
    exact he.2 ▸ h
  | cons d between =>
    have hd := hb d List.mem_cons_self
    rw [← (List.cons.inj he).1] at hd
    exact absurd rfl hd.2.2

theorem follows_inert {cs rest : List Char} (h : ∀ c ∈ cs, IsInert c) (hr : Follows rest) :
    Follows (cs ++ rest) := by
  induction cs with
  | nil => exact hr
  | cons c cs ih =>
    obtain ⟨hc, hcs⟩ := List.forall_mem_cons.mp h
    intro between back he hb
    cases between with
    | nil => exact absurd (List.cons.inj he).1 hc.2.2
    | cons d between =>
      exact ih hcs between back (List.cons.inj he).2 fun e hm => hb e (List.mem_cons_of_mem _ hm)

/-- No position begins in an inert text. -/
theorem leading?_inert {c : Char} {cs rest : List Char} (h : ∀ d ∈ c :: cs, IsInert d)
    (hr : Follows rest) : leading? (c :: cs ++ rest) = none := by
  cases hlead : leading? (c :: cs ++ rest) with
  | none => rfl
  | some value =>
    obtain ⟨back, he, hb⟩ := exists_of_leading? hlead
    have hfront : front = (' ' :: (attributeName.toList ++ ['='])) ++ ['"'] := by simp [front]
    rw [hfront, List.append_assoc] at he
    -- all of it but the quote is inert, so this quote is the next one behind the text
    have hinert : Inert (" " ++ attributeName ++ "=") := by decide
    exact absurd (follows_inert h hr _ back he hinert) hb

theorem readFrom_inert {cs rest : List Char} (h : ∀ c ∈ cs, IsInert c) (hr : Follows rest) :
    readFrom 0 (cs ++ rest) = (cs ++ (readFrom 0 rest).1, (readFrom 0 rest).2) := by
  induction cs with
  | nil => rfl
  | cons c cs ih =>
    have hlead : leading? (c :: (cs ++ rest)) = none := leading?_inert h hr
    rw [List.cons_append, readFrom_cons hlead, ih fun d hd => h d (List.mem_cons_of_mem _ hd)]
    rfl

theorem readFrom_name {name : List Char} (hn : Unmark.IsName name) (rest : List Char) :
    readFrom 0 (name ++ rest) = (name ++ (readFrom 0 rest).1, (readFrom 0 rest).2) := by
  induction name with
  | nil => rfl
  | cons c name ih =>
    have hc : c ≠ ' ' := by
      rintro rfl
      cases hn ' ' List.mem_cons_self
    rw [List.cons_append, readFrom_solid hc,
      ih fun d hd => hn d (List.mem_cons_of_mem _ hd)]
    rfl

end Unplace

/-! ## Pieces without positions -/

/-- Whether an attribute is for a position. -/
def Attribute.isPosition (a : Attribute) : Bool := a.name == Unplace.attributeName

/-- Attributes without those for positions. -/
def Attribute.unplaced (attributes : List Attribute) : List Attribute :=
  attributes.filter fun a => !a.isPosition

/-- The attributes for positions. -/
def Attribute.positions (attributes : List Attribute) : List Attribute :=
  attributes.filter isPosition

/-- A piece without its positions. -/
@[simp] def Piece.unplaced : Piece → Piece
  | .openTag name attributes => .openTag name (Attribute.unplaced attributes)
  | .voidTag name attributes => .voidTag name (Attribute.unplaced attributes)
  | .openImage attributes => .openImage (Attribute.unplaced attributes)
  | piece => piece

/-- The positions of a piece. -/
@[simp] def Piece.positions : Piece → List Attribute
  | .openTag _ attributes | .voidTag _ attributes | .openImage attributes =>
    Attribute.positions attributes
  | _ => []

/-- Whether all these attributes hold the position of a node. -/
def ArePositions (attributes : List Attribute) : Prop :=
  ∀ a ∈ attributes, ∃ s : Span, a = ⟨Unplace.attributeName, some s.text⟩

/-- The values of attributes that have one. -/
def Attribute.values (attributes : List Attribute) : List String :=
  attributes.filterMap Attribute.value

namespace Attribute

@[simp] theorem values_nil : values [] = [] := rfl

@[simp] theorem values_append (as bs : List Attribute) :
    values (as ++ bs) = values as ++ values bs := List.filterMap_append

@[simp] theorem unplaced_nil : unplaced [] = [] := rfl

@[simp] theorem positions_nil : positions [] = [] := rfl

@[simp] theorem unplaced_append (as bs : List Attribute) :
    unplaced (as ++ bs) = unplaced as ++ unplaced bs := List.filter_append ..

@[simp] theorem positions_append (as bs : List Attribute) :
    positions (as ++ bs) = positions as ++ positions bs := List.filter_append ..

@[simp] theorem unplaced_cons {name : String} (h : name ≠ "data-sourcepos")
    (value : Option String) (rest : List Attribute) :
    unplaced (⟨name, value⟩ :: rest) = ⟨name, value⟩ :: unplaced rest :=
  List.filter_cons_of_pos (by simpa [isPosition, Unplace.attributeName] using h)

@[simp] theorem positions_cons {name : String} (h : name ≠ "data-sourcepos")
    (value : Option String) (rest : List Attribute) :
    positions (⟨name, value⟩ :: rest) = positions rest :=
  List.filter_cons_of_neg (by simpa [isPosition, Unplace.attributeName] using h)

/-- Attributes without a position are all that is left of them. -/
theorem unplaced_eq {attributes : List Attribute} (h : positions attributes = []) :
    unplaced attributes = attributes := by
  refine List.filter_eq_self.mpr fun a ha => ?_
  rw [Bool.not_eq_true']
  exact Bool.eq_false_iff.mpr (List.filter_eq_nil_iff.mp h a ha)

end Attribute

/-- A piece without a position is all that is left of it. -/
theorem Piece.unplaced_eq {p : Piece} (h : p.positions = []) : p.unplaced = p := by
  cases p with
  | openTag name attributes => exact congrArg _ (Attribute.unplaced_eq h)
  | voidTag name attributes => exact congrArg _ (Attribute.unplaced_eq h)
  | openImage attributes => exact congrArg _ (Attribute.unplaced_eq h)
  | _ => rfl

namespace Unplace

theorem isName_of_hasName {name : String} (h : Vocabulary.full.HasName name) :
    Unmark.IsName name.toList := by
  rcases h with h | ⟨-, rfl⟩
  · exact Unmark.isName_attribute h
  · decide

theorem written_eq (s : Span) : (Attribute.written ⟨attributeName, some s.text⟩).toList = written s := by
  rw [Unmark.toList_written_some]
  simp [written, front]

/-- An attribute that is no position is kept, whatever its value. -/
theorem readFrom_attribute {a : Attribute} (hn : Unmark.IsName a.name.toList)
    (hne : a.isPosition = false) (hvalue : ∀ value ∈ a.value, Inert value) {tail : List Char}
    (ht : Unmark.Breaks tail) :
    readFrom 0 (a.written.toList ++ tail) =
      (a.written.toList ++ (readFrom 0 tail).1, (readFrom 0 tail).2) := by
  have hname : a.name.toList ≠ attributeName.toList := by
    intro he
    rw [String.toList_inj] at he
    rw [Attribute.isPosition, he] at hne
    cases hne
  obtain ⟨name, value⟩ := a
  cases value with
  | none =>
    rw [Unmark.toList_written_none, List.cons_append, readFrom_cons (leading?_name hn hname ht),
      readFrom_name hn]
    rfl
  | some value =>
    have hquote : Unmark.Breaks ('=' :: '"' :: (value.toList ++ '"' :: tail)) :=
      Unmark.breaks_cons (by decide)
    rw [Unmark.toList_written_some]
    simp only [List.cons_append, List.append_assoc, List.nil_append]
    rw [readFrom_cons (leading?_name hn hname hquote), readFrom_name hn, readFrom_solid (by decide),
      readFrom_solid (by decide), readFrom_inert (hvalue value rfl) (follows_quote ht),
      readFrom_solid (by decide)]

/-- Attributes are read as they are written, but for their positions. -/
theorem readFrom_writtenAll {attributes : List Attribute} (h : SoundAttributes .full attributes)
    (hp : ArePositions (Attribute.positions attributes)) {tail : List Char}
    (ht : Unmark.Breaks tail) :
    readFrom 0 ((Attribute.writtenAll attributes).toList ++ tail) =
      ((Attribute.writtenAll (Attribute.unplaced attributes)).toList ++ (readFrom 0 tail).1,
        Attribute.values (Attribute.positions attributes) ++ (readFrom 0 tail).2) := by
  induction attributes with
  | nil => rfl
  | cons a rest ih =>
    obtain ⟨⟨hname, hvalue⟩, hrest⟩ := List.forall_mem_cons.mp h
    rw [Unmark.toList_writtenAll_cons, List.append_assoc]
    by_cases hpos : a.isPosition = true
    · have hpositions : Attribute.positions (a :: rest) = a :: Attribute.positions rest :=
        List.filter_cons_of_pos hpos
      have hunplaced : Attribute.unplaced (a :: rest) = Attribute.unplaced rest :=
        List.filter_cons_of_neg (by simp [hpos])
      rw [hpositions] at hp
      obtain ⟨⟨s, rfl⟩, hprest⟩ := List.forall_mem_cons.mp hp
      rw [hpositions, hunplaced, written_eq, readFrom_position, ih hrest hprest]
      rfl
    · have hpositions : Attribute.positions (a :: rest) = Attribute.positions rest :=
        List.filter_cons_of_neg hpos
      have hunplaced : Attribute.unplaced (a :: rest) = a :: Attribute.unplaced rest :=
        List.filter_cons_of_pos (by simp [hpos])
      rw [hpositions] at hp
      rw [readFrom_attribute (isName_of_hasName hname) (Bool.eq_false_iff.mpr hpos) hvalue
          (Unmark.breaks_writtenAll rest ht), ih hrest hp, hpositions, hunplaced,
        Unmark.toList_writtenAll_cons, List.append_assoc]

/-- What ends a tag is kept. -/
theorem readFrom_ending {ending : String} (h : ending ∈ [">", " />"]) (rest : List Char) :
    Unmark.Breaks (ending.toList ++ rest) ∧
      readFrom 0 (ending.toList ++ rest) =
        (ending.toList ++ (readFrom 0 rest).1, (readFrom 0 rest).2) := by
  simp only [List.mem_cons, List.not_mem_nil, or_false] at h
  rcases h with rfl | rfl
  · exact ⟨Unmark.breaks_cons (by decide), readFrom_solid (by decide) rest⟩
  · refine ⟨Unmark.breaks_cons (by decide), ?_⟩
    have hslash : Inert " /" := by decide
    have hread := readFrom_inert hslash (follows_angle (.inr rfl) rest)
    rw [readFrom_solid (by decide)] at hread
    exact hread

/-- A tag is read as it is written, but for its positions. -/
theorem readFrom_tag {name ending : String} {attributes : List Attribute}
    (hname : name ∈ elementTags ++ voidTags) (h : SoundAttributes .full attributes)
    (hp : ArePositions (Attribute.positions attributes)) (he : ending ∈ [">", " />"])
    (rest : List Char) :
    readFrom 0 (("<" ++ name ++ Attribute.writtenAll attributes ++ ending).toList ++ rest) =
      (("<" ++ name ++ Attribute.writtenAll (Attribute.unplaced attributes) ++ ending).toList ++
          (readFrom 0 rest).1,
        Attribute.values (Attribute.positions attributes) ++ (readFrom 0 rest).2) := by
  obtain ⟨hb, hr⟩ := readFrom_ending he rest
  have ht : ("<" ++ name ++ Attribute.writtenAll attributes ++ ending).toList ++ rest =
      '<' :: (name.toList ++
        ((Attribute.writtenAll attributes).toList ++ (ending.toList ++ rest))) := by
    simp
  rw [ht, readFrom_solid (by decide), readFrom_name (Unmark.isName_tag hname),
    readFrom_writtenAll h hp hb, hr]
  simp

/-! ## Pages -/

/-- What stands between angle brackets is kept. -/
theorem readFrom_bracketed {cs : List Char} (h : ∀ c ∈ cs, IsInert c) (rest : List Char) :
    readFrom 0 ('<' :: (cs ++ '>' :: rest)) =
      ('<' :: (cs ++ '>' :: (readFrom 0 rest).1), (readFrom 0 rest).2) := by
  rw [readFrom_solid (by decide), readFrom_inert h (follows_angle (.inr rfl) rest),
    readFrom_solid (by decide)]

/-- What stands between the attributes of an image and its text is kept. -/
theorem readFrom_alt (rest : List Char) :
    readFrom 0 (" alt=\"".toList ++ rest) =
      (" alt=\"".toList ++ (readFrom 0 rest).1, (readFrom 0 rest).2) := by
  have hname : leading? (' ' :: ("alt".toList ++ '=' :: '"' :: rest)) = none :=
    leading?_name (by decide) (by decide) (Unmark.breaks_cons (by decide))
  show readFrom 0 (' ' :: ("alt".toList ++ '=' :: '"' :: rest)) = _
  rw [readFrom_cons hname, readFrom_name (by decide), readFrom_solid (by decide),
    readFrom_solid (by decide)]
  rfl

/-- The end of an image is kept. -/
theorem readFrom_closeImage (title : Option String) (rest : List Char) :
    readFrom 0 ((Piece.closeImage title).written.toList ++ rest) =
      ((Piece.closeImage title).written.toList ++ (readFrom 0 rest).1, (readFrom 0 rest).2) := by
  have hending : " />" ∈ [">", " />"] := by decide
  obtain ⟨hb, hread⟩ := readFrom_ending hending rest
  cases title with
  | none =>
    have htext : (Piece.closeImage none).written.toList ++ rest = '"' :: (" />".toList ++ rest) := by
      simp [Piece.written]
    rw [htext, readFrom_solid (by decide), hread]
    simp [Piece.written]
  | some title =>
    have hn : Unmark.IsName "title".toList := by decide
    have hvalue : ∀ value ∈ some (escape title), Inert value := by simp [inert_escape]
    have htext : (Piece.closeImage (some title)).written.toList ++ rest =
        '"' :: ((Attribute.written ⟨"title", some (escape title)⟩).toList ++
          (" />".toList ++ rest)) := by
      simp [Piece.written, Attribute.written]
    rw [htext, readFrom_solid (by decide), readFrom_attribute hn rfl hvalue hb, hread]
    simp [Piece.written, Attribute.written]

theorem inert_freshLine (fresh : Bool) : Inert (Piece.freshLine.lineText fresh) := by
  cases fresh with
  | true => exact inert_empty
  | false => exact inert_newline

/-- What a piece adds is read as it is written, but for its positions, if nothing behind it looks like
the end of one. -/
theorem readFrom_lineText {piece : Piece} (h : piece.Sound .full)
    (hp : ArePositions piece.positions) (fresh : Bool) {rest : List Char} (hr : Follows rest) :
    readFrom 0 ((piece.lineText fresh).toList ++ rest) =
      ((piece.unplaced.lineText fresh).toList ++ (readFrom 0 rest).1,
        Attribute.values piece.positions ++ (readFrom 0 rest).2) := by
  cases piece with
  | freshLine => exact readFrom_inert (inert_freshLine fresh) hr
  | newline => exact readFrom_inert inert_newline hr
  | text s => exact readFrom_inert (inert_escape s) hr
  | verbatim html => exact readFrom_inert h hr
  | openTag name attributes => exact readFrom_tag h.1 h.2 hp (by decide) rest
  | voidTag name attributes =>
    exact readFrom_tag (List.mem_append_right _ h.1) h.2 hp (by decide) rest
  | closeTag name =>
    have hname : ∀ c ∈ '/' :: name.toList, IsInert c := by
      refine List.forall_mem_cons.mpr ⟨by decide, fun c hc => ?_⟩
      exact Unmark.isInert_of_isNameChar (Unmark.isName_tag (List.mem_append_left _ h) c hc)
    have hread := readFrom_bracketed hname rest
    simpa [Piece.lineText, Piece.written] using hread
  | omission =>
    have hnote : Inert "!-- raw HTML omitted --" := by decide
    have hread := readFrom_bracketed hnote rest
    simpa [Piece.lineText, Piece.written] using hread
  | openImage attributes =>
    have htext : ((Piece.openImage attributes).lineText fresh).toList ++ rest =
        '<' :: ("img".toList ++ ((Attribute.writtenAll attributes).toList ++
          (" alt=\"".toList ++ rest))) := by
      simp [Piece.lineText, Piece.written]
    have hb : Unmark.Breaks (" alt=\"".toList ++ rest) := Unmark.breaks_cons (by decide)
    rw [htext, readFrom_solid (by decide), readFrom_name (by decide), readFrom_writtenAll h.2 hp hb,
      readFrom_alt]
    simp [Piece.lineText, Piece.written]
  | closeImage title => exact readFrom_closeImage title rest

/-- In front of sound pieces, a quote that is still open ends no position. -/
theorem follows_textFrom {pieces : List Piece} (h : Piece.AllSound .full pieces) (fresh : Bool) :
    Follows (Piece.textFrom fresh pieces).toList := by
  induction pieces generalizing fresh with
  | nil => exact follows_nil
  | cons piece rest ih =>
    obtain ⟨hpiece, hrest⟩ := Piece.allSound_cons.mp h
    have hr := ih hrest (piece.lineAfter fresh)
    rw [Piece.textFrom_cons, String.toList_append]
    cases piece with
    | freshLine => exact follows_inert (inert_freshLine fresh) hr
    | newline => exact follows_inert inert_newline hr
    | text s => exact follows_inert (inert_escape s) hr
    | verbatim html => exact follows_inert hpiece hr
    | closeImage title =>
      -- the quote that ends the text of an image has a blank behind it
      cases title <;> simp only [Piece.lineText, Piece.written, String.toList_append]
      · exact follows_quote (Unmark.breaks_cons (by decide))
      · exact follows_quote (Unmark.breaks_cons (by decide))
    | openTag | voidTag | closeTag | omission | openImage =>
      simp only [Piece.lineText, Piece.written, String.toList_append]
      exact follows_angle (.inl rfl) _

end Unplace

/-- A piece starts a line without its positions if it starts one with them. -/
theorem Piece.lineAfter_unplaced (fresh : Bool) (piece : Piece) :
    piece.unplaced.lineAfter fresh = piece.lineAfter fresh := by
  cases piece <;>
    simp only [unplaced, lineAfter, lineText, written, lineState_append] <;> rfl

/-- The text of sound pieces is read as that of the pieces without their positions. -/
theorem Unplace.readFrom_textFrom {pieces : List Piece} (h : Piece.AllSound .full pieces)
    (hp : ArePositions (pieces.flatMap Piece.positions)) (fresh : Bool) :
    readFrom 0 (Piece.textFrom fresh pieces).toList =
      ((Piece.textFrom fresh (pieces.map Piece.unplaced)).toList,
        Attribute.values (pieces.flatMap Piece.positions)) := by
  induction pieces generalizing fresh with
  | nil => rfl
  | cons piece rest ih =>
    obtain ⟨hpiece, hrest⟩ := Piece.allSound_cons.mp h
    rw [List.flatMap_cons] at hp ⊢
    obtain ⟨hpositions, hprest⟩ := List.forall_mem_append.mp hp
    rw [Piece.textFrom_cons, String.toList_append,
      readFrom_lineText hpiece hpositions fresh (follows_textFrom hrest _), ih hrest hprest,
      List.map_cons, Piece.textFrom_cons, Piece.lineAfter_unplaced, String.toList_append,
      Attribute.values_append]

/-- **The page of sound pieces without its positions** is the page of the pieces without theirs. -/
theorem unplace_page {pieces : List Piece} (h : Piece.AllSound .full pieces)
    (hp : ArePositions (pieces.flatMap Piece.positions)) :
    unplace (Page.empty.addAll pieces).html =
      ((Page.empty.addAll (pieces.map Piece.unplaced)).html,
        Attribute.values (pieces.flatMap Piece.positions)) := by
  have hempty : Page.empty.html = "" := rfl
  rw [Page.html_addAll, Page.html_addAll, hempty, String.empty_append, String.empty_append, unplace,
    Unplace.readFrom_textFrom h hp, String.ofList_toList]

end FlavoredMarkdown

import FlavoredMarkdown.Proofs.Soundness

/-!
# Opening and closing

The two visits of a container are far apart in a rendering, so what is between them counts too.
`Emit.Takes before after` says that a part of a rendering that starts inside the elements `before`
ends inside the elements `after`, whatever elements are around them, and that it leaves the footnote
section as it is. A container whose two visits match keeps this up (`Visitor.Brackets`).

* Two things are not matched by the container that opens them. The first body row of a table opens
  the body and the table closes it; a footnote opens the section and the document closes it.

Results:
* `Default.brackets`, `Override.brackets`: the visits of each container match.
-/

namespace FlavoredMarkdown

open Html

/-! ## Runs of pieces -/

/-- The pieces lead from some open elements to others, whatever elements are around them. -/
def Nests (before : List String) (pieces : List Piece) (after : List String) : Prop :=
  ∀ around, nest (before ++ around) pieces = some (after ++ around)

theorem nests_nil (opened : List String) : Nests opened [] opened := fun _ => nest_nil _

theorem Nests.append {before mid after : List String} {as bs : List Piece}
    (ha : Nests before as mid) (hb : Nests mid bs after) : Nests before (as ++ bs) after := by
  intro around
  rw [nest_append (ha around)]
  exact hb around

theorem Nests.within {before after : List String} {pieces : List Piece}
    (h : Nests before pieces after) (outer : List String) :
    Nests (before ++ outer) pieces (after ++ outer) := by
  intro around
  rw [List.append_assoc, List.append_assoc]
  exact h (outer ++ around)

/-! ## Parts of renderings -/

namespace Emit

variable {α β : Type}

/-- If it does not fail, the part leads from the elements `before` to the elements `after`, and
leaves the footnote section open or closed as it was. -/
def Takes (before after : List String) (x : Emit α) : Prop :=
  ∀ marks a, (x marks).outcome = .ok a →
    Nests before (x marks).pieces after ∧
      (x marks).marks.footnotesOpen = marks.footnotesOpen

theorem takes_pure (opened : List String) (a : α) : Takes opened opened (pure a : Emit α) :=
  fun _ _ _ => ⟨nests_nil opened, rfl⟩

/-- As `Takes`, for a part that starts with the footnote section as `f` says and ends with it as
`f'` says. -/
def Leads (f f' : Bool) (before after : List String) (x : Emit α) : Prop :=
  ∀ marks a, marks.footnotesOpen = f → (x marks).outcome = .ok a →
    Nests before (x marks).pieces after ∧ (x marks).marks.footnotesOpen = f'

theorem takes_iff {before after : List String} {x : Emit α} :
    x.Takes before after ↔ ∀ f, x.Leads f f before after := by
  constructor
  · rintro h f marks a rfl ha
    exact h marks a ha
  · intro h marks a ha
    exact h _ marks a rfl ha

theorem Leads.bind {f f' f'' : Bool} {before mid after : List String} {x : Emit α}
    {g : α → Emit β} (hx : x.Leads f f' before mid)
    (hg : ∀ marks a, (x marks).outcome = .ok a → (g a).Leads f' f'' mid after) :
    (x >>= g).Leads f f'' before after := by
  intro marks b hf h
  obtain ⟨a, ha, hb, hpieces, hmarks⟩ := bind_eq_ok h
  obtain ⟨hn, hm⟩ := hx marks a hf ha
  obtain ⟨hn', hm'⟩ := hg marks a ha _ b hm hb
  rw [hpieces, hmarks]
  exact ⟨hn.append hn', hm'⟩

theorem Takes.bind {before mid after : List String} {x : Emit α} {g : α → Emit β}
    (hx : x.Takes before mid)
    (hg : ∀ marks a, (x marks).outcome = .ok a → (g a).Takes mid after) :
    (x >>= g).Takes before after := by
  rw [takes_iff] at hx ⊢
  exact fun f => (hx f).bind fun marks a ha => takes_iff.mp (hg marks a ha) f

theorem Takes.within {before after : List String} {x : Emit α} (h : x.Takes before after)
    (outer : List String) : x.Takes (before ++ outer) (after ++ outer) := by
  intro marks a ha
  obtain ⟨hn, hm⟩ := h marks a ha
  exact ⟨hn.within outer, hm⟩

end Emit

/-! ## The two visits of a container -/

/-- The element that is open where the body of a table is open. -/
def bodyOf (inBody : Bool) : List String := if inBody then ["tbody"] else []

/-- Whether the children of a container open the body of a table. -/
def Container.hasBody (children : List Node) : Container → Bool
  | .table hasHeader => !(tableRows hasHeader children).isEmpty
  | _ => false

/-- Whether a container has no part in the footnote section. -/
def Container.isLocal : Container → Bool
  | .document | .footnoteDefinition .. => false
  | _ => true

/-- The visits of a container match: what is open after the first one, and what the children leave
open beside it, is closed by the second one, except for what the container itself leaves open. -/
structure Visitor.Brackets (visitor : Visitor) (style : Style) (ancestors : List Occurrence)
    (o : Occurrence) (below left : List String) : Prop where
  pieces : ∃ mid, (∀ marks, Nests [] (visitor style ancestors marks o .entering).pieces mid) ∧
    ∀ marks, Nests (below ++ mid) (visitor style ancestors marks o .leaving).pieces left
  marks : ∀ marks phase,
    (visitor style ancestors marks o phase).marks.footnotesOpen = marks.footnotesOpen
  answer : below = [] ∨
    ∀ marks, (visitor style ancestors marks o .entering).outcome = .ok .html

namespace Default

variable (style : Style) (ancestors : List Occurrence)

theorem footnotesOpen_containerVisit (marks : Marks) (o : Occurrence) (info : Info)
    (children : List Node) {kind : Container} (h : kind.isLocal = true) (phase : Phase) :
    (containerVisit style ancestors marks o info children kind phase).marks.footnotesOpen =
      marks.footnotesOpen := by
  cases kind with
  | document | footnoteDefinition identifier index => cases h
  | heading level =>
    cases phase with
    | leaving => rfl
    | entering =>
      simp only [containerVisit, heading]
      repeat' split
      all_goals rfl
  | paragraph =>
    cases phase <;> simp only [containerVisit, paragraph] <;> split <;> rfl
  | link url title =>
    simp only [containerVisit, link]
    repeat' split
    all_goals rfl
  | _ => cases phase <;> rfl

theorem nests_backlink (opened : List String) (identifier : String) (index : Int) :
    Nests opened (backlink identifier index) opened := by
  intro around
  simp +decide [backlink]

theorem nests_heading (info : Info) (level : HeadingLevel) (children : List Node) (marks : Marks) :
    Nests [] (heading style info level children marks .entering).pieces [s!"h{level.val}"] := by
  intro around
  have hv : s!"h{level.val}" ∉ voidTags := by
    have names : ∀ n < 7, 1 ≤ n → s!"h{n}" ∉ voidTags := by decide
    exact names level.val (by have := level.le_six; omega) level.one_le
  unfold heading
  generalize s!"h{level.val}" = name at hv ⊢
  simp only
  repeat' split
  all_goals simp +decide [writes, hv]

theorem pieces_paragraph {o : Occurrence} :
    ∃ mid, (∀ marks, Nests [] (paragraph style ancestors marks o .entering).pieces mid) ∧
      ∀ marks, Nests mid (paragraph style ancestors marks o .leaving).pieces [] := by
  cases ht : inTightList ancestors with
  | true =>
    refine ⟨[], fun marks => ?_, fun marks => ?_⟩
    · simp only [paragraph, ht, if_true]
      exact nests_nil []
    · simp only [paragraph, ht, if_true]
      split
      · simpa [writes] using nests_backlink [] _ _
      · exact nests_nil []
  | false =>
    have hclose : Nests ["p"] [.closeTag "p", .newline] [] := fun around => by simp
    refine ⟨["p"], fun marks around => ?_, fun marks => ?_⟩
    · simp +decide [paragraph, ht, writes]
    · simp only [paragraph, ht, Bool.false_eq_true, if_false]
      split
      · exact (nests_backlink ["p"] _ _).append hclose
      · exact hclose

theorem pieces_tableRow {o : Occurrence} {isHeader : Bool}
    (h : isFirstRow ancestors o = true → isHeader = false) :
    ∃ mid, (∀ marks, Nests [] (tableRow style ancestors marks o isHeader .entering).pieces mid) ∧
      ∀ marks, Nests mid (tableRow style ancestors marks o isHeader .leaving).pieces
        (bodyOf (isFirstRow ancestors o)) := by
  cases hb : isFirstRow ancestors o with
  | true =>
    have hh := h hb
    subst hh
    refine ⟨["tr", "tbody"], fun marks around => ?_, fun marks around => ?_⟩ <;>
      simp +decide [tableRow, writes, hb, bodyOf]
  | false =>
    cases isHeader with
    | true =>
      refine ⟨["tr", "thead"], fun marks around => ?_, fun marks around => ?_⟩ <;>
        simp +decide [tableRow, writes, bodyOf]
    | false =>
      refine ⟨["tr"], fun marks around => ?_, fun marks around => ?_⟩ <;>
        simp +decide [tableRow, writes, hb, bodyOf]

theorem pieces_link (info : Info) (url : String) (title : Option String) (children : List Node) :
    ∃ mid,
      (∀ marks,
        Nests [] (link style ancestors marks info url title children .entering).pieces mid) ∧
      ∀ marks,
        Nests mid (link style ancestors marks info url title children .leaving).pieces [] := by
  unfold link
  split
  · exact ⟨[], fun marks => nests_nil [], fun marks => nests_nil []⟩
  · split
    · exact ⟨[], fun marks around => by simp, fun marks around => by simp⟩
    · refine ⟨["a"], fun marks around => ?_, fun marks around => ?_⟩ <;>
        simp +decide [linkOpening, writes]

theorem cellTag_not_void : cellTag ancestors ∉ voidTags := by
  unfold cellTag
  split <;> decide

theorem listTag_not_void (ordered : Bool) : listTag ordered ∉ voidTags := by
  cases ordered <;> decide

theorem nests_listOpening (info : Info) (ordered : Bool) (start : Int)
    (listClass : List Attribute) :
    Nests [] (listOpening style info ordered start listClass) [listTag ordered] := by
  intro around
  simp [listOpening, listTag_not_void]

theorem nests_customTask (info : Info) (symbol : Char) :
    Nests [] (customTask style info symbol) ["li"] := by
  intro around
  simp +decide [customTask]

theorem nests_taskOpening (info : Info) (symbol : Option Char) :
    Nests [] (taskOpening style info symbol) ["li"] := by
  unfold taskOpening
  split
  · exact nests_customTask style info _
  · intro around
    simp +decide

theorem pieces_wrapped {name : String} (hn : name ∉ voidTags) (attributes : List Attribute) :
    ∃ mid, (∀ marks, Nests [] (wrapped marks name attributes .entering).pieces mid) ∧
      ∀ marks, Nests mid (wrapped marks name attributes .leaving).pieces [] := by
  refine ⟨[name], fun marks around => ?_, fun marks around => ?_⟩ <;> simp [wrapped, writes, hn]

/-- What a container opens on the way in, it closes on the way out, images aside. -/
theorem pieces_containerVisit {o : Occurrence} (info : Info) (children : List Node)
    {kind : Container} (hl : kind.isLocal = true) (hi : ∀ url title, kind ≠ .image url title)
    (hrow : isFirstRow ancestors o = true → kind = .tableRow false) :
    ∃ mid,
      (∀ marks, Nests []
        (containerVisit style ancestors marks o info children kind .entering).pieces mid) ∧
      ∀ marks, Nests (bodyOf (kind.hasBody children) ++ mid)
        (containerVisit style ancestors marks o info children kind .leaving).pieces
        (bodyOf (isFirstRow ancestors o)) := by
  have hno (h : kind ≠ .tableRow false) : isFirstRow ancestors o = false :=
    Bool.eq_false_iff.mpr fun hb => h (hrow hb)
  cases kind with
  | document | footnoteDefinition identifier index => cases hl
  | image url title => exact (hi url title rfl).elim
  | tableRow isHeader =>
    refine pieces_tableRow style ancestors fun hb => ?_
    have he := hrow hb
    injection he
  | table hasHeader =>
    rw [hno (by simp)]
    refine ⟨["table"], fun marks around => by simp +decide [containerVisit, writes], ?_⟩
    intro marks around
    cases he : (tableRows hasHeader children).isEmpty <;>
      simp [containerVisit, writes, Container.hasBody, bodyOf, he]
  | heading level =>
    rw [hno (by simp)]
    exact ⟨_, nests_heading style info level children, fun marks around => by
      simp [containerVisit, heading, writes, Container.hasBody, bodyOf]⟩
  | paragraph =>
    rw [hno (by simp)]
    exact pieces_paragraph style ancestors
  | link url title =>
    rw [hno (by simp)]
    exact pieces_link style ancestors info url title children
  | list ordered start tight isTaskList =>
    rw [hno (by simp)]
    exact ⟨_, fun marks => nests_listOpening style info ordered start _, fun marks around => by
      simp [containerVisit, writes, Container.hasBody, bodyOf]⟩
  | taskItem symbol =>
    rw [hno (by simp)]
    exact ⟨_, fun marks => nests_taskOpening style info symbol, fun marks around => by
      simp [containerVisit, writes, Container.hasBody, bodyOf]⟩
  | tableCell alignment =>
    rw [hno (by simp)]
    refine ⟨[cellTag ancestors], fun marks around => ?_, fun marks around => ?_⟩ <;>
      simp [containerVisit, writes, Container.hasBody, bodyOf, cellTag_not_void]
  | other kind =>
    rw [hno (by simp)]
    exact ⟨[], fun marks => nests_nil [], fun marks => nests_nil []⟩
  | blockQuote =>
    rw [hno (by simp)]
    refine ⟨["blockquote"], fun marks around => ?_, fun marks around => ?_⟩ <;>
      simp +decide [containerVisit, writes, Container.hasBody, bodyOf]
  | listItem =>
    rw [hno (by simp)]
    refine ⟨["li"], fun marks around => ?_, fun marks around => ?_⟩ <;>
      simp +decide [containerVisit, writes, Container.hasBody, bodyOf]
  | definitionList =>
    rw [hno (by simp)]
    refine ⟨["dl"], fun marks around => ?_, fun marks around => ?_⟩ <;>
      simp +decide [containerVisit, writes, Container.hasBody, bodyOf]
  | definitionTerm =>
    rw [hno (by simp)]
    refine ⟨["dt"], fun marks around => ?_, fun marks around => ?_⟩ <;>
      simp +decide [containerVisit, writes, Container.hasBody, bodyOf]
  | definitionDescription =>
    rw [hno (by simp)]
    refine ⟨["dd"], fun marks around => ?_, fun marks around => ?_⟩ <;>
      simp +decide [containerVisit, writes, Container.hasBody, bodyOf]
  | emphasis | strong | strikethrough | underline | superscript | subscript | spoiler =>
    rw [hno (by simp)]
    exact pieces_wrapped (by decide) _

theorem brackets {info : Info} {children : List Node} {place : List Nat} {kind : Container}
    (hl : kind.isLocal = true) (hi : ∀ url title, kind ≠ .image url title)
    (hrow : isFirstRow ancestors ⟨.box kind info children, place⟩ = true → kind = .tableRow false) :
    Visitor.Brackets visit style ancestors ⟨.box kind info children, place⟩
      (bodyOf (kind.hasBody children))
      (bodyOf (isFirstRow ancestors ⟨.box kind info children, place⟩)) where
  pieces := pieces_containerVisit style ancestors info children hl hi hrow
  marks marks phase := footnotesOpen_containerVisit style ancestors marks _ info children hl phase
  answer := by
    cases kind with
    | table hasHeader => exact .inr fun marks => rfl
    | _ => exact .inl rfl

end Default

theorem Visitor.Brackets.congr {visitor visitor' : Visitor} {style : Style}
    {ancestors : List Occurrence} {o : Occurrence} {below left : List String}
    (h : visitor.Brackets style ancestors o below left)
    (he : ∀ marks phase,
      visitor' style ancestors marks o phase = visitor style ancestors marks o phase) :
    visitor'.Brackets style ancestors o below left := by
  constructor
  · simpa only [he] using h.pieces
  · simpa only [he] using h.marks
  · simpa only [he] using h.answer

namespace Override

variable (style : Style) (ancestors : List Occurrence)

theorem brackets_link {info : Info} {url : String} {title : Option String} {children : List Node}
    {place : List Nat}
    (hd : Visitor.Brackets Default.visit style ancestors
      ⟨.box (.link url title) info children, place⟩ [] []) :
    Visitor.Brackets link.visit style ancestors
      ⟨.box (.link url title) info children, place⟩ [] [] := by
  cases hm : marksIn style url with
  | false => exact hd.congr fun marks phase => by simp [visit, visitLink, hm]
  | true =>
    cases hr : style.html.on .relaxedAutolinks && inLink ancestors with
    | true =>
      refine ⟨⟨[], fun marks => ?_, fun marks => ?_⟩, fun marks phase => ?_, .inl rfl⟩ <;>
        simp [visit, visitLink, hm, hr, nests_nil]
    | false =>
      refine ⟨⟨["a"], fun marks around => ?_, fun marks around => ?_⟩, fun marks phase => ?_,
        .inl rfl⟩
      · simp +decide [visit, visitLink, hm, hr, Default.linkOpening]
      · simp [visit, visitLink, hm, hr]
      · cases phase <;> simp [visit, visitLink, hm, hr]

theorem brackets_list {info : Info} {ordered tight isTaskList : Bool} {start : Int}
    {children : List Node} {place : List Nat}
    (hd : Visitor.Brackets Default.visit style ancestors
      ⟨.box (.list ordered start tight isTaskList) info children, place⟩ [] []) :
    Visitor.Brackets list.visit style ancestors
      ⟨.box (.list ordered start tight isTaskList) info children, place⟩ [] [] := by
  cases hc : style.html.on .tasklistClasses with
  | false => exact hd.congr fun marks phase => by simp [visit, visitList, hc]
  | true =>
    refine ⟨⟨[Default.listTag ordered], fun marks => ?_, fun marks around => ?_⟩,
      fun marks phase => ?_, .inl rfl⟩
    · simpa [visit, visitList, hc] using Default.nests_listOpening style info ordered start _
    · simp [visit, visitList, Default.visit, Default.containerVisit, Default.writes]
    · cases phase
      · simp [visit, visitList, hc]
      · exact hd.marks marks .leaving

theorem brackets_taskItem {info : Info} {symbol : Option Char} {children : List Node}
    {place : List Nat}
    (hd : Visitor.Brackets Default.visit style ancestors
      ⟨.box (.taskItem symbol) info children, place⟩ [] []) :
    Visitor.Brackets taskItem.visit style ancestors
      ⟨.box (.taskItem symbol) info children, place⟩ [] [] := by
  cases hi : style.user.on .inapplicableTasks with
  | false => exact hd.congr fun marks phase => by simp [visit, visitTaskItem, hi]
  | true =>
    cases hs : symbol.filter fun c => !Default.isChecked c with
    | none => exact hd.congr fun marks phase => by simp [visit, visitTaskItem, hi, hs]
    | some c =>
      refine ⟨⟨["li"], fun marks => ?_, fun marks around => ?_⟩, fun marks phase => ?_, .inl rfl⟩
      · simp only [visit, visitTaskItem, hi, hs, Bool.not_true, Bool.false_eq_true, if_false]
        split
        · intro around
          simp +decide [inapplicableOpening]
        · exact Default.nests_customTask style info c
      · simp [visit, visitTaskItem, hi, hs]
      · cases phase <;> simp only [visit, visitTaskItem, hi, hs, Bool.not_true, Bool.false_eq_true,
          if_false]
        split <;> rfl

/-- An override for another kind of node fails at once, and otherwise its visits match as those of
the default markup do. -/
theorem brackets_or_fails {info : Info} {children : List Node} {place : List Nat} {kind : Container}
    (hl : kind.isLocal = true) (hi : ∀ url title, kind ≠ .image url title)
    (hrow : Default.isFirstRow ancestors ⟨.box kind info children, place⟩ = true →
      kind = .tableRow false)
    (override : Override) :
    (∀ marks, ∃ e, (override.visit style ancestors marks ⟨.box kind info children, place⟩
      .entering).outcome = .error e) ∨
    Visitor.Brackets override.visit style ancestors ⟨.box kind info children, place⟩
      (bodyOf (kind.hasBody children))
      (bodyOf (Default.isFirstRow ancestors ⟨.box kind info children, place⟩)) := by
  have hd := Default.brackets style ancestors hl hi hrow
  have hno (h : kind ≠ .tableRow false) :
      Default.isFirstRow ancestors ⟨.box kind info children, place⟩ = false :=
    Bool.eq_false_iff.mpr fun hb => h (hrow hb)
  cases kind with
  | image url title => exact (hi url title rfl).elim
  | link url title =>
    rw [hno (by simp)] at hd ⊢
    cases override with
    | link => exact .inr (brackets_link style ancestors hd)
    | _ => exact .inl fun marks => ⟨_, rfl⟩
  | list ordered start tight isTaskList =>
    rw [hno (by simp)] at hd ⊢
    cases override with
    | list => exact .inr (brackets_list style ancestors hd)
    | _ => exact .inl fun marks => ⟨_, rfl⟩
  | taskItem symbol =>
    rw [hno (by simp)] at hd ⊢
    cases override with
    | taskItem => exact .inr (brackets_taskItem style ancestors hd)
    | _ => exact .inl fun marks => ⟨_, rfl⟩
  | _ => cases override <;> exact .inl fun marks => ⟨_, rfl⟩

end Override

/-! ## Containers with what is between their visits -/

section Around

variable {formatter : Formatter} {style : Style} {ancestors : List Occurrence}

/-- A container whose visits match, around children that leave open what it expects of them. -/
theorem takes_around {o : Occurrence} {below left : List String} {x : Emit Unit}
    (h : (formatter.visitor style o.node.kindName).Brackets style ancestors o below left)
    (hx : x.Takes [] below) :
    ((formatter.emitter style).around ancestors o x).Takes [] left := by
  obtain ⟨⟨mid, henter, hleave⟩, hmarks, hanswer⟩ := h
  have henter : ((formatter.emitter style).visit ancestors o .entering).Takes [] mid :=
    fun marks _ _ => ⟨henter marks, hmarks marks _⟩
  have hleave : ((formatter.emitter style).visit ancestors o .leaving).Takes (below ++ mid) left :=
    fun marks _ _ => ⟨hleave marks, hmarks marks _⟩
  refine henter.bind fun marks signal hs => ?_
  have hinside : ((formatter.emitter style).inside o.node.children x signal).Takes mid
      (below ++ mid) := by
    cases signal with
    | html => exact hx.within mid
    | plain =>
      have hb : below = [] := hanswer.resolve_right fun ha => by
        cases (ha marks).symm.trans hs
      subst hb
      exact fun marks _ _ => ⟨fun around => nest_text _ _ _, rfl⟩
    | skip =>
      have hb : below = [] := hanswer.resolve_right fun ha => by
        cases (ha marks).symm.trans hs
      subst hb
      exact Emit.takes_pure mid ()
  exact hinside.bind fun _ _ _ => hleave.bind fun _ _ _ => Emit.takes_pure left ()

/-- An image between two visits is a single void tag. -/
theorem takes_around_image {info : Info} {url : String} {title : Option String}
    {children : List Node} {place : List Nat} (x : Emit Unit) :
    ((formatter.emitter style).around ancestors
      ⟨.box (.image url title) info children, place⟩ x).Takes [] [] := by
  have whole (attributes : List Attribute) :
      Nests [] (Default.imageOpening style info url attributes ++
        .text (plainText children) :: Default.imageClosing style title) [] := by
    intro around
    unfold Default.imageOpening Default.imageClosing
    cases style.html.on .figureWithCaption <;> cases nonEmpty? title <;> simp +decide
  intro marks a h
  rcases formatter.visitor_eq style (Container.image url title).name with hv | ⟨override, hv⟩
  · rw [Formatter.around_image (.inl ⟨hv, rfl⟩)]
    exact ⟨whole _, rfl⟩
  · cases override with
    | image =>
      rw [Formatter.around_image (.inr ⟨hv, rfl⟩)]
      exact ⟨whole _, rfl⟩
    | _ =>
      -- Any other override refuses the image.
      refine (Formatter.around_ne_ok ?_ x a h).elim
      rw [Node.kindName, hv]
      exact ⟨_, rfl⟩

/-- A container outside the footnote section, around children that leave open the body of its table
and nothing else. -/
theorem takes_around_local {info : Info} {children : List Node} {place : List Nat}
    {kind : Container}
    (hl : kind.isLocal = true)
    (hrow : Default.isFirstRow ancestors ⟨.box kind info children, place⟩ = true →
      kind = .tableRow false)
    {x : Emit Unit} (hx : x.Takes [] (bodyOf (kind.hasBody children))) :
    ((formatter.emitter style).around ancestors ⟨.box kind info children, place⟩ x).Takes []
      (bodyOf (Default.isFirstRow ancestors ⟨.box kind info children, place⟩)) := by
  by_cases hi : ∃ url title, kind = .image url title
  · obtain ⟨url, title, rfl⟩ := hi
    rw [Bool.eq_false_iff.mpr fun hb => Container.noConfusion (hrow hb)]
    exact takes_around_image x
  · have hi' : ∀ url title, kind ≠ .image url title := fun url title h => hi ⟨url, title, h⟩
    rcases formatter.visitor_eq style kind.name with hv | ⟨override, hv⟩
    · have h := Default.brackets style ancestors hl hi' hrow
      rw [← hv] at h
      exact takes_around h hx
    · rcases Override.brackets_or_fails style ancestors hl hi' hrow override with hf | h
      · intro marks a h
        refine (Formatter.around_ne_ok ?_ x a h).elim
        rw [Node.kindName, hv]
        exact hf marks
      · rw [← hv] at h
        exact takes_around h hx

end Around

/-! ## Leaves -/

theorem Default.nests_leafPieces {style : Style} {info : Info} {kind : Leaf} {pieces : List Piece}
    (hp : leafPieces? style info kind = some pieces) : Nests [] pieces [] := by
  intro around
  cases kind with
  | other kind => cases hp
  | codeBlock content fence =>
    cases hp
    unfold codeBlock
    generalize fenceWords fence = words
    obtain ⟨language, rest⟩ := words
    simp only
    repeat' split
    all_goals simp +decide
  | footnoteReference identifier index =>
    cases hp
    simp +decide [footnoteReference]
  | htmlBlock content | htmlInline content =>
    cases hp
    simp only [rawHtml]
    repeat' split
    all_goals simp
  | lineBreak soft =>
    simp only [leafPieces?] at hp
    split at hp <;> cases hp <;> simp
  | _ =>
    cases hp
    simp +decide

theorem Override.nests_items (items : List Placeholder.Item) :
    Nests [] (items.flatMap itemPieces) [] := by
  induction items with
  | nil => exact nests_nil []
  | cons item rest ih =>
    rw [List.flatMap_cons]
    have hitem : Nests [] (itemPieces item) [] := by
      intro around
      cases item <;> simp +decide [itemPieces]
    exact hitem.append ih

theorem takes_leaf (formatter : Formatter) (style : Style) (ancestors : List Occurrence)
    (kind : Leaf) (info : Info) (place : List Nat) :
    ((formatter.emitter style).visit ancestors ⟨.leaf kind info, place⟩ .entering).Takes [] [] := by
  have hd : (Visitor.emit Default.visit style ancestors ⟨.leaf kind info, place⟩ .entering).Takes
      [] [] := by
    intro marks a h
    simp only [Visitor.emit, Default.visit, Visited.emission] at h ⊢
    split at h
    · next pieces hp => exact ⟨Default.nests_leafPieces hp, rfl⟩
    · cases h
  rw [Formatter.emitter_visit, Node.kindName]
  rcases formatter.visitor_eq style kind.name with hv | ⟨override, hv⟩ <;> rw [hv]
  · exact hd
  · intro marks a h
    cases kind with
    | text content =>
      cases override with
      | text =>
        rw [show Override.text.visit.emit style ancestors ⟨.leaf (.text content) info, place⟩
          .entering marks = _ from emission_visitText_entering ..] at h ⊢
        split at h
        · next hm =>
          rw [if_pos hm]
          exact ⟨Override.nests_items _, rfl⟩
        · next hm =>
          rw [if_neg hm]
          exact hd marks a h
      | _ => cases h
    | _ => cases override <;> cases h

end FlavoredMarkdown

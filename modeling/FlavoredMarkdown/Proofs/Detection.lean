import FlavoredMarkdown.Proofs.Soundness
import FlavoredMarkdown.Proofs.Unmark

/-!
# Detection only adds marks

With the detection of placeholders on, three overrides write marks: a span around each placeholder
in a text, and an attribute in the tag of a link or an image whose URL holds one. The page with
detection off is the page with detection on, read by `unmark`. The two renderings stay in step all
along: they have the same marks, they fail at the same visit, and whenever the one is at the start
of a line, so is the other.

* Links without a label are left out of this: the default markup may write them as Markdown has
  them, and the override for links does not.
* `unmark` must not look behind the quote that opens a value (`unmark_anywhere_ne`).

Results:
* `erases_items`, `erases_linkOpening`, `erases_image`: each override that marks, beside the default
  markup.
* **`format_detecting`**: detection off is detection on without the marks.
-/

namespace FlavoredMarkdown

open Html Piece

/-- The style with the detection of placeholders on or off. -/
def Style.detecting (style : Style) (detects : Bool) : Style :=
  { style with user := { style.user with
      on := fun f => if f = .placeholderDetection then detects else style.user.on f } }

@[simp] theorem Style.detecting_html (style : Style) (detects : Bool) :
    (style.detecting detects).html = style.html := rfl

/-! ## Runs of pieces -/

/-- The pieces `as` write what `bs` write, and marks. They leave the page at the start of a line
where `bs` do. -/
def Erases (as bs : List Piece) : Prop :=
  ∀ fresh, Reads (textFrom fresh as) (textFrom fresh bs) ∧
    lineState fresh (textFrom fresh as) = lineState fresh (textFrom fresh bs)

theorem Erases.append {as bs as' bs' : List Piece} (h : Erases as bs) (h' : Erases as' bs') :
    Erases (as ++ as') (bs ++ bs') := by
  intro fresh
  obtain ⟨hr, hl⟩ := h fresh
  rw [textFrom_append, textFrom_append, freshAfter_eq, freshAfter_eq, lineState_append,
    lineState_append, hl]
  obtain ⟨hr', hl'⟩ := h' (lineState fresh (textFrom fresh bs))
  exact ⟨hr.append hr', hl'⟩

theorem erases_nil : Erases [] [] := fun _ => ⟨fun _ => rfl, rfl⟩

theorem erases_refl {pieces : List Piece} (h : AllSound .basic pieces) : Erases pieces pieces := by
  induction pieces with
  | nil => exact erases_nil
  | cons p rest ih =>
    obtain ⟨hp, hrest⟩ := allSound_cons.mp h
    have hone : Erases [p] [p] := fun fresh => ⟨by simpa using reads_lineText hp fresh, rfl⟩
    exact hone.append (ih hrest)

theorem lineState_of_append (fresh : Bool) (a : String) {b : String} (hb : b ≠ "") :
    lineState fresh (a ++ b) = endsLine b := by
  rw [lineState_append, lineState, if_neg hb]

/-! ## Text -/

theorem endsLine_escape_closing (spelling : Spelling) :
    endsLine (escape (String.ofList spelling.closing)) = false ∧
      escape (String.ofList spelling.closing) ≠ "" := by
  cases spelling <;> decide

/-- A marked placeholder, beside its source. -/
theorem erases_item (item : Placeholder.Item) :
    Erases (Override.itemPieces item) [.text (String.ofList item.source)] := by
  cases item with
  | char c =>
    have h : AllSound .basic [.text (String.ofList [c])] := by simp [Piece.Sound]
    exact erases_refl h
  | placeholder p =>
    intro fresh
    obtain ⟨hends, hne⟩ := endsLine_escape_closing p.spelling
    have hmarked : textFrom fresh (Override.itemPieces (.placeholder p)) =
        "<span data-placeholder>" ++ escape (String.ofList p.source) ++ "</span>" := by
      simp [Override.itemPieces, Piece.lineText, Piece.written, Override.mark, Attribute.writtenAll,
        Attribute.written, String.append_assoc]
    have hplain : textFrom fresh [.text (String.ofList (Placeholder.Item.placeholder p).source)] =
        escape (String.ofList p.source) := by
      simp [Piece.lineText, Piece.written, Placeholder.Item.source]
    rw [hmarked, hplain]
    refine ⟨reads_span (inert_escape _), ?_⟩
    rw [lineState_of_append fresh _ (by decide), Placeholder.source, String.ofList_append,
      escape_append, lineState_of_append fresh _ hne, hends]
    decide

theorem textFrom_sources (fresh : Bool) (items : List Placeholder.Item) :
    textFrom fresh (items.map fun item => .text (String.ofList item.source)) =
      escape (String.ofList (items.flatMap Placeholder.Item.source)) := by
  induction items generalizing fresh with
  | nil => rfl
  | cons item rest ih =>
    rw [List.map_cons, textFrom_cons, ih, List.flatMap_cons, String.ofList_append, escape_append]
    rfl

/-- A text cut at its placeholders, beside the text. -/
theorem erases_items (content : String) :
    Erases ((Placeholder.scan content.toList).flatMap Override.itemPieces) [.text content] := by
  have hcut (items : List Placeholder.Item) : Erases (items.flatMap Override.itemPieces)
      (items.map fun item => .text (String.ofList item.source)) := by
    induction items with
    | nil => exact erases_nil
    | cons item rest ih => exact (erases_item item).append ih
  intro fresh
  obtain ⟨hr, hl⟩ := hcut (Placeholder.scan content.toList) fresh
  rw [textFrom_sources, Placeholder.source_scan, String.ofList_toList] at hr hl
  have hone : textFrom fresh [.text content] = escape content := by
    simp [Piece.lineText, Piece.written]
  rw [hone]
  exact ⟨hr, hl⟩

/-! ## Links and images -/

/-- Runs whose texts have one end, which is not empty, end alike. -/
theorem erases_of_text {as bs : List Piece} {a b ending : String} (hne : ending ≠ "")
    (ha : ∀ fresh, textFrom fresh as = a ++ ending) (hb : ∀ fresh, textFrom fresh bs = b ++ ending)
    (hr : Reads (a ++ ending) (b ++ ending)) : Erases as bs := by
  intro fresh
  rw [ha, hb, lineState_of_append fresh a hne, lineState_of_append fresh b hne]
  exact ⟨hr, rfl⟩

/-- The opening tag of a link with a mark, beside that without. -/
theorem erases_linkOpening (style : Style) (info : Info) (url : String) (title : Option String) :
    Erases (Default.linkOpening style info url title [Override.mark])
      (Default.linkOpening style info url title []) := by
  have htext (attributes : List Attribute) (fresh : Bool) :
      textFrom fresh [.openTag "a" attributes] =
        "<" ++ "a" ++ Attribute.writtenAll attributes ++ ">" := by
    simp [Piece.lineText, Piece.written]
  have hf (rest : List Char) : Unmark.follows (Unmark.attr ++
      ((Attribute.writtenAll []).toList ++ (">".toList ++ rest))) = true := by
    simp [Unmark.follows, Unmark.attr]
  have hpos : SoundAttributes .basic (style.position info) := sound_position style info
  have hurl := inert_urlText style style.html.linkUrlRewriter url
  refine erases_of_text (by decide) (htext _) (htext _) ?_
  rcases titleAttribute_cases title with ht | ⟨t, ht⟩
  · have h := reads_marked "a" "href" ">" (by decide) (by decide) hpos (by decide) hurl
      soundAttributes_nil (by decide) hf
    simpa [ht, Override.mark] using h
  · have hbefore : SoundAttributes .basic (style.position info ++
        [⟨"href", some (style.urlText style.html.linkUrlRewriter url)⟩]) := by
      simp +decide [hpos, hurl]
    have h := reads_marked "a" "title" ">" (by decide) (by decide) hbefore (by decide)
      (inert_escape t) soundAttributes_nil (by decide) hf
    simpa [ht, Override.mark] using h

theorem follows_imageAttributes (s : String) (title : Option String) (rest : List Char) :
    Unmark.follows (Unmark.attr ++
      ((Attribute.writtenAll (imageAttributes s title)).toList ++ rest)) = true := by
  obtain ⟨others, ho⟩ : ∃ others, imageAttributes s title = ⟨"alt", some (escape s)⟩ :: others := by
    cases title <;> exact ⟨_, rfl⟩
  have hp : Unmark.attr ++ " alt=\"".toList <+:
      Unmark.attr ++ ((Attribute.writtenAll (imageAttributes s title)).toList ++ rest) := by
    rw [List.prefix_append_right_inj, ho, Unmark.toList_writtenAll_cons, Unmark.toList_written_some]
    refine ⟨(escape s).toList ++ '"' :: ((Attribute.writtenAll others).toList ++ rest), ?_⟩
    simp
  rw [Unmark.follows, List.isPrefixOf_iff_prefix.mpr hp, Bool.or_true]

/-- An image with a mark, if any, beside the image without. -/
theorem erases_image (style : Style) (info : Info) (url : String) (title : Option String)
    (s : String) {marks : List Attribute} (h : marks = [] ∨ marks = [Override.mark]) :
    Erases
      (Default.imageOpening style info url marks ++ .text s :: Default.imageClosing style title)
      (Default.imageOpening style info url [] ++ .text s :: Default.imageClosing style title) := by
  have hpos : SoundAttributes .basic (style.position info) := sound_position style info
  have hurl := inert_urlText style style.html.imageUrlRewriter url
  have hbefore : SoundAttributes .basic (style.position info ++
      [⟨"src", some (style.urlText style.html.imageUrlRewriter url)⟩]) := by
    simp +decide [hpos, hurl]
  have hafter := sound_imageAttributes (v := .basic) s (nonEmpty? title)
  have himage : Erases
      [.openImage (style.position info ++
        ⟨"src", some (style.urlText style.html.imageUrlRewriter url)⟩ :: marks), .text s,
        .closeImage (nonEmpty? title)]
      [.openImage (style.position info ++
        [⟨"src", some (style.urlText style.html.imageUrlRewriter url)⟩]), .text s,
        .closeImage (nonEmpty? title)] := by
    refine erases_of_text (by decide) (fun fresh => textFrom_image fresh _ _ _)
      (fun fresh => textFrom_image fresh _ _ _) ?_
    rcases h with rfl | rfl
    · exact reads_tag (by decide) (soundAttributes_append.mpr ⟨hbefore, hafter⟩) (by decide)
    · have h := reads_marked "img" "src" " />" (by decide) (by decide) hpos (by decide) hurl hafter
        (by decide) fun rest => follows_imageAttributes s (nonEmpty? title) _
      simpa [Override.mark] using h
  obtain ⟨front, hfront, hopening⟩ := Default.imageOpening_eq style info url
  obtain ⟨back, hback, hclosing⟩ := Default.imageClosing_eq style title
  have h := ((erases_refl hfront).append himage).append (erases_refl hback)
  rw [hopening, hopening, hclosing]
  simpa using h

/-! ## Two renderings in step -/

/-- Two emissions that differ in marks only. -/
structure Emission.DiffersInMarks {α : Type} (e e' : Emission α) : Prop where
  outcome : e.outcome = e'.outcome
  marks : e.marks = e'.marks
  pieces : Erases e.pieces e'.pieces

/-- Renderings that differ in marks only. -/
def differingInMarks : Correspondence Emit Emit where
  rel x y := ∀ marks, (x marks).DiffersInMarks (y marks)
  rel_pure _ _ := ⟨rfl, rfl, erases_nil⟩
  rel_bind {_ _ x y f g} hx hf marks := by
    obtain ⟨ho, hm, hp⟩ := hx marks
    rw [Emit.bind_apply, Emit.bind_apply]
    unfold Emission.andThen
    rw [← ho, ← hm]
    split
    · next a _ =>
      obtain ⟨ho', hm', hp'⟩ := hf a (x marks).marks
      exact ⟨ho', hm', hp.append hp'⟩
    · exact ⟨rfl, rfl, hp⟩

/-- Visits that answer the same without marks. -/
theorem Emission.differsInMarks_refl {α : Type} {e : Emission α} (h : AllSound .basic e.pieces) :
    e.DiffersInMarks e := ⟨rfl, rfl, erases_refl h⟩

section Visits

variable {style : Style} (detects : Bool) (ancestors : List Occurrence) (marks : Marks)

/-- The default markup does not look at the options of the overrides. -/
theorem Default.visit_detecting (o : Occurrence) (phase : Phase) :
    Default.visit (style.detecting detects) ancestors marks o phase =
      Default.visit style ancestors marks o phase :=
  Default.visit_congr rfl ancestors marks o phase

theorem Formatter.visitor_detecting (formatter : Formatter) (kind : String) :
    formatter.visitor (style.detecting detects) kind = formatter.visitor style kind := by
  cases formatter <;> rfl

theorem Override.marksIn_detecting (s : String) :
    Override.marksIn (style.detecting detects) s = (detects && Placeholder.occursIn s) := rfl

/-- Nor do the overrides that are not for placeholders look at the detection. -/
theorem Override.visit_detecting {override : Override} (h : override.forPlaceholders = false)
    (o : Occurrence) (phase : Phase) :
    override.visit (style.detecting detects) ancestors marks o phase =
      override.visit style ancestors marks o phase := by
  obtain ⟨n, place⟩ := o
  cases override with
  | text | link | image => cases h
  | list =>
    cases n with
    | leaf kind info => cases kind <;> rfl
    | box kind info children => cases kind <;> rfl
  | taskItem =>
    cases n with
    | leaf kind info => cases kind <;> rfl
    | box kind info children => cases kind <;> rfl

end Visits

section InStep

variable {style : Style} (hraw : style.HidesRaw) {ancestors : List Occurrence} {marks : Marks}

include hraw

theorem Default.differsInMarks {o : Occurrence}
    (h : ∀ a ∈ (Member.mk (parentKind? ancestors) o.node).alignment?, a ∈ alignments)
    (hi : o.node.isImage = false) (phase : Phase) :
    (Default.visit (style.detecting true) ancestors marks o phase).emission.DiffersInMarks
      (Default.visit (style.detecting false) ancestors marks o phase).emission := by
  rw [Default.visit_detecting, Default.visit_detecting]
  exact Emission.differsInMarks_refl
    (Default.sound_visit hraw ancestors marks h (fun hn => by rw [hi] at hn; cases hn) phase)

/-- A text is marked, or it is written as it is. -/
theorem Override.differsInMarks_text (content : String) (info : Info) (place : List Nat) :
    (Override.text.visit (style.detecting true) ancestors marks ⟨.leaf (.text content) info, place⟩
      .entering).emission.DiffersInMarks
      (Override.text.visit (style.detecting false) ancestors marks
        ⟨.leaf (.text content) info, place⟩ .entering).emission := by
  let o : Occurrence := ⟨.leaf (.text content) info, place⟩
  show (Override.visitText (style.detecting true) ancestors marks o content
    .entering).emission.DiffersInMarks
    (Override.visitText (style.detecting false) ancestors marks o content .entering).emission
  have hoff : ¬(Override.marksIn (style.detecting false) content ∧
      Override.labelKind? ancestors = none) := by
    rw [Override.marksIn_detecting]
    simp
  rw [emission_visitText_entering, emission_visitText_entering, if_neg hoff]
  split
  · exact ⟨rfl, rfl, erases_items content⟩
  · exact Default.differsInMarks hraw (by intro a ha; cases ha) rfl .entering

/-- A link has a mark, or it is written as by the default markup. -/
theorem Override.differsInMarks_link (hempty : style.html.on .ignoreEmptyLinks = false)
    (url : String) (title : Option String) (info : Info) (children : List Node) (place : List Nat)
    (phase : Phase) :
    (Override.link.visit (style.detecting true) ancestors marks
      ⟨.box (.link url title) info children, place⟩ phase).emission.DiffersInMarks
      (Override.link.visit (style.detecting false) ancestors marks
        ⟨.box (.link url title) info children, place⟩ phase).emission := by
  let o : Occurrence := ⟨.box (.link url title) info children, place⟩
  show (Override.visitLink (style.detecting true) ancestors marks o info url title
    phase).emission.DiffersInMarks
    (Override.visitLink (style.detecting false) ancestors marks o info url title phase).emission
  have hd : (Default.visit (style.detecting true) ancestors marks o phase).emission.DiffersInMarks
      (Default.visit (style.detecting false) ancestors marks o phase).emission :=
    Default.differsInMarks hraw (by intro a ha; cases ha) rfl phase
  unfold Override.visitLink
  rw [Override.marksIn_detecting, Override.marksIn_detecting]
  cases ho : Placeholder.occursIn url with
  | false => exact hd
  | true =>
    have hplain : Default.visit (style.detecting false) ancestors marks o phase =
        Default.link style ancestors marks info url title children phase :=
      Default.visit_detecting false ancestors marks o phase
    rw [hplain]
    cases hr : style.html.on .relaxedAutolinks && inLink ancestors <;>
      simp only [Bool.and_self, Bool.not_true, Bool.false_and, Bool.not_false, if_true,
        Bool.false_eq_true, if_false, Style.detecting_html, Default.link, hempty, hr]
    · cases phase with
      | entering => exact ⟨rfl, rfl, erases_linkOpening style info url title⟩
      | leaving =>
        have hclosing : AllSound .basic [.closeTag "a"] := by simp +decide [Piece.Sound]
        exact ⟨rfl, rfl, erases_refl hclosing⟩
    · exact ⟨rfl, rfl, erases_nil⟩

/-- At every visit that a walk makes, an override with detection on differs in marks from the
override with detection off. Images are for later: they are written in two visits. -/
theorem Override.differsInMarks (hempty : style.html.on .ignoreEmptyLinks = false) {o : Occurrence}
    (h : ∀ a ∈ (Member.mk (parentKind? ancestors) o.node).alignment?, a ∈ alignments)
    (hi : o.node.isImage = false) {phase : Phase}
    (hphase : o.node.isLeaf = true → phase = .entering) (override : Override) :
    (override.visit (style.detecting true) ancestors marks o phase).emission.DiffersInMarks
      (override.visit (style.detecting false) ancestors marks o phase).emission := by
  have hother (hp : override.forPlaceholders = false) :
      (override.visit (style.detecting true) ancestors marks o phase).emission.DiffersInMarks
        (override.visit (style.detecting false) ancestors marks o phase).emission := by
    rw [Override.visit_detecting true ancestors marks hp,
      Override.visit_detecting false ancestors marks hp]
    exact Emission.differsInMarks_refl (Override.sound_visit hraw ancestors marks h
      (fun hn => by rw [hi] at hn; cases hn) phase override fun hm => by rw [hp] at hm; cases hm)
  obtain ⟨n, place⟩ := o
  cases override with
  | list => exact hother rfl
  | taskItem => exact hother rfl
  | text =>
    cases n with
    | box kind info children => exact ⟨rfl, rfl, erases_nil⟩
    | leaf kind info =>
      cases kind with
      | text content =>
        rw [hphase rfl]
        exact Override.differsInMarks_text hraw content info place
      | _ => exact ⟨rfl, rfl, erases_nil⟩
  | link =>
    cases n with
    | leaf kind info => exact ⟨rfl, rfl, erases_nil⟩
    | box kind info children =>
      cases kind with
      | link url title =>
        exact Override.differsInMarks_link hraw hempty url title info children place phase
      | _ => exact ⟨rfl, rfl, erases_nil⟩
  | image =>
    cases n with
    | leaf kind info => exact ⟨rfl, rfl, erases_nil⟩
    | box kind info children =>
      cases kind with
      | image url title => cases hi
      | _ => exact ⟨rfl, rfl, erases_nil⟩

theorem Formatter.differsInMarks_visit (formatter : Formatter)
    (hempty : style.html.on .ignoreEmptyLinks = false) {o : Occurrence}
    (h : ∀ a ∈ (Member.mk (parentKind? ancestors) o.node).alignment?, a ∈ alignments)
    (hi : o.node.isImage = false) {phase : Phase}
    (hphase : o.node.isLeaf = true → phase = .entering) :
    differingInMarks.rel ((formatter.emitter (style.detecting true)).visit ancestors o phase)
      ((formatter.emitter (style.detecting false)).visit ancestors o phase) := by
  intro marks
  rw [Formatter.emitter_visit, Formatter.emitter_visit, Formatter.visitor_detecting,
    Formatter.visitor_detecting]
  rcases formatter.visitor_eq style o.node.kindName with hv | ⟨override, hv⟩ <;> rw [hv]
  · exact Default.differsInMarks hraw h hi phase
  · exact Override.differsInMarks hraw hempty h hi hphase override

omit hraw in
/-- The text that stands for a node is the same. -/
theorem Formatter.differsInMarks_plain (formatter : Formatter) (s : String) :
    differingInMarks.rel ((formatter.emitter (style.detecting true)).writePlain s)
      ((formatter.emitter (style.detecting false)).writePlain s) := by
  have hs : AllSound .basic [.text s] := by simp [Piece.Sound]
  exact fun marks => ⟨rfl, rfl, erases_refl hs⟩

omit hraw in
/-- An image differs in marks from the same image, whatever is done about its text. -/
theorem Formatter.differsInMarks_image (formatter : Formatter) (url : String)
    (title : Option String) (info : Info) (children : List Node) (place : List Nat)
    {x y : Emit Unit} (hxy : differingInMarks.rel x y) :
    differingInMarks.rel
      ((formatter.emitter (style.detecting true)).around ancestors
        ⟨.box (.image url title) info children, place⟩ x)
      ((formatter.emitter (style.detecting false)).around ancestors
        ⟨.box (.image url title) info children, place⟩ y) := by
  have hvisitor (detects : Bool) : formatter.visitor (style.detecting detects) _ = _ :=
    formatter.visitor_detecting detects (Container.image url title).name
  intro marks
  rcases formatter.visitor_eq style (Container.image url title).name with hv | ⟨override, hv⟩
  · rw [Formatter.around_image (.inl ⟨(hvisitor true).trans hv, rfl⟩),
      Formatter.around_image (.inl ⟨(hvisitor false).trans hv, rfl⟩)]
    exact ⟨rfl, rfl, erases_image style info url title _ (.inl rfl)⟩
  · cases override with
    | image =>
      have hoff : ¬Override.marksIn (style.detecting false) url := by
        rw [Override.marksIn_detecting]
        simp
      rw [Formatter.around_image (.inr ⟨(hvisitor true).trans hv, rfl⟩),
        Formatter.around_image (.inr ⟨(hvisitor false).trans hv, rfl⟩), if_neg hoff]
      refine ⟨rfl, rfl, erases_image style info url title _ ?_⟩
      split
      · exact .inr rfl
      · exact .inl rfl
    | _ =>
      -- Any other override refuses the image at both visits.
      refine differingInMarks.rel_around formatter.differsInMarks_plain (fun phase marks => ?_) hxy
        marks
      rw [Formatter.emitter_visit, Formatter.emitter_visit, Node.kindName, hvisitor, hvisitor, hv]
      exact ⟨rfl, rfl, erases_nil⟩

/-- With detection on, a rendering has the end and the marks it has with detection off, and its
pieces write the same, and marks. -/
theorem Formatter.differsInMarks_emission (formatter : Formatter)
    (hempty : style.html.on .ignoreEmptyLinks = false) {doc : Node}
    (h : ∀ q ∈ doc.members none, ∀ a ∈ q.alignment?, a ∈ alignments) :
    (formatter.emission (style.detecting true) doc).DiffersInMarks
      (formatter.emission (style.detecting false) doc) := by
  have members : differingInMarks.AtMembers (formatter.emitter (style.detecting true))
      (formatter.emitter (style.detecting false)) (doc.members (parentKind? [])) :=
    { leaf := fun ancestors place kind info hm =>
        formatter.differsInMarks_visit hraw hempty (h _ hm) rfl fun _ => rfl
      box := fun ancestors place kind info children hm x y hxy => by
        cases hi : (Node.box kind info children).isImage with
        | false =>
          refine differingInMarks.rel_around formatter.differsInMarks_plain (fun phase => ?_) hxy
          exact formatter.differsInMarks_visit hraw hempty (h _ hm) hi fun hl => by cases hl
        | true =>
          cases kind with
          | image url title =>
            exact formatter.differsInMarks_image url title info children place hxy
          | _ => cases hi }
  exact members.rel_traverse doc [] (Occurrence.root doc 0).place {}

end InStep

/-- **The detection of placeholders only adds marks.** The page with detection off is the page with
detection on, read by `unmark`; and a document has no page for the same reason with both. -/
theorem format_detecting (formatter : Formatter) {style : Style} {doc : Node}
    (hraw : style.HidesRaw) (hempty : style.html.on .ignoreEmptyLinks = false)
    (h : ∀ q ∈ doc.members none, ∀ a ∈ q.alignment?, a ∈ alignments) :
    (formatter.format (style.detecting false) doc).1 =
      (formatter.format (style.detecting true) doc).1.map (unmark false) := by
  obtain ⟨ho, -, hp⟩ := formatter.differsInMarks_emission hraw hempty h
  have hread :
      unmark false (Page.empty.addAll (formatter.emission (style.detecting true) doc).pieces).html =
        (Page.empty.addAll (formatter.emission (style.detecting false) doc).pieces).html := by
    rw [Page.html_addAll, Page.html_addAll]
    exact unmark_eq ((reads_inert inert_empty).append (hp Page.empty.atLineStart).1)
  rw [formatter.format_eq, formatter.format_eq, Emission.html, Emission.html, ← ho, ← hread]
  cases (formatter.emission (style.detecting true) doc).outcome <;> rfl

/-- Marks of all three overrides, behind a value and before the text of an image, are taken away. -/
theorem format_detecting_standard :
    let doc : Node := .box .document {} [.box .paragraph {} [.leaf (.text "a %{b}") {},
      .box (.link "%{u}" (some "t")) {} [.leaf (.text "%{c}") {}],
      .box (.image "%{v}" none) {} [.leaf (.text "d") {}]]]
    let style : Style := {}
    let marked := "<p>a <span data-placeholder>%{b}</span>" ++
      "<a href=\"%%7Bu%7D\" title=\"t\" data-placeholder>%{c}</a>" ++
      "<img src=\"%%7Bv%7D\" data-placeholder alt=\"d\" /></p>\n"
    style.HidesRaw ∧ style.html.on .ignoreEmptyLinks = false ∧
      (∀ q ∈ doc.members none, ∀ a ∈ q.alignment?, a ∈ alignments) ∧
      (Formatter.standard.format (style.detecting true) doc).1 = .ok marked ∧
      (Formatter.standard.format (style.detecting false) doc).1 = .ok (unmark false marked) := by
  intro doc style marked
  have hraw : style.HidesRaw := .inr rfl
  have h : ∀ q ∈ doc.members none, ∀ a ∈ q.alignment?, a ∈ alignments := by decide
  have hon : (Formatter.standard.format (style.detecting true) doc).1 = .ok marked := by
    decide +kernel
  refine ⟨hraw, rfl, h, hon, ?_⟩
  rw [format_detecting Formatter.standard hraw rfl h, hon]
  rfl

/-- A title that looks like a mark: looked for behind every quote, the mark is found in the title as
well. -/
theorem unmark_anywhere_ne :
    let doc : Node := .box .document {} [.box .paragraph {}
      [.box (.link "u" (some " data-placeholder alt=")) {} [.leaf (.text "x") {}]]]
    let style : Style := {}
    style.HidesRaw ∧ style.html.on .ignoreEmptyLinks = false ∧ style.user.on .defaultHtml = false ∧
      (∀ q ∈ doc.members none, ∀ a ∈ q.alignment?, a ∈ alignments) ∧
      (Formatter.standard.format (style.detecting false) doc).1 ≠
        (Formatter.standard.format (style.detecting true) doc).1.map (unmark true) := by
  intro doc style
  refine ⟨.inr rfl, rfl, rfl, by decide, ?_⟩
  decide +kernel

end FlavoredMarkdown

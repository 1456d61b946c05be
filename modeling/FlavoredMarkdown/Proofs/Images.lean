import FlavoredMarkdown.Proofs.CommonMarkup
import FlavoredMarkdown.Proofs.Footnotes

/-!
# The images of a page

A page has one `<img` for each image that a rendering comes to. It comes to all images that are in no
other image, unless links are ignored for their label (`_is_empty_label`): such a link is written
without what is in it, and its label may hold images that stand for no text.

* An image that is nothing but its URL has no text, so a link around it has an empty label. The link
  is left out with the image, as `images_emptyLabel` shows.

Results:
* `Piece.occurrences_image`: `<img` stands in a page as often as pieces begin an image.
* `Formatter.imaging_visit`: only the first visit to an image begins one.
* `Node.countP_visited`: the visited nodes are those that visits come to and those in ignored links.
* **`Formatter.images_format`**: the images of a page are the visited ones that are in no ignored
  link.
-/

namespace FlavoredMarkdown

open Html Piece

/-! ## Images in a text -/

namespace Piece

/-- Whether a piece begins the tag of an image. -/
def beginsImage : Piece → Bool
  | .openTag name _ | .voidTag name _ => name == "img"
  | .openImage _ => true
  | _ => false

/-- What the tag of an image begins with. -/
def imageStart : List Char := '<' :: "img".toList

section Text

variable {v : Vocabulary}

/-- A tag begins like that of an image if it is one. -/
theorem imageName_prefix_iff {name : String} (h : name ∈ elementTags ++ voidTags) {tail : List Char}
    (ht : Unmark.Breaks tail) : "img".toList <+: name.toList ++ tail ↔ name = "img" := by
  have names : ∀ name ∈ elementTags ++ voidTags, "img".toList <+: name.toList → name = "img" := by
    decide
  constructor
  · intro hp
    refine names name h ?_
    have himg : ∀ c ∈ "img".toList, Unmark.isNameChar c = true := List.all_eq_true.mp (by decide)
    have hwhole := Unmark.takeWhile_name (Unmark.isName_tag h) ht
    obtain ⟨rest, hrest⟩ := hp
    rw [← hrest, List.takeWhile_append_of_pos himg] at hwhole
    exact ⟨_, hwhole⟩
  · rintro rfl
    exact List.prefix_append _ _

/-- The text adds the beginning of an image if it begins with one, whatever is behind it. -/
def AddsImage (begins : Bool) (s : List Char) : Prop :=
  ∀ rest, occurrencesIn imageStart (s ++ rest) = begins.toNat + occurrencesIn imageStart rest

theorem addsImage_of_not_mem {s : List Char} (h : '<' ∉ s) : AddsImage false s := by
  intro rest
  rw [imageStart, occurrencesIn_skip h, Bool.toNat_false, Nat.zero_add]

theorem addsImage_tag {tail : List Char} {begins : Bool} (hno : '<' ∉ tail)
    (h : ∀ rest, "img".toList <+: tail ++ rest ↔ begins = true) : AddsImage begins ('<' :: tail) := by
  intro rest
  have hiff : '<' :: "img".toList <+: '<' :: (tail ++ rest) ↔ begins = true :=
    List.cons_prefix_cons.trans ((and_iff_right rfl).trans (h rest))
  rw [imageStart, List.cons_append, occurrencesIn, occurrencesIn_skip hno]
  cases begins with
  | true => rw [if_pos (hiff.mpr rfl), Bool.toNat_true]
  | false => rw [if_neg (mt hiff.mp Bool.false_ne_true), Bool.toNat_false]

/-- What is behind the name of a tag does not go on with the name, so the tag is that of an image if
its name is. -/
theorem addsImage_named {name : String} (hn : name ∈ elementTags ++ voidTags)
    {attributes : List Attribute} (ha : SoundAttributes v attributes) (ending : List Char)
    (he : ∀ rest, Unmark.Breaks (ending ++ rest)) (hno : '<' ∉ ending) :
    AddsImage (name == "img")
      ('<' :: (name.toList ++ ((Attribute.writtenAll attributes).toList ++ ending))) := by
  refine addsImage_tag ?_ fun rest => ?_
  · rw [List.mem_append, List.mem_append]
    have hattributes := (freeOfAngles_attributes ha).1
    exact not_or.mpr ⟨(freeOfAngles_name hn).1, not_or.mpr ⟨hattributes, hno⟩⟩
  · have hbreaks := Unmark.breaks_writtenAll attributes (he rest)
    rw [List.append_assoc, List.append_assoc, imageName_prefix_iff hn hbreaks, beq_iff_eq]

/-- **A sound piece adds the beginning of an image if it begins one.** -/
theorem addsImage_written {p : Piece} (h : p.Sound v) :
    AddsImage p.beginsImage p.written.toList := by
  cases p with
  | openTag name attributes =>
    have htext : (Piece.openTag name attributes).written.toList =
        '<' :: (name.toList ++ ((Attribute.writtenAll attributes).toList ++ ['>'])) := by
      simp [written]
    rw [htext]
    exact addsImage_named h.1 h.2 ['>'] (fun _ => Unmark.breaks_cons (by decide)) (by decide)
  | voidTag name attributes =>
    have htext : (Piece.voidTag name attributes).written.toList =
        '<' :: (name.toList ++ ((Attribute.writtenAll attributes).toList ++ " />".toList)) := by
      simp [written]
    rw [htext]
    exact addsImage_named (List.mem_append_right _ h.1) h.2 " />".toList
      (fun _ => Unmark.breaks_cons (by decide)) (by decide)
  | openImage attributes =>
    have htext : (Piece.openImage attributes).written.toList =
        '<' :: ("img".toList ++ ((Attribute.writtenAll attributes).toList ++ " alt=\"".toList)) := by
      simp [written]
    rw [htext]
    exact addsImage_named (by decide) h.2 " alt=\"".toList
      (fun _ => Unmark.breaks_cons (by decide)) (by decide)
  | closeTag name =>
    have htext : (Piece.closeTag name).written.toList = '<' :: '/' :: (name.toList ++ ['>']) := by
      simp [written]
    have hno : '<' ∉ '/' :: (name.toList ++ ['>']) := by
      simp [(freeOfAngles_name (List.mem_append_left _ h)).1]
    rw [htext]
    refine addsImage_tag hno fun rest => iff_of_false (fun hp => ?_) Bool.false_ne_true
    have hslash : 'i' = '/' := (List.cons_prefix_cons.mp hp).1
    exact absurd hslash (by decide)
  | omission =>
    have htext : Piece.omission.written.toList = '<' :: "!-- raw HTML omitted -->".toList := rfl
    rw [htext]
    refine addsImage_tag (by decide) fun rest => iff_of_false (fun hp => ?_) Bool.false_ne_true
    have hbang : 'i' = '!' := (List.cons_prefix_cons.mp hp).1
    exact absurd hbang (by decide)
  | closeImage title =>
    refine addsImage_of_not_mem ?_
    cases title with
    | none => decide
    | some title => simp [written, not_mem_of_inert (inert_escape title)]
  | text s => exact addsImage_of_not_mem (not_mem_of_inert (inert_escape s))
  | verbatim html => exact addsImage_of_not_mem (not_mem_of_inert h)
  | freshLine | newline => exact addsImage_of_not_mem (by decide)

/-- **`<img` stands in a page as often as pieces begin an image.** -/
theorem occurrences_image {pieces : List Piece} (h : AllSound v pieces) (fresh : Bool) :
    occurrences "<img" (textFrom fresh pieces) = pieces.countP beginsImage := by
  rw [occurrences, show "<img".toList = imageStart from rfl]
  induction pieces generalizing fresh with
  | nil => rfl
  | cons p rest ih =>
    obtain ⟨hp, hrest⟩ := allSound_cons.mp h
    have hadds := addsImage_written hp
    have hone : (if p.beginsImage = true then 1 else 0) = p.beginsImage.toNat := by
      cases p.beginsImage <;> rfl
    rw [textFrom_cons, String.toList_append, List.countP_cons, ← ih hrest (p.lineAfter fresh), hone,
      Nat.add_comm]
    cases p with
    | freshLine =>
      have hline : '<' ∉ (lineText fresh .freshLine).toList := by cases fresh <;> decide
      exact addsImage_of_not_mem hline _
    | _ => exact hadds _

end Text

end Piece

/-! ## Images that are written -/

section Visits

variable (style : Style) (ancestors : List Occurrence) (phase : Phase)

/-- A common piece begins an image only if it is one of its pieces. -/
theorem beginsImage_of_common {p : Piece} (h : p.isCommon = true) (hs : p.Sound ⟨true, false⟩) :
    p.beginsImage = false := by
  cases p with
  | openTag name attributes | voidTag name attributes =>
    have hname := (Bool.and_eq_true_iff.mp (Bool.and_eq_true_iff.mp h).1).1
    rwa [bne, Bool.not_eq_true'] at hname
  | openImage attributes => cases hs.1
  | _ => rfl

/-- Lists and task items begin no image. -/
theorem Default.imageless_visit {o : Occurrence} (h : o.node.hasTaskMarkup = true)
    (marks : Marks) :
    (Default.visit style ancestors marks o phase).pieces.any beginsImage = false := by
  obtain ⟨n, place⟩ := o
  rcases Node.cases_of_hasTaskMarkup h with
    ⟨ordered, start, tight, isTaskList, info, children, rfl⟩ | ⟨symbol, info, children, rfl⟩
  · cases phase <;> cases ordered <;> rfl
  · cases phase with
    | leaving => rfl
    | entering =>
      simp only [Default.visit, Default.containerVisit, Default.writes, Default.taskOpening]
      split <;> rfl

/-- With overrides too, lists and task items begin no image. -/
theorem Formatter.imageless_visit (formatter : Formatter) {o : Occurrence}
    (h : o.node.hasTaskMarkup = true) (marks : Marks) :
    ((formatter.emitter style).visit ancestors o phase marks).pieces.any beginsImage = false := by
  have hd := Default.imageless_visit style ancestors phase h marks
  rw [Formatter.emitter_visit]
  rcases formatter.visitor_eq style o.node.kindName with hv | ⟨override, hv⟩ <;> rw [hv]
  · exact hd
  · simp only [Visitor.emit, Visited.emission]
    unfold Override.visit
    split
    · next he =>
      rw [he] at h
      cases h
    · next he =>
      rw [he] at h
      cases h
    · next he =>
      rw [he] at h
      cases h
    · next ordered start tight isTaskList info children he =>
      unfold Override.visitList
      split
      · exact hd
      · cases ordered <;> rfl
    · next symbol info children he =>
      unfold Override.visitTaskItem
      repeat' split
      · exact hd
      · exact hd
      all_goals rfl
    · rfl

variable {style ancestors phase}

/-- An image is begun when it is entered. -/
theorem Formatter.begins_image {formatter : Formatter} (hf : formatter.IsBuiltIn) (url : String)
    (title : Option String) (info : Info) (children : List Node) (place : List Nat)
    (marks : Marks) :
    ((formatter.emitter style).visit ancestors ⟨.box (.image url title) info children, place⟩ phase
      marks).pieces.countP beginsImage = if phase = .entering then 1 else 0 := by
  have hopening (tags : List Attribute) :
      (Default.imageOpening style info url tags).countP beginsImage = 1 := by
    unfold Default.imageOpening
    split <;> rfl
  have hclosing : (Default.imageClosing style title).countP beginsImage = 0 := by
    unfold Default.imageClosing
    repeat' split
    all_goals rfl
  have hdefault : (Default.visit style ancestors marks ⟨.box (.image url title) info children, place⟩
      phase).pieces.countP beginsImage = if phase = .entering then 1 else 0 := by
    cases phase with
    | entering => exact hopening []
    | leaving => exact hclosing
  rw [Formatter.emitter_visit]
  rcases Formatter.visitor_builtIn hf style (.box (.image url title) info children) with
    hv | ⟨override, ho, hv⟩ <;> rw [hv]
  · exact hdefault
  · cases ho
    simp only [Visitor.emit, Visited.emission, Override.visit, Override.visitImage]
    split
    · exact hdefault
    · cases phase with
      | entering => exact hopening [Override.mark]
      | leaving => exact hclosing

/-- As many images are begun as are entered. -/
def imaging : Law where
  Holds _ steps _ := (steps.flatMap Step.pieces).countP beginsImage =
    (steps.filterMap Step.entered?).countP fun q => q.node.isImage
  nil _ := rfl
  append ha hb := by
    rw [List.flatMap_append, List.countP_append, List.filterMap_append, List.countP_append, ha, hb]

/-- **Only the first visit to an image begins one.** -/
theorem Formatter.imaging_visit {formatter : Formatter} (hf : formatter.IsBuiltIn)
    (hraw : style.HidesRaw) {members : List Member}
    (ha : ∀ q ∈ members, ∀ a ∈ q.alignment?, a ∈ alignments) :
    imaging.ObeyedAt formatter style members where
  label _ _ := rfl
  visit {ancestors o phase marks marks' pieces signal} hm hleaf h := by
    have hpieces : ((formatter.emitter style).visit ancestors o phase marks).pieces = pieces :=
      congrArg Emission.pieces h
    show (pieces ++ []).countP beginsImage = _
    rw [List.append_nil, ← hpieces]
    cases hi : o.node.isImage with
    | true =>
      obtain ⟨n, place⟩ := o
      obtain ⟨url, title, info, children, rfl⟩ := Node.exists_of_isImage hi
      rw [Formatter.begins_image hf]
      cases phase <;> rfl
    | false =>
      have hnone : ((formatter.emitter style).visit ancestors o phase marks).pieces.countP
          beginsImage = 0 := by
        rw [List.countP_eq_zero]
        intro p hp
        rw [Bool.not_eq_true]
        cases ht : o.node.hasTaskMarkup with
        | true =>
          have hno := formatter.imageless_visit style ancestors phase ht marks
          exact Bool.eq_false_iff.mpr (List.any_eq_false.mp hno p hp)
        | false =>
          have hcommon := formatter.common_visit style ancestors marks ht phase
          exact beginsImage_of_common (List.all_eq_true.mp hcommon p hp)
            (formatter.sound_imageless hraw ancestors (ha _ hm) hi phase marks p hp)
      rw [hnone]
      cases phase with
      | entering => simp [Step.entered?, hi]
      | leaving => rfl

end Visits

/-! ## The images of a document -/

/-- The nodes below a link that a rendering would visit if the link were not ignored. -/
def Member.visitedBelow (q : Member) : List Member :=
  Node.visitedAll q.node.container? q.node.children

namespace Node

section Counts

variable (formatter : Formatter) (style : Style) (P : Member → Bool)

mutual

/-- The visited nodes are those that visits come to, and those in the links that are ignored. -/
theorem countP_visited : ∀ (n : Node) (parent : Option Container),
    (n.visited parent).countP P =
      (n.reached (formatter.answer style) parent).countP P +
        (((n.reached (formatter.answer style) parent).filter (formatter.ignores style)).flatMap
          Member.visitedBelow).countP P
  | .leaf kind info, parent => by
    have hignores : formatter.ignores style ⟨parent, .leaf kind info⟩ = false := by
      simp [Formatter.ignores, Style.ignores]
    rw [visited_leaf, reached_leaf, List.filter_cons_of_neg (by simp [hignores])]
    rfl
  | .box kind info children, parent => by
    have hbelow := countP_visitedAll children (some kind)
    generalize hq : Member.mk parent (.box kind info children) = q
    have hnode : q.node = .box kind info children := hq ▸ rfl
    rw [visited_box, reached_box, hq]
    cases hi : (Node.box kind info children).isImage with
    | true =>
      have hanswer : formatter.answer style q = .plain := if_pos (hnode ▸ hi)
      have hignores : ¬formatter.ignores style q = true := by
        obtain ⟨url, title, _, _, he⟩ := exists_of_isImage hi
        simp [Formatter.ignores, Style.ignores, hnode, he]
      rw [hanswer, if_pos rfl, if_neg (show ¬Signal.plain = .html by decide),
        List.filter_cons_of_neg hignores]
      rfl
    | false =>
      have hno : ¬q.node.isImage = true := by simp [hnode, hi]
      rw [if_neg Bool.false_ne_true]
      by_cases hignores : formatter.ignores style q = true
      · -- the link stays, and all that is in it is left out
        have hanswer : formatter.answer style q = .skip := (if_neg hno).trans (if_pos hignores)
        rw [hanswer, if_neg (show ¬Signal.skip = .html by decide), List.filter_cons_of_pos hignores,
          List.filter_nil, List.flatMap_singleton, Member.visitedBelow, hnode, container?,
          Node.children, List.countP_cons, List.countP_singleton]
        exact Nat.add_comm _ _
      · have hanswer : formatter.answer style q = .html := (if_neg hno).trans (if_neg hignores)
        rw [hanswer, if_pos rfl, List.filter_cons_of_neg hignores, List.countP_cons,
          List.countP_cons, hbelow]
        exact Nat.add_right_comm _ _ _

theorem countP_visitedAll : ∀ (nodes : List Node) (parent : Option Container),
    (visitedAll parent nodes).countP P =
      (reachedAll (formatter.answer style) parent nodes).countP P +
        (((reachedAll (formatter.answer style) parent nodes).filter
          (formatter.ignores style)).flatMap Member.visitedBelow).countP P
  | [], parent => by
    rw [visitedAll, reachedAll]
    rfl
  | n :: rest, parent => by
    rw [visitedAll, reachedAll, List.countP_append, List.countP_append, List.filter_append,
      List.flatMap_append, List.countP_append, countP_visited n, countP_visitedAll rest]
    omega

end

end Counts

end Node

/-- **The images of a page** are those that the rendering comes to, and all visited images but those
in ignored links. No image is missing unless links are ignored for their label. -/
theorem Formatter.images_format {formatter : Formatter} (hf : formatter.IsBuiltIn) {style : Style}
    (hraw : style.HidesRaw) {doc : Node} (hk : ∀ q ∈ doc.members none, q.node.isForeign = false)
    (ha : ∀ q ∈ doc.members none, ∀ a ∈ q.alignment?, a ∈ alignments) :
    let reached := doc.reached (formatter.answer style) none
    let images (members : List Member) := members.countP fun q => q.node.isImage
    (style.HasAnchorText → ∃ html, (formatter.format style doc).1 = .ok html) ∧
      ∀ html, (formatter.format style doc).1 = .ok html →
        occurrences "<img" html = images reached ∧
          images (doc.visited none) = occurrences "<img" html +
            images ((reached.filter (formatter.ignores style)).flatMap Member.visitedBelow) ∧
          (style.html.on .ignoreEmptyLinks = false →
            occurrences "<img" html = images (doc.visited none)) := by
  intro reached images
  refine ⟨fun hid => ⟨_, Formatter.format_ok hf hid hk⟩, fun html hhtml => ?_⟩
  obtain ⟨steps, marks, ht, hpage⟩ := Formatter.transcript_of_format hhtml
  have hentered : steps.filterMap Step.entered? = reached := Formatter.entered_reached ht
  have hsound : AllSound .full (steps.flatMap Step.pieces) := Formatter.sound_transcript hraw ha ht
  have hbegun : (steps.flatMap Step.pieces).countP beginsImage = images reached := by
    rw [← parentKind?_nil] at ha
    rw [← hentered]
    exact Law.ObeyedAt.holds_traverse (Formatter.imaging_visit hf hraw ha) ht
  have hcount : occurrences "<img" html = images reached := by
    rw [hpage, Step.html_page, occurrences_image hsound, hbegun]
  refine ⟨hcount, ?_, fun hempty => ?_⟩
  · rw [hcount]
    exact Node.countP_visited formatter style _ doc none
  · rw [hcount]
    exact congrArg images (Node.reached_eq_visited (formatter.answer_html_iff hempty) doc none)

/-- An image beside a text in a link, an image in an image, one in a quote, and one that is all there
is in a link, which is ignored with it. -/
theorem Formatter.images_format_links :
    let image (url : String) (children : List Node) : Node := .box (.image url none) {} children
    let doc : Node := .box .document {} [.box .paragraph {}
        [.box (.link "u" none) {} [.leaf (.text "a") {}, image "i.png" [image "j.png" []]],
          .box (.link "v" none) {} [.box .emphasis {} [image "k.png" []]]],
      .box .blockQuote {} [.box .paragraph {} [image "l.png" [.leaf (.text "b") {}]]]]
    let style : Style :=
      { html := { on := fun f => [.ignoreEmptyLinks, .figureWithCaption].contains f } }
    Formatter.standard.IsBuiltIn ∧ style.HidesRaw ∧
      (∀ q ∈ doc.members none, q.node.isForeign = false) ∧
      (∀ q ∈ doc.members none, ∀ a ∈ q.alignment?, a ∈ alignments) ∧ style.HasAnchorText ∧
      ∃ html, (Formatter.standard.format style doc).1 = .ok html ∧
        occurrences "<img" html = 2 ∧
        ((doc.visited none).countP fun q => q.node.isImage) = 3 := by
  intro image doc style
  have hf : Formatter.standard.IsBuiltIn := .inr rfl
  have hraw : style.HidesRaw := .inr rfl
  have hk : ∀ q ∈ doc.members none, q.node.isForeign = false := by decide
  have ha : ∀ q ∈ doc.members none, ∀ a ∈ q.alignment?, a ∈ alignments := by decide
  have hid : style.HasAnchorText := .inl rfl
  obtain ⟨hpage, himages⟩ := Formatter.images_format hf hraw hk ha
  obtain ⟨html, hhtml⟩ := hpage hid
  refine ⟨hf, hraw, hk, ha, hid, html, hhtml, (himages html hhtml).1.trans ?_, ?_⟩
  · decide +kernel
  · decide

/-- An image without a text, alone in a link: the link is left out with it when empty links are
ignored. -/
theorem Formatter.images_emptyLabel :
    let doc : Node := .box .document {} [.box .paragraph {}
      [.box (.link "u" none) {} [.box (.image "i.png" none) {} []]]]
    let style : Style := { html := { on := fun f => f == .ignoreEmptyLinks } }
    ((doc.visited none).countP fun q => q.node.isImage) = 1 ∧
      ∀ formatter ∈ [Formatter.plain, Formatter.standard],
        (formatter.format style doc).1 = .ok "<p>[](u)</p>\n" ∧
          occurrences "<img" "<p>[](u)</p>\n" = 0 := by
  refine ⟨by decide, ?_⟩
  decide +kernel

end FlavoredMarkdown

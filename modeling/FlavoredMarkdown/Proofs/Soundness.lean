import FlavoredMarkdown.Proofs.Emission
import FlavoredMarkdown.Proofs.Grammar

/-!
# Only sound pieces are written

Every tag that a formatter writes has a name of its own set, attributes of its own and inert
attribute values, and all text goes through the escaping. What is not sound is raw HTML that is
trusted, and an alignment that is none of the three. The default markup never marks a placeholder,
and only an image has the pieces of an image.

Results:
* `Default.sound_visit`, `Override.sound_visit`: what each visit writes is sound.
* **`Formatter.sound_emission`**: everything that a rendering writes is sound, also when it fails.
-/

namespace FlavoredMarkdown

open Html

/-- Raw HTML does not get into the page: it is left out or written as text. -/
def Style.HidesRaw (style : Style) : Prop :=
  style.html.on .escape = true ∨ style.html.on .trusted = false

/-- The alignments that a table cell can have. -/
def alignments : List String := ["left", "center", "right"]

theorem inert_of_mem_alignments {a : String} (h : a ∈ alignments) : Inert a := by
  revert a
  decide

/-! ## Attributes -/

variable {v : Vocabulary}

theorem inert_span (s : Span) : Inert s.text := by
  have colon {t : String} (ht : Inert t) (i : Int) : Inert (t ++ ":" ++ i.repr) :=
    inert_append (inert_append ht (by decide)) (inert_int i)
  have hstart : Inert (s.startLine.repr ++ ":" ++ s.startColumn.repr) := colon (inert_int _) _
  have hend := inert_append (inert_append hstart (b := "-") (by decide)) (inert_int s.endLine)
  exact colon hend s.endColumn

theorem sound_position (style : Style) (info : Info) : SoundAttributes v (style.position info) := by
  unfold Style.position
  repeat' split
  all_goals simp +decide [inert_span]

theorem titleAttribute_cases (title : Option String) :
    titleAttribute title = [] ∨ ∃ t, titleAttribute title = [⟨"title", some (escape t)⟩] := by
  unfold titleAttribute
  cases title with
  | none => exact .inl rfl
  | some t =>
    simp only
    split
    · exact .inl rfl
    · exact .inr ⟨t, rfl⟩

theorem sound_title (title : Option String) : SoundAttributes v (titleAttribute title) := by
  rcases titleAttribute_cases title with h | ⟨t, h⟩ <;> rw [h] <;> simp +decide [inert_escape]

theorem inert_urlText (style : Style) (rewriter : Setting) (url : String) :
    Inert (style.urlText rewriter url) := by
  unfold Style.urlText
  split
  · exact inert_empty
  · exact inert_href _

theorem headingTag_mem (level : HeadingLevel) : s!"h{level.val}" ∈ elementTags := by
  have names : ∀ n < 7, 1 ≤ n → s!"h{n}" ∈ elementTags := by decide
  exact names level.val (by have := level.le_six; omega) level.one_le

/-! ## The default markup -/

namespace Default

theorem sound_rawHtml {style : Style} (h : style.HidesRaw) (content : String) :
    (rawHtml style content).Sound v := by
  unfold rawHtml
  rcases h with h | h
  · simp [h, Piece.Sound]
  · rw [h]
    split <;> simp [Piece.Sound]

theorem sound_codeBlock (style : Style) (info : Info) (content : String) (fence : Option String) :
    Piece.AllSound v (codeBlock style info content fence) := by
  have hl (language : List Char) :
      Inert ("language-" ++ escape (String.ofList language)) :=
    inert_append (by decide) (inert_escape _)
  unfold codeBlock
  generalize fenceWords fence = words
  obtain ⟨language, rest⟩ := words
  simp only
  repeat' split
  all_goals simp +decide [Piece.Sound, sound_position, inert_escape, hl, classAttribute]

theorem sound_footnoteReference (identifier : String) (index : Int) :
    Piece.AllSound v (footnoteReference identifier index) := by
  have hh : Inert ("#fn-" ++ escape identifier) := inert_append (by decide) (inert_escape _)
  have hi : Inert ("fnref-" ++ escape identifier) := inert_append (by decide) (inert_escape _)
  simp +decide [footnoteReference, Piece.Sound, classAttribute, hh, hi]

theorem sound_leafPieces {style : Style} (h : style.HidesRaw) {info : Info} {kind : Leaf}
    {pieces : List Piece} (hp : leafPieces? style info kind = some pieces) :
    Piece.AllSound v pieces := by
  cases kind with
  | other kind => cases hp
  | codeBlock content fence =>
    cases hp
    exact sound_codeBlock style info content fence
  | footnoteReference identifier index =>
    cases hp
    exact sound_footnoteReference identifier index
  | htmlBlock content =>
    cases hp
    simpa [Piece.Sound] using sound_rawHtml h content
  | htmlInline content =>
    cases hp
    simpa using sound_rawHtml h content
  | lineBreak soft =>
    simp only [leafPieces?] at hp
    split at hp <;> cases hp <;> simp +decide [Piece.Sound, sound_position]
  | _ =>
    cases hp
    simp +decide [Piece.Sound, sound_position]

theorem sound_backlink (identifier : String) (index : Int) :
    Piece.AllSound v (backlink identifier index) := by
  have hh : Inert ("#fnref-" ++ escape identifier) := inert_append (by decide) (inert_escape _)
  have hl : Inert ("Back to reference " ++ index.repr) :=
    inert_append (by decide) (inert_int _)
  simp +decide [backlink, Piece.Sound, classAttribute, hh, hl, inert_int]

theorem listTag_mem (ordered : Bool) : listTag ordered ∈ elementTags := by
  cases ordered <;> decide

theorem sound_listOpening (style : Style) (info : Info) (ordered : Bool) (start : Int)
    {listClass : List Attribute} (h : SoundAttributes v listClass) :
    Piece.AllSound v (listOpening style info ordered start listClass) := by
  have ht := listTag_mem ordered
  unfold listOpening
  simp only
  split <;> simp +decide [Piece.Sound, sound_position, h, ht, inert_int]

theorem sound_taskItemClass (style : Style) : SoundAttributes v (taskItemClass style) := by
  unfold taskItemClass
  split <;> simp +decide [classAttribute]

theorem sound_checkboxClass (style : Style) : SoundAttributes v (checkboxClass style) := by
  unfold checkboxClass
  split <;> simp +decide [classAttribute]

theorem sound_customTask (style : Style) (info : Info) (symbol : Char) :
    Piece.AllSound v (customTask style info symbol) := by
  simp +decide [customTask, Piece.Sound, sound_position, sound_taskItemClass]

theorem sound_taskOpening (style : Style) (info : Info) (symbol : Option Char) :
    Piece.AllSound v (taskOpening style info symbol) := by
  unfold taskOpening
  split
  · exact sound_customTask style info _
  · simp only
    split <;> simp +decide [Piece.Sound, sound_position, sound_taskItemClass, sound_checkboxClass]

theorem sound_linkOpening (style : Style) (info : Info) (url : String) (title : Option String)
    {marks : List Attribute} (h : SoundAttributes v marks) :
    Piece.AllSound v (linkOpening style info url title marks) := by
  simp +decide [linkOpening, Piece.Sound, sound_position, sound_title, inert_urlText, h]

theorem sound_imageOpening (hv : v.images = true) (style : Style) (info : Info) (url : String)
    {marks : List Attribute} (h : SoundAttributes v marks) :
    Piece.AllSound v (imageOpening style info url marks) := by
  unfold imageOpening
  split <;> simp +decide [Piece.Sound, sound_position, inert_urlText, h, hv]

theorem sound_imageClosing (hv : v.images = true) (style : Style) (title : Option String) :
    Piece.AllSound v (imageClosing style title) := by
  unfold imageClosing
  repeat' split
  all_goals simp +decide [Piece.Sound, hv]

/-- What is written before an image and behind it has no marks. -/
theorem imageOpening_eq (style : Style) (info : Info) (url : String) :
    ∃ front, Piece.AllSound .basic front ∧ ∀ marks, imageOpening style info url marks =
      front ++ [.openImage (style.position info ++
        ⟨"src", some (style.urlText style.html.imageUrlRewriter url)⟩ :: marks)] := by
  cases hfig : style.html.on .figureWithCaption with
  | false => exact ⟨[], Piece.allSound_nil, fun marks => by simp [imageOpening, hfig]⟩
  | true =>
    refine ⟨[.openTag "figure" []], by simp +decide [Piece.Sound], fun marks => ?_⟩
    simp [imageOpening, hfig]

theorem imageClosing_eq (style : Style) (title : Option String) :
    ∃ back, Piece.AllSound .basic back ∧
      imageClosing style title = .closeImage (nonEmpty? title) :: back := by
  refine ⟨_, ?_, rfl⟩
  repeat' split
  all_goals simp +decide [Piece.Sound]

theorem sound_heading (style : Style) (info : Info) (level : HeadingLevel) (children : List Node)
    (marks : Marks) (phase : Phase) :
    Piece.AllSound v (heading style info level children marks phase).pieces := by
  have ht := headingTag_mem level
  have hh (anchor : String) : Inert ("#" ++ escape anchor) :=
    inert_append (by decide) (inert_escape _)
  unfold heading
  generalize s!"h{level.val}" = name at ht ⊢
  cases phase with
  | leaving => simpa [writes, Piece.Sound] using ht
  | entering =>
    simp only
    repeat' split
    all_goals
      simp +decide [writes, Piece.Sound, sound_position, classAttribute, ht, hh, inert_escape]

theorem sound_paragraph (style : Style) (ancestors : List Occurrence) (marks : Marks)
    (o : Occurrence) (phase : Phase) :
    Piece.AllSound v (paragraph style ancestors marks o phase).pieces := by
  cases phase <;> unfold paragraph <;> simp only <;> repeat' split
  all_goals simp +decide [writes, Piece.Sound, sound_position, sound_backlink]

theorem sound_footnoteDefinition (style : Style) (marks : Marks) (o : Occurrence)
    (identifier : String) (index : Int) (phase : Phase) :
    Piece.AllSound v (footnoteDefinition style marks o identifier index phase).pieces := by
  have hi : Inert ("fn-" ++ escape identifier) := inert_append (by decide) (inert_escape _)
  cases phase <;> unfold footnoteDefinition <;> simp only <;> split
  all_goals simp +decide [writes, Piece.Sound, sound_position, sound_backlink, classAttribute, hi]

theorem sound_link (style : Style) (ancestors : List Occurrence) (marks : Marks) (info : Info)
    (url : String) (title : Option String) (children : List Node) (phase : Phase) :
    Piece.AllSound v (link style ancestors marks info url title children phase).pieces := by
  unfold link
  split
  · exact Piece.allSound_nil
  · split
    · simp only
      split <;> simp [Piece.Sound]
    · cases phase with
      | entering => exact sound_linkOpening style info url title soundAttributes_nil
      | leaving => simp +decide [writes, Piece.Sound]

theorem sound_image (hv : v.images = true) (style : Style) (marks : Marks) (info : Info)
    (url : String) (title : Option String) (phase : Phase) :
    Piece.AllSound v (image style marks info url title phase).pieces := by
  cases phase with
  | entering => exact sound_imageOpening hv style info url soundAttributes_nil
  | leaving => exact sound_imageClosing hv style title

theorem sound_tableRow (style : Style) (ancestors : List Occurrence) (marks : Marks)
    (o : Occurrence) (isHeader : Bool) (phase : Phase) :
    Piece.AllSound v (tableRow style ancestors marks o isHeader phase).pieces := by
  cases phase <;> unfold tableRow <;> simp only <;> repeat' split
  all_goals simp +decide [writes, Piece.Sound, sound_position]

theorem cellTag_mem (ancestors : List Occurrence) : cellTag ancestors ∈ elementTags := by
  unfold cellTag
  split <;> decide

theorem sound_wrapped (marks : Marks) {name : String} {attributes : List Attribute}
    (hn : name ∈ elementTags) (ha : SoundAttributes v attributes) (phase : Phase) :
    Piece.AllSound v (wrapped marks name attributes phase).pieces := by
  cases phase <;> simp [wrapped, writes, Piece.Sound, hn, ha]

theorem sound_tableCell (style : Style) (ancestors : List Occurrence) (marks : Marks)
    (o : Occurrence) (info : Info) (children : List Node) {alignment : Option String}
    (h : ∀ a ∈ alignment, a ∈ alignments) (phase : Phase) :
    Piece.AllSound v
      (containerVisit style ancestors marks o info children (.tableCell alignment)
        phase).pieces := by
  have ht := cellTag_mem ancestors
  cases phase with
  | leaving => simpa [containerVisit, writes, Piece.Sound] using ht
  | entering =>
    simp only [containerVisit]
    split
    · next a hs =>
      have ha : Inert a := inert_of_mem_alignments (h a (Option.filter_eq_some_iff.mp hs).1)
      simp +decide [writes, Piece.Sound, sound_position, ht, ha]
    · simp [writes, Piece.Sound, sound_position, ht]

theorem sound_containerVisit (style : Style) (ancestors : List Occurrence) (marks : Marks)
    (o : Occurrence) (info : Info) (children : List Node) {kind : Container}
    (h : ∀ a ∈ (Member.mk (parentKind? ancestors) (.box kind info children)).alignment?,
      a ∈ alignments)
    (hv : (Node.box kind info children).isImage = true → v.images = true) (phase : Phase) :
    Piece.AllSound v (containerVisit style ancestors marks o info children kind phase).pieces := by
  cases kind with
  | document =>
    simp only [containerVisit]
    split <;> simp +decide [writes, Piece.Sound]
  | heading level => exact sound_heading style info level children marks phase
  | paragraph => exact sound_paragraph style ancestors marks o phase
  | blockQuote =>
    cases phase with
    | leaving => simp +decide [containerVisit, writes, Piece.Sound]
    | entering =>
      simp only [containerVisit]
      split <;> simp +decide [writes, Piece.Sound, sound_position, classAttribute]
  | list ordered start tight isTaskList =>
    cases phase with
    | leaving => simpa [containerVisit, writes, Piece.Sound] using listTag_mem ordered
    | entering =>
      refine sound_listOpening style info ordered start ?_
      split <;> simp +decide [classAttribute]
  | taskItem symbol =>
    cases phase with
    | leaving => simp +decide [containerVisit, writes, Piece.Sound]
    | entering => exact sound_taskOpening style info symbol
  | table hasHeader =>
    cases phase with
    | entering => simp +decide [containerVisit, writes, Piece.Sound, sound_position]
    | leaving =>
      simp only [containerVisit]
      split <;> simp +decide [writes, Piece.Sound]
  | tableRow isHeader => exact sound_tableRow style ancestors marks o isHeader phase
  | tableCell alignment => exact sound_tableCell style ancestors marks o info children h phase
  | footnoteDefinition identifier index =>
    exact sound_footnoteDefinition style marks o identifier index phase
  | link url title => exact sound_link style ancestors marks info url title children phase
  | image url title => exact sound_image (hv rfl) style marks info url title phase
  | listItem | definitionList | definitionTerm | definitionDescription =>
    cases phase <;> simp +decide [containerVisit, writes, Piece.Sound, sound_position]
  | emphasis | strong | strikethrough | underline | superscript | subscript =>
    exact sound_wrapped marks (by decide) soundAttributes_nil phase
  | spoiler => exact sound_wrapped marks (by decide) (by simp +decide [classAttribute]) phase
  | other kind => exact Piece.allSound_nil

/-- What the default markup writes at a visit is sound. -/
theorem sound_visit {style : Style} (hraw : style.HidesRaw) (ancestors : List Occurrence)
    (marks : Marks) {o : Occurrence}
    (h : ∀ a ∈ (Member.mk (parentKind? ancestors) o.node).alignment?, a ∈ alignments)
    (hv : o.node.isImage = true → v.images = true) (phase : Phase) :
    Piece.AllSound v (visit style ancestors marks o phase).pieces := by
  obtain ⟨n, place⟩ := o
  cases n with
  | leaf kind info =>
    simp only [visit]
    split
    · next pieces hp => exact sound_leafPieces hraw hp
    · exact Piece.allSound_nil
  | box kind info children =>
    exact sound_containerVisit style ancestors marks _ info children h hv phase

end Default

/-! ## The overrides -/

namespace Override

/-- Whether an override is for placeholders. -/
def forPlaceholders : Override → Bool
  | text | link | image => true
  | list | taskItem => false

theorem sound_mark (hm : v.marks = true) : SoundAttributes v [mark] := by
  simp +decide [mark, hm]

theorem sound_itemPieces (hm : v.marks = true) (item : Placeholder.Item) :
    Piece.AllSound v (itemPieces item) := by
  cases item <;> simp +decide [itemPieces, Piece.Sound, mark, hm]

theorem sound_inapplicableOpening (style : Style) (info : Info) :
    Piece.AllSound v (inapplicableOpening style info) := by
  unfold inapplicableOpening
  simp only
  split <;> simp +decide [Piece.Sound, sound_position, Default.sound_checkboxClass, classAttribute]

section Visits

variable {style : Style} {ancestors : List Occurrence} {marks : Marks} {o : Occurrence}
  {phase : Phase} (hd : Piece.AllSound v (Default.visit style ancestors marks o phase).pieces)

include hd

theorem sound_visitText (hm : v.marks = true) (content : String) :
    Piece.AllSound v (visitText style ancestors marks o content phase).pieces := by
  unfold visitText
  simp only
  split
  · exact hd
  · split
    · exact hd
    · cases phase with
      | leaving => exact Piece.allSound_nil
      | entering =>
        intro p hp
        obtain ⟨item, -, hi⟩ := List.mem_flatMap.mp hp
        exact sound_itemPieces hm item p hi

theorem sound_visitLink (hm : v.marks = true) (info : Info) (url : String)
    (title : Option String) :
    Piece.AllSound v (visitLink style ancestors marks o info url title phase).pieces := by
  unfold visitLink
  split
  · exact hd
  · split
    · exact Piece.allSound_nil
    · cases phase with
      | leaving => simp +decide [Piece.Sound]
      | entering => exact Default.sound_linkOpening style info url title (sound_mark hm)

theorem sound_visitImage (hm : v.marks = true) (hv : v.images = true) (info : Info)
    (url : String) (title : Option String) :
    Piece.AllSound v (visitImage style ancestors marks o info url title phase).pieces := by
  unfold visitImage
  split
  · exact hd
  · cases phase with
    | leaving => exact Default.sound_imageClosing hv style title
    | entering => exact Default.sound_imageOpening hv style info url (sound_mark hm)

theorem sound_visitList (info : Info) (ordered : Bool) (start : Int) (isTaskList : Bool) :
    Piece.AllSound v
      (visitList style ancestors marks o info ordered start isTaskList phase).pieces := by
  unfold visitList
  split
  · exact hd
  · refine Default.sound_listOpening style info ordered start ?_
    split <;> simp +decide [classAttribute]

theorem sound_visitTaskItem (info : Info) (symbol : Option Char) :
    Piece.AllSound v (visitTaskItem style ancestors marks o info symbol phase).pieces := by
  unfold visitTaskItem
  split
  · exact hd
  · split
    · exact hd
    · cases phase with
      | leaving => simp +decide [Piece.Sound]
      | entering =>
        simp only
        split
        · exact sound_inapplicableOpening style info
        · exact Default.sound_customTask style info _

end Visits

/-- What an override writes at a visit is sound. -/
theorem sound_visit {style : Style} (hraw : style.HidesRaw) (ancestors : List Occurrence)
    (marks : Marks) {o : Occurrence}
    (h : ∀ a ∈ (Member.mk (parentKind? ancestors) o.node).alignment?, a ∈ alignments)
    (hv : o.node.isImage = true → v.images = true) (phase : Phase) (override : Override)
    (hm : override.forPlaceholders = true → v.marks = true) :
    Piece.AllSound v (override.visit style ancestors marks o phase).pieces := by
  have hd := Default.sound_visit hraw ancestors marks h hv phase
  unfold visit
  split
  · next content info he => exact sound_visitText hd (hm rfl) content
  · next url title info children he => exact sound_visitLink hd (hm rfl) info url title
  · next url title info children he =>
    exact sound_visitImage hd (hm rfl) (hv (by rw [he]; rfl)) info url title
  · next ordered start tight isTaskList info children he =>
    exact sound_visitList hd info ordered start isTaskList
  · next symbol info children he => exact sound_visitTaskItem hd info symbol
  · exact Piece.allSound_nil

end Override

/-! ## Whole renderings -/

theorem Formatter.sound_visitor (formatter : Formatter) {style : Style} (hraw : style.HidesRaw)
    (kind : String) (ancestors : List Occurrence) (marks : Marks) {o : Occurrence}
    (h : ∀ a ∈ (Member.mk (parentKind? ancestors) o.node).alignment?, a ∈ alignments)
    (phase : Phase) :
    Piece.AllSound .full (formatter.visitor style kind style ancestors marks o phase).pieces := by
  rcases formatter.visitor_eq style kind with hv | ⟨override, hv⟩ <;> rw [hv]
  · exact Default.sound_visit hraw ancestors marks h (fun _ => rfl) phase
  · exact override.sound_visit hraw ancestors marks h (fun _ => rfl) phase fun _ => rfl

/-- What is written at a node that is no image is sound, and no piece of an image. -/
theorem Formatter.sound_imageless (formatter : Formatter) {style : Style} (hraw : style.HidesRaw)
    (ancestors : List Occurrence) {o : Occurrence}
    (h : ∀ a ∈ (Member.mk (parentKind? ancestors) o.node).alignment?, a ∈ alignments)
    (hi : o.node.isImage = false) (phase : Phase) (marks : Marks) :
    Piece.AllSound ⟨true, false⟩
      ((formatter.emitter style).visit ancestors o phase marks).pieces := by
  have hno : o.node.isImage = true → false = true := fun hn => hi.symm.trans hn
  rw [Formatter.emitter_visit]
  rcases formatter.visitor_eq style o.node.kindName with hv | ⟨override, hv⟩ <;> rw [hv]
  · exact Default.sound_visit hraw ancestors marks h hno phase
  · exact override.sound_visit hraw ancestors marks h hno phase fun _ => rfl

/-- Emissions with a property of all their pieces. -/
def emitting (P : Piece → Prop) : Correspondence Emit Emit where
  rel x _ := ∀ marks, ∀ p ∈ (x marks).pieces, P p
  rel_pure _ _ := by simp [Emit.pure_apply]
  rel_bind {_ _ x _ f _} hx hf marks := by
    rw [Emit.bind_apply]
    unfold Emission.andThen
    split
    · next a _ =>
      intro p hp
      rcases List.mem_append.mp hp with h | h
      · exact hx marks p h
      · exact hf a _ p h
    · exact hx marks

/-- **Everything that a rendering writes is sound**, also when it fails. -/
theorem Formatter.sound_emission (formatter : Formatter) {style : Style} {doc : Node}
    (hraw : style.HidesRaw) (h : ∀ q ∈ doc.members none, ∀ a ∈ q.alignment?, a ∈ alignments) :
    Piece.AllSound .full (formatter.emission style doc).pieces := by
  have visits : (emitting (Piece.Sound .full)).AtMembers (formatter.emitter style)
      (formatter.emitter style) (doc.members (parentKind? [])) :=
    Correspondence.atMembers_of_visits (fun s marks p hp => by
      rw [List.mem_singleton.mp hp]
      trivial)
      fun ancestors o phase hm marks =>
        formatter.sound_visitor hraw _ ancestors marks (h _ hm) phase
  exact visits.rel_traverse doc [] (Occurrence.root doc 0).place {}

end FlavoredMarkdown

import FlavoredMarkdown.Proofs.Transcript

/-!
# Markup that images and tasks have to themselves

Tags of images and of boxes, the attributes of boxes and the classes of task lists are the markup of
three kinds of node. All other markup is common. So what a page has of images and tasks is due to its
images, its lists and its task items.

* An image is opened by a piece of its own, and no tag that is written in one piece has its name.
* Of a class only the value as a whole counts: the class of a task is not that of a task list.

Results:
* **`Formatter.common_visit`**: visits to nodes that are no lists and no task items write common pieces.
-/

namespace FlavoredMarkdown

/-- The classes that a task list can have. -/
def taskListClasses : List String := ["task-list", "contains-task-list"]

/-- Whether an attribute has nothing to do with tasks. -/
def Attribute.isCommon (a : Attribute) : Bool :=
  a.name != "checked" && a.name != "data-inapplicable" &&
    (a.name != "class" || a.value.all fun value => !taskListClasses.contains value)

namespace Piece

/-- Whether a piece has nothing to do with tasks, and is no whole tag of an image. -/
def isCommon : Piece → Bool
  | .openTag name attributes | .voidTag name attributes =>
    name != "img" && name != "input" && attributes.all Attribute.isCommon
  | .openImage attributes => attributes.all Attribute.isCommon
  | _ => true

end Piece

/-- Whether the markup of a node may be that of a task list. -/
def Node.hasTaskMarkup : Node → Bool
  | .box (.list ..) .. | .box (.taskItem _) .. => true
  | _ => false

theorem Node.cases_of_hasTaskMarkup {n : Node} (h : n.hasTaskMarkup = true) :
    (∃ ordered start tight isTaskList info children,
        n = .box (.list ordered start tight isTaskList) info children) ∨
      ∃ symbol info children, n = .box (.taskItem symbol) info children := by
  unfold Node.hasTaskMarkup at h
  split at h
  · exact .inl ⟨_, _, _, _, _, _, rfl⟩
  · exact .inr ⟨_, _, _, rfl⟩
  · cases h

section Common

variable (style : Style) (info : Info)

theorem common_position : (style.position info).all Attribute.isCommon = true := by
  unfold Style.position
  repeat' split
  all_goals simp +decide [Attribute.isCommon]

theorem common_title (title : Option String) :
    (titleAttribute title).all Attribute.isCommon = true := by
  unfold titleAttribute
  repeat' split
  all_goals simp +decide [Attribute.isCommon]

theorem common_language (word : String) :
    (classAttribute ("language-" ++ word)).isCommon = true := by
  have hfirst : ("language-" ++ word).toList.head? = some 'l' := by simp
  have others : ∀ name ∈ taskListClasses, name.toList.head? ≠ some 'l' := by decide
  have hnone : "language-" ++ word ∉ taskListClasses := fun hm => others _ hm hfirst
  simp [classAttribute, Attribute.isCommon, hnone]

theorem common_rawHtml (content : String) : (Default.rawHtml style content).isCommon = true := by
  unfold Default.rawHtml
  repeat' split
  all_goals rfl

theorem common_codeBlock (content : String) (fence : Option String) :
    (Default.codeBlock style info content fence).all Piece.isCommon = true := by
  have hmeta (value : Option String) : (Attribute.mk "data-meta" value).isCommon = true := rfl
  have hlang (value : Option String) : (Attribute.mk "lang" value).isCommon = true := rfl
  unfold Default.codeBlock
  generalize Default.fenceWords fence = words
  obtain ⟨language, rest⟩ := words
  simp only
  repeat' split
  all_goals
    simp +decide [Piece.isCommon, hmeta, hlang, common_position, common_language]

theorem common_linkOpening (url : String) (title : Option String) {tags : List Attribute}
    (h : tags.all Attribute.isCommon = true) :
    (Default.linkOpening style info url title tags).all Piece.isCommon = true := by
  simp +decide [Default.linkOpening, Piece.isCommon, Attribute.isCommon, common_position,
    common_title, h]

theorem common_imageOpening (url : String) {tags : List Attribute}
    (h : tags.all Attribute.isCommon = true) :
    (Default.imageOpening style info url tags).all Piece.isCommon = true := by
  unfold Default.imageOpening
  split <;> simp +decide [Piece.isCommon, Attribute.isCommon, common_position, h]

theorem common_imageClosing (title : Option String) :
    (Default.imageClosing style title).all Piece.isCommon = true := by
  unfold Default.imageClosing
  repeat' split
  all_goals simp +decide [Piece.isCommon]

theorem common_backlink (identifier : String) (index : Int) :
    (Default.backlink identifier index).all Piece.isCommon = true := by
  simp +decide [Default.backlink, Piece.isCommon, Attribute.isCommon, classAttribute]

theorem common_heading (level : HeadingLevel) (children : List Node) (marks : Marks)
    (phase : Phase) :
    (Default.heading style info level children marks phase).pieces.all Piece.isCommon = true := by
  have htag : (s!"h{level.val}" != "img" && s!"h{level.val}" != "input") = true := by
    have names : ∀ n < 7, (s!"h{n}" != "img" && s!"h{n}" != "input") = true := by decide
    exact names level.val (by have := level.le_six; omega)
  unfold Default.heading
  generalize s!"h{level.val}" = name at htag ⊢
  cases phase with
  | leaving => rfl
  | entering =>
    have hopening : [Piece.freshLine, .openTag name (style.position info)].all Piece.isCommon =
        true := by
      simp [Piece.isCommon, htag, common_position]
    simp only
    repeat' split
    · exact hopening
    · rw [Default.writes, List.all_append, hopening]
      simp +decide [Piece.isCommon, Attribute.isCommon, classAttribute]
    · exact hopening

end Common

section Visits

variable (style : Style) (ancestors : List Occurrence) (marks : Marks)

theorem Default.common_leaf {kind : Leaf} {info : Info} {pieces : List Piece}
    (hp : Default.leafPieces? style info kind = some pieces) :
    pieces.all Piece.isCommon = true := by
  cases kind with
  | other kind => cases hp
  | codeBlock content fence =>
    cases hp
    exact common_codeBlock style info content fence
  | htmlBlock content =>
    cases hp
    have hfresh : Piece.freshLine.isCommon = true := rfl
    simp [hfresh, common_rawHtml]
  | htmlInline content =>
    cases hp
    simp [common_rawHtml]
  | footnoteReference identifier index =>
    cases hp
    simp +decide [Default.footnoteReference, Piece.isCommon, Attribute.isCommon, classAttribute]
  | lineBreak soft =>
    simp only [Default.leafPieces?] at hp
    split at hp <;> cases hp <;> simp +decide [Piece.isCommon, common_position]
  | _ =>
    cases hp
    simp +decide [Piece.isCommon, Attribute.isCommon, common_position]

theorem Default.common_visit {o : Occurrence} (h : o.node.hasTaskMarkup = false) (phase : Phase) :
    (Default.visit style ancestors marks o phase).pieces.all Piece.isCommon = true := by
  obtain ⟨n, place⟩ := o
  cases n with
  | leaf kind info =>
    simp only [Default.visit]
    split
    · next pieces hp => exact Default.common_leaf style hp
    · rfl
  | box kind info children =>
    simp only [Default.visit]
    cases kind with
    | list | taskItem => cases h
    | document =>
      simp only [Default.containerVisit]
      split <;> rfl
    | heading level => exact common_heading style info level children marks phase
    | paragraph =>
      cases phase <;> simp only [Default.containerVisit, Default.paragraph] <;> repeat' split
      all_goals
        simp +decide [Default.writes, Piece.isCommon, common_position, common_backlink, Node.info]
    | footnoteDefinition identifier index =>
      cases phase <;> simp only [Default.containerVisit, Default.footnoteDefinition] <;> split
      all_goals
        simp +decide [Default.writes, Piece.isCommon, Attribute.isCommon, classAttribute,
          common_position, common_backlink, Node.info]
    | link url title =>
      simp only [Default.containerVisit, Default.link]
      split
      · rfl
      · split
        · cases phase <;> rfl
        · cases phase with
          | entering => exact common_linkOpening style info url title rfl
          | leaving => rfl
    | image url title =>
      cases phase with
      | entering => exact common_imageOpening style info url rfl
      | leaving => exact common_imageClosing style title
    | blockQuote =>
      cases phase with
      | entering =>
        simp only [Default.containerVisit, Default.writes]
        split <;> simp +decide [Piece.isCommon, Attribute.isCommon, classAttribute, common_position]
      | leaving => rfl
    | table hasHeader =>
      cases phase with
      | entering =>
        simp +decide [Default.containerVisit, Default.writes, Piece.isCommon, common_position]
      | leaving =>
        simp only [Default.containerVisit, Default.writes]
        split <;> rfl
    | tableRow isHeader =>
      cases phase with
      | entering =>
        simp only [Default.containerVisit, Default.tableRow, Default.writes]
        repeat' split
        all_goals simp +decide [Piece.isCommon, common_position, Node.info]
      | leaving => cases isHeader <;> rfl
    | tableCell alignment =>
      have hcell : (Default.cellTag ancestors != "img" && Default.cellTag ancestors != "input") =
          true := by
        unfold Default.cellTag
        split <;> rfl
      cases phase with
      | entering =>
        simp only [Default.containerVisit, Default.writes]
        split <;> simp +decide [Piece.isCommon, hcell, common_position, Attribute.isCommon]
      | leaving => rfl
    | listItem =>
      cases phase with
      | entering =>
        simp +decide [Default.containerVisit, Default.writes, Piece.isCommon, common_position]
      | leaving => rfl
    | _ => cases phase <;> rfl

theorem Override.common_visit (override : Override) {o : Occurrence}
    (h : o.node.hasTaskMarkup = false) (phase : Phase) :
    (override.visit style ancestors marks o phase).pieces.all Piece.isCommon = true := by
  have hd := Default.common_visit style ancestors marks h phase
  unfold Override.visit
  split
  · next content info he =>
    unfold Override.visitText
    simp only
    repeat' split
    · exact hd
    · exact hd
    · rw [List.all_flatMap, List.all_eq_true]
      intro item _
      cases item <;> rfl
    · rfl
  · next url title info children he =>
    unfold Override.visitLink
    repeat' split
    · exact hd
    · rfl
    · exact common_linkOpening style info url title rfl
    · rfl
  · next url title info children he =>
    unfold Override.visitImage
    repeat' split
    · exact hd
    · exact common_imageClosing style title
    · exact common_imageOpening style info url rfl
  · next he =>
    rw [he] at h
    cases h
  · next he =>
    rw [he] at h
    cases h
  · rfl

/-- **Visits to nodes that are no lists and no task items write common pieces.** -/
theorem Formatter.common_visit (formatter : Formatter) {o : Occurrence}
    (h : o.node.hasTaskMarkup = false) (phase : Phase) :
    ((formatter.emitter style).visit ancestors o phase marks).pieces.all Piece.isCommon = true := by
  rw [Formatter.emitter_visit]
  rcases formatter.visitor_eq style o.node.kindName with hv | ⟨override, hv⟩ <;> rw [hv]
  · exact Default.common_visit style ancestors marks h phase
  · exact Override.common_visit style ancestors marks override h phase

end Visits

end FlavoredMarkdown

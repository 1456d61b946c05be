import FlavoredMarkdown.Proofs.Answers
import FlavoredMarkdown.Proofs.Footnotes
import FlavoredMarkdown.Proofs.Unplace

/-!
# Source positions only add attributes

Whether source positions are wanted is asked in one place, `render_sourcepos`, where a visit takes the
position of its node as an attribute. Nothing else on a page hangs on it, so a page without its
positions is the page that is made without them.

* Two visits are compared at each node: they leave the same marks and end alike, and their pieces differ
  in the position of the node only (`Placed`).
* A position is written when its node is entered, and not when it is left. Some visits leave it out, as
  that of a paragraph without a tag of its own.

Results:
* `Default.placed_visit`, `Override.placed_visit`: a visit is the same but for the position of its node.
* `Formatter.emission_placing`: so is what a rendering emits.
* `Formatter.positions_transcript`: the positions that are written are those of visited nodes, in order.
* **`Formatter.format_placing`**: without its positions, a page is the page made without them.
-/

namespace FlavoredMarkdown

open Html

/-- The style with source positions or without them, and nothing else changed. -/
def Style.placing (style : Style) (wanted : Bool) : Style :=
  { style with
    html := { style.html with on := fun f => if f = .sourcepos then wanted else style.html.on f } }

/-- The positions that a visit may write: that of its node, when the node is entered. -/
def Style.positionAt (style : Style) (info : Info) : Phase → List Attribute
  | .entering => style.position info
  | .leaving => []

/-- The pieces `bs` are `as` without their positions, which are among those given. -/
structure Placed (positions : List Attribute) (as bs : List Piece) : Prop where
  unplaced : as.map Piece.unplaced = bs
  positions : (as.flatMap Piece.positions).Sublist positions

/-- The visit `w` is `v` without its positions, which are among those given. -/
structure Visited.Placed (positions : List Attribute) (v w : Visited) : Prop where
  pieces : FlavoredMarkdown.Placed positions v.pieces w.pieces
  marks : w.marks = v.marks
  outcome : w.outcome = v.outcome

section Attributes

variable (style : Style) (info : Info) (wanted : Bool)

@[simp] theorem Style.on_placing {f : Flag} (h : f ≠ .sourcepos) :
    (style.placing wanted).html.on f = style.html.on f := if_neg h

theorem Style.placing_placing (first : Bool) :
    (style.placing first).placing wanted = style.placing wanted := by
  have hflags : ((style.placing first).placing wanted).html.on = (style.placing wanted).html.on := by
    funext f
    by_cases h : f = .sourcepos
    · rw [h]
      rfl
    · rw [Style.on_placing _ _ h, Style.on_placing _ _ h, Style.on_placing _ _ h]
  exact congrArg (fun on => ({ style with html := { style.html with on } } : Style)) hflags

@[simp] theorem Default.taskItemClass_placing :
    Default.taskItemClass (style.placing wanted) = Default.taskItemClass style := rfl

@[simp] theorem Default.checkboxClass_placing :
    Default.checkboxClass (style.placing wanted) = Default.checkboxClass style := rfl

theorem Override.marksIn_placing (s : String) :
    Override.marksIn (style.placing wanted) s = Override.marksIn style s := rfl

@[simp] theorem Style.position_placing_false : (style.placing false).position info = [] := rfl

@[simp] theorem Style.unplaced_position : Attribute.unplaced (style.position info) = [] := by
  unfold position
  repeat' split
  all_goals rfl

@[simp] theorem Style.positions_position :
    Attribute.positions (style.position info) = style.position info := by
  unfold position
  repeat' split
  all_goals rfl

@[simp] theorem positions_title (title : Option String) :
    Attribute.positions (titleAttribute title) = [] := by
  rcases titleAttribute_cases title with h | ⟨t, h⟩ <;> rw [h] <;> rfl

@[simp] theorem Default.positions_taskItemClass :
    Attribute.positions (Default.taskItemClass style) = [] := by
  unfold Default.taskItemClass
  split <;> rfl

@[simp] theorem Default.positions_checkboxClass :
    Attribute.positions (Default.checkboxClass style) = [] := by
  unfold Default.checkboxClass
  split <;> rfl

end Attributes

section Placed

variable {positions : List Attribute}

/-- Pieces that have no positions. -/
theorem placed_self {pieces : List Piece} (h : pieces.flatMap Piece.positions = []) :
    Placed positions pieces pieces where
  unplaced := by
    have hkept : ∀ p ∈ pieces, p.unplaced = id p := fun p hp =>
      Piece.unplaced_eq (List.flatMap_eq_nil_iff.mp h p hp)
    rw [List.map_congr_left hkept, List.map_id]
  positions := h ▸ List.nil_sublist _

theorem Placed.append {as bs cs ds : List Piece} (h : Placed positions as bs)
    (hc : Placed [] cs ds) : Placed positions (as ++ cs) (bs ++ ds) where
  unplaced := by rw [List.map_append, h.unplaced, hc.unplaced]
  positions := by
    rw [List.flatMap_append, List.sublist_nil.mp hc.positions, List.append_nil]
    exact h.positions

end Placed

/-! ## The default markup -/

namespace Default

variable (style : Style) (info : Info)

theorem placed_codeBlock (content : String) (fence : Option String) :
    Placed (style.position info) (codeBlock style info content fence)
      (codeBlock (style.placing false) info content fence) := by
  unfold codeBlock
  generalize fenceWords fence = words
  obtain ⟨language, rest⟩ := words
  simp only [style.on_placing false, ne_eq, reduceCtorEq, not_false_eq_true]
  repeat' split
  all_goals constructor <;> simp [classAttribute]

theorem positions_rawHtml (content : String) :
    (rawHtml style content).positions = [] := by
  unfold rawHtml
  repeat' split
  all_goals rfl

theorem placed_listOpening (ordered : Bool) (start : Int) {listClass : List Attribute}
    (h : Attribute.positions listClass = []) :
    Placed (style.position info) (listOpening style info ordered start listClass)
      (listOpening (style.placing false) info ordered start listClass) := by
  unfold listOpening
  simp only
  split <;> constructor <;> simp [h, Attribute.unplaced_eq h]

theorem placed_customTask (symbol : Char) :
    Placed (style.position info) (customTask style info symbol)
      (customTask (style.placing false) info symbol) := by
  constructor <;> simp [customTask, Attribute.unplaced_eq]

theorem placed_taskOpening (symbol : Option Char) :
    Placed (style.position info) (taskOpening style info symbol)
      (taskOpening (style.placing false) info symbol) := by
  unfold taskOpening
  split
  · exact placed_customTask style info _
  · simp only
    split <;> constructor <;> simp [Attribute.unplaced_eq]

theorem placed_linkOpening (url : String) (title : Option String) {tags : List Attribute}
    (h : Attribute.positions tags = []) :
    Placed (style.position info) (linkOpening style info url title tags)
      (linkOpening (style.placing false) info url title tags) := by
  have hurl : (style.placing false).urlText (style.placing false).html.linkUrlRewriter url =
    style.urlText style.html.linkUrlRewriter url := rfl
  constructor <;> simp [linkOpening, hurl, Attribute.unplaced_eq, h]

theorem placed_imageOpening (url : String) {tags : List Attribute}
    (h : Attribute.positions tags = []) :
    Placed (style.position info) (imageOpening style info url tags)
      (imageOpening (style.placing false) info url tags) := by
  have hurl : (style.placing false).urlText (style.placing false).html.imageUrlRewriter url =
    style.urlText style.html.imageUrlRewriter url := rfl
  unfold imageOpening
  rw [hurl, style.on_placing false (by decide)]
  split <;> constructor <;> simp [Attribute.unplaced_eq, h]

theorem placed_imageClosing (title : Option String) :
    Placed [] (imageClosing style title) (imageClosing (style.placing false) title) := by
  have hsame : imageClosing (style.placing false) title = imageClosing style title := rfl
  rw [hsame]
  refine placed_self ?_
  unfold imageClosing
  repeat' split
  all_goals rfl

variable (marks : Marks)

theorem placed_heading (level : HeadingLevel) (children : List Node) (phase : Phase) :
    (heading style info level children marks phase).Placed (style.positionAt info phase)
      (heading (style.placing false) info level children marks phase) := by
  unfold heading
  generalize s!"h{level.val}" = name
  cases phase with
  | leaving => exact ⟨placed_self rfl, rfl, rfl⟩
  | entering =>
    have hopening : Placed (style.position info)
        [.freshLine, .openTag name (style.position info)] [.freshLine, .openTag name []] := by
      constructor <;> simp
    have hid : (style.placing false).html.headerIds = style.html.headerIds := rfl
    simp only [hid]
    split
    · exact ⟨hopening, rfl, rfl⟩
    · split
      · exact ⟨hopening.append (placed_self rfl), rfl, rfl⟩
      · exact ⟨hopening, rfl, rfl⟩

theorem placed_paragraph (ancestors : List Occurrence) (o : Occurrence) (phase : Phase) :
    (paragraph style ancestors marks o phase).Placed (style.positionAt o.node.info phase)
      (paragraph (style.placing false) ancestors marks o phase) := by
  unfold paragraph
  cases phase with
  | entering =>
    simp only
    split
    · exact ⟨placed_self rfl, rfl, rfl⟩
    · refine ⟨?_, rfl, rfl⟩
      constructor <;> simp [writes, Style.positionAt]
  | leaving =>
    simp only
    repeat' split
    all_goals exact ⟨placed_self rfl, rfl, rfl⟩

theorem placed_footnoteDefinition (o : Occurrence) (identifier : String) (index : Int)
    (phase : Phase) :
    (footnoteDefinition style marks o identifier index phase).Placed
      (style.positionAt o.node.info phase)
      (footnoteDefinition (style.placing false) marks o identifier index phase) := by
  unfold footnoteDefinition
  cases phase with
  | entering =>
    simp only
    split <;> refine ⟨?_, rfl, rfl⟩ <;> constructor <;>
      simp [writes, Style.positionAt, classAttribute]
  | leaving =>
    simp only
    split <;> exact ⟨placed_self rfl, rfl, rfl⟩

theorem placed_link (ancestors : List Occurrence) (url : String) (title : Option String)
    (children : List Node) (phase : Phase) :
    (link style ancestors marks info url title children phase).Placed (style.positionAt info phase)
      (link (style.placing false) ancestors marks info url title children phase) := by
  unfold link
  simp only [style.on_placing false, ne_eq, reduceCtorEq, not_false_eq_true]
  split
  · exact ⟨placed_self rfl, rfl, rfl⟩
  · split
    · cases phase <;> exact ⟨placed_self rfl, rfl, rfl⟩
    · cases phase with
      | entering => exact ⟨placed_linkOpening style info url title rfl, rfl, rfl⟩
      | leaving => exact ⟨placed_self rfl, rfl, rfl⟩

theorem placed_image (url : String) (title : Option String) (phase : Phase) :
    (image style marks info url title phase).Placed (style.positionAt info phase)
      (image (style.placing false) marks info url title phase) := by
  cases phase with
  | entering => exact ⟨placed_imageOpening style info url rfl, rfl, rfl⟩
  | leaving => exact ⟨placed_imageClosing style title, rfl, rfl⟩

theorem placed_tableRow (ancestors : List Occurrence) (o : Occurrence) (isHeader : Bool)
    (phase : Phase) :
    (tableRow style ancestors marks o isHeader phase).Placed (style.positionAt o.node.info phase)
      (tableRow (style.placing false) ancestors marks o isHeader phase) := by
  unfold tableRow
  cases phase with
  | entering =>
    simp only
    repeat' split
    all_goals
      refine ⟨?_, rfl, rfl⟩
      constructor <;> simp [writes, Style.positionAt]
  | leaving => cases isHeader <;> exact ⟨placed_self rfl, rfl, rfl⟩

theorem placed_wrapped (name : String) {attributes : List Attribute}
    (h : Attribute.positions attributes = []) (positions : List Attribute) (phase : Phase) :
    (wrapped marks name attributes phase).Placed positions
      (wrapped marks name attributes phase) := by
  cases phase with
  | entering => exact ⟨placed_self (by simp [wrapped, writes, h]), rfl, rfl⟩
  | leaving => exact ⟨placed_self rfl, rfl, rfl⟩

theorem placed_containerVisit (ancestors : List Occurrence) (kind : Container)
    (children : List Node) (place : List Nat) (phase : Phase) :
    let o : Occurrence := ⟨.box kind info children, place⟩
    (containerVisit style ancestors marks o info children kind phase).Placed
      (style.positionAt info phase)
      (containerVisit (style.placing false) ancestors marks o info children kind phase) := by
  intro o
  cases kind with
  | document =>
    simp only [containerVisit]
    split <;> exact ⟨placed_self rfl, rfl, rfl⟩
  | heading level => exact placed_heading style info marks level children phase
  | paragraph => exact placed_paragraph style marks ancestors o phase
  | blockQuote =>
    cases phase with
    | leaving => exact ⟨placed_self rfl, rfl, rfl⟩
    | entering =>
      simp only [containerVisit]
      split <;> refine ⟨?_, rfl, rfl⟩ <;> constructor <;>
        simp [writes, Style.positionAt, classAttribute]
  | list ordered start tight isTaskList =>
    cases phase with
    | leaving => exact ⟨placed_self rfl, rfl, rfl⟩
    | entering =>
      refine ⟨placed_listOpening style info ordered start ?_, rfl, rfl⟩
      split <;> rfl
  | taskItem symbol =>
    cases phase with
    | leaving => exact ⟨placed_self rfl, rfl, rfl⟩
    | entering => exact ⟨placed_taskOpening style info symbol, rfl, rfl⟩
  | tableRow isHeader => exact placed_tableRow style marks ancestors o isHeader phase
  | footnoteDefinition identifier index =>
    exact placed_footnoteDefinition style marks o identifier index phase
  | link url title => exact placed_link style info marks ancestors url title children phase
  | image url title => exact placed_image style info marks url title phase
  | listItem =>
    cases phase with
    | leaving => exact ⟨placed_self rfl, rfl, rfl⟩
    | entering =>
      refine ⟨?_, rfl, rfl⟩
      constructor <;> simp [containerVisit, writes, Style.positionAt]
  | table hasHeader =>
    cases phase with
    | leaving =>
      simp only [containerVisit]
      split <;> exact ⟨placed_self rfl, rfl, rfl⟩
    | entering =>
      refine ⟨?_, rfl, rfl⟩
      constructor <;> simp [containerVisit, writes, Style.positionAt]
  | tableCell alignment =>
    cases phase with
    | leaving => exact ⟨placed_self rfl, rfl, rfl⟩
    | entering =>
      simp only [containerVisit]
      split <;> refine ⟨?_, rfl, rfl⟩ <;> constructor <;> simp [writes, Style.positionAt]
  | definitionList | definitionTerm | definitionDescription =>
    cases phase <;> exact ⟨placed_self rfl, rfl, rfl⟩
  | emphasis | strong | strikethrough | underline | superscript | subscript | spoiler =>
    exact placed_wrapped marks _ rfl _ phase
  | other kind => exact ⟨placed_self rfl, rfl, rfl⟩

theorem placed_leafVisit (ancestors : List Occurrence) (kind : Leaf) (place : List Nat) :
    (visit style ancestors marks ⟨.leaf kind info, place⟩ .entering).Placed (style.position info)
      (visit (style.placing false) ancestors marks ⟨.leaf kind info, place⟩ .entering) := by
  cases kind with
  | codeBlock content fence => exact ⟨placed_codeBlock style info content fence, rfl, rfl⟩
  | htmlBlock content | htmlInline content =>
    refine ⟨placed_self ?_, rfl, rfl⟩
    simp only [visit, leafPieces?, writes, List.flatMap_cons, positions_rawHtml]
    rfl
  | lineBreak soft =>
    simp only [visit, leafPieces?, style.on_placing false, ne_eq, reduceCtorEq, not_false_eq_true]
    by_cases hbreak : (!soft || style.html.on .hardbreaks) = true
    · rw [if_pos hbreak, if_pos hbreak]
      refine ⟨?_, rfl, rfl⟩
      constructor <;> simp [writes]
    · rw [if_neg hbreak, if_neg hbreak]
      exact ⟨placed_self rfl, rfl, rfl⟩
  | thematicBreak | code content =>
    refine ⟨?_, rfl, rfl⟩
    constructor <;> simp [visit, leafPieces?, writes]
  | _ => exact ⟨placed_self rfl, rfl, rfl⟩

/-- **The default markup is the same but for the position of the node.** A leaf is entered and not left.
-/
theorem placed_visit (ancestors : List Occurrence) (o : Occurrence) (phase : Phase)
    (hleaf : phase = .leaving → o.node.isLeaf = false) :
    (visit style ancestors marks o phase).Placed (style.positionAt o.node.info phase)
      (visit (style.placing false) ancestors marks o phase) := by
  obtain ⟨n, place⟩ := o
  cases n with
  | leaf kind info =>
    cases phase with
    | leaving => cases hleaf rfl
    | entering => exact placed_leafVisit style info marks ancestors kind place
  | box kind info children =>
    exact placed_containerVisit style info marks ancestors kind children place phase

end Default

/-! ## The overrides -/

namespace Override

section Visits

variable {style : Style} {ancestors : List Occurrence} {marks : Marks} {o : Occurrence}
  {phase : Phase} {info : Info}
  (hd : (Default.visit style ancestors marks o phase).Placed (style.positionAt info phase)
    (Default.visit (style.placing false) ancestors marks o phase))

include hd

theorem placed_visitText (content : String) :
    (visitText style ancestors marks o content phase).Placed (style.positionAt info phase)
      (visitText (style.placing false) ancestors marks o content phase) := by
  unfold visitText
  simp only
  rw [marksIn_placing]
  split
  · exact hd
  · split
    · exact ⟨hd.pieces, hd.marks, hd.outcome⟩
    · cases phase with
      | leaving => exact ⟨placed_self rfl, rfl, rfl⟩
      | entering =>
        refine ⟨placed_self ?_, rfl, rfl⟩
        rw [List.flatMap_assoc, List.flatMap_eq_nil_iff]
        intro item _
        cases item <;> rfl

theorem placed_visitLink (url : String) (title : Option String) :
    (visitLink style ancestors marks o info url title phase).Placed (style.positionAt info phase)
      (visitLink (style.placing false) ancestors marks o info url title phase) := by
  unfold visitLink
  rw [marksIn_placing, style.on_placing false (by decide)]
  split
  · exact hd
  · split
    · exact ⟨placed_self rfl, rfl, rfl⟩
    · cases phase with
      | leaving => exact ⟨placed_self rfl, rfl, rfl⟩
      | entering => exact ⟨Default.placed_linkOpening style info url title rfl, rfl, rfl⟩

theorem placed_visitImage (url : String) (title : Option String) :
    (visitImage style ancestors marks o info url title phase).Placed (style.positionAt info phase)
      (visitImage (style.placing false) ancestors marks o info url title phase) := by
  unfold visitImage
  rw [marksIn_placing]
  split
  · exact hd
  · cases phase with
    | leaving => exact ⟨Default.placed_imageClosing style title, rfl, rfl⟩
    | entering => exact ⟨Default.placed_imageOpening style info url rfl, rfl, rfl⟩

theorem placed_visitList (ordered : Bool) (start : Int) (isTaskList : Bool) :
    (visitList style ancestors marks o info ordered start isTaskList phase).Placed
      (style.positionAt info phase)
      (visitList (style.placing false) ancestors marks o info ordered start isTaskList phase) := by
  unfold visitList
  simp only [style.on_placing false, ne_eq, reduceCtorEq, not_false_eq_true]
  split
  · exact hd
  · next h =>
    cases phase with
    | leaving => simp at h
    | entering =>
      refine ⟨Default.placed_listOpening style info ordered start ?_, rfl, rfl⟩
      split <;> rfl

theorem placed_visitTaskItem (symbol : Option Char) :
    (visitTaskItem style ancestors marks o info symbol phase).Placed (style.positionAt info phase)
      (visitTaskItem (style.placing false) ancestors marks o info symbol phase) := by
  have hflag : (style.placing false).user = style.user := rfl
  unfold visitTaskItem
  simp only [hflag]
  split
  · exact hd
  · split
    · exact hd
    · cases phase with
      | leaving => exact ⟨placed_self rfl, rfl, rfl⟩
      | entering =>
        simp only
        split
        · refine ⟨?_, rfl, rfl⟩
          constructor <;>
            simp [inapplicableOpening, classAttribute, Attribute.unplaced_eq, Style.positionAt]
        · exact ⟨Default.placed_customTask style info _, rfl, rfl⟩

end Visits

/-- So is what an override writes. -/
theorem placed_visit (override : Override) (style : Style) (ancestors : List Occurrence)
    (marks : Marks) (o : Occurrence) (phase : Phase)
    (hleaf : phase = .leaving → o.node.isLeaf = false) :
    (override.visit style ancestors marks o phase).Placed (style.positionAt o.node.info phase)
      (override.visit (style.placing false) ancestors marks o phase) := by
  have hd := Default.placed_visit style marks ancestors o phase hleaf
  unfold visit
  split
  · exact placed_visitText hd _
  · next url title info children he =>
    rw [he] at hd ⊢
    exact placed_visitLink hd url title
  · next url title info children he =>
    rw [he] at hd ⊢
    exact placed_visitImage hd url title
  · next ordered start tight isTaskList info children he =>
    rw [he] at hd ⊢
    exact placed_visitList hd ordered start isTaskList
  · next symbol info children he =>
    rw [he] at hd ⊢
    exact placed_visitTaskItem hd symbol
  · exact ⟨placed_self rfl, rfl, rfl⟩

end Override

/-! ## Renderings without positions -/

section Renderings

variable (formatter : Formatter) (style : Style)

/-- **A visit is the same but for the position of its node.** -/
theorem Formatter.placed_visitor (ancestors : List Occurrence) (marks : Marks) (o : Occurrence)
    (phase : Phase) (hleaf : phase = .leaving → o.node.isLeaf = false) :
    (formatter.visitor style o.node.kindName style ancestors marks o phase).Placed
      (style.positionAt o.node.info phase)
      (formatter.visitor (style.placing false) o.node.kindName (style.placing false) ancestors marks
        o phase) := by
  have hsame : formatter.visitor (style.placing false) o.node.kindName =
    formatter.visitor style o.node.kindName := rfl
  rw [hsame]
  rcases formatter.visitor_eq style o.node.kindName with hv | ⟨override, hv⟩ <;> rw [hv]
  · exact Default.placed_visit style marks ancestors o phase hleaf
  · exact override.placed_visit style ancestors marks o phase hleaf

/-- An emission without its positions. -/
def Emission.unplaced {α : Type} (e : Emission α) : Emission α :=
  { e with pieces := e.pieces.map Piece.unplaced }

/-- Parts of a rendering, and parts that emit the same without positions. -/
def unplacing : Correspondence Emit Emit where
  rel x y := ∀ marks, y marks = (x marks).unplaced
  rel_pure _ _ := rfl
  rel_bind {_ _ x _ f _} hx hf marks := by
    rw [Emit.bind_apply, Emit.bind_apply, hx]
    cases h : x marks with
    | mk pieces marks' outcome =>
      cases outcome with
      | error e => rfl
      | ok a => simp [Emission.andThen, Emission.unplaced, hf a marks']

/-- The emission of a document, with positions and without. -/
theorem Formatter.emission_placing (doc : Node) :
    formatter.emission (style.placing false) doc =
      (formatter.emission (style.placing true) doc).unplaced := by
  rw [← style.placing_placing false true]
  generalize style.placing true = style
  have visits (ancestors : List Occurrence) (o : Occurrence) (phase : Phase)
      (hleaf : phase = .leaving → o.node.isLeaf = false) :
      unplacing.rel ((formatter.emitter style).visit ancestors o phase)
        ((formatter.emitter (style.placing false)).visit ancestors o phase) := by
    intro marks
    obtain ⟨⟨hpieces, -⟩, hmarks, houtcome⟩ :=
      formatter.placed_visitor style ancestors marks o phase hleaf
    show Visited.emission _ = Emission.unplaced (Visited.emission _)
    unfold Visited.emission Emission.unplaced
    rw [hmarks, houtcome, ← hpieces]
  have plain (s : String) : unplacing.rel ((formatter.emitter style).writePlain s)
      ((formatter.emitter (style.placing false)).writePlain s) := fun _ => rfl
  have members : unplacing.AtMembers (formatter.emitter style)
      (formatter.emitter (style.placing false)) (doc.members (parentKind? [])) := by
    -- a leaf is only entered, so its second visit need not be compared
    constructor
    · intro ancestors place kind info _
      exact visits ancestors ⟨.leaf kind info, place⟩ .entering fun h => Phase.noConfusion h
    · intro ancestors place kind info children _ x y h
      exact unplacing.rel_around plain
        (fun phase => visits ancestors ⟨.box kind info children, place⟩ phase fun _ => rfl) h
  exact members.rel_traverse doc [] (Occurrence.root doc 0).place {}

/-- The positions that are written are those of the nodes that are entered, or some of them. -/
def positioning : Law where
  Holds _ steps _ := ((steps.flatMap Step.pieces).flatMap Piece.positions).Sublist
    ((steps.filterMap Step.entered?).flatMap fun q => style.position q.node.info)
  nil _ := List.Sublist.refl _
  append ha hb := by
    rw [List.flatMap_append, List.flatMap_append, List.filterMap_append, List.flatMap_append]
    exact ha.append hb

theorem Formatter.positioning_visit (members : List Member) :
    (positioning style).ObeyedAt formatter style members where
  label _ _ := List.nil_sublist _
  visit {ancestors o phase marks marks' pieces signal} _ hleaf h := by
    have hplaced := (formatter.placed_visitor style ancestors marks o phase hleaf).pieces.positions
    have hpieces : (formatter.visitor style o.node.kindName style ancestors marks o phase).pieces =
      pieces := congrArg Emission.pieces h
    rw [hpieces] at hplaced
    show ((pieces ++ []).flatMap Piece.positions).Sublist _
    rw [List.append_nil]
    cases phase with
    | entering => simpa [Step.entered?, Style.positionAt] using hplaced
    | leaving => exact hplaced

end Renderings

/-! ## The positions of a document -/

/-- The position of a node, as it is written. -/
def Member.position? (q : Member) : Option String := q.node.info.position.map Span.text

theorem Style.position_placing_true (style : Style) (info : Info) :
    (style.placing true).position info =
      (info.position.map fun s => ⟨"data-sourcepos", some s.text⟩).toList := by
  unfold position
  rw [show (style.placing true).html.on .sourcepos = true from rfl, if_pos rfl]
  cases info.position <;> rfl

/-- Attributes for the positions of nodes have these positions as their values. -/
theorem Attribute.values_positions (style : Style) (members : List Member) :
    values (members.flatMap fun q => (style.placing true).position q.node.info) =
      members.filterMap Member.position? := by
  induction members with
  | nil => rfl
  | cons q rest ih =>
    rw [List.flatMap_cons, values_append, ih, style.position_placing_true]
    cases h : q.node.info.position with
    | none =>
      have hnone : q.position? = none := by simp [Member.position?, h]
      rw [List.filterMap_cons_none hnone]
      rfl
    | some s =>
      have hsome : q.position? = some s.text := by simp [Member.position?, h]
      rw [List.filterMap_cons_some hsome]
      rfl

theorem arePositions_position (style : Style) (members : List Member) :
    ArePositions (members.flatMap fun q => (style.placing true).position q.node.info) := by
  intro a ha
  obtain ⟨q, -, hq⟩ := List.mem_flatMap.mp ha
  rw [style.position_placing_true, Option.mem_toList, Option.map_eq_some_iff] at hq
  obtain ⟨s, -, rfl⟩ := hq
  exact ⟨s, rfl⟩

/-- The positions that the steps of a document write. -/
theorem Formatter.positions_transcript {formatter : Formatter} {style : Style} {doc : Node}
    {r : Recording Unit} (h : formatter.transcript (style.placing true) doc = .ok r) :
    let written := (r.steps.flatMap Step.pieces).flatMap Piece.positions
    ArePositions written ∧
      (Attribute.values written).Sublist ((doc.visited none).filterMap Member.position?) := by
  intro written
  let reached := doc.reached (formatter.answer (style.placing true)) none
  have hwritten : written.Sublist
      (reached.flatMap fun q => (style.placing true).position q.node.info) := by
    have hlaw : written.Sublist ((r.steps.filterMap Step.entered?).flatMap fun q =>
        (style.placing true).position q.node.info) :=
      (formatter.positioning_visit (style.placing true) _).holds_traverse h
    rwa [Formatter.entered_reached h] at hlaw
  constructor
  · exact fun a ha => arePositions_position style reached a (hwritten.subset ha)
  · have hvalues := hwritten.filterMap Attribute.value
    rw [← Attribute.values, ← Attribute.values, Attribute.values_positions] at hvalues
    exact hvalues.trans ((formatter.reached_sublist (style.placing true) doc).filterMap _)

/-- Without positions a document fails as it does with them. -/
theorem Formatter.format_placing_error {formatter : Formatter} {style : Style} {doc : Node}
    {e : RenderError} (h : (formatter.format (style.placing true) doc).1 = .error e) :
    (formatter.format (style.placing false) doc).1 = .error e := by
  rw [formatter.format_eq, Emission.html] at h ⊢
  rw [formatter.emission_placing, Emission.unplaced]
  cases ho : (formatter.emission (style.placing true) doc).outcome with
  | error e' =>
    rw [ho] at h
    cases h
    rfl
  | ok u =>
    rw [ho] at h
    cases h

/-- A page without its positions is the page that is made without them, and they are positions of
visited nodes. -/
theorem Formatter.unplace_format {formatter : Formatter} {style : Style} (hraw : style.HidesRaw)
    {doc : Node} (ha : ∀ q ∈ doc.members none, ∀ a ∈ q.alignment?, a ∈ alignments) {html : String}
    (h : (formatter.format (style.placing true) doc).1 = .ok html) :
    (formatter.format (style.placing false) doc).1 = .ok (unplace html).1 ∧
      (unplace html).2.Sublist ((doc.visited none).filterMap Member.position?) := by
  have hraw' : (style.placing true).HidesRaw := hraw
  obtain ⟨steps, marks, ht, rfl⟩ := Formatter.transcript_of_format h
  obtain ⟨hwritten, hvisited⟩ := Formatter.positions_transcript ht
  have hemission : formatter.emission (style.placing true) doc =
      ⟨steps.flatMap Step.pieces, marks, .ok ()⟩ := (formatter.retells_transcript _ doc).ok ht
  rw [Step.page, unplace_page (Formatter.sound_transcript hraw' ha ht) hwritten]
  refine ⟨?_, hvisited⟩
  rw [formatter.format_eq, formatter.emission_placing, hemission]
  rfl

/-- **Source positions only add attributes.** Without its positions, the page of a document is the
page that it has when positions are not wanted, and it has none for the same reason. The positions are
those of visited nodes, in document order and at most one for each node; any of these may be missing.
Documents of known kinds have pages. -/
theorem Formatter.format_placing (formatter : Formatter) {style : Style} (hraw : style.HidesRaw)
    {doc : Node} (ha : ∀ q ∈ doc.members none, ∀ a ∈ q.alignment?, a ∈ alignments) :
    let placed := (formatter.format (style.placing true) doc).1
    (formatter.format (style.placing false) doc).1 = placed.map (fun html => (unplace html).1) ∧
      (∀ html, placed = .ok html →
        (unplace html).2.Sublist ((doc.visited none).filterMap Member.position?)) ∧
      (formatter.IsBuiltIn → style.HasAnchorText →
        (∀ q ∈ doc.members none, q.node.isForeign = false) → ∃ html, placed = .ok html) := by
  intro placed
  refine ⟨?_, fun html hhtml => (Formatter.unplace_format hraw ha hhtml).2, fun hf hid hk => ?_⟩
  · cases hplaced : placed with
    | error e => exact Formatter.format_placing_error hplaced
    | ok html => exact (Formatter.unplace_format hraw ha hplaced).1
  · have hid' : (style.placing true).HasAnchorText := hid
    exact ⟨_, Formatter.format_ok hf hid' hk⟩

/-- A heading whose text looks like the beginning of a position, and an item with negative numbers, in
which a paragraph has no tag. -/
theorem Formatter.format_placing_item :
    let spanned (l c l' c' : Int) : Info := { position := some ⟨l, c, l', c'⟩ }
    let doc : Node := .box .document (spanned 1 1 3 9) [
      .box (.heading .top) (spanned 1 1 1 9) [.leaf (.text " data-sourcepos=") {}],
      .box (.list false 1 true false) {} [.box .listItem (spanned (-2) 1 3 (-4))
        [.box .paragraph (spanned 3 3 3 9) []]]]
    let style : Style := {}
    style.HidesRaw ∧ (∀ q ∈ doc.members none, ∀ a ∈ q.alignment?, a ∈ alignments) ∧
      ∃ html, (Formatter.standard.format (style.placing true) doc).1 = .ok html ∧
        (Formatter.standard.format (style.placing false) doc).1 = .ok (unplace html).1 ∧
        (unplace html).2 = ["1:1-1:9", "-2:1-3:-4"] := by
  intro spanned doc style
  have hraw : style.HidesRaw := .inr rfl
  have ha : ∀ q ∈ doc.members none, ∀ a ∈ q.alignment?, a ∈ alignments := by decide
  obtain ⟨hsame, -⟩ := Formatter.standard.format_placing hraw ha
  have hpage : (Formatter.standard.format (style.placing true) doc).1 = .ok
      ("<h1 data-sourcepos=\"1:1-1:9\"> data-sourcepos=</h1>\n" ++
        "<ul>\n<li data-sourcepos=\"-2:1-3:-4\"></li>\n</ul>\n") := by
    decide +kernel
  rw [hpage] at hsame
  exact ⟨hraw, ha, _, hpage, hsame, by decide +kernel⟩

end FlavoredMarkdown

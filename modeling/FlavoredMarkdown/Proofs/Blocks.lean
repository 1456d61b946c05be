import FlavoredMarkdown.Proofs.Completion
import FlavoredMarkdown.Proofs.PageText
import FlavoredMarkdown.Proofs.WellNested

/-!
# Blocks are rendered one by one

A block starts with a fresh line and ends at the start of a line, so what it adds to a page does not
depend on what is on the page. What is written inside it depends on its surroundings only through
the kind of the parent, the tightness of the list around it and whether it is the first row of a
table: two places that agree on these are `Alike`. So a document without footnotes is the HTML of its
blocks, one after the other.

* Heading anchors are left out (`headerIds` is nothing): two blocks with one anchor between them are
  told apart by the marks.

Results:
* `Formatter.traverse_alike`: a tree is written alike at places that are alike.
* `Formatter.unmarked_traverse`: a tree outside footnotes leaves the marks as they are.
* `Node.IsBlock.settles`: a block ends at the start of a line.
* **`Formatter.format_append`**: the HTML of two rows of blocks is the HTML of the first followed by
  the HTML of the second, and each ends with a new line or is empty.
-/

namespace FlavoredMarkdown

/-! ## Places that are alike -/

/-- Two places for a node: the kind around it is the same and is no footnote, a tight list is around
both or around none, and so it is with being the first row of a table. -/
structure Alike (ancestors ancestors' : List Occurrence) (n : Node) (place place' : List Nat) :
    Prop where
  parent : parentKind? ancestors' = parentKind? ancestors
  tight : inTightList ancestors' = inTightList ancestors
  firstRow : Default.isFirstRow ancestors' ⟨n, place'⟩ = Default.isFirstRow ancestors ⟨n, place⟩
  outside : ∀ identifier index,
    parentKind? ancestors ≠ some (.footnoteDefinition identifier index)

/-- Whether a child stands in an item of a tight list is a matter of the two kinds around it. -/
theorem inTightList_cons (o : Occurrence) (ancestors : List Occurrence) :
    inTightList (o :: ancestors) =
      match o.container?, parentKind? ancestors with
      | some .listItem, some (.list _ _ tight _) => tight
      | some (.taskItem _), some (.list _ _ tight _) => tight
      | _, _ => false := by
  cases ancestors with
  | nil =>
    rw [parentKind?_nil]
    unfold inTightList
    split <;> simp_all
  | cons list rest => rfl

theorem closedFootnote?_eq_none {ancestors : List Occurrence}
    (h : ∀ identifier index, parentKind? ancestors ≠ some (.footnoteDefinition identifier index))
    (o : Occurrence) : Default.closedFootnote? ancestors o = none := by
  unfold Default.closedFootnote?
  split
  · next parent rest =>
    split
    · next identifier index _ _ hn =>
      refine absurd ?_ (h identifier index)
      simp only [parentKind?, List.head?_cons, Option.bind_some, Occurrence.container?, hn]
    · rfl
  · rfl

theorem Alike.inLink {ancestors ancestors' : List Occurrence} {n : Node} {place place' : List Nat}
    (h : Alike ancestors ancestors' n place place') : inLink ancestors' = inLink ancestors := by
  unfold FlavoredMarkdown.inLink
  rw [h.parent]

/-- The children of a container are at places that are alike, if the container is and is no
footnote. -/
theorem Alike.below {ancestors ancestors' : List Occurrence} {kind : Container} {info : Info}
    {children : List Node} {place place' : List Nat}
    (h : Alike ancestors ancestors' (.box kind info children) place place')
    (hl : kind.isLocal = true) (n : Node) (i : Nat) :
    Alike (⟨.box kind info children, place⟩ :: ancestors)
      (⟨.box kind info children, place'⟩ :: ancestors') n (i :: place) (i :: place') where
  parent := rfl
  tight := by
    rw [inTightList_cons, inTightList_cons, h.parent]
    rfl
  firstRow := by rw [isFirstRow_below, isFirstRow_below]
  outside identifier index hp := by
    rw [parentKind?_cons] at hp
    cases hp
    cases hl

section Visits

variable (style : Style) (marks : Marks) {ancestors ancestors' : List Occurrence} {n : Node}
  {place place' : List Nat} (phase : Phase)

/-- The default markup of a node is the same at places that are alike. -/
theorem Default.visit_alike (h : Alike ancestors ancestors' n place place')
    (hl : ∀ kind, n.container? = some kind → kind.isLocal = true) :
    Default.visit style ancestors' marks ⟨n, place'⟩ phase =
      Default.visit style ancestors marks ⟨n, place⟩ phase := by
  cases n with
  | leaf kind info => rfl
  | box kind info children =>
    simp only [Default.visit]
    cases kind with
    | footnoteDefinition identifier index => cases hl _ rfl
    | paragraph =>
      have hin := closedFootnote?_eq_none h.outside
      have hout := closedFootnote?_eq_none (h.parent ▸ h.outside)
      simp only [Default.containerVisit, Default.paragraph, h.tight, hin, hout, Node.info]
    | link url title => simp only [Default.containerVisit, Default.link, h.inLink]
    | tableRow isHeader =>
      simp only [Default.containerVisit, Default.tableRow, h.firstRow, Node.info]
    | tableCell alignment => simp only [Default.containerVisit, Default.cellTag, h.parent]
    | _ => rfl

/-- So is the markup of an override. -/
theorem Override.visit_alike (override : Override)
    (h : Alike ancestors ancestors' n place place')
    (hl : ∀ kind, n.container? = some kind → kind.isLocal = true) :
    override.visit style ancestors' marks ⟨n, place'⟩ phase =
      override.visit style ancestors marks ⟨n, place⟩ phase := by
  have hd := Default.visit_alike style marks phase h hl
  cases override with
  | text =>
    cases n with
    | leaf kind info =>
      cases kind with
      | text content =>
        simp only [Override.visit, Override.visitText, Override.labelKind?, h.parent, hd]
      | _ => rfl
    | box kind info children => rfl
  | link =>
    cases n with
    | leaf kind info => rfl
    | box kind info children =>
      cases kind with
      | link url title => simp only [Override.visit, Override.visitLink, h.inLink, hd]
      | _ => rfl
  | image =>
    cases n with
    | leaf kind info => rfl
    | box kind info children =>
      cases kind with
      | image url title => simp only [Override.visit, Override.visitImage, hd]
      | _ => rfl
  | list =>
    cases n with
    | leaf kind info => rfl
    | box kind info children =>
      cases kind with
      | list ordered start tight isTaskList =>
        simp only [Override.visit, Override.visitList, hd]
      | _ => rfl
  | taskItem =>
    cases n with
    | leaf kind info => rfl
    | box kind info children =>
      cases kind with
      | taskItem symbol => simp only [Override.visit, Override.visitTaskItem, hd]
      | _ => rfl

theorem Formatter.visit_alike (formatter : Formatter)
    (h : Alike ancestors ancestors' n place place')
    (hl : ∀ kind, n.container? = some kind → kind.isLocal = true) :
    (formatter.emitter style).visit ancestors' ⟨n, place'⟩ phase =
      (formatter.emitter style).visit ancestors ⟨n, place⟩ phase := by
  funext marks
  rw [Formatter.emitter_visit, Formatter.emitter_visit]
  simp only [Visitor.emit]
  rcases formatter.visitor_eq style n.kindName with hv | ⟨override, hv⟩ <;> rw [hv]
  · rw [Default.visit_alike style marks phase h hl]
  · rw [Override.visit_alike style marks phase override h hl]

end Visits

section Traversal

variable (formatter : Formatter) (style : Style)

mutual

/-- A tree outside footnotes is written alike at places that are alike. -/
theorem Formatter.traverse_alike : ∀ (t : Node) (ancestors ancestors' : List Occurrence)
    (place place' : List Nat), Alike ancestors ancestors' t place place' →
    (∀ q ∈ t.members (parentKind? ancestors), ∀ kind, q.node.container? = some kind →
      kind.isLocal = true) →
    traverse (formatter.emitter style) ancestors' place' t =
      traverse (formatter.emitter style) ancestors place t
  | .leaf kind info, ancestors, ancestors', place, place', h, hl => by
    rw [traverse, traverse, Formatter.visit_alike style .entering formatter h
      (hl _ (Node.self_mem_members _ _))]
  | .box kind info children, ancestors, ancestors', place, place', h, hl => by
    have hself := hl _ (Node.self_mem_members _ _)
    have hbelow := Formatter.traverseAll_alike children
      (⟨.box kind info children, place⟩ :: ancestors)
      (⟨.box kind info children, place'⟩ :: ancestors') place place' 0
      (fun n i => h.below (hself kind rfl) n i)
      fun q hq => hl q (Node.mem_members_of_below _ _ hq)
    rw [traverse, traverse]
    simp only [Handler.around]
    rw [hbelow, Formatter.visit_alike style .entering formatter h hself,
      Formatter.visit_alike style .leaving formatter h hself]

/-- And so are the children of two containers. -/
theorem Formatter.traverseAll_alike : ∀ (nodes : List Node)
    (ancestors ancestors' : List Occurrence) (place place' : List Nat) (i : Nat),
    (∀ n i, Alike ancestors ancestors' n (i :: place) (i :: place')) →
    (∀ q ∈ Node.membersAll (parentKind? ancestors) nodes, ∀ kind,
      q.node.container? = some kind → kind.isLocal = true) →
    traverseAll (formatter.emitter style) ancestors' place' i nodes =
      traverseAll (formatter.emitter style) ancestors place i nodes
  | [], ancestors, ancestors', place, place', i, h, hl => by rw [traverseAll, traverseAll]
  | n :: rest, ancestors, ancestors', place, place', i, h, hl => by
    rw [Node.membersAll] at hl
    rw [traverseAll, traverseAll,
      Formatter.traverse_alike n ancestors ancestors' _ _ (h n i)
        (fun q hq => hl q (List.mem_append_left _ hq)),
      Formatter.traverseAll_alike rest ancestors ancestors' place place' (i + 1) h
        (fun q hq => hl q (List.mem_append_right _ hq))]

end

end Traversal

/-! ## The marks -/

/-- Parts of renderings that leave the marks as they are. -/
def unmarking : Correspondence Emit Emit where
  rel x _ := ∀ marks, (x marks).marks = marks
  rel_pure _ _ := rfl
  rel_bind {_ _ x _ f _} hx hf marks := by
    rw [Emit.bind_apply, Emission.andThen]
    split
    · exact (hf _ _).trans (hx marks)
    · exact hx marks

section Marks

variable {style : Style} (hid : style.html.headerIds.isNone = true) {ancestors : List Occurrence}
  (outside : ∀ identifier index,
    parentKind? ancestors ≠ some (.footnoteDefinition identifier index))
  (marks : Marks) {o : Occurrence} (hl : ∀ kind, o.node.container? = some kind → kind.isLocal = true)
  (phase : Phase)

include hid outside hl

theorem Default.marks_visit : (Default.visit style ancestors marks o phase).marks = marks := by
  obtain ⟨n, place⟩ := o
  cases n with
  | leaf kind info =>
    simp only [Default.visit]
    split <;> rfl
  | box kind info children =>
    simp only [Default.visit]
    cases kind with
    | document | footnoteDefinition identifier index => cases hl _ rfl
    | heading level =>
      cases phase with
      | leaving => rfl
      | entering =>
        simp only [Default.containerVisit, Default.heading, hid, if_true]
        rfl
    | paragraph =>
      cases phase <;>
        simp only [Default.containerVisit, Default.paragraph, closedFootnote?_eq_none outside] <;>
        try split
      all_goals rfl
    | link url title =>
      simp only [Default.containerVisit, Default.link]
      repeat' split
      all_goals rfl
    | _ => cases phase <;> rfl

theorem Override.marks_visit (override : Override) :
    (override.visit style ancestors marks o phase).marks = marks := by
  have hd := Default.marks_visit hid outside marks hl phase
  unfold Override.visit
  split
  · unfold Override.visitText
    repeat' split
    all_goals first | exact hd | rfl
  · unfold Override.visitLink
    repeat' split
    all_goals first | exact hd | rfl
  · unfold Override.visitImage
    repeat' split
    all_goals first | exact hd | rfl
  · unfold Override.visitList
    repeat' split
    all_goals first | exact hd | rfl
  · unfold Override.visitTaskItem
    repeat' split
    all_goals first | exact hd | rfl
  · rfl

theorem Formatter.marks_visit (formatter : Formatter) :
    ((formatter.emitter style).visit ancestors o phase marks).marks = marks := by
  rw [Formatter.emitter_visit]
  rcases formatter.visitor_eq style o.node.kindName with hv | ⟨override, hv⟩ <;> rw [hv]
  · exact Default.marks_visit hid outside marks hl phase
  · exact Override.marks_visit hid outside marks hl phase override

end Marks

/-- A tree outside footnotes leaves the marks as they are. -/
theorem Formatter.unmarked_traverse {formatter : Formatter} {style : Style}
    (hid : style.html.headerIds.isNone = true) {t : Node} {ancestors : List Occurrence}
    (outside : ∀ identifier index,
      parentKind? ancestors ≠ some (.footnoteDefinition identifier index))
    (hl : ∀ q ∈ t.members (parentKind? ancestors), ∀ kind, q.node.container? = some kind →
      kind.isLocal = true) (place : List Nat) (marks : Marks) :
    (traverse (formatter.emitter style) ancestors place t marks).marks = marks := by
  have visits : unmarking.AtMembers (formatter.emitter style) (formatter.emitter style)
      (t.members (parentKind? ancestors)) := by
    refine Correspondence.atMembers_of_visits (fun _ _ => rfl) fun ancestors' o phase hm marks => ?_
    refine Formatter.marks_visit hid (fun identifier index hp => ?_) marks (hl _ hm) phase formatter
    rcases Node.parent_of_mem_members t _ hm with ho | ⟨r, hr, hq⟩
    · exact outside identifier index ((congrArg Member.parent ho).symm.trans hp)
    · cases hl r hr _ (hq.symm.trans hp)
  exact visits.rel_traverse t ancestors place marks

/-! ## Blocks -/

/-- Whatever was on the page, it is at the start of a line after the pieces. -/
def Piece.Settles (pieces : List Piece) : Prop := ∀ fresh, Piece.freshAfter fresh pieces = true

theorem Piece.settles_newline : Piece.Settles [.newline] := fun fresh => by cases fresh <;> decide

theorem Piece.settles_freshLine : Piece.Settles [.freshLine] := fun fresh => by
  cases fresh <;> decide

/-- What comes last decides. -/
theorem Piece.Settles.after {bs : List Piece} (h : Piece.Settles bs) (as : List Piece) :
    Piece.Settles (as ++ bs) := by
  intro fresh
  rw [Piece.freshAfter, List.foldl_append]
  exact h _

namespace Node

/-- Whether the kind of a node is that of a block. -/
def isBlock : Node → Bool
  | .leaf (.codeBlock ..) _ | .leaf .thematicBreak _ | .leaf (.htmlBlock _) _
  | .leaf (.mathBlock _) _ => true
  | .box (.heading _) .. | .box .paragraph .. | .box .blockQuote .. | .box (.list ..) ..
  | .box (.table _) .. | .box .definitionList .. => true
  | _ => false

/-- A block of a document. What is in it has markup, and neither footnotes nor documents are among
it. -/
structure IsBlock (n : Node) : Prop where
  kind : n.isBlock = true
  known : ∀ q ∈ n.members (some .document), q.node.isForeign = false
  inner : ∀ q ∈ n.members (some .document), ∀ kind, q.node.container? = some kind →
    kind.isLocal = true

instance (n : Node) : Decidable n.IsBlock :=
  decidable_of_iff
    (n.isBlock = true ∧ (∀ q ∈ n.members (some .document), q.node.isForeign = false) ∧
      ∀ q ∈ n.members (some .document), ∀ kind ∈ q.node.container?, kind.isLocal = true)
    ⟨fun ⟨h1, h2, h3⟩ => ⟨h1, h2, h3⟩, fun ⟨h1, h2, h3⟩ => ⟨h1, h2, h3⟩⟩

end Node

/-- The markup of a leaf that is a block ends at the start of a line. -/
theorem Default.settles_leafPieces {style : Style} {info : Info} {kind : Leaf}
    (h : (Node.leaf kind info).isBlock = true) {pieces : List Piece}
    (hp : Default.leafPieces? style info kind = some pieces) : Piece.Settles pieces := by
  cases kind with
  | codeBlock content fence =>
    cases hp
    unfold Default.codeBlock
    exact (Piece.settles_newline.after [_, _, _]).after _
  | thematicBreak =>
    cases hp
    exact Piece.settles_newline.after [_, _]
  | htmlBlock content =>
    cases hp
    exact Piece.settles_freshLine.after [_, _]
  | mathBlock content =>
    cases hp
    exact Piece.settles_newline.after [_, _, _, _, _, _]
  | _ => cases h

/-- What is written around the children of a container ends with what is written when it is left. -/
theorem Handler.pieces_around {handler : Handler Emit} {ancestors : List Occurrence}
    {o : Occurrence} {x : Emit Unit} {marks : Marks} {a : Unit}
    (ha : (handler.around ancestors o x marks).outcome = .ok a) :
    ∃ front marks', (handler.around ancestors o x marks).pieces =
      front ++ (handler.visit ancestors o .leaving marks').pieces := by
  unfold Handler.around at ha ⊢
  obtain ⟨signal, -, hrest, hpieces, -⟩ := Emit.bind_eq_ok ha
  obtain ⟨_, -, hleave, hpieces', -⟩ := Emit.bind_eq_ok hrest
  obtain ⟨_, -, -, hpieces'', -⟩ := Emit.bind_eq_ok hleave
  rw [hpieces, hpieces', hpieces'', Emit.pure_apply, List.append_nil, ← List.append_assoc]
  exact ⟨_, _, rfl⟩

/-- The last visit to a container that is a block ends at the start of a line. -/
theorem Default.settles_leaving (style : Style) {ancestors : List Occurrence}
    (ht : inTightList ancestors = false) (marks : Marks) {kind : Container} {info : Info}
    {children : List Node} (place : List Nat) (h : (Node.box kind info children).isBlock = true) :
    Piece.Settles
      (Default.visit style ancestors marks ⟨.box kind info children, place⟩ .leaving).pieces := by
  simp only [Default.visit]
  cases kind with
  | heading level => exact Piece.settles_newline.after [_]
  | paragraph =>
    simp only [Default.containerVisit, Default.paragraph, ht, Bool.false_eq_true, if_false]
    split
    · exact (Piece.settles_newline.after [_]).after _
    · exact Piece.settles_newline.after [_]
  | blockQuote => exact Piece.settles_newline.after [_, _]
  | list ordered start tight isTaskList => exact Piece.settles_newline.after [_]
  | table hasHeader => exact (Piece.settles_newline.after [_, _]).after _
  | definitionList => exact Piece.settles_newline.after [_, _]
  | _ => cases h

section Blocks

variable {formatter : Formatter} (hf : formatter.IsBuiltIn) {style : Style}

include hf

/-- At a block the formatters of the library write the default markup, the opening of a list
apart. -/
theorem Formatter.visit_block {n : Node} (h : n.isBlock = true) (ancestors : List Occurrence)
    (place : List Nat) {phase : Phase} (hphase : n.isLeaf = true ∨ phase = .leaving) :
    (formatter.emitter style).visit ancestors ⟨n, place⟩ phase =
      Visitor.emit Default.visit style ancestors ⟨n, place⟩ phase := by
  rw [Formatter.emitter_visit]
  rcases Formatter.visitor_builtIn hf style n with hv | ⟨override, ho, hv⟩
  · rw [hv]
  · rw [hv]
    cases n with
    | leaf kind info =>
      cases kind with
      | text content => cases h
      | _ => cases ho
    | box kind info children =>
      cases kind with
      | list ordered start tight isTaskList =>
        obtain rfl : phase = .leaving := hphase.resolve_left Bool.false_ne_true
        cases ho
        funext marks
        simp [Visitor.emit, Override.visit, Override.visitList]
      | link url title | image url title | taskItem symbol => cases h
      | _ => cases ho

/-- The markup of a block ends at the start of a line. -/
theorem Formatter.settles_block {n : Node} (h : n.isBlock = true) {ancestors : List Occurrence}
    (ht : inTightList ancestors = false) (place : List Nat) (marks : Marks) {a : Unit}
    (ha : (traverse (formatter.emitter style) ancestors place n marks).outcome = .ok a) :
    Piece.Settles (traverse (formatter.emitter style) ancestors place n marks).pieces := by
  cases n with
  | leaf kind info =>
    rw [traverse, Formatter.visit_block hf h ancestors place (.inl rfl)] at ha ⊢
    obtain ⟨signal, hs, -, hpieces, -⟩ := Emit.bind_eq_ok ha
    rw [hpieces, Emit.pure_apply, List.append_nil]
    simp only [Visitor.emit, Visited.emission, Default.visit] at hs ⊢
    split at hs
    · next pieces hp =>
      exact Default.settles_leafPieces h hp
    · cases hs
  | box kind info children =>
    rw [traverse] at ha ⊢
    obtain ⟨front, marks', hpieces⟩ := Handler.pieces_around ha
    rw [hpieces, Formatter.visit_block hf h ancestors place (.inr rfl)]
    exact (Default.settles_leaving style ht marks' place h).after front

end Blocks

/-! ## Rows of blocks -/

/-- The emission of a block that is the only one in its document. -/
def Formatter.alone (formatter : Formatter) (style : Style) (n : Node) : Emission Unit :=
  traverse (formatter.emitter style) [.root (.box .document {} []) 0] [] n {}

/-- The HTML of a block on a page of its own. -/
def Formatter.blockHtml (formatter : Formatter) (style : Style) (n : Node) : String :=
  Piece.textFrom true (formatter.alone style n).pieces

section Rows

variable {formatter : Formatter} (hf : formatter.IsBuiltIn) {style : Style}
  (hid : style.html.headerIds.isNone = true)

include hf hid

/-- A block that is alone is rendered, leaves no marks and ends at the start of a line. -/
theorem Formatter.alone_block {n : Node} (h : n.IsBlock) :
    formatter.alone style n = ⟨(formatter.alone style n).pieces, {}, .ok ()⟩ ∧
      Piece.Settles (formatter.alone style n).pieces := by
  obtain ⟨_, ha⟩ : ∃ a, (formatter.alone style n).outcome = .ok a := by
    refine Formatter.traverse_ok hf (.inl hid) ?_ [] {}
    exact h.known
  have hmarks : (formatter.alone style n).marks = {} := by
    refine Formatter.unmarked_traverse hid ?_ ?_ [] {}
    · exact fun _ _ hp => nomatch hp
    · exact h.inner
  refine ⟨?_, Formatter.settles_block hf h.kind rfl [] {} ha⟩
  rw [← hmarks, ← ha]

/-- In any document a block writes what it writes alone. -/
theorem Formatter.traverse_block {n : Node} (h : n.IsBlock) (info : Info) (children : List Node)
    (root place : List Nat) :
    traverse (formatter.emitter style) [⟨.box .document info children, root⟩] place n {} =
      ⟨(formatter.alone style n).pieces, {}, .ok ()⟩ := by
  -- a block sees of its ancestors only that it stands in a document
  have alike : Alike [.root (.box .document {} []) 0] [⟨.box .document info children, root⟩] n []
      place := ⟨rfl, rfl, rfl, fun _ _ hp => nomatch hp⟩
  rw [Formatter.traverse_alike formatter style n _ _ _ _ alike h.inner]
  exact (Formatter.alone_block hf hid h).1

/-- In a row each block writes what it writes alone. -/
theorem Formatter.traverseAll_blocks {nodes : List Node} (h : ∀ n ∈ nodes, n.IsBlock) (info : Info)
    (children : List Node) (root place : List Nat) (i : Nat) :
    traverseAll (formatter.emitter style) [⟨.box .document info children, root⟩] place i nodes {} =
      ⟨nodes.flatMap fun n => (formatter.alone style n).pieces, {}, .ok ()⟩ := by
  induction nodes generalizing i with
  | nil => rfl
  | cons n rest ih =>
    obtain ⟨hn, hrest⟩ := List.forall_mem_cons.mp h
    rw [traverseAll, Emit.bind_ok (Formatter.traverse_block hf hid hn info children root _),
      ih hrest]
    rfl

/-- The document around a row of blocks writes nothing. -/
theorem Formatter.emission_blocks {nodes : List Node} (h : ∀ n ∈ nodes, n.IsBlock) (info : Info) :
    formatter.emission style (.box .document info nodes) =
      ⟨nodes.flatMap fun n => (formatter.alone style n).pieces, {}, .ok ()⟩ := by
  have hvisit (phase : Phase) (place : List Nat) :
      (formatter.emitter style).visit [] ⟨.box .document info nodes, place⟩ phase {} =
        ⟨[], {}, .ok .html⟩ := by
    rw [Formatter.emitter_visit]
    rcases Formatter.visitor_builtIn hf style (.box .document info nodes) with hv | ⟨_, ho, -⟩
    · rw [hv]
      cases phase <;> rfl
    · cases ho
  rw [Formatter.emission, Occurrence.root, traverse]
  unfold Handler.around
  rw [Emit.bind_ok (hvisit .entering _), Handler.inside,
    Emit.bind_ok (Formatter.traverseAll_blocks hf hid h info nodes _ _ 0),
    Emit.bind_ok (hvisit .leaving _)]
  simp [Emit.pure_apply]

/-- On an empty page blocks add their HTML one after the other, and the page ends up at the start of
a line. -/
theorem Formatter.textFrom_blocks {nodes : List Node} (h : ∀ n ∈ nodes, n.IsBlock) :
    Piece.textFrom true (nodes.flatMap fun n => (formatter.alone style n).pieces) =
        String.join (nodes.map (formatter.blockHtml style)) ∧
      Piece.freshAfter true (nodes.flatMap fun n => (formatter.alone style n).pieces) = true := by
  induction nodes with
  | nil => exact ⟨rfl, rfl⟩
  | cons n rest ih =>
    obtain ⟨hn, hrest⟩ := List.forall_mem_cons.mp h
    obtain ⟨htext, hfresh⟩ := ih hrest
    have hs := (Formatter.alone_block hf hid hn).2 true
    rw [List.flatMap_cons, List.map_cons, String.join_cons, Piece.textFrom_append, hs, htext]
    refine ⟨rfl, ?_⟩
    -- the block ends at the start of a line, as the empty page does, so the rest starts afresh
    rw [Piece.freshAfter, List.foldl_append]
    exact (congrArg (Piece.freshAfter · _) hs).trans hfresh

/-- The HTML of a document of blocks is the HTML of the blocks, each on a page of its own. -/
theorem Formatter.format_blocks {nodes : List Node} (h : ∀ n ∈ nodes, n.IsBlock) (info : Info) :
    (formatter.format style (.box .document info nodes)).1 =
      .ok (String.join (nodes.map (formatter.blockHtml style))) := by
  rw [Formatter.format_eq, Formatter.emission_blocks hf hid h info, Emission.html, Page.html_addAll,
    ← (Formatter.textFrom_blocks hf hid h).1]
  rfl

/-- The HTML of a row of blocks is empty or ends with a new line. -/
theorem Formatter.endsLine_blocks {nodes : List Node} (h : ∀ n ∈ nodes, n.IsBlock) :
    endsLine (String.join (nodes.map (formatter.blockHtml style))) = true := by
  obtain ⟨htext, hfresh⟩ := Formatter.textFrom_blocks hf hid h
  rw [Piece.freshAfter_eq, htext, lineState] at hfresh
  split at hfresh
  · next he =>
    rw [he]
    rfl
  · exact hfresh

end Rows

/-- A page at the start of a line is empty or ends with a new line. -/
theorem endsLine_iff {s : String} :
    endsLine s = true ↔ s = "" ∨ s.toList.getLast? = some '\n' := by
  unfold endsLine
  cases hs : s.toList.getLast? with
  | none => simpa using hs
  | some c =>
    have hne : s ≠ "" := by
      rintro rfl
      cases hs
    simp [hne]

/-- **Rendering is compositional over blocks.** If headings get no anchors, the HTML of two rows of
blocks is that of the first followed by that of the second. Each is empty or ends with a new line,
and is made of the HTML that the blocks have on pages of their own. -/
theorem Formatter.format_append {formatter : Formatter} (hf : formatter.IsBuiltIn) {style : Style}
    (hid : style.html.headerIds.isNone = true) {as bs : List Node} (ha : ∀ n ∈ as, n.IsBlock)
    (hb : ∀ n ∈ bs, n.IsBlock) :
    ∃ a b : String,
      (∀ info, (formatter.format style (.box .document info as)).1 = .ok a) ∧
      (∀ info, (formatter.format style (.box .document info bs)).1 = .ok b) ∧
      (∀ info, (formatter.format style (.box .document info (as ++ bs))).1 = .ok (a ++ b)) ∧
      (∀ html ∈ [a, b, a ++ b], html = "" ∨ html.toList.getLast? = some '\n') ∧
      a = String.join (as.map (formatter.blockHtml style)) ∧
      b = String.join (bs.map (formatter.blockHtml style)) := by
  have hab : ∀ n ∈ as ++ bs, n.IsBlock := fun n hn =>
    (List.mem_append.mp hn).elim (ha n) (hb n)
  refine ⟨_, _, Formatter.format_blocks hf hid ha, Formatter.format_blocks hf hid hb, fun info => ?_,
    ?_, rfl, rfl⟩
  · rw [Formatter.format_blocks hf hid hab, List.map_append, String.join_append]
  · have hends : endsLine (String.join ((as ++ bs).map (formatter.blockHtml style))) = true :=
      Formatter.endsLine_blocks hf hid hab
    rw [List.map_append, String.join_append, endsLine_iff] at hends
    simp only [List.mem_cons, List.not_mem_nil, or_false, forall_eq_or_imp, forall_eq]
    exact ⟨endsLine_iff.mp (Formatter.endsLine_blocks hf hid ha),
      endsLine_iff.mp (Formatter.endsLine_blocks hf hid hb), hends⟩

/-- Raw HTML that adds nothing but a fresh line, and a tight list whose item ends without a new line
of its own. -/
theorem Formatter.format_append_standard :
    let as : List Node := [.leaf (.htmlBlock "<i>") {},
      .box (.list false 1 true true) {} [.box (.taskItem (some '~')) {}
        [.box .paragraph {} [.leaf (.text "%{a}") {}]]]]
    let bs : List Node := [.leaf (.htmlBlock "") {}, .box .paragraph {} [.leaf (.code "b") {}]]
    let a := "<!-- raw HTML omitted -->\n<ul class=\"task-list\">\n" ++
      "<li class=\"inapplicable task-list-item\"><input type=\"checkbox\" " ++
      "class=\"task-list-item-checkbox\" data-inapplicable disabled=\"\"> " ++
      "<span data-placeholder>%{a}</span></li>\n</ul>\n"
    let b := "<!-- raw HTML omitted -->\n<p><code>b</code></p>\n"
    (∀ n ∈ as, n.IsBlock) ∧ (∀ n ∈ bs, n.IsBlock) ∧
      (Formatter.standard.format .allOverrides (.box .document {} as)).1 = .ok a ∧
      (Formatter.standard.format .allOverrides (.box .document {} bs)).1 = .ok b ∧
      (Formatter.standard.format .allOverrides (.box .document {} (as ++ bs))).1 = .ok (a ++ b) := by
  intro as bs a b
  have has : ∀ n ∈ as, n.IsBlock := by decide
  have hbs : ∀ n ∈ bs, n.IsBlock := by decide
  have ha : (Formatter.standard.format .allOverrides (.box .document {} as)).1 = .ok a := by
    decide +kernel
  have hb : (Formatter.standard.format .allOverrides (.box .document {} bs)).1 = .ok b := by
    decide +kernel
  have hid : Style.allOverrides.html.headerIds.isNone = true := rfl
  obtain ⟨a', b', ha', hb', hab, -⟩ := Formatter.format_append (.inr rfl) hid has hbs
  obtain rfl : a = a' := Except.ok.inj (ha.symm.trans (ha' {}))
  obtain rfl : b = b' := Except.ok.inj (hb.symm.trans (hb' {}))
  exact ⟨has, hbs, ha, hb, hab {}⟩

end FlavoredMarkdown

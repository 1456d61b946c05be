import FlavoredMarkdown.Proofs.Overrides

/-!
# The steps of a rendering

A rendering that ends well can be told step by step: each visit with the open containers around it
and the pieces it writes, and each text that stands for the children of an image. Its `transcript` is
this list, in the order of the page. It says who wrote what, which the pieces of an emission do not.

* Programs that tell their steps form the monad `Record`; a formatter is a handler in it
  (`Formatter.transcriber`). A part that fails has no record.
* What is true of each step, and stays true when runs are put one after the other, is true of whole
  renderings: such a property is a `Law`.
* Most visits leave the marks alone and write plain pieces: no `id`, no link back from a footnote and
  no tag of the footnote section. Five kinds of node have visits that do more.

Results:
* `Formatter.retells_transcript`: the emission of a document is what its steps write.
* **`Formatter.format_transcript`**: so is its page.
* `Law.holds_traverse`: a law that each visit obeys is obeyed by whole traversals.
* `Formatter.plain_visit`: at all but five kinds of node, visits are plain.
-/

namespace FlavoredMarkdown

/-- A step of a rendering and what it writes: a visit to a node inside the open containers, or the
text that stands for the children of an image. -/
inductive Step
  | visit (ancestors : List Occurrence) (o : Occurrence) (phase : Phase) (pieces : List Piece)
  | label (s : String)

namespace Step

/-- What a step writes. -/
def pieces : Step → List Piece
  | .visit _ _ _ pieces => pieces
  | .label s => [.text s]

/-- The node that is visited for the first time. -/
def entered? : Step → Option Member
  | .visit ancestors o .entering _ => some ⟨parentKind? ancestors, o.node⟩
  | _ => none

/-- The page of some steps. -/
def page (steps : List Step) : Page := Page.empty.addAll (steps.flatMap pieces)

end Step

/-- The steps of a part of a rendering, the marks after it and its result. -/
structure Recording (α : Type) where
  steps : List Step
  marks : Marks
  result : α

/-- Parts of a rendering that tell their steps, unless they fail. -/
def Record (α : Type) : Type := Marks → Except RenderError (Recording α)

/-- Goes on with the marks and the result. -/
def Recording.andThen {α β : Type} (r : Recording α) (f : α → Record β) :
    Except RenderError (Recording β) :=
  (f r.result r.marks).map fun r' => { r' with steps := r.steps ++ r'.steps }

instance : Monad Record where
  pure a := fun marks => .ok ⟨[], marks, a⟩
  bind x f := fun marks => (x marks).bind fun r => r.andThen f

namespace Record

variable {α β : Type}

theorem pure_apply (a : α) (marks : Marks) : (pure a : Record α) marks = .ok ⟨[], marks, a⟩ := rfl

theorem bind_apply (x : Record α) (f : α → Record β) (marks : Marks) :
    (x >>= f) marks = (x marks).bind fun r => r.andThen f := rfl

/-- A run that ends well is two runs that do, one after the other. -/
theorem bind_eq_ok {x : Record α} {f : α → Record β} {marks : Marks} {r : Recording β}
    (h : (x >>= f) marks = .ok r) :
    ∃ first second, x marks = .ok first ∧ f first.result first.marks = .ok second ∧
      r = ⟨first.steps ++ second.steps, second.marks, second.result⟩ := by
  rw [bind_apply] at h
  cases hx : x marks with
  | error e =>
    rw [hx] at h
    cases h
  | ok first =>
    rw [hx, Except.bind, Recording.andThen] at h
    cases hf : f first.result first.marks with
    | error e =>
      rw [hf] at h
      cases h
    | ok second =>
      rw [hf] at h
      exact ⟨first, second, rfl, hf, (Except.ok.inj h).symm⟩

end Record

/-! ## The transcript of a document -/

/-- What a formatter does at the visits of a walk, step by step. -/
def Formatter.transcriber (formatter : Formatter) (style : Style) : Handler Record where
  visit ancestors o phase := fun marks =>
    let e := (formatter.emitter style).visit ancestors o phase marks
    e.outcome.map fun signal => ⟨[.visit ancestors o phase e.pieces], e.marks, signal⟩
  writePlain s := fun marks => .ok ⟨[.label s], marks, ()⟩

/-- The steps of the rendering of a document. -/
def Formatter.transcript (formatter : Formatter) (style : Style) (doc : Node) :
    Except RenderError (Recording Unit) :=
  traverse (formatter.transcriber style) [] (Occurrence.root doc 0).place doc {}

/-- What a record says that is emitted. -/
def Recording.emission {α : Type} (r : Recording α) : Emission α :=
  ⟨r.steps.flatMap Step.pieces, r.marks, .ok r.result⟩

/-- The steps of a part write what it emits, and a part without a record fails. -/
structure Retells {α : Type} (x : Record α) (y : Emit α) : Prop where
  ok : ∀ {marks r}, x marks = .ok r → y marks = r.emission
  error : ∀ {marks e}, x marks = .error e → (y marks).outcome = .error e

theorem retells_bind {α β : Type} {x : Record α} {y : Emit α} {f : α → Record β} {g : α → Emit β}
    (h : Retells x y) (hf : ∀ a, Retells (f a) (g a)) : Retells (x >>= f) (y >>= g) where
  ok {marks r} hr := by
    obtain ⟨first, second, hx, hnext, rfl⟩ := Record.bind_eq_ok hr
    have hy : y marks = ⟨first.steps.flatMap Step.pieces, first.marks, .ok first.result⟩ := h.ok hx
    rw [Emit.bind_ok hy, (hf _).ok hnext]
    simp [Recording.emission]
  error {marks e} he := by
    rw [Record.bind_apply] at he
    rw [Emit.bind_apply, Emission.andThen]
    cases hx : x marks with
    | error e' =>
      rw [hx] at he
      cases he
      rw [h.error hx]
    | ok first =>
      rw [hx, Except.bind, Recording.andThen] at he
      rw [h.ok hx]
      cases hnext : f first.result first.marks with
      | error e' =>
        rw [hnext] at he
        cases he
        exact (hf _).error hnext
      | ok second =>
        rw [hnext] at he
        cases he

/-- Records and the emissions that they tell. -/
def retelling : Correspondence Record Emit where
  rel := Retells
  rel_pure a := ⟨fun h => by cases h; rfl, fun h => nomatch h⟩
  rel_bind := retells_bind

/-- A visit that does not fail is one step. -/
theorem Formatter.transcriber_visit {formatter : Formatter} {style : Style}
    {ancestors : List Occurrence} {o : Occurrence} {phase : Phase} {marks : Marks}
    {r : Recording Signal}
    (h : (formatter.transcriber style).visit ancestors o phase marks = .ok r) :
    ∃ pieces, (formatter.emitter style).visit ancestors o phase marks =
        ⟨pieces, r.marks, .ok r.result⟩ ∧
      r.steps = [.visit ancestors o phase pieces] := by
  simp only [Formatter.transcriber] at h
  cases he : (formatter.emitter style).visit ancestors o phase marks with
  | mk pieces marks' outcome =>
    rw [he] at h
    cases outcome with
    | error e => cases h
    | ok signal =>
      cases h
      exact ⟨pieces, rfl, rfl⟩

theorem retells_visit (formatter : Formatter) (style : Style) (ancestors : List Occurrence)
    (o : Occurrence) (phase : Phase) :
    Retells ((formatter.transcriber style).visit ancestors o phase)
      ((formatter.emitter style).visit ancestors o phase) where
  ok {marks r} h := by
    obtain ⟨pieces, hv, hsteps⟩ := Formatter.transcriber_visit h
    rw [hv, Recording.emission, hsteps]
    simp [Step.pieces]
  error {marks e} h := by
    simp only [Formatter.transcriber] at h
    cases ho : ((formatter.emitter style).visit ancestors o phase marks).outcome with
    | error e' =>
      rw [ho] at h
      cases h
      rfl
    | ok signal =>
      rw [ho] at h
      cases h

theorem retells_plain (formatter : Formatter) (style : Style) (s : String) :
    Retells ((formatter.transcriber style).writePlain s)
      ((formatter.emitter style).writePlain s) :=
  ⟨fun h => by cases h; rfl, fun h => nomatch h⟩

/-- The emission of a document is what its steps write. -/
theorem Formatter.retells_transcript (formatter : Formatter) (style : Style) (doc : Node) :
    Retells (traverse (formatter.transcriber style) [] (Occurrence.root doc 0).place doc)
      (traverse (formatter.emitter style) [] (Occurrence.root doc 0).place doc) := by
  have h : retelling.AtMembers (formatter.transcriber style) (formatter.emitter style)
      (doc.members (parentKind? [])) :=
    Correspondence.atMembers_of_visits (retells_plain formatter style)
      fun ancestors o phase _ => retells_visit formatter style ancestors o phase
  exact h.rel_traverse doc [] (Occurrence.root doc 0).place

/-- **The page of a document is what its steps write.** -/
theorem Formatter.format_transcript (formatter : Formatter) (style : Style) (doc : Node) :
    (formatter.format style doc).1 =
      (formatter.transcript style doc).map fun r => (Step.page r.steps).html := by
  have h := formatter.retells_transcript style doc
  rw [formatter.format_eq, Emission.html]
  unfold Formatter.emission Formatter.transcript
  cases hr : traverse (formatter.transcriber style) [] (Occurrence.root doc 0).place doc {} with
  | error e =>
    rw [h.error hr]
    rfl
  | ok r =>
    rw [h.ok hr]
    rfl

/-- A rendering that ends well leaves the page and the marks of its steps. -/
theorem Formatter.transcript_of_render {formatter : Formatter} {style : Style} {doc : Node}
    {r : Rendering} (h : formatter.render style doc {} = .ok () r) :
    ∃ steps, formatter.transcript style doc = .ok ⟨steps, r.marks, ()⟩ ∧
      r.page = Step.page steps := by
  obtain ⟨log, hdraws⟩ := formatter.draws_render style doc {}
  rw [hdraws, Emission.onto] at h
  unfold Formatter.transcript
  cases ht : traverse (formatter.transcriber style) [] (Occurrence.root doc 0).place doc {} with
  | error e =>
    rw [(formatter.retells_transcript style doc).error ht] at h
    cases h
  | ok t =>
    rw [(formatter.retells_transcript style doc).ok ht] at h
    cases h
    exact ⟨t.steps, rfl, rfl⟩

/-- The steps of a document that has a page. -/
theorem Formatter.transcript_of_format {formatter : Formatter} {style : Style} {doc : Node}
    {html : String} (h : (formatter.format style doc).1 = .ok html) :
    ∃ steps marks, formatter.transcript style doc = .ok ⟨steps, marks, ()⟩ ∧
      html = (Step.page steps).html := by
  rw [formatter.format_transcript] at h
  cases ht : formatter.transcript style doc with
  | error e =>
    rw [ht] at h
    cases h
  | ok t =>
    rw [ht] at h
    exact ⟨t.steps, t.marks, rfl, (Except.ok.inj h).symm⟩

/-! ## The steps of a tree -/

section Runs

variable {formatter : Formatter} {style : Style} {ancestors : List Occurrence} {marks : Marks}

/-- A leaf takes one step. -/
theorem Formatter.steps_leaf {kind : Leaf} {info : Info} {place : List Nat} {r : Recording Unit}
    (h : traverse (formatter.transcriber style) ancestors place (.leaf kind info) marks = .ok r) :
    ∃ pieces signal, (formatter.emitter style).visit ancestors ⟨.leaf kind info, place⟩ .entering
        marks = ⟨pieces, r.marks, .ok signal⟩ ∧
      r.steps = [.visit ancestors ⟨.leaf kind info, place⟩ .entering pieces] := by
  rw [traverse] at h
  obtain ⟨first, second, hv, hp, rfl⟩ := Record.bind_eq_ok h
  obtain ⟨pieces, hvisit, hsteps⟩ := Formatter.transcriber_visit hv
  cases hp
  exact ⟨pieces, _, hvisit, by simp [hsteps]⟩

/-- The steps of a container: its two visits, and what is between them. -/
theorem Formatter.steps_box {kind : Container} {info : Info} {children : List Node}
    {place : List Nat} {r : Recording Unit}
    (h : traverse (formatter.transcriber style) ancestors place (.box kind info children) marks =
      .ok r) :
    let o : Occurrence := ⟨.box kind info children, place⟩
    ∃ opening marks₁ signal below closing signal',
      (formatter.emitter style).visit ancestors o .entering marks =
          ⟨opening, marks₁, .ok signal⟩ ∧
        (formatter.transcriber style).inside children
          (traverseAll (formatter.transcriber style) (o :: ancestors) place 0 children) signal
          marks₁ = .ok below ∧
        (formatter.emitter style).visit ancestors o .leaving below.marks =
          ⟨closing, r.marks, .ok signal'⟩ ∧
        r.steps = .visit ancestors o .entering opening ::
          (below.steps ++ [.visit ancestors o .leaving closing]) := by
  intro o
  rw [traverse, Handler.around] at h
  obtain ⟨first, second, hfirst, hrest, rfl⟩ := Record.bind_eq_ok h
  obtain ⟨below, third, hbelow, hleave, rfl⟩ := Record.bind_eq_ok hrest
  obtain ⟨last, fourth, hlast, hp, rfl⟩ := Record.bind_eq_ok hleave
  obtain ⟨opening, he, hopen⟩ := Formatter.transcriber_visit hfirst
  obtain ⟨closing, hl, hclose⟩ := Formatter.transcriber_visit hlast
  cases hp
  exact ⟨opening, first.marks, first.result, below, closing, last.result, he, hbelow, hl,
    by simp [hopen, hclose, o]⟩

/-- The steps of the children at a place: those of the first, then those of the others. -/
theorem Formatter.steps_children {n : Node} {rest : List Node} {place : List Nat} {i : Nat}
    {r : Recording Unit}
    (h : traverseAll (formatter.transcriber style) ancestors place i (n :: rest) marks = .ok r) :
    ∃ first others,
      traverse (formatter.transcriber style) ancestors (i :: place) n marks = .ok first ∧
        traverseAll (formatter.transcriber style) ancestors place (i + 1) rest first.marks =
          .ok others ∧
        r = ⟨first.steps ++ others.steps, others.marks, ()⟩ := by
  rw [traverseAll] at h
  exact Record.bind_eq_ok h

/-- The steps of two rows of trees, one after the other. -/
theorem Formatter.steps_append {place : List Nat} {as bs : List Node} {i : Nat}
    {r : Recording Unit}
    (h : traverseAll (formatter.transcriber style) ancestors place i (as ++ bs) marks = .ok r) :
    ∃ first second,
      traverseAll (formatter.transcriber style) ancestors place i as marks = .ok first ∧
        traverseAll (formatter.transcriber style) ancestors place (i + as.length) bs first.marks =
          .ok second ∧
        r = ⟨first.steps ++ second.steps, second.marks, ()⟩ := by
  induction as generalizing i marks r with
  | nil => exact ⟨⟨[], marks, ()⟩, r, rfl, h, rfl⟩
  | cons n as ih =>
    obtain ⟨head, others, hn, hrest, rfl⟩ := Formatter.steps_children h
    obtain ⟨first, second, has, hbs, rfl⟩ := ih hrest
    refine ⟨⟨head.steps ++ first.steps, first.marks, ()⟩, second, ?_, ?_, by simp⟩
    · rw [traverseAll, Record.bind_apply, hn]
      simp [Except.bind, Recording.andThen, has, Except.map]
    · rwa [List.length_cons, Nat.add_comm as.length, ← Nat.add_assoc]

end Runs

/-! ## What all runs obey -/

/-- A property of runs that goes with putting them one after the other. -/
structure Law where
  Holds : Marks → List Step → Marks → Prop
  nil : ∀ marks, Holds marks [] marks
  append : ∀ {marks₁ marks₂ marks₃ : Marks} {as bs : List Step}, Holds marks₁ as marks₂ →
    Holds marks₂ bs marks₃ → Holds marks₁ (as ++ bs) marks₃

namespace Law

/-- Records whose runs obey the law. -/
def obeying (law : Law) : Correspondence Record Record where
  rel x _ := ∀ marks r, x marks = .ok r → law.Holds marks r.steps r.marks
  rel_pure a marks r h := by
    cases h
    exact law.nil marks
  rel_bind {_ _ x _ f _} hx hf marks r h := by
    obtain ⟨first, second, h₁, h₂, rfl⟩ := Record.bind_eq_ok h
    exact law.append (hx marks first h₁) (hf _ _ _ h₂)

/-- The steps of a formatter at some nodes obey the law. A leaf is entered and not left. -/
structure ObeyedAt (law : Law) (formatter : Formatter) (style : Style) (members : List Member) :
    Prop where
  label : ∀ s marks, law.Holds marks [.label s] marks
  visit : ∀ {ancestors : List Occurrence} {o : Occurrence} {phase : Phase} {marks marks' : Marks}
    {pieces : List Piece} {signal : Signal}, ⟨parentKind? ancestors, o.node⟩ ∈ members →
    (phase = .leaving → o.node.isLeaf = false) →
    (formatter.emitter style).visit ancestors o phase marks = ⟨pieces, marks', .ok signal⟩ →
      law.Holds marks [.visit ancestors o phase pieces] marks'

variable {law : Law} {formatter : Formatter} {style : Style}

theorem ObeyedAt.atMembers {members : List Member} (h : law.ObeyedAt formatter style members) :
    law.obeying.AtMembers (formatter.transcriber style) (formatter.transcriber style) members := by
  have visits (ancestors : List Occurrence) (o : Occurrence) (phase : Phase)
      (hm : ⟨parentKind? ancestors, o.node⟩ ∈ members)
      (hleaf : phase = .leaving → o.node.isLeaf = false) :
      law.obeying.rel ((formatter.transcriber style).visit ancestors o phase)
        ((formatter.transcriber style).visit ancestors o phase) := by
    intro marks r hr
    obtain ⟨pieces, hv, hsteps⟩ := Formatter.transcriber_visit hr
    rw [hsteps]
    exact h.visit hm hleaf hv
  refine ⟨fun ancestors place kind info hm => visits ancestors _ .entering hm nofun,
    fun ancestors place kind info children hm _ _ hx => ?_⟩
  refine law.obeying.rel_around (fun s marks r hr => ?_)
    (fun phase => visits ancestors _ phase hm fun _ => rfl) hx
  cases hr
  exact h.label s marks

/-- **A law that each visit obeys is obeyed by the steps of a tree.** -/
theorem ObeyedAt.holds_traverse {t : Node} {ancestors : List Occurrence} {place : List Nat}
    {marks : Marks} {r : Recording Unit}
    (h : law.ObeyedAt formatter style (t.members (parentKind? ancestors)))
    (hr : traverse (formatter.transcriber style) ancestors place t marks = .ok r) :
    law.Holds marks r.steps r.marks :=
  h.atMembers.rel_traverse t ancestors place marks r hr

/-- And by the steps of the children of a container. -/
theorem ObeyedAt.holds_traverseAll {nodes : List Node} {ancestors : List Occurrence}
    {place : List Nat} {i : Nat} {marks : Marks} {r : Recording Unit}
    (h : law.ObeyedAt formatter style (Node.membersAll (parentKind? ancestors) nodes))
    (hr : traverseAll (formatter.transcriber style) ancestors place i nodes marks = .ok r) :
    law.Holds marks r.steps r.marks :=
  h.atMembers.rel_traverseAll nodes ancestors place i marks r hr

end Law

/-! ## Plain visits -/

/-- The attributes that other parts of a page refer to, or that do the referring. -/
def Attribute.isPlain (a : Attribute) : Bool := a.name != "id" && a.name != "data-footnote-backref"

/-- Whether a piece has no `id`, is no link back from a footnote and no tag of the footnote section.
-/
def Piece.isPlain : Piece → Bool
  | .openTag name attributes => name != "section" && attributes.all Attribute.isPlain
  | .voidTag _ attributes | .openImage attributes => attributes.all Attribute.isPlain
  | .closeTag name => name != "section"
  | _ => true

/-- Whether all visits to a node are plain. -/
def Node.isOrdinary : Node → Bool
  | .leaf (.footnoteReference ..) _ => false
  | .box .document .. | .box (.heading _) .. | .box .paragraph ..
  | .box (.footnoteDefinition ..) .. => false
  | _ => true

/-- What a node is for the marks: ordinary, or one of five kinds with visits of their own. -/
inductive Node.Role : Node → Prop
  | ordinary {n : Node} (h : n.isOrdinary = true) : Role n
  | document (info : Info) (children : List Node) : Role (.box .document info children)
  | heading (level : HeadingLevel) (info : Info) (children : List Node) :
    Role (.box (.heading level) info children)
  | paragraph (info : Info) (children : List Node) : Role (.box .paragraph info children)
  | footnote (identifier : String) (index : Int) (info : Info) (children : List Node) :
    Role (.box (.footnoteDefinition identifier index) info children)
  | reference (identifier : String) (index : Int) (info : Info) :
    Role (.leaf (.footnoteReference identifier index) info)

theorem Node.role : ∀ n : Node, n.Role
  | .leaf kind info => by
    cases kind with
    | footnoteReference identifier index => exact .reference identifier index info
    | _ => exact .ordinary rfl
  | .box kind info children => by
    cases kind with
    | document => exact .document info children
    | heading level => exact .heading level info children
    | paragraph => exact .paragraph info children
    | footnoteDefinition identifier index => exact .footnote identifier index info children
    | _ => exact .ordinary rfl

/-- The visit leaves the marks alone and writes plain pieces. -/
def Visited.IsPlain (v : Visited) (marks : Marks) : Prop :=
  v.marks = marks ∧ v.pieces.all Piece.isPlain = true

section Plain

variable (style : Style) (info : Info)

theorem plain_position : (style.position info).all Attribute.isPlain = true := by
  unfold Style.position
  repeat' split
  all_goals rfl

theorem plain_title (title : Option String) :
    (titleAttribute title).all Attribute.isPlain = true := by
  unfold titleAttribute
  repeat' split
  all_goals rfl

theorem plain_rawHtml (content : String) : (Default.rawHtml style content).isPlain = true := by
  unfold Default.rawHtml
  repeat' split
  all_goals rfl

theorem plain_codeBlock (content : String) (fence : Option String) :
    (Default.codeBlock style info content fence).all Piece.isPlain = true := by
  unfold Default.codeBlock
  generalize Default.fenceWords fence = words
  obtain ⟨language, rest⟩ := words
  simp only
  repeat' split
  all_goals simp +decide [Piece.isPlain, Attribute.isPlain, classAttribute, plain_position]

theorem plain_taskItemClass : (Default.taskItemClass style).all Attribute.isPlain = true := by
  unfold Default.taskItemClass
  split <;> rfl

theorem plain_checkboxClass : (Default.checkboxClass style).all Attribute.isPlain = true := by
  unfold Default.checkboxClass
  split <;> rfl

theorem plain_customTask (symbol : Char) :
    (Default.customTask style info symbol).all Piece.isPlain = true := by
  simp [Default.customTask, Piece.isPlain, plain_taskItemClass, plain_position]

theorem plain_taskOpening (symbol : Option Char) :
    (Default.taskOpening style info symbol).all Piece.isPlain = true := by
  unfold Default.taskOpening
  split
  · exact plain_customTask style info _
  · split <;> simp +decide [Piece.isPlain, Attribute.isPlain, plain_taskItemClass,
      plain_checkboxClass, plain_position]

theorem plain_listOpening (ordered : Bool) (start : Int) {listClass : List Attribute}
    (h : listClass.all Attribute.isPlain = true) :
    (Default.listOpening style info ordered start listClass).all Piece.isPlain = true := by
  unfold Default.listOpening Default.listTag
  cases ordered <;> simp +decide [Piece.isPlain, plain_position, h]
  intro _
  rfl

theorem plain_linkOpening (url : String) (title : Option String) {tags : List Attribute}
    (h : tags.all Attribute.isPlain = true) :
    (Default.linkOpening style info url title tags).all Piece.isPlain = true := by
  simp +decide [Default.linkOpening, Piece.isPlain, Attribute.isPlain, plain_position, plain_title, h]

theorem plain_imageOpening (url : String) {tags : List Attribute}
    (h : tags.all Attribute.isPlain = true) :
    (Default.imageOpening style info url tags).all Piece.isPlain = true := by
  unfold Default.imageOpening
  split <;> simp +decide [Piece.isPlain, Attribute.isPlain, plain_position, h]

theorem plain_imageClosing (title : Option String) :
    (Default.imageClosing style title).all Piece.isPlain = true := by
  unfold Default.imageClosing
  repeat' split
  all_goals simp +decide [Piece.isPlain]

end Plain

section Visits

variable (style : Style) (ancestors : List Occurrence) (marks : Marks)

theorem Default.plain_leaf {kind : Leaf} {info : Info} {pieces : List Piece}
    (h : (Node.leaf kind info).isOrdinary = true)
    (hp : Default.leafPieces? style info kind = some pieces) :
    pieces.all Piece.isPlain = true := by
  cases kind with
  | footnoteReference identifier index => cases h
  | other kind => cases hp
  | codeBlock content fence =>
    cases hp
    exact plain_codeBlock style info content fence
  | htmlBlock content =>
    cases hp
    have hfresh : Piece.freshLine.isPlain = true := rfl
    simp [hfresh, plain_rawHtml]
  | htmlInline content =>
    cases hp
    simp [plain_rawHtml]
  | lineBreak soft =>
    simp only [Default.leafPieces?] at hp
    split at hp <;> cases hp <;> simp [Piece.isPlain, plain_position]
  | _ =>
    cases hp
    simp +decide [Piece.isPlain, plain_position]

theorem Default.plain_visit {o : Occurrence} (h : o.node.isOrdinary = true) (phase : Phase) :
    (Default.visit style ancestors marks o phase).IsPlain marks := by
  obtain ⟨n, place⟩ := o
  cases n with
  | leaf kind info =>
    simp only [Default.visit]
    split
    · next pieces hp => exact ⟨rfl, Default.plain_leaf style h hp⟩
    · exact ⟨rfl, rfl⟩
  | box kind info children =>
    simp only [Default.visit]
    cases kind with
    | document | heading | paragraph | footnoteDefinition => cases h
    | link url title =>
      simp only [Default.containerVisit, Default.link]
      split
      · exact ⟨rfl, rfl⟩
      · split
        · cases phase <;> exact ⟨rfl, rfl⟩
        · cases phase with
          | entering => exact ⟨rfl, plain_linkOpening style info url title rfl⟩
          | leaving => exact ⟨rfl, rfl⟩
    | image url title =>
      cases phase with
      | entering => exact ⟨rfl, plain_imageOpening style info url rfl⟩
      | leaving => exact ⟨rfl, plain_imageClosing style title⟩
    | blockQuote =>
      cases phase with
      | entering =>
        refine ⟨rfl, ?_⟩
        simp only [Default.containerVisit, Default.writes]
        split <;> simp +decide [Piece.isPlain, plain_position]
      | leaving => exact ⟨rfl, rfl⟩
    | list ordered start tight isTaskList =>
      cases phase with
      | entering =>
        refine ⟨rfl, plain_listOpening style info ordered start ?_⟩
        split <;> rfl
      | leaving => cases ordered <;> exact ⟨rfl, rfl⟩
    | taskItem symbol =>
      cases phase with
      | entering => exact ⟨rfl, plain_taskOpening style info symbol⟩
      | leaving => exact ⟨rfl, rfl⟩
    | table hasHeader =>
      cases phase with
      | entering =>
        refine ⟨rfl, ?_⟩
        simp +decide [Default.containerVisit, Default.writes, Piece.isPlain, plain_position]
      | leaving =>
        refine ⟨rfl, ?_⟩
        simp only [Default.containerVisit, Default.writes]
        split <;> rfl
    | tableRow isHeader =>
      cases phase with
      | entering =>
        refine ⟨rfl, ?_⟩
        simp only [Default.containerVisit, Default.tableRow, Default.writes]
        repeat' split
        all_goals simp +decide [Piece.isPlain, plain_position]
      | leaving => cases isHeader <;> exact ⟨rfl, rfl⟩
    | tableCell alignment =>
      have hcell : (Default.cellTag ancestors != "section") = true := by
        unfold Default.cellTag
        split <;> rfl
      cases phase with
      | entering =>
        refine ⟨rfl, ?_⟩
        simp only [Default.containerVisit, Default.writes]
        split <;> simp +decide [Piece.isPlain, hcell, plain_position, Attribute.isPlain]
      | leaving => exact ⟨rfl, by simp [Default.containerVisit, Default.writes, Piece.isPlain, hcell]⟩
    | listItem =>
      cases phase with
      | entering =>
        refine ⟨rfl, ?_⟩
        simp +decide [Default.containerVisit, Default.writes, Piece.isPlain, plain_position]
      | leaving => exact ⟨rfl, rfl⟩
    | _ => cases phase <;> exact ⟨rfl, rfl⟩

theorem Override.plain_visit (override : Override) {o : Occurrence} (h : o.node.isOrdinary = true)
    (phase : Phase) : (override.visit style ancestors marks o phase).IsPlain marks := by
  have hd := Default.plain_visit style ancestors marks h phase
  unfold Override.visit
  split
  · next content info he =>
    unfold Override.visitText
    simp only
    repeat' split
    · exact hd
    · exact hd
    · refine ⟨rfl, ?_⟩
      rw [List.all_flatMap, List.all_eq_true]
      intro item _
      cases item <;> rfl
    · exact ⟨rfl, rfl⟩
  · next url title info children he =>
    unfold Override.visitLink
    repeat' split
    · exact hd
    · exact ⟨rfl, rfl⟩
    · exact ⟨rfl, plain_linkOpening style info url title rfl⟩
    · exact ⟨rfl, rfl⟩
  · next url title info children he =>
    unfold Override.visitImage
    repeat' split
    · exact hd
    · exact ⟨rfl, plain_imageClosing style title⟩
    · exact ⟨rfl, plain_imageOpening style info url rfl⟩
  · next ordered start tight isTaskList info children he =>
    unfold Override.visitList
    split
    · exact hd
    · refine ⟨rfl, plain_listOpening style info ordered start ?_⟩
      split <;> rfl
  · next symbol info children he =>
    unfold Override.visitTaskItem
    repeat' split
    · exact hd
    · exact hd
    · exact ⟨rfl, rfl⟩
    · refine ⟨rfl, ?_⟩
      unfold Override.inapplicableOpening
      simp +decide [Piece.isPlain, Attribute.isPlain, classAttribute, plain_position,
        plain_checkboxClass]
    · exact ⟨rfl, plain_customTask style info _⟩
  · exact ⟨rfl, rfl⟩

/-- **Visits to ordinary nodes are plain.** -/
theorem Formatter.plain_visit (formatter : Formatter) {o : Occurrence}
    (h : o.node.isOrdinary = true) (phase : Phase) :
    ((formatter.emitter style).visit ancestors o phase marks).marks = marks ∧
      ((formatter.emitter style).visit ancestors o phase marks).pieces.all Piece.isPlain = true := by
  rw [Formatter.emitter_visit]
  rcases formatter.visitor_eq style o.node.kindName with hv | ⟨override, hv⟩ <;> rw [hv]
  · exact Default.plain_visit style ancestors marks h phase
  · exact Override.plain_visit style ancestors marks override h phase

/-- A visit to an ordinary node that does not fail leaves the marks alone and writes plain pieces. -/
theorem Formatter.plain_of_visit {formatter : Formatter} {style : Style}
    {ancestors : List Occurrence} {o : Occurrence} {phase : Phase} {marks marks' : Marks}
    {pieces : List Piece} {signal : Signal}
    (h : (formatter.emitter style).visit ancestors o phase marks = ⟨pieces, marks', .ok signal⟩)
    (hn : o.node.isOrdinary = true) : marks' = marks ∧ pieces.all Piece.isPlain = true := by
  have hplain := formatter.plain_visit style ancestors marks hn phase
  rwa [h] at hplain

/-- At a node that no override is for, a visit fails or is the default markup. -/
theorem Formatter.visit_default {formatter : Formatter} {style : Style}
    {ancestors : List Occurrence} {o : Occurrence} {phase : Phase} {marks marks' : Marks}
    {pieces : List Piece} {signal : Signal} (ho : Override.ofNode? o.node = none)
    (h : (formatter.emitter style).visit ancestors o phase marks = ⟨pieces, marks', .ok signal⟩) :
    (Default.visit style ancestors marks o phase).pieces = pieces ∧
      (Default.visit style ancestors marks o phase).marks = marks' ∧
      (Default.visit style ancestors marks o phase).outcome = .ok signal := by
  rw [Formatter.emitter_visit] at h
  rcases formatter.visitor_eq style o.node.kindName with hv | ⟨override, hv⟩ <;> rw [hv] at h
  · exact ⟨congrArg Emission.pieces h, congrArg Emission.marks h, congrArg Emission.outcome h⟩
  · -- an override for another kind of node fails
    obtain ⟨n, place⟩ := o
    unfold Visitor.emit Override.visit at h
    split at h
    all_goals first
      | (next he => simp only at he; subst he; cases ho)
      | cases h

end Visits

end FlavoredMarkdown

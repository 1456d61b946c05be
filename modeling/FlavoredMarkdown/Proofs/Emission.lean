import FlavoredMarkdown.Proofs.Traversal
import FlavoredMarkdown.Render.Formatter

/-!
# What a rendering writes, apart from the page

A visit does not look at the page: it sees the marks of earlier visits and answers with pieces. So a
rendering has a meaning without a page, an `Emission`: the pieces that are written, the marks that
are left and how it ended. Programs with such a meaning form the monad `Emit`, and a formatter is a
handler in it (`Formatter.emitter`).

Results:
* `Draws` relates a rendering onto a page to an emission; it is a correspondence (`drawing`).
* `Formatter.format_eq`: the HTML of a document is the page that its emission makes, and a document
  has no HTML for the reason that its emission ends with.
-/

namespace FlavoredMarkdown

/-- The ends of two renderings can be compared. -/
instance decidableEqExcept {ε α : Type} [DecidableEq ε] [DecidableEq α] :
    DecidableEq (Except ε α)
  | .ok a, .ok b => decidable_of_iff (a = b) ⟨congrArg Except.ok, Except.ok.inj⟩
  | .error e, .error e' => decidable_of_iff (e = e') ⟨congrArg Except.error, Except.error.inj⟩
  | .ok _, .error _ => isFalse fun h => nomatch h
  | .error _, .ok _ => isFalse fun h => nomatch h

/-- What a part of a rendering writes, the marks after it, and its result or why there is none. -/
structure Emission (α : Type) where
  pieces : List Piece
  marks : Marks
  outcome : Except RenderError α

/-- Parts of a rendering: the marks before decide what is written. -/
def Emit (α : Type) : Type := Marks → Emission α

/-- Goes on with the marks and the result, unless there was an error. -/
def Emission.andThen {α β : Type} (e : Emission α) (f : α → Emit β) : Emission β :=
  match e.outcome with
  | .ok a => { f a e.marks with pieces := e.pieces ++ (f a e.marks).pieces }
  | .error err => ⟨e.pieces, e.marks, .error err⟩

instance : Monad Emit where
  pure a := fun marks => ⟨[], marks, .ok a⟩
  bind x f := fun marks => (x marks).andThen f

namespace Emit

variable {α β : Type}

theorem pure_apply (a : α) (marks : Marks) : (pure a : Emit α) marks = ⟨[], marks, .ok a⟩ := rfl

theorem bind_apply (x : Emit α) (f : α → Emit β) (marks : Marks) :
    (x >>= f) marks = (x marks).andThen f := rfl

theorem bind_ok {x : Emit α} {marks marks' : Marks} {pieces : List Piece} {a : α}
    (h : x marks = ⟨pieces, marks', .ok a⟩) (f : α → Emit β) :
    (x >>= f) marks = { f a marks' with pieces := pieces ++ (f a marks').pieces } := by
  rw [bind_apply, h]
  rfl

theorem bind_error {x : Emit α} {marks marks' : Marks} {pieces : List Piece} {e : RenderError}
    (h : x marks = ⟨pieces, marks', .error e⟩) (f : α → Emit β) :
    (x >>= f) marks = ⟨pieces, marks', .error e⟩ := by
  rw [bind_apply, h]
  rfl

/-- A run that ends well is two runs that do. -/
theorem bind_eq_ok {x : Emit α} {f : α → Emit β} {marks : Marks} {b : β}
    (h : ((x >>= f) marks).outcome = .ok b) :
    ∃ a, (x marks).outcome = .ok a ∧ (f a (x marks).marks).outcome = .ok b ∧
      ((x >>= f) marks).pieces = (x marks).pieces ++ (f a (x marks).marks).pieces ∧
      ((x >>= f) marks).marks = (f a (x marks).marks).marks := by
  rw [bind_apply] at h ⊢
  unfold Emission.andThen at h ⊢
  split at h
  · next a ha => exact ⟨a, ha, h, rfl, rfl⟩
  · cases h

end Emit

/-- What a visit emits; its records for the log are left out. -/
def Visited.emission (v : Visited) : Emission Signal := ⟨v.pieces, v.marks, v.outcome⟩

/-- A visit as a part of a rendering. -/
def Visitor.emit (visitor : Visitor) (style : Style) (ancestors : List Occurrence) (o : Occurrence)
    (phase : Phase) : Emit Signal :=
  fun marks => (visitor style ancestors marks o phase).emission

/-- What a formatter emits at the visits of a walk. -/
def Formatter.emitter (formatter : Formatter) (style : Style) : Handler Emit where
  visit ancestors o phase :=
    (formatter.visitor style o.node.kindName).emit style ancestors o phase
  writePlain s := fun marks => ⟨[.text s], marks, .ok ()⟩

theorem Formatter.emitter_visit (formatter : Formatter) (style : Style)
    (ancestors : List Occurrence) (o : Occurrence) (phase : Phase) :
    (formatter.emitter style).visit ancestors o phase =
      (formatter.visitor style o.node.kindName).emit style ancestors o phase := rfl

/-- The default markup does not look at the options of the overrides. -/
theorem Default.visit_congr {style style' : Style} (h : style.html = style'.html)
    (ancestors : List Occurrence) (marks : Marks) (o : Occurrence) (phase : Phase) :
    Default.visit style ancestors marks o phase = Default.visit style' ancestors marks o phase := by
  obtain ⟨html, user⟩ := style
  obtain ⟨html', user'⟩ := style'
  cases h
  obtain ⟨n, place⟩ := o
  cases n with
  | leaf kind info => cases kind <;> rfl
  | box kind info children => cases kind <;> rfl

/-- What a formatter does at a node is the default markup or that of an override. -/
theorem Formatter.visitor_eq (formatter : Formatter) (style : Style) (kind : String) :
    formatter.visitor style kind = Default.visit ∨
      ∃ override : Override, formatter.visitor style kind = override.visit := by
  cases formatter with
  | plain => exact .inl rfl
  | flavored table =>
    simp only [visitor]
    split
    · exact .inl rfl
    · cases table.lookup kind with
      | some override => exact .inr ⟨override, rfl⟩
      | none => exact .inl rfl

/-- A container whose first visit fails ends the rendering. -/
theorem Formatter.around_ne_ok {formatter : Formatter} {style : Style} {ancestors : List Occurrence}
    {o : Occurrence} {marks : Marks}
    (h : ∃ e, (formatter.visitor style o.node.kindName style ancestors marks o .entering).outcome =
      .error e) (x : Emit Unit) (a : Unit) :
    ((formatter.emitter style).around ancestors o x marks).outcome ≠ .ok a := by
  intro ha
  obtain ⟨e, h⟩ := h
  obtain ⟨signal, hs, -⟩ := Emit.bind_eq_ok ha
  cases h.symm.trans hs

/-- Text is cut at its placeholders where they are marked, and is the default markup elsewhere. -/
theorem emission_visitText_entering (style : Style) (ancestors : List Occurrence) (marks : Marks)
    (o : Occurrence) (content : String) :
    (Override.visitText style ancestors marks o content .entering).emission =
      if Override.marksIn style content ∧ Override.labelKind? ancestors = none then
        ⟨(Placeholder.scan content.toList).flatMap Override.itemPieces, marks, .ok .html⟩
      else (Default.visit style ancestors marks o .entering).emission := by
  unfold Override.visitText
  cases hm : Override.marksIn style content with
  | false => simp
  | true =>
    cases hl : Override.labelKind? ancestors with
    | none => simp [Visited.emission]
    | some kind => simp [Visited.emission]

/-- The text that stands for a node is written between its two visits. -/
theorem Formatter.around_plain {formatter : Formatter} {style : Style} {ancestors : List Occurrence}
    {o : Occurrence} {marks marks' marks'' : Marks} {opening closing : List Piece} {signal : Signal}
    (he : (formatter.emitter style).visit ancestors o .entering marks =
      ⟨opening, marks', .ok .plain⟩)
    (hl : (formatter.emitter style).visit ancestors o .leaving marks' =
      ⟨closing, marks'', .ok signal⟩) (x : Emit Unit) :
    (formatter.emitter style).around ancestors o x marks =
      ⟨opening ++ .text (plainText o.node.children) :: closing, marks'', .ok ()⟩ := by
  have hw : ((formatter.emitter style).inside o.node.children x .plain) marks' =
    ⟨[.text (plainText o.node.children)], marks', .ok ()⟩ := rfl
  unfold Handler.around
  rw [Emit.bind_ok he, Emit.bind_ok hw, Emit.bind_ok hl]
  simp [Emit.pure_apply]

/-- An image is written whole. Its opening tag has a mark if an override finds a placeholder in its
URL. -/
theorem Formatter.around_image {formatter : Formatter} {style : Style} {url : String}
    {title : Option String} {attributes : List Attribute}
    (h : formatter.visitor style (Container.image url title).name = Default.visit ∧
        attributes = [] ∨
      formatter.visitor style (Container.image url title).name = Override.image.visit ∧
        attributes = if Override.marksIn style url then [Override.mark] else [])
    (ancestors : List Occurrence) (info : Info) (children : List Node) (place : List Nat)
    (x : Emit Unit) (marks : Marks) :
    (formatter.emitter style).around ancestors ⟨.box (.image url title) info children, place⟩ x
      marks =
      ⟨Default.imageOpening style info url attributes ++
        .text (plainText children) :: Default.imageClosing style title, marks, .ok ()⟩ := by
  let o : Occurrence := ⟨.box (.image url title) info children, place⟩
  have visits : (formatter.emitter style).visit ancestors o .entering marks =
        ⟨Default.imageOpening style info url attributes, marks, .ok .plain⟩ ∧
      (formatter.emitter style).visit ancestors o .leaving marks =
        ⟨Default.imageClosing style title, marks, .ok .html⟩ := by
    rw [Formatter.emitter_visit, Formatter.emitter_visit, Node.kindName]
    rcases h with ⟨hv, rfl⟩ | ⟨hv, rfl⟩
    · rw [hv]
      constructor <;> rfl
    · rw [hv]
      cases hm : Override.marksIn style url <;> constructor <;>
        simp only [Visitor.emit, o, Override.visit, Override.visitImage, hm] <;> rfl
  exact Formatter.around_plain visits.1 visits.2 x

/-- What the rendering of a document emits. -/
def Formatter.emission (formatter : Formatter) (style : Style) (doc : Node) : Emission Unit :=
  traverse (formatter.emitter style) [] (Occurrence.root doc 0).place doc {}

/-- The HTML of the pieces, unless there was an error. -/
def Emission.html (e : Emission Unit) : Except RenderError String :=
  e.outcome.map fun _ => (Page.empty.addAll e.pieces).html

/-! ## Renderings draw emissions -/

/-- The end of a rendering that started on a page and emitted `e`. -/
def Emission.onto {α : Type} (e : Emission α) (page : Page) (log : List LogRecord) :
    EStateM.Result RenderError Rendering α :=
  match e.outcome with
  | .ok a => .ok a ⟨page.addAll e.pieces, e.marks, log⟩
  | .error err => .error err ⟨page.addAll e.pieces, e.marks, log⟩

/-- Wherever it starts, the rendering puts on its page what the emission says. -/
def Draws {α : Type} (x : RenderM α) (y : Emit α) : Prop :=
  ∀ r : Rendering, ∃ log, x r = (y r.marks).onto r.page log

theorem draws_pure {α : Type} (a : α) : Draws (pure a) (pure a) := fun r => ⟨r.log, rfl⟩

theorem draws_bind {α β : Type} {x : RenderM α} {y : Emit α} {f : α → RenderM β} {g : α → Emit β}
    (h : Draws x y) (hf : ∀ a, Draws (f a) (g a)) : Draws (x >>= f) (y >>= g) := by
  intro r
  obtain ⟨log, hx⟩ := h r
  cases hy : y r.marks with
  | mk pieces marks outcome =>
    rw [hy] at hx
    cases outcome with
    | ok a =>
      obtain ⟨log', hfa⟩ := hf a ⟨r.page.addAll pieces, marks, log⟩
      refine ⟨log', ?_⟩
      have hbind : (x >>= f) r = f a ⟨r.page.addAll pieces, marks, log⟩ := by
        show EStateM.bind x f r = _
        rw [EStateM.bind, hx]
        rfl
      rw [hbind, hfa, Emit.bind_ok hy]
      simp only [Emission.onto, Page.addAll_append]
    | error e =>
      refine ⟨log, ?_⟩
      have hbind : (x >>= f) r = .error e ⟨r.page.addAll pieces, marks, log⟩ := by
        show EStateM.bind x f r = _
        rw [EStateM.bind, hx]
        rfl
      rw [hbind, Emit.bind_error hy]
      rfl

/-- Renderings and the emissions they draw. -/
def drawing : Correspondence RenderM Emit where
  rel := Draws
  rel_pure := draws_pure
  rel_bind := draws_bind

theorem draws_visit (formatter : Formatter) (style : Style) (ancestors : List Occurrence)
    (o : Occurrence) (phase : Phase) :
    Draws ((formatter.handler style).visit ancestors o phase)
      ((formatter.emitter style).visit ancestors o phase) := by
  intro r
  refine
    ⟨r.log ++ (formatter.visitor style o.node.kindName style ancestors r.marks o phase).log, ?_⟩
  simp only [Formatter.handler, Formatter.dispatch, Formatter.emitter, Visitor.emit, Visited.apply,
    Visited.emission, Emission.onto]
  cases (formatter.visitor style o.node.kindName style ancestors r.marks o phase).outcome <;> rfl

theorem draws_plain (formatter : Formatter) (style : Style) (s : String) :
    Draws ((formatter.handler style).writePlain s) ((formatter.emitter style).writePlain s) :=
  fun r => ⟨r.log, rfl⟩

/-- A rendering makes the visits of the traversal of its document. -/
theorem Formatter.render_eq (formatter : Formatter) (style : Style) (doc : Node) :
    formatter.render style doc =
      traverse (formatter.handler style) [] (Occurrence.root doc 0).place doc := by
  unfold Formatter.render walk
  simp only [Occurrence.root, walkFrom_enter, walkFrom_nil]
  simp

/-- The rendering of a document draws its emission on the empty page. -/
theorem Formatter.draws_render (formatter : Formatter) (style : Style) (doc : Node) :
    Draws (formatter.render style doc)
      (traverse (formatter.emitter style) [] (Occurrence.root doc 0).place doc) := by
  have h : drawing.AtMembers (formatter.handler style) (formatter.emitter style)
      (doc.members (parentKind? [])) :=
    Correspondence.atMembers_of_visits (draws_plain formatter style)
      fun ancestors o phase _ => draws_visit formatter style ancestors o phase
  rw [Formatter.render_eq]
  exact h.rel_traverse doc [] (Occurrence.root doc 0).place

/-- **The HTML of a document is the page of its emission.** -/
theorem Formatter.format_eq (formatter : Formatter) (style : Style) (doc : Node) :
    (formatter.format style doc).1 = (formatter.emission style doc).html := by
  obtain ⟨log, h⟩ := formatter.draws_render style doc {}
  unfold Formatter.format
  rw [h]
  unfold Formatter.emission Emission.html Emission.onto
  cases (traverse (formatter.emitter style) [] (Occurrence.root doc 0).place doc {}).outcome <;> rfl

end FlavoredMarkdown

import FlavoredMarkdown.Proofs.Answers
import FlavoredMarkdown.Proofs.Lexemes
import FlavoredMarkdown.Proofs.Soundness

/-!
# What a page shows, node by node

Something is read off the lexemes of a page, item by item, such that texts one after the other show
their items one after the other: a `Census`. What a rendering writes is then accounted for along the
tree. If each visited node shows items of its own, and nothing when it is left, a page shows the
items of all visited nodes in document order.

* What is in an image is not visited, so an image accounts for itself as a whole.
* A part of a rendering that fails shows nothing in particular: it stopped somewhere.

Results:
* **`Census.Accounts.emits_traverse`**: a tree shows the items of its visited nodes.
* `Census.reads_page`: what the pieces of a rendering show is read off its page.
* **`Census.Accounts.reads_format`**: the page of a document shows the items of its visited nodes.
-/

namespace FlavoredMarkdown

open Html Piece

/-- A way to read items off lexemes that goes with putting texts one after the other. -/
structure Census (α : Type) where
  Reads : List α → List Lexeme → Prop
  reads_nil : Reads [] []
  reads_append : ∀ {items items' : List α} {ls ms : List Lexeme}, Reads items ls →
    Reads items' ms → Reads (items ++ items') (ls ++ ms)

namespace Census

variable {α β γ : Type} {c : Census α} {items items' : List α}

/-! ## Runs of pieces -/

/-- On a page the pieces show the items, wherever the line starts. -/
def Shows (c : Census α) (items : List α) (pieces : List Piece) : Prop :=
  ∀ fresh, ∃ lexemes, Lexes (textFrom fresh pieces) lexemes ∧ c.Reads items lexemes

theorem shows_nil (c : Census α) : c.Shows [] [] := fun _ => ⟨[], lexes_empty, c.reads_nil⟩

theorem Shows.append {as bs : List Piece} (ha : c.Shows items as) (hb : c.Shows items' bs) :
    c.Shows (items ++ items') (as ++ bs) := by
  intro fresh
  obtain ⟨ls, hls, hitems⟩ := ha fresh
  obtain ⟨ms, hms, hitems'⟩ := hb (freshAfter fresh as)
  rw [textFrom_append]
  exact ⟨ls ++ ms, hls.append hms, c.reads_append hitems hitems'⟩

/-- Sound pieces show what their lexemes show. -/
theorem shows_pieces {v : Vocabulary} (hv : v.images = false) {pieces : List Piece}
    (h : AllSound v pieces) (hr : ∀ fresh, c.Reads items (lexemesFrom fresh pieces)) :
    c.Shows items pieces := fun fresh => ⟨_, lexes_textFrom hv h fresh, hr fresh⟩

/-- Sound pieces that show nothing one by one show nothing. -/
theorem shows_nothing {v : Vocabulary} (hv : v.images = false) {pieces : List Piece}
    (h : AllSound v pieces) (hr : ∀ p ∈ pieces, ∀ fresh, c.Reads [] (p.lexemes fresh)) :
    c.Shows [] pieces := by
  refine shows_pieces hv h fun fresh => ?_
  clear h
  induction pieces generalizing fresh with
  | nil => exact c.reads_nil
  | cons p rest ih =>
    obtain ⟨hp, hrest⟩ := List.forall_mem_cons.mp hr
    exact c.reads_append (hp fresh) (ih hrest _)

/-- An image shows what its tag shows. -/
theorem shows_image {v : Vocabulary} {attributes : List Attribute}
    (h : SoundAttributes v attributes) {s : String} {title : Option String}
    (hr : c.Reads items [.tag (imageWords attributes s title)]) :
    c.Shows items [.openImage attributes, .text s, .closeImage title] := by
  intro fresh
  refine ⟨_, ?_, hr⟩
  rw [textFrom_image]
  exact lexes_image h s title

/-! ## Parts of renderings -/

/-- If the part does not fail, what it writes shows the items. -/
def Emits (c : Census α) (items : List α) (x : Emit β) : Prop :=
  ∀ marks b, (x marks).outcome = .ok b → c.Shows items (x marks).pieces

theorem emits_pure (c : Census α) (b : β) : c.Emits [] (pure b : Emit β) := fun _ _ _ => c.shows_nil

theorem Emits.bind {x : Emit β} {f : β → Emit γ} (hx : c.Emits items x)
    (hf : ∀ marks b, (x marks).outcome = .ok b → c.Emits items' (f b)) :
    c.Emits (items ++ items') (x >>= f) := by
  intro marks d h
  obtain ⟨b, hb, hd, hpieces, -⟩ := Emit.bind_eq_ok h
  rw [hpieces]
  exact (hx marks b hb).append (hf marks b hb _ d hd)

/-- A part shows what it shows without its result. -/
theorem Emits.void {x : Emit β} (hx : c.Emits items x) (b : γ) :
    c.Emits items (x >>= fun _ => pure b) := by
  have h := hx.bind fun _ _ _ => c.emits_pure b
  rwa [List.append_nil] at h

/-- A container whose children are visited shows its items and then those below. -/
theorem emits_around {handler : Handler Emit} {ancestors : List Occurrence} {o : Occurrence}
    {x : Emit Unit} (hentering : c.Emits items (handler.visit ancestors o .entering))
    (hanswer : ∀ marks signal, (handler.visit ancestors o .entering marks).outcome = .ok signal →
      signal = .html)
    (hx : c.Emits items' x) (hleaving : c.Emits [] (handler.visit ancestors o .leaving)) :
    c.Emits (items ++ items') (handler.around ancestors o x) := by
  unfold Handler.around
  refine hentering.bind fun marks signal hs => ?_
  rw [hanswer marks signal hs]
  have h := hx.bind (fun _ _ _ => hleaving.void ())
  rwa [List.append_nil] at h

/-! ## Trees -/

/-- Each node of a list accounts for its items. -/
structure Accounts (c : Census α) (handler : Handler Emit) (items : Member → List α)
    (members : List Member) : Prop where
  leaf : ∀ (ancestors : List Occurrence) (place : List Nat) (kind : Leaf) (info : Info),
    ⟨parentKind? ancestors, .leaf kind info⟩ ∈ members →
      c.Emits (items ⟨parentKind? ancestors, .leaf kind info⟩)
        (handler.visit ancestors ⟨.leaf kind info, place⟩ .entering)
  box : ∀ (ancestors : List Occurrence) (place : List Nat) (kind : Container) (info : Info)
    (children : List Node), ⟨parentKind? ancestors, .box kind info children⟩ ∈ members →
      (Node.box kind info children).isImage = false → ∀ {below : List α} {x : Emit Unit},
        c.Emits below x →
          c.Emits (items ⟨parentKind? ancestors, .box kind info children⟩ ++ below)
            (handler.around ancestors ⟨.box kind info children, place⟩ x)
  image : ∀ (ancestors : List Occurrence) (place : List Nat) (kind : Container) (info : Info)
    (children : List Node), ⟨parentKind? ancestors, .box kind info children⟩ ∈ members →
      (Node.box kind info children).isImage = true → ∀ x : Emit Unit,
        c.Emits (items ⟨parentKind? ancestors, .box kind info children⟩)
          (handler.around ancestors ⟨.box kind info children, place⟩ x)

variable {handler : Handler Emit} {own : Member → List α}

theorem Accounts.mono {members members' : List Member} (h : c.Accounts handler own members)
    (hs : ∀ q ∈ members', q ∈ members) : c.Accounts handler own members' where
  leaf ancestors place kind info hm := h.leaf ancestors place kind info (hs _ hm)
  box ancestors place kind info children hm := h.box ancestors place kind info children (hs _ hm)
  image ancestors place kind info children hm :=
    h.image ancestors place kind info children (hs _ hm)

mutual

/-- **A tree shows the items of its visited nodes**, in document order. -/
theorem Accounts.emits_traverse : ∀ (t : Node) (ancestors : List Occurrence) (place : List Nat),
    c.Accounts handler own (t.visited (parentKind? ancestors)) →
    c.Emits ((t.visited (parentKind? ancestors)).flatMap own)
      (traverse handler ancestors place t)
  | .leaf kind info, ancestors, place, h => by
    rw [Node.visited_leaf] at h ⊢
    rw [traverse, List.flatMap_cons, List.flatMap_nil, List.append_nil]
    exact (h.leaf _ _ _ _ List.mem_cons_self).void ()
  | .box kind info children, ancestors, place, h => by
    rw [Node.visited_box] at h ⊢
    rw [traverse, List.flatMap_cons]
    cases hi : (Node.box kind info children).isImage with
    | true =>
      -- what is below an image becomes its label, so nothing below is visited
      rw [if_pos rfl, List.flatMap_nil, List.append_nil]
      exact h.image _ _ _ _ _ List.mem_cons_self hi _
    | false =>
      rw [hi] at h
      refine h.box _ _ _ _ _ List.mem_cons_self hi ?_
      exact Accounts.emits_traverseAll children _ _ _
        (h.mono fun q hq => List.mem_cons_of_mem _ hq)

theorem Accounts.emits_traverseAll : ∀ (nodes : List Node) (ancestors : List Occurrence)
    (place : List Nat) (i : Nat),
    c.Accounts handler own (Node.visitedAll (parentKind? ancestors) nodes) →
    c.Emits ((Node.visitedAll (parentKind? ancestors) nodes).flatMap own)
      (traverseAll handler ancestors place i nodes)
  | [], ancestors, place, i, h => by
    rw [traverseAll, Node.visitedAll]
    exact c.emits_pure ()
  | t :: rest, ancestors, place, i, h => by
    rw [Node.visitedAll] at h ⊢
    rw [traverseAll, List.flatMap_append]
    refine (Accounts.emits_traverse t _ _ ?_).bind fun _ _ _ =>
      Accounts.emits_traverseAll rest _ _ _ ?_
    · exact h.mono fun q hq => List.mem_append_left _ hq
    · exact h.mono fun q hq => List.mem_append_right _ hq

end

/-- What the pieces of a rendering show is read off its page. -/
theorem reads_page {formatter : Formatter} {style : Style} {doc : Node}
    (h : ∀ a, (formatter.emission style doc).outcome = .ok a →
      c.Shows items (formatter.emission style doc).pieces) {html : String}
    (hf : (formatter.format style doc).1 = .ok html) : c.Reads items (lex html) := by
  rw [formatter.format_eq, Emission.html] at hf
  cases ho : (formatter.emission style doc).outcome with
  | error e =>
    rw [ho] at hf
    cases hf
  | ok a =>
    rw [ho] at hf
    obtain ⟨lexemes, hl, hr⟩ := h a ho Page.empty.atLineStart
    have hhtml : html = textFrom Page.empty.atLineStart (formatter.emission style doc).pieces := by
      rw [← Except.ok.inj hf, Page.html_addAll]
      simp [Page.empty]
    rw [hhtml]
    exact hl.lex_eq ▸ hr

/-- **The page of a document shows the items of its visited nodes**, in document order. -/
theorem Accounts.reads_format {formatter : Formatter} {style : Style} {doc : Node}
    (h : c.Accounts (formatter.emitter style) own (doc.visited none)) {html : String}
    (hf : (formatter.format style doc).1 = .ok html) :
    c.Reads ((doc.visited none).flatMap own) (lex html) :=
  reads_page (h.emits_traverse doc [] (Occurrence.root doc 0).place {}) hf

end Census

end FlavoredMarkdown

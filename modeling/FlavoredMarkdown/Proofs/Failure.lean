import FlavoredMarkdown.Proofs.Answers
import FlavoredMarkdown.Proofs.Completion

/-!
# Why a document is not rendered

A formatter (`dispatch`) has no markup for a node if its table has the override for another kind, or has
none and the kind is foreign (`Formatter.misfit?`). Apart from that a rendering can only stop at a
heading, for the prefix of its anchor. What a visit writes, the marks it finds and the open containers
have no say in it, so the error is that of the first node that a rendering comes to and cannot write.

* Any table is allowed, one that has an override for a foreign kind included.
* The text that stands for an image is flattened, not visited: what is below an image is never the
  reason.

Results:
* `Formatter.outcome_entering`: a first visit fails for the fault of its node, or answers as the node
  demands.
* **`Formatter.format_error_iff`**: the error of a document is the first fault among the nodes that a
  rendering comes to.
* **`Formatter.handOver_format`**: if no links are ignored, these are the visited nodes; and there is
  one write if there is none among them that the formatter has no markup for, and none otherwise.
-/

namespace FlavoredMarkdown

/-- Why a formatter has no markup for a node: the override for its kind is for another one, or there
is neither an override nor a default markup. -/
def Formatter.misfit? (formatter : Formatter) (style : Style) (n : Node) : Option RenderError :=
  match formatter.override? style n.kindName with
  | some override =>
    if override.kindName = n.kindName then none
    else some (.wrongKind override.kindName n.kindName)
  | none => if n.kindName ∈ knownKinds then none else some (.noMarkup n.kindName)

/-- Whether a setting can serve as the prefix of anchors: it is a text, or nothing. -/
def Setting.isTextOrNone : Setting → Bool
  | .value .null | .value (.str _) => true
  | _ => false

/-- Whether the anchors of headings get a prefix that is no text. -/
def Style.hasBadPrefix (style : Style) : Bool := !style.html.headerIds.isTextOrNone

/-- Why a rendering stops at a node. -/
def Formatter.fault? (formatter : Formatter) (style : Style) (n : Node) : Option RenderError :=
  (formatter.misfit? style n).or
    (if n.isHeading && style.hasBadPrefix then some .anchorPrefixNotText else none)

theorem Style.hasBadPrefix_eq_false {style : Style} :
    style.hasBadPrefix = false ↔ style.HasAnchorText := by
  rw [Style.hasBadPrefix, Bool.not_eq_false', Style.HasAnchorText]
  constructor
  · intro h
    unfold Setting.isTextOrNone at h
    split at h
    · next hnull => exact .inl (by rw [hnull]; rfl)
    · next front hfront => exact .inr ⟨front, hfront⟩
    · cases h
  · rintro (hnone | ⟨front, hfront⟩)
    · unfold Setting.isNone at hnone
      split at hnone
      · next hnull => rw [hnull]; rfl
      · cases hnone
    · rw [hfront]
      rfl

/-- A kind of node is known by its name. -/
theorem Node.isForeign_eq_false {n : Node} : n.isForeign = false ↔ n.kindName ∈ knownKinds := by
  cases n with
  | leaf kind info =>
    cases kind with
    | other kind => exact ⟨fun h => Bool.noConfusion (h : true = false), fun h => absurd h kind.notKnown⟩
    | _ => simp [Node.isForeign, Node.kindName, Leaf.name, knownKinds]
  | box kind info children =>
    cases kind with
    | other kind => exact ⟨fun h => Bool.noConfusion (h : true = false), fun h => absurd h kind.notKnown⟩
    | _ => simp [Node.isForeign, Node.kindName, Container.name, knownKinds]

/-- So is the kind that an override is for. -/
theorem Override.ofNode?_eq_some_iff {override : Override} {n : Node} :
    Override.ofNode? n = some override ↔ override.kindName = n.kindName := by
  constructor
  · intro h
    unfold Override.ofNode? at h
    split at h <;> cases h <;> rfl
  · intro h
    rw [← Override.lookup_standard, ← h]
    cases override <;> rfl

/-! ## Single visits -/

section Visits

variable {style : Style} {ancestors : List Occurrence} {marks : Marks} {o : Occurrence}

/-- The default markup has nothing for a foreign kind. -/
theorem Default.visit_foreign (h : o.node.isForeign = true) (phase : Phase) :
    (Default.visit style ancestors marks o phase).outcome = .error (.noMarkup o.node.kindName) := by
  obtain ⟨n, place⟩ := o
  unfold Node.isForeign at h
  split at h
  · next kind info =>
    obtain rfl : n = _ := ‹_›
    rfl
  · next kind info children =>
    obtain rfl : n = _ := ‹_›
    rfl
  · cases h

/-- An override has nothing for another kind than its own. -/
theorem Override.visit_misfit {override : Override} (h : override.kindName ≠ o.node.kindName)
    (phase : Phase) :
    (override.visit style ancestors marks o phase).outcome =
      .error (.wrongKind override.kindName o.node.kindName) := by
  obtain ⟨n, place⟩ := o
  have hn : Override.ofNode? n ≠ some override := fun he => h (Override.ofNode?_eq_some_iff.mp he)
  simp only [Override.visit]
  split
  iterate 5 exact absurd rfl hn
  rfl

/-- A heading cannot have an anchor with a prefix that is no text. -/
theorem Default.visit_badPrefix (h : o.node.isHeading = true) (hbad : style.hasBadPrefix = true) :
    (Default.visit style ancestors marks o .entering).outcome = .error .anchorPrefixNotText := by
  obtain ⟨n, place⟩ := o
  unfold Node.isHeading at h
  split at h
  · next level info children =>
    obtain rfl : n = _ := ‹_›
    rw [Style.hasBadPrefix, Bool.not_eq_true', Setting.isTextOrNone.eq_def] at hbad
    simp only [Default.visit, Default.containerVisit, Default.heading]
    split at hbad
    · cases hbad
    · cases hbad
    · next hnull htext =>
      have hsome : style.html.headerIds.isNone = false := by
        unfold Setting.isNone
        split
        · next hh => exact absurd hh hnull
        · rfl
      rw [hsome, if_neg Bool.false_ne_true]
      split
      · next front hh => exact absurd hh (htext front)
      · rfl
  · cases h

variable (formatter : Formatter)

/-- A formatter has markup for a node if it has an override that is for the node, or none and the kind
is known. -/
theorem Formatter.misfit?_eq_none {n : Node} :
    formatter.misfit? style n = none ↔
      match formatter.override? style n.kindName with
      | some override => Override.ofNode? n = some override
      | none => n.isForeign = false := by
  unfold Formatter.misfit?
  cases formatter.override? style n.kindName with
  | none =>
    simp only [Node.isForeign_eq_false]
    by_cases hk : n.kindName ∈ knownKinds <;> simp [hk]
  | some override =>
    simp only [Override.ofNode?_eq_some_iff]
    by_cases hk : override.kindName = n.kindName <;> simp [hk]

/-- A visit to a node that a formatter has no markup for fails. -/
theorem Formatter.visit_misfit {e : RenderError} (h : formatter.misfit? style o.node = some e)
    (phase : Phase) :
    ((formatter.emitter style).visit ancestors o phase marks).outcome = .error e := by
  rw [Formatter.emitter_visit, Formatter.visitor_override?]
  unfold Formatter.misfit? at h
  cases hov : formatter.override? style o.node.kindName with
  | none =>
    rw [hov] at h
    by_cases hk : o.node.kindName ∈ knownKinds
    · simp [hk] at h
    · have hf : o.node.isForeign = true := by
        rw [← Bool.not_eq_false, Node.isForeign_eq_false]
        exact hk
      simp only [hk, if_false, Option.some.injEq] at h
      exact h ▸ Default.visit_foreign hf phase
  | some override =>
    rw [hov] at h
    by_cases hk : override.kindName = o.node.kindName
    · simp [hk] at h
    · simp only [hk, if_false, Option.some.injEq] at h
      exact h ▸ Override.visit_misfit hk phase

/-- No override is for a heading. -/
theorem Formatter.visitor_heading {n : Node} (hn : n.isHeading = true)
    (h : formatter.misfit? style n = none) :
    formatter.visitor style n.kindName = Default.visit := by
  rw [Formatter.misfit?_eq_none] at h
  rw [Formatter.visitor_override?]
  cases hov : formatter.override? style n.kindName with
  | none => rfl
  | some override =>
    rw [hov] at h
    unfold Node.isHeading at hn
    split at hn
    · cases h
    · cases hn

/-- A first visit fails for the fault of its node. -/
theorem Formatter.visit_fault {e : RenderError} (h : formatter.fault? style o.node = some e) :
    ((formatter.emitter style).visit ancestors o .entering marks).outcome = .error e := by
  unfold Formatter.fault? at h
  cases hm : formatter.misfit? style o.node with
  | some e' =>
    rw [hm, Option.some_or, Option.some.injEq] at h
    exact h ▸ formatter.visit_misfit hm .entering
  | none =>
    rw [hm, Option.none_or] at h
    split at h
    · next hh =>
      rw [Bool.and_eq_true] at hh
      rw [Formatter.emitter_visit, formatter.visitor_heading hh.1 hm, ← Option.some.inj h]
      exact Default.visit_badPrefix hh.1 hh.2
    · cases h

/-- A node without a fault is written, at either visit. -/
theorem Formatter.visit_faultless (h : formatter.fault? style o.node = none)
    (ancestors : List Occurrence) (marks : Marks) (phase : Phase) :
    ∃ signal, ((formatter.emitter style).visit ancestors o phase marks).outcome = .ok signal := by
  obtain ⟨hm, hids⟩ := Option.or_eq_none_iff.mp h
  have hid : o.node.isHeading = true → style.HasAnchorText := by
    intro hh
    rw [← Style.hasBadPrefix_eq_false]
    simpa [hh] using hids
  rw [Formatter.misfit?_eq_none] at hm
  rw [Formatter.emitter_visit, Formatter.visitor_override?]
  cases hov : formatter.override? style o.node.kindName with
  | none =>
    rw [hov] at hm
    exact Default.visit_ok ancestors marks phase hid hm
  | some override =>
    rw [hov] at hm
    have hk : o.node.isForeign = false := by
      rw [Node.isForeign_eq_false, ← Override.ofNode?_eq_some_iff.mp hm]
      cases override <;> decide
    exact Override.visit_ok ancestors marks phase hm (Default.visit_ok ancestors marks phase hid hk)

/-- **A first visit fails for the fault of its node, or answers as the node demands.** -/
theorem Formatter.outcome_entering (style : Style) (ancestors : List Occurrence) (marks : Marks)
    (o : Occurrence) :
    ((formatter.emitter style).visit ancestors o .entering marks).outcome =
      match formatter.fault? style o.node with
      | some e => .error e
      | none => .ok (formatter.answer style ⟨parentKind? ancestors, o.node⟩) := by
  cases h : formatter.fault? style o.node with
  | some e => exact formatter.visit_fault h
  | none =>
    obtain ⟨signal, hs⟩ := formatter.visit_faultless h ancestors marks .entering
    rw [hs, formatter.answer_eq hs]

end Visits

/-! ## Whole documents -/

/-- The end of a rendering that meets a fault, or none. -/
def ending : Option RenderError → Except RenderError Unit
  | some e => .error e
  | none => .ok ()

namespace Emit

variable {α β : Type} {x : Emit α} {marks : Marks}

/-- A run that fails is over. -/
theorem outcome_bind_error {e : RenderError} (h : (x marks).outcome = .error e) (f : α → Emit β) :
    ((x >>= f) marks).outcome = .error e := by
  rw [bind_apply, Emission.andThen, h]

/-- A run that does not fail goes on. -/
theorem outcome_bind_ok {a : α} (h : (x marks).outcome = .ok a) (f : α → Emit β) :
    ((x >>= f) marks).outcome = (f a (x marks).marks).outcome := by
  rw [bind_apply, Emission.andThen, h]

/-- Two runs, one after the other, meet the fault of the first one, or else that of the second. -/
theorem outcome_bind_ending {first second : Option RenderError} {x : Emit Unit} {f : Unit → Emit Unit}
    (h : (x marks).outcome = ending first)
    (hf : ∀ marks, (f () marks).outcome = ending second) :
    ((x >>= f) marks).outcome = ending (first.or second) := by
  cases first with
  | some e => exact outcome_bind_error h f
  | none => exact (outcome_bind_ok h f).trans (hf _)

end Emit

section Documents

variable (formatter : Formatter) (style : Style)

/-- The first fault among some nodes. -/
def Formatter.firstFault? (members : List Member) : Option RenderError :=
  members.findSome? fun q => formatter.fault? style q.node

/-- Around a container: the fault of the container, or else that of what is visited in it. -/
theorem Formatter.outcome_around {ancestors : List Occurrence} {o : Occurrence} {marks : Marks}
    {x : Emit Unit} {below : Option RenderError} (hx : ∀ marks, (x marks).outcome = ending below) :
    ((formatter.emitter style).around ancestors o x marks).outcome =
      ending ((formatter.fault? style o.node).or
        (if formatter.answer style ⟨parentKind? ancestors, o.node⟩ = .html then below else none)) := by
  have he := formatter.outcome_entering style ancestors marks o
  cases hfault : formatter.fault? style o.node with
  | some e =>
    rw [hfault] at he
    exact Emit.outcome_bind_error he _
  | none =>
    rw [hfault] at he
    unfold Handler.around
    rw [Emit.outcome_bind_ok he, Option.none_or]
    have leaving : ∀ marks, ((do
        let _ ← (formatter.emitter style).visit ancestors o .leaving : Emit Unit) marks).outcome =
          ending none := by
      intro marks
      obtain ⟨signal, hs⟩ := formatter.visit_faultless hfault ancestors marks .leaving
      exact Emit.outcome_bind_ok hs _
    have inside : ∀ marks, ((formatter.emitter style).inside o.node.children x
        (formatter.answer style ⟨parentKind? ancestors, o.node⟩) marks).outcome =
          ending (if formatter.answer style ⟨parentKind? ancestors, o.node⟩ = .html then below
            else none) := by
      intro marks
      cases formatter.answer style ⟨parentKind? ancestors, o.node⟩ with
      | html => exact hx marks
      | plain | skip => rfl
    rw [Emit.outcome_bind_ending (inside _) fun marks => leaving marks, Option.or_none]

mutual

/-- The rendering of a tree ends with the first fault among the nodes that it comes to. -/
theorem Formatter.outcome_traverse : ∀ (t : Node) (ancestors : List Occurrence) (place : List Nat)
    (marks : Marks),
    (traverse (formatter.emitter style) ancestors place t marks).outcome =
      ending (formatter.firstFault? style
        (t.reached (formatter.answer style) (parentKind? ancestors)))
  | .leaf kind info, ancestors, place, marks => by
    rw [traverse, Node.reached_leaf]
    have he := formatter.outcome_entering style ancestors marks ⟨.leaf kind info, place⟩
    simp only [Formatter.firstFault?, List.findSome?_cons, List.findSome?_nil]
    cases hfault : formatter.fault? style (.leaf kind info) with
    | some e =>
      rw [hfault] at he
      exact Emit.outcome_bind_error he _
    | none =>
      rw [hfault] at he
      exact Emit.outcome_bind_ok he _
  | .box kind info children, ancestors, place, marks => by
    rw [traverse, Node.reached_box, Formatter.outcome_around formatter style fun marks =>
      Formatter.outcome_traverseAll children _ _ _ marks]
    congr 1
    simp only [Formatter.firstFault?, List.findSome?_cons, parentKind?_cons]
    cases formatter.fault? style (.box kind info children) with
    | some e => rfl
    | none =>
      rw [Option.none_or]
      split <;> rfl

theorem Formatter.outcome_traverseAll : ∀ (nodes : List Node) (ancestors : List Occurrence)
    (place : List Nat) (i : Nat) (marks : Marks),
    (traverseAll (formatter.emitter style) ancestors place i nodes marks).outcome =
      ending (formatter.firstFault? style
        (Node.reachedAll (formatter.answer style) (parentKind? ancestors) nodes))
  | [], ancestors, place, i, marks => by
    rw [traverseAll, Node.reachedAll]
    rfl
  | n :: rest, ancestors, place, i, marks => by
    rw [traverseAll, Node.reachedAll, Formatter.firstFault?, List.findSome?_append]
    exact Emit.outcome_bind_ending (Formatter.outcome_traverse n _ _ _) fun marks =>
      Formatter.outcome_traverseAll rest _ _ _ marks

end

/-- The end of the rendering of a document. -/
theorem Formatter.outcome_emission (doc : Node) :
    (formatter.emission style doc).outcome =
      ending (formatter.firstFault? style (doc.reached (formatter.answer style) none)) :=
  Formatter.outcome_traverse formatter style doc [] _ {}

/-- **The error of a document is the first fault** among the nodes that a rendering comes to. -/
theorem Formatter.format_error_iff {doc : Node} {e : RenderError} :
    (formatter.format style doc).1 = .error e ↔
      formatter.firstFault? style (doc.reached (formatter.answer style) none) = some e := by
  rw [Formatter.format_eq, Emission.html, Formatter.outcome_emission]
  cases formatter.firstFault? style (doc.reached (formatter.answer style) none) <;>
    simp [ending, Except.map]

/-- A document without a fault is rendered. -/
theorem Formatter.format_ok_iff {doc : Node} :
    (∃ html, (formatter.format style doc).1 = .ok html) ↔
      formatter.firstFault? style (doc.reached (formatter.answer style) none) = none := by
  rw [Formatter.format_eq, Emission.html, Formatter.outcome_emission]
  cases formatter.firstFault? style (doc.reached (formatter.answer style) none) <;>
    simp [ending, Except.map]

end Documents

/-- Where anchors have a text for a prefix, a node is at fault if there is no markup for it. -/
theorem Formatter.fault?_eq_misfit? (formatter : Formatter) {style : Style}
    (hid : style.HasAnchorText) (n : Node) : formatter.fault? style n = formatter.misfit? style n := by
  rw [Formatter.fault?, Style.hasBadPrefix_eq_false.mpr hid]
  simp

/-- **A document is not rendered exactly if a visited node has no markup**, and the first such node is
the one that is reported; nothing is written then. Otherwise there is one write, of the whole HTML, and
what is answered depends on whether that write is refused. -/
theorem Formatter.handOver_format (formatter : Formatter) {style : Style}
    (hempty : style.html.on .ignoreEmptyLinks = false) (hid : style.HasAnchorText) (doc : Node)
    {m : Type → Type} [Monad m] {ε : Type} (write : String → m (Except ε Unit)) :
    match (doc.visited none).findSome? fun q => formatter.misfit? style q.node with
    | some e =>
      (formatter.format style doc).1 = .error e ∧
        handOver write (formatter.format style doc).1 = pure (.error (.render e))
    | none =>
      ∃ html, (formatter.format style doc).1 = .ok html ∧
        handOver write (formatter.format style doc).1 = (do
          match ← write html with
          | .ok () => pure (.ok "")
          | .error fault => pure (.error (.refused fault))) := by
  have hfault : formatter.firstFault? style (doc.reached (formatter.answer style) none) =
      (doc.visited none).findSome? fun q => formatter.misfit? style q.node := by
    rw [Node.reached_eq_visited (formatter.answer_html_iff hempty), Formatter.firstFault?]
    simp only [formatter.fault?_eq_misfit? hid]
  split
  · next e he =>
    have hformat := (formatter.format_error_iff style).mpr (hfault.trans he)
    rw [hformat]
    exact ⟨rfl, rfl⟩
  · next he =>
    obtain ⟨html, hformat⟩ := (formatter.format_ok_iff style).mpr (hfault.trans he)
    rw [hformat]
    exact ⟨html, rfl, rfl⟩

/-- Three nodes without markup. The first one is in an image and is never visited; the second one, deep
in a list, has an override that is for links. Nothing reaches the sink. -/
theorem Formatter.handOver_format_widget :
    let formatter := Formatter.flavored [("text", .text), ("widget", .link)]
    let doc : Node := .box .document {}
      [.box .paragraph {} [.leaf (.text "a") {},
        .box (.image "u" none) {} [.leaf (.other (.named "gadget")) {}]],
        .box (.list false 1 true false) {} [.box .listItem {} [.leaf (.other (.named "widget")) {}]],
        .leaf (.other (.named "gadget")) {}]
    ({} : Style).html.on .ignoreEmptyLinks = false ∧ ({} : Style).HasAnchorText ∧
      (formatter.format {} doc).1 = .error (.wrongKind "link" "widget") ∧
      deliver (formatter.format {} doc).1 {} = (.error (.wrongKind "link" "widget"), {}) := by
  intro formatter doc
  have hempty : ({} : Style).html.on .ignoreEmptyLinks = false := rfl
  have hid : ({} : Style).HasAnchorText := .inl rfl
  have hfirst : ((doc.visited none).findSome? fun q => formatter.misfit? {} q.node) =
      some (.wrongKind "link" "widget") := by decide
  have h := formatter.handOver_format hempty hid doc Sink.write
  rw [hfirst] at h
  refine ⟨hempty, hid, h.1, ?_⟩
  unfold deliver
  rw [h.2]
  rfl

end FlavoredMarkdown

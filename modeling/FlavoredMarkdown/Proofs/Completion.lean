import FlavoredMarkdown.Proofs.Overrides

/-!
# Documents that are always rendered

A rendering fails at a node whose kind has no markup (`format_node_default`), at a node that an override
is not for (`NodeKindError`), and at a heading whose anchor gets a prefix that is no text. The two
formatters of the library give every override the kind of node it is for, so with them a document fails
for the other two reasons only.

Results:
* `Formatter.visitor_builtIn`: what the formatters of the library do at a node.
* **`Formatter.format_ok`**: a document of known kinds is rendered.
-/

namespace FlavoredMarkdown

/-- Whether the kind of a node has no markup. -/
def Node.isForeign : Node → Bool
  | .leaf (.other _) _ => true
  | .box (.other _) _ _ => true
  | _ => false

/-- Whether the node is a heading. -/
def Node.isHeading : Node → Bool
  | .box (.heading _) .. => true
  | _ => false

/-- Headings get no anchors, or the prefix of the anchors is a text. -/
def Style.HasAnchorText (style : Style) : Prop :=
  style.html.headerIds.isNone = true ∨ ∃ front, style.html.headerIds = .value (.str front)

/-- The formatters of the library: the default markup, and all overrides on top of it. -/
def Formatter.IsBuiltIn (formatter : Formatter) : Prop :=
  formatter = .plain ∨ formatter = .standard

/-- At a node the formatters of the library use the default markup or the override for the node. -/
theorem Formatter.visitor_builtIn {formatter : Formatter} (h : formatter.IsBuiltIn) (style : Style)
    (n : Node) :
    formatter.visitor style n.kindName = Default.visit ∨
      ∃ override, Override.ofNode? n = some override ∧
        formatter.visitor style n.kindName = override.visit := by
  rcases h with rfl | rfl
  · exact .inl rfl
  · simp only [Formatter.visitor, Formatter.standard, Override.lookup_standard]
    split
    · exact .inl rfl
    · cases Override.ofNode? n with
      | none => exact .inl rfl
      | some override => exact .inr ⟨override, rfl, rfl⟩

section Visits

variable {style : Style} (ancestors : List Occurrence) (marks : Marks) {o : Occurrence}
  (phase : Phase)

theorem Default.leafPieces_of_known (style : Style) {info : Info} {kind : Leaf}
    (hk : (Node.leaf kind info).isForeign = false) :
    ∃ pieces, Default.leafPieces? style info kind = some pieces := by
  cases kind with
  | other kind => cases hk
  | lineBreak soft =>
    simp only [Default.leafPieces?]
    split <;> exact ⟨_, rfl⟩
  | _ => exact ⟨_, rfl⟩

/-- The default markup of a known kind does not fail, except for the anchor of a heading. -/
theorem Default.visit_ok (hid : o.node.isHeading = true → style.HasAnchorText)
    (hk : o.node.isForeign = false) :
    ∃ signal, (Default.visit style ancestors marks o phase).outcome = .ok signal := by
  obtain ⟨n, place⟩ := o
  cases n with
  | leaf kind info =>
    obtain ⟨pieces, hp⟩ := Default.leafPieces_of_known style hk
    simp only [Default.visit, hp]
    exact ⟨_, rfl⟩
  | box kind info children =>
    simp only [Default.visit]
    cases kind with
    | other kind => cases hk
    | heading level =>
      cases phase with
      | leaving => exact ⟨_, rfl⟩
      | entering =>
        simp only [Default.containerVisit, Default.heading]
        rcases hid rfl with hnone | ⟨front, hfront⟩
        · rw [if_pos hnone]
          exact ⟨_, rfl⟩
        · rw [hfront]
          exact ⟨_, rfl⟩
    | document =>
      simp only [Default.containerVisit]
      split <;> exact ⟨_, rfl⟩
    | paragraph =>
      cases phase <;> simp only [Default.containerVisit, Default.paragraph] <;> split <;>
        exact ⟨_, rfl⟩
    | link url title =>
      simp only [Default.containerVisit, Default.link]
      repeat' split
      all_goals exact ⟨_, rfl⟩
    | _ => cases phase <;> exact ⟨_, rfl⟩

/-- An override does not fail at the kind of node it is for, if the default markup does not. -/
theorem Override.visit_ok {override : Override} (ho : Override.ofNode? o.node = some override)
    (hd : ∃ signal, (Default.visit style ancestors marks o phase).outcome = .ok signal) :
    ∃ signal, (override.visit style ancestors marks o phase).outcome = .ok signal := by
  obtain ⟨n, place⟩ := o
  cases n with
  | leaf kind info =>
    cases kind with
    | text content =>
      cases ho
      simp only [Override.visit, Override.visitText]
      split
      · exact hd
      · split
        · exact hd
        · cases phase <;> exact ⟨_, rfl⟩
    | _ => cases ho
  | box kind info children =>
    cases kind with
    | link url title =>
      cases ho
      simp only [Override.visit, Override.visitLink]
      split
      · exact hd
      · split
        · exact ⟨_, rfl⟩
        · cases phase <;> exact ⟨_, rfl⟩
    | image url title =>
      cases ho
      simp only [Override.visit, Override.visitImage]
      split
      · exact hd
      · cases phase <;> exact ⟨_, rfl⟩
    | list ordered start tight isTaskList =>
      cases ho
      simp only [Override.visit, Override.visitList]
      split
      · exact hd
      · exact ⟨_, rfl⟩
    | taskItem symbol =>
      cases ho
      simp only [Override.visit, Override.visitTaskItem]
      split
      · exact hd
      · split
        · exact hd
        · cases phase with
          | leaving => exact ⟨_, rfl⟩
          | entering =>
            simp only
            split <;> exact ⟨_, rfl⟩
    | _ => cases ho

end Visits

/-- Emissions that do not fail. -/
def completing : Correspondence Emit Emit where
  rel x _ := ∀ marks, ∃ a, (x marks).outcome = .ok a
  rel_pure a _ := ⟨a, rfl⟩
  rel_bind {_ _ x _ f _} hx hf marks := by
    obtain ⟨a, ha⟩ := hx marks
    obtain ⟨b, hb⟩ := hf a (x marks).marks
    refine ⟨b, ?_⟩
    rw [Emit.bind_apply, Emission.andThen, ha]
    exact hb

theorem Formatter.visit_ok {formatter : Formatter} (hf : formatter.IsBuiltIn) {style : Style}
    (hid : style.HasAnchorText) (ancestors : List Occurrence) (marks : Marks) {o : Occurrence}
    (hk : o.node.isForeign = false) (phase : Phase) :
    ∃ signal, ((formatter.emitter style).visit ancestors o phase marks).outcome = .ok signal := by
  have hd := Default.visit_ok ancestors marks phase (fun _ => hid) hk
  rw [Formatter.emitter_visit]
  rcases Formatter.visitor_builtIn hf style o.node with hv | ⟨override, ho, hv⟩ <;> rw [hv]
  · exact hd
  · exact Override.visit_ok ancestors marks phase ho hd

/-- The emission of a tree of known kinds does not fail, wherever the tree is. -/
theorem Formatter.traverse_ok {formatter : Formatter} (hf : formatter.IsBuiltIn) {style : Style}
    (hid : style.HasAnchorText) {t : Node} {ancestors : List Occurrence}
    (hk : ∀ q ∈ t.members (parentKind? ancestors), q.node.isForeign = false) (place : List Nat)
    (marks : Marks) :
    ∃ a, (traverse (formatter.emitter style) ancestors place t marks).outcome = .ok a := by
  have visits : completing.AtMembers (formatter.emitter style) (formatter.emitter style)
      (t.members (parentKind? ancestors)) :=
    Correspondence.atMembers_of_visits (fun _ _ => ⟨(), rfl⟩)
      fun ancestors _ phase hm marks =>
        Formatter.visit_ok hf hid ancestors marks (hk _ hm) phase
  exact visits.rel_traverse t ancestors place marks

/-- **A document of known kinds is rendered** by the formatters of the library. -/
theorem Formatter.format_ok {formatter : Formatter} (hf : formatter.IsBuiltIn) {style : Style}
    (hid : style.HasAnchorText) {doc : Node}
    (hk : ∀ q ∈ doc.members none, q.node.isForeign = false) :
    (formatter.format style doc).1 =
      .ok (Page.empty.addAll (formatter.emission style doc).pieces).html := by
  rw [← parentKind?_nil] at hk
  obtain ⟨a, ha⟩ := Formatter.traverse_ok hf hid hk (Occurrence.root doc 0).place {}
  rw [Formatter.format_eq, Emission.html, Formatter.emission, ha]
  rfl

end FlavoredMarkdown

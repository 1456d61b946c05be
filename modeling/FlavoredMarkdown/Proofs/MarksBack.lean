import FlavoredMarkdown.Proofs.Transcript

/-!
# Marks of footnotes that are linked back

The link from a footnote back to its reference (`_write_footnote_backref`) belongs to the end of the
footnote: into its last child if that is a paragraph, else behind all children. The paragraph does not
know what the footnote will do, so it leaves a mark, and the footnote writes the link itself if there is
no mark for it.

Footnotes are told apart by their places. A run over some trees leaves marks for places in these trees,
or for the footnote directly around them, and so it is with the links back that it writes (`Within`).

Results:
* `Default.visit_paragraph`: a visit to a paragraph is plain, unless the paragraph ends a footnote.
* `Formatter.marksBack_visit`: which visit leaves a mark, and which one writes a link back.
* **`Formatter.within_traverse`**: what a run over a tree has to do with is in the tree.
-/

namespace FlavoredMarkdown

/-! ## Links back -/

/-- Whether a piece opens the link back of a footnote. -/
def Piece.isBacklink : Piece → Bool
  | .openTag _ attributes => attributes.any fun a => a.name == "data-footnote-backref"
  | _ => false

/-- Whether the node is a footnote. -/
def Node.isFootnote : Node → Bool
  | .box (.footnoteDefinition ..) .. => true
  | _ => false

/-- The place of the footnote that a paragraph ends: it is the last child of the footnote. -/
def endedFootnote? (ancestors : List Occurrence) (o : Occurrence) : Option (List Nat) :=
  match o.node with
  | .box .paragraph .. => (Default.closedFootnote? ancestors o).map fun e => e.1.place
  | _ => none

namespace Step

/-- The place of the visited node. -/
def place? : Step → Option (List Nat)
  | .visit _ o _ _ => some o.place
  | .label _ => none

/-- Whether the step writes the link back of the footnote at a place: it writes one, and the footnote
is the nearest one around the visited node, the node itself included. -/
def linksBack (place : List Nat) : Step → Bool
  | .visit ancestors o _ pieces =>
    pieces.any Piece.isBacklink &&
      ((o :: ancestors).find? fun a => a.node.isFootnote).any fun a => a.place == place
  | .label _ => false

end Step

/-! ## One visit -/

theorem name_ne_of_plain {attributes : List Attribute}
    (h : attributes.all Attribute.isPlain = true) :
    ∀ a ∈ attributes, a.name ≠ "data-footnote-backref" := by
  intro a ha hn
  have hplain := List.all_eq_true.mp h a ha
  rw [Attribute.isPlain, hn] at hplain
  revert hplain
  decide

theorem Piece.isBacklink_of_isPlain {p : Piece} (h : p.isPlain = true) : p.isBacklink = false := by
  cases p with
  | openTag name attributes =>
    rw [Piece.isBacklink, List.any_eq_false]
    intro a ha
    rw [beq_iff_eq]
    exact name_ne_of_plain (Bool.and_eq_true_iff.mp h).2 a ha
  | _ => rfl

theorem any_isBacklink_of_isPlain {pieces : List Piece} (h : pieces.all Piece.isPlain = true) :
    pieces.any Piece.isBacklink = false := by
  rw [List.any_eq_false]
  intro p hp
  simp [Piece.isBacklink_of_isPlain (List.all_eq_true.mp h p hp)]

/-- The footnote that a paragraph ends is the node around it. -/
theorem closedFootnote?_eq_some {ancestors : List Occurrence} {o : Occurrence}
    {e : Occurrence × String × Int} (h : Default.closedFootnote? ancestors o = some e) :
    ∃ rest info children last, ancestors = e.1 :: rest ∧
      e.1.node = .box (.footnoteDefinition e.2.1 e.2.2) info children ∧
      e.1.children.getLast? = some last ∧ last.place = o.place := by
  unfold Default.closedFootnote? at h
  split at h
  · next parent rest =>
    split at h
    · next identifier index info children hparent =>
      split at h
      · next last hlast =>
        split at h
        · next hsame =>
          cases h
          exact ⟨rest, info, children, last, rfl, hparent, hlast, eq_of_beq hsame⟩
        · cases h
      · cases h
    · cases h
  · cases h

/-- A paragraph that ends a footnote is the last child of the node around it. -/
theorem endedFootnote?_eq_some {ancestors : List Occurrence} {o : Occurrence} {place : List Nat}
    (h : endedFootnote? ancestors o = some place) :
    ∃ parent rest last, ancestors = parent :: rest ∧ place = parent.place ∧
      parent.children.getLast? = some last ∧ last.place = o.place ∧
      ∃ info content, o.node = .box .paragraph info content := by
  unfold endedFootnote? at h
  split at h
  · next info content ho =>
    obtain ⟨e, he, rfl⟩ := Option.map_eq_some_iff.mp h
    obtain ⟨rest, -, -, last, hancestors, -, hlast, hplace⟩ := closedFootnote?_eq_some he
    exact ⟨e.1, rest, last, hancestors, rfl, hlast, hplace, info, content, ho⟩
  · cases h

theorem endedFootnote?_ordinary {o : Occurrence} (h : o.node.isOrdinary = true)
    (ancestors : List Occurrence) : endedFootnote? ancestors o = none := by
  cases he : endedFootnote? ancestors o with
  | none => rfl
  | some place =>
    obtain ⟨-, -, -, -, -, -, -, info, content, ho⟩ := endedFootnote?_eq_some he
    rw [ho] at h
    cases h

/-- What a visit has to do with links back: on the way out, a paragraph leaves a mark for the footnote
that it ends. A link back is written by such a paragraph, or by the footnote itself. -/
structure MarksBack (ancestors : List Occurrence) (o : Occurrence) (phase : Phase) (marks : Marks)
    (pieces : List Piece) (marks' : Marks) : Prop where
  backlinked : marks'.backlinked =
    (if phase = .leaving then (endedFootnote? ancestors o).toList else []) ++ marks.backlinked
  links : ∀ place, (Step.visit ancestors o phase pieces).linksBack place = true →
    phase = .leaving ∧
      (o.node.isFootnote = true ∧ place = o.place ∨ endedFootnote? ancestors o = some place)

section Visit

variable {ancestors : List Occurrence} {o : Occurrence} {phase : Phase} {marks marks' : Marks}
  {pieces : List Piece}

/-- A visit that leaves no mark and writes no link back. -/
theorem marksBack_of_none (hended : phase = .leaving → endedFootnote? ancestors o = none)
    (hm : marks'.backlinked = marks.backlinked) (hp : pieces.any Piece.isBacklink = false) :
    MarksBack ancestors o phase marks pieces marks' where
  backlinked := by
    cases phase with
    | entering => exact hm
    | leaving => rw [if_pos rfl, hended rfl, hm]; rfl
  links place h := by
    rw [Step.linksBack, hp] at h
    cases h

/-- What writes a link back writes it for the nearest footnote. -/
theorem linksBack_iff {place : List Nat} (hp : pieces.any Piece.isBacklink = true) :
    (Step.visit ancestors o phase pieces).linksBack place = true ↔
      ∃ a, ((o :: ancestors).find? fun a => a.node.isFootnote) = some a ∧ a.place = place := by
  rw [Step.linksBack, hp, Bool.true_and, Option.any_eq_true]
  simp

section Paragraph

variable (style : Style) (info : Info) (content : List Node) (place : List Nat)

theorem Default.plain_paragraph_entering (ancestors : List Occurrence) (marks : Marks) :
    (Default.visit style ancestors marks ⟨.box .paragraph info content, place⟩ .entering).IsPlain
      marks := by
  simp only [Default.visit, Default.containerVisit, Default.paragraph]
  split
  · exact ⟨rfl, rfl⟩
  · refine ⟨rfl, ?_⟩
    simp +decide [Default.writes, Piece.isPlain, Node.info, plain_position]

/-- Where it ends no footnote, a paragraph only closes its tag. -/
theorem Default.plain_paragraph_leaving {ancestors : List Occurrence} (marks : Marks)
    (h : Default.closedFootnote? ancestors ⟨.box .paragraph info content, place⟩ = none) :
    (Default.visit style ancestors marks ⟨.box .paragraph info content, place⟩ .leaving).IsPlain
      marks := by
  simp only [Default.visit, Default.containerVisit, Default.paragraph, h]
  split <;> exact ⟨rfl, rfl⟩

/-- The last paragraph of a footnote holds the link back. -/
theorem Default.visit_lastParagraph {parent : Occurrence} {rest : List Occurrence}
    {identifier : String} {index : Int} {pinfo : Info} {children : List Node} (marks : Marks)
    (hparent : parent.node = .box (.footnoteDefinition identifier index) pinfo children)
    (h : Default.closedFootnote? (parent :: rest) ⟨.box .paragraph info content, place⟩ =
      some (parent, identifier, index)) :
    Default.visit style (parent :: rest) marks ⟨.box .paragraph info content, place⟩ .leaving =
      Default.writes { marks with backlinked := parent.place :: marks.backlinked }
        (Default.backlink identifier index ++ [.closeTag "p", .newline]) := by
  have htight : inTightList (parent :: rest) = false := by
    obtain ⟨n, p⟩ := parent
    obtain rfl : n = _ := hparent
    cases rest <;> rfl
  simp only [Default.visit, Default.containerVisit, Default.paragraph, h, htight]
  rfl

/-- A visit to a paragraph is plain, unless the paragraph ends a footnote and is left. -/
theorem Default.visit_paragraph (ancestors : List Occurrence) (marks : Marks) (phase : Phase) :
    let v := Default.visit style ancestors marks ⟨.box .paragraph info content, place⟩ phase
    v.IsPlain marks ∨ ∃ (parent : Occurrence) (identifier : String) (index : Int),
      phase = .leaving ∧ v = Default.writes { marks with backlinked := parent.place :: marks.backlinked }
        (Default.backlink identifier index ++ [.closeTag "p", .newline]) := by
  intro v
  cases phase with
  | entering => exact .inl (Default.plain_paragraph_entering style info content place ancestors marks)
  | leaving =>
    cases hclosed : Default.closedFootnote? ancestors ⟨.box .paragraph info content, place⟩ with
    | none => exact .inl (Default.plain_paragraph_leaving style info content place marks hclosed)
    | some e =>
      obtain ⟨parent, identifier, index⟩ := e
      obtain ⟨rest, pinfo, children, -, rfl, hparent, -⟩ := closedFootnote?_eq_some hclosed
      exact .inr ⟨parent, identifier, index, rfl,
        Default.visit_lastParagraph style info content place marks hparent hclosed⟩

/-- On its way out, a paragraph leaves a mark for the footnote that it ends. -/
theorem Default.marksBack_paragraph (ancestors : List Occurrence) (marks : Marks) (phase : Phase) :
    let o : Occurrence := ⟨.box .paragraph info content, place⟩
    let v := Default.visit style ancestors marks o phase
    MarksBack ancestors o phase marks v.pieces v.marks := by
  intro o v
  cases phase with
  | entering =>
    obtain ⟨hm, hp⟩ := Default.plain_paragraph_entering style info content place ancestors marks
    exact marksBack_of_none (by rintro ⟨⟩) (congrArg Marks.backlinked hm) (any_isBacklink_of_isPlain hp)
  | leaving =>
    have hended : endedFootnote? ancestors o =
        (Default.closedFootnote? ancestors o).map fun e => e.1.place := rfl
    cases hclosed : Default.closedFootnote? ancestors o with
    | none =>
      obtain ⟨hm, hp⟩ := Default.plain_paragraph_leaving style info content place marks hclosed
      rw [hclosed] at hended
      exact marksBack_of_none (fun _ => hended) (congrArg Marks.backlinked hm)
        (any_isBacklink_of_isPlain hp)
    | some e =>
      obtain ⟨parent, identifier, index⟩ := e
      obtain ⟨rest, pinfo, children, -, rfl, hparent, -⟩ := closedFootnote?_eq_some hclosed
      have hv : v = _ := Default.visit_lastParagraph style info content place marks hparent hclosed
      rw [hclosed] at hended
      rw [hv]
      refine ⟨?_, fun q hq => ⟨rfl, .inr ?_⟩⟩
      · rw [if_pos rfl, hended]
        rfl
      · obtain ⟨a, ha, rfl⟩ := (linksBack_iff rfl).mp hq
        -- the paragraph is no footnote itself, so the nearest one is its parent
        have hfootnote : parent.node.isFootnote = true := by
          rw [hparent]
          rfl
        have hnearest : ((o :: parent :: rest).find? fun a => a.node.isFootnote) = some parent :=
          (List.find?_cons_of_neg Bool.false_ne_true).trans (List.find?_cons_of_pos hfootnote)
        rw [hended, Option.some.inj (hnearest.symm.trans ha)]
        rfl

end Paragraph

/-- A footnote leaves no mark and writes its own link back, if any. -/
theorem Default.marksBack_footnote (style : Style) (marks : Marks) (identifier : String)
    (index : Int) (info : Info) (children : List Node) (place : List Nat) (phase : Phase) :
    let o : Occurrence := ⟨.box (.footnoteDefinition identifier index) info children, place⟩
    let v := Default.visit style ancestors marks o phase
    MarksBack ancestors o phase marks v.pieces v.marks := by
  intro o v
  have hended : endedFootnote? ancestors o = none := rfl
  cases phase with
  | entering =>
    refine marksBack_of_none (by rintro ⟨⟩) rfl ?_
    have hposition := name_ne_of_plain (plain_position style info)
    simp only [v, o, Default.visit, Default.containerVisit, Default.footnoteDefinition,
      Default.writes, Node.info]
    cases marks.footnotesOpen <;>
      simp +decide +contextual [Piece.isBacklink, classAttribute, hposition]
  | leaving =>
    refine ⟨?_, fun q hq => ⟨rfl, .inl ⟨rfl, ?_⟩⟩⟩
    · rw [if_pos rfl, hended]
      rfl
    · by_cases hb : v.pieces.any Piece.isBacklink = true
      · obtain ⟨a, ha, rfl⟩ := (linksBack_iff hb).mp hq
        have hnearest : ((o :: ancestors).find? fun a => a.node.isFootnote) = some o :=
          List.find?_cons_of_pos rfl
        rw [Option.some.inj (hnearest.symm.trans ha)]
      · rw [Step.linksBack, Bool.eq_false_iff.mpr hb] at hq
        cases hq

theorem Formatter.marksBack_visit {formatter : Formatter} {style : Style} {signal : Signal}
    (h : (formatter.emitter style).visit ancestors o phase marks = ⟨pieces, marks', .ok signal⟩) :
    MarksBack ancestors o phase marks pieces marks' := by
  obtain ⟨n, place⟩ := o
  cases n.role with
  | ordinary hn =>
    obtain ⟨hm, hp⟩ := Formatter.plain_of_visit h hn
    exact marksBack_of_none (fun _ => endedFootnote?_ordinary hn ancestors)
      (congrArg Marks.backlinked hm) (any_isBacklink_of_isPlain hp)
  | document info children =>
    obtain ⟨rfl, rfl, -⟩ := Formatter.visit_default rfl h
    simp only [Default.visit, Default.containerVisit]
    split
    · exact marksBack_of_none (fun _ => rfl) rfl rfl
    · exact marksBack_of_none (fun _ => rfl) rfl rfl
  | heading level info children =>
    obtain ⟨rfl, rfl, -⟩ := Formatter.visit_default rfl h
    cases phase with
    | leaving => exact marksBack_of_none (fun _ => rfl) rfl rfl
    | entering =>
      have hposition := name_ne_of_plain (plain_position style info)
      simp only [Default.visit, Default.containerVisit, Default.heading]
      repeat' split
      all_goals
        refine marksBack_of_none (by rintro ⟨⟩) rfl ?_
        simp +decide +contextual [Default.writes, Piece.isBacklink, classAttribute, hposition]
  | paragraph info children =>
    obtain ⟨rfl, rfl, -⟩ := Formatter.visit_default rfl h
    exact Default.marksBack_paragraph style info children place ancestors marks phase
  | footnote identifier index info children =>
    obtain ⟨rfl, rfl, -⟩ := Formatter.visit_default rfl h
    exact Default.marksBack_footnote style marks identifier index info children place phase
  | reference identifier index info =>
    obtain ⟨rfl, rfl, -⟩ := Formatter.visit_default rfl h
    exact marksBack_of_none (fun _ => rfl) rfl rfl

end Visit

/-! ## What a run has to do with -/

/-- The trees at a place, the first of which has the position `i`. -/
def siblings (place : List Nat) : (i : Nat) → List Node → List Occurrence
  | _, [] => []
  | i, n :: rest => ⟨n, i :: place⟩ :: siblings place (i + 1) rest

theorem exists_of_mem_siblings {place : List Nat} {i : Nat} {nodes : List Node} {c : Occurrence}
    (h : c ∈ siblings place i nodes) :
    ∃ j, nodes[j]? = some c.node ∧ c.place = (i + j) :: place := by
  induction nodes generalizing i with
  | nil => cases h
  | cons n rest ih =>
    rcases List.mem_cons.mp h with rfl | h
    · exact ⟨0, rfl, rfl⟩
    · obtain ⟨j, hj, hplace⟩ := ih h
      exact ⟨j + 1, by simpa using hj, by rw [hplace, Nat.add_right_comm, Nat.add_assoc]⟩

/-- Two trees at one place have nothing in common. -/
theorem index_eq_of_suffix {i j : Nat} {place p : List Nat} (hi : (i :: place) <:+ p)
    (hj : (j :: place) <:+ p) : i = j := by
  have h : (i :: place) <:+ (j :: place) := List.suffix_of_suffix_length_le hi hj (Nat.le_refl _)
  exact (List.cons.inj (h.eq_of_length rfl)).1

theorem not_suffix_of_length {p q : List Nat} (h : q.length < p.length) : ¬p <:+ q := by
  intro hs
  have hle := hs.length_le
  omega

/-- A run over some trees visits these trees, leaves marks for footnotes in them or for one that one
of them ends, and writes links back for such footnotes. -/
structure Within (ancestors os : List Occurrence) (marks : Marks) (steps : List Step)
    (marks' : Marks) : Prop where
  places : ∀ s ∈ steps, ∀ p ∈ s.place?, ∃ c ∈ os, c.place <:+ p
  backlinked : ∀ b ∈ marks'.backlinked, b ∈ marks.backlinked ∨
    ∃ c ∈ os, c.place <:+ b ∨ endedFootnote? ancestors c = some b
  links : ∀ s ∈ steps, ∀ place, s.linksBack place = true →
    ∃ c ∈ os, c.place <:+ place ∨ endedFootnote? ancestors c = some place

namespace Within

variable {ancestors os os' : List Occurrence} {marks marks' marks'' : Marks}
  {steps steps' : List Step}

theorem nil (ancestors os : List Occurrence) (marks : Marks) : Within ancestors os marks [] marks :=
  ⟨nofun, fun _ hb => .inl hb, nofun⟩

theorem label (ancestors os : List Occurrence) (marks : Marks) (s : String) :
    Within ancestors os marks [.label s] marks := by
  refine ⟨?_, fun b hb => .inl hb, ?_⟩
  · intro s hs p hp
    rw [List.mem_singleton.mp hs] at hp
    cases hp
  · intro s hs place hplace
    rw [List.mem_singleton.mp hs] at hplace
    cases hplace

theorem mono (h : Within ancestors os marks steps marks') (hs : ∀ c ∈ os, c ∈ os') :
    Within ancestors os' marks steps marks' where
  places s hstep p hp := by
    obtain ⟨c, hc, hsuffix⟩ := h.places s hstep p hp
    exact ⟨c, hs c hc, hsuffix⟩
  backlinked b hb := by
    rcases h.backlinked b hb with hb | ⟨c, hc, hcb⟩
    · exact .inl hb
    · exact .inr ⟨c, hs c hc, hcb⟩
  links s hstep place hplace := by
    obtain ⟨c, hc, hcb⟩ := h.links s hstep place hplace
    exact ⟨c, hs c hc, hcb⟩

theorem trans (h : Within ancestors os marks steps marks')
    (h' : Within ancestors os marks' steps' marks'') :
    Within ancestors os marks (steps ++ steps') marks'' where
  places s hs := (List.mem_append.mp hs).elim (h.places s) (h'.places s)
  backlinked b hb := by
    rcases h'.backlinked b hb with hb | hb
    · exact h.backlinked b hb
    · exact .inr hb
  links s hs := (List.mem_append.mp hs).elim (h.links s) (h'.links s)

theorem append (h : Within ancestors os marks steps marks')
    (h' : Within ancestors os' marks' steps' marks'') :
    Within ancestors (os ++ os') marks (steps ++ steps') marks'' :=
  (h.mono fun _ => List.mem_append_left _).trans (h'.mono fun _ => List.mem_append_right _)

end Within

/-- What a child ends is the footnote around it. -/
theorem place_of_ended {o c : Occurrence} {ancestors : List Occurrence} {place : List Nat}
    (h : endedFootnote? (o :: ancestors) c = some place) : place = o.place := by
  obtain ⟨parent, rest, -, he, hplace, -⟩ := endedFootnote?_eq_some h
  rw [hplace, (List.cons.inj he).1]

/-- One visit, as a run. -/
theorem within_visit {ancestors : List Occurrence} {o : Occurrence} {phase : Phase}
    {marks marks' : Marks} {pieces : List Piece}
    (h : MarksBack ancestors o phase marks pieces marks') :
    Within ancestors [o] marks [.visit ancestors o phase pieces] marks' where
  places s hs p hp := by
    rw [List.mem_singleton.mp hs] at hp
    cases hp
    exact ⟨o, List.mem_singleton_self o, List.suffix_rfl⟩
  backlinked b hb := by
    rw [h.backlinked] at hb
    rcases List.mem_append.mp hb with hb | hb
    · right
      split at hb
      · exact ⟨o, List.mem_singleton_self o, .inr (Option.mem_toList.mp hb)⟩
      · cases hb
    · exact .inl hb
  links s hs place hplace := by
    rw [List.mem_singleton.mp hs] at hplace
    obtain ⟨-, ⟨-, rfl⟩ | hended⟩ := h.links place hplace
    · exact ⟨o, List.mem_singleton_self o, .inl List.suffix_rfl⟩
    · exact ⟨o, List.mem_singleton_self o, .inr hended⟩

/-- A run over the children of a node, seen from outside. -/
theorem Within.below {o : Occurrence} {ancestors : List Occurrence} {children : List Node}
    {marks marks' : Marks} {steps : List Step}
    (h : Within (o :: ancestors) (siblings o.place 0 children) marks steps marks') :
    Within ancestors [o] marks steps marks' := by
  have hin {p : List Nat} (hp : ∃ c ∈ siblings o.place 0 children, c.place <:+ p ∨
      endedFootnote? (o :: ancestors) c = some p) : o.place <:+ p := by
    obtain ⟨c, hc, hsuffix | hended⟩ := hp
    · obtain ⟨j, -, hplace⟩ := exists_of_mem_siblings hc
      rw [hplace] at hsuffix
      exact (List.suffix_cons _ o.place).trans hsuffix
    · have hplace : o.place = p := (place_of_ended hended).symm
      exact hplace ▸ List.suffix_rfl
  refine ⟨fun s hs p hp => ?_, fun b hb => ?_, fun s hs place hplace => ?_⟩
  · obtain ⟨c, hc, hsuffix⟩ := h.places s hs p hp
    exact ⟨o, List.mem_singleton_self o, hin ⟨c, hc, .inl hsuffix⟩⟩
  · rcases h.backlinked b hb with hb | hb
    · exact .inl hb
    · exact .inr ⟨o, List.mem_singleton_self o, .inl (hin hb)⟩
  · exact ⟨o, List.mem_singleton_self o, .inl (hin (h.links s hs place hplace))⟩

/-- What is between the two visits of a node, if the run over its children is known. -/
theorem Formatter.within_inside {formatter : Formatter} {style : Style} {o : Occurrence}
    {ancestors : List Occurrence} {children : List Node} {marks : Marks} {signal : Signal}
    {r : Recording Unit}
    (hall : ∀ r', traverseAll (formatter.transcriber style) (o :: ancestors) o.place 0 children
      marks = .ok r' →
        Within (o :: ancestors) (siblings o.place 0 children) marks r'.steps r'.marks)
    (h : (formatter.transcriber style).inside children
      (traverseAll (formatter.transcriber style) (o :: ancestors) o.place 0 children) signal
      marks = .ok r) :
    Within (o :: ancestors) (siblings o.place 0 children) marks r.steps r.marks := by
  cases signal with
  | html => exact hall r h
  | plain =>
    cases h
    exact Within.label _ _ _ _
  | skip =>
    cases h
    exact Within.nil _ _ _

mutual

/-- **A run over a tree has to do with what is in the tree**, or with the footnote that it ends. -/
theorem Formatter.within_traverse {formatter : Formatter} {style : Style} :
    ∀ (t : Node) (ancestors : List Occurrence) (place : List Nat) (marks : Marks)
      (r : Recording Unit),
      traverse (formatter.transcriber style) ancestors place t marks = .ok r →
      Within ancestors [⟨t, place⟩] marks r.steps r.marks
  | .leaf kind info, ancestors, place, marks, r, h => by
    obtain ⟨pieces, signal, hv, hsteps⟩ := Formatter.steps_leaf h
    rw [hsteps]
    exact within_visit (Formatter.marksBack_visit hv)
  | .box kind info children, ancestors, place, marks, r, h => by
    obtain ⟨opening, marks₁, signal, below, closing, signal', he, hinside, hl, hsteps⟩ :=
      Formatter.steps_box h
    have hbelow := Formatter.within_inside
      (fun r' hr' => Formatter.within_traverseAll children _ _ 0 marks₁ r' hr') hinside
    have hopening := within_visit (Formatter.marksBack_visit he)
    have hclosing := within_visit (Formatter.marksBack_visit hl)
    rw [hsteps]
    exact hopening.trans (hbelow.below.trans hclosing)

theorem Formatter.within_traverseAll {formatter : Formatter} {style : Style} :
    ∀ (nodes : List Node) (ancestors : List Occurrence) (place : List Nat) (i : Nat)
      (marks : Marks) (r : Recording Unit),
      traverseAll (formatter.transcriber style) ancestors place i nodes marks = .ok r →
      Within ancestors (siblings place i nodes) marks r.steps r.marks
  | [], ancestors, place, i, marks, r, h => by
    cases h
    exact Within.nil _ _ _
  | n :: rest, ancestors, place, i, marks, r, h => by
    obtain ⟨first, others, hn, hrest, rfl⟩ := Formatter.steps_children h
    exact (Formatter.within_traverse n ancestors (i :: place) marks first hn).append
      (Formatter.within_traverseAll rest ancestors place (i + 1) first.marks others hrest)

end

end FlavoredMarkdown

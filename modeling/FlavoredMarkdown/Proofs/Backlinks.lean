import FlavoredMarkdown.Proofs.MarksBack

/-!
# Every footnote is linked back once

A footnote whose last child is a paragraph has its link back in that paragraph (`visit_paragraph`); any
other one has it behind its children (`visit_footnote_definition`). Either way there is one, however
footnotes are nested: the mark for a footnote comes from its own last child, and no step outside a
footnote has to do with it (`Apart`).

Results:
* `Formatter.linkedBack_footnote`: a footnote for which there is no mark is linked back once.
* **`Formatter.linkedBack_transcript`**: every footnote that is visited is linked back once.
-/

namespace FlavoredMarkdown

/-- The link back of a footnote is written once. It is written when the last child is left, behind
everything in that child and before its tag is closed, if that child is a paragraph. Else it is
written when the footnote is left, behind all children and before the item is closed. -/
def LinkedBack (steps : List Step) (ancestors : List Occurrence) (o : Occurrence)
    (identifier : String) (index : Int) : Prop :=
  ∃ before opening inside closing after,
    steps = before ++ .visit ancestors o .entering opening ::
      (inside ++ .visit ancestors o .leaving closing :: after) ∧
    (∀ s ∈ inside, ∀ p ∈ s.place?, o.place <:+ p) ∧
    (∀ s ∈ before ++ after, ∀ p ∈ s.place?, ¬o.place <:+ p) ∧
    ((∃ inner last info content, o.node.children.getLast? = some (.box .paragraph info content) ∧
        last = Step.visit (o :: ancestors)
          ⟨.box .paragraph info content, (o.node.children.length - 1) :: o.place⟩ .leaving
          (Default.backlink identifier index ++ [.closeTag "p", .newline]) ∧
        inside = inner ++ [last] ∧ closing = [.freshLine, .closeTag "li", .newline] ∧
        steps.filter (Step.linksBack o.place) = [last]) ∨
      ((∀ info content, o.node.children.getLast? ≠ some (.box .paragraph info content)) ∧
        closing = .freshLine :: (Default.backlink identifier index ++
          [.freshLine, .closeTag "li", .newline]) ∧
        steps.filter (Step.linksBack o.place) = [.visit ancestors o .leaving closing]))

/-! ## Footnotes one by one -/

/-- The steps are outside of a place, and none of them writes a link back for it. -/
def Apart (place : List Nat) (steps : List Step) : Prop :=
  ∀ s ∈ steps, (∀ p ∈ s.place?, ¬place <:+ p) ∧ s.linksBack place = false

theorem Apart.filter_eq_nil {place : List Nat} {steps : List Step} (h : Apart place steps) :
    steps.filter (Step.linksBack place) = [] := by
  rw [List.filter_eq_nil_iff]
  intro s hs
  rw [(h s hs).2]
  exact Bool.false_ne_true

/-- A run over trees that have nothing in common with a place is apart from it. -/
theorem Within.apart {ancestors os : List Occurrence} {marks marks' : Marks} {steps : List Step}
    (h : Within ancestors os marks steps marks') {place : List Nat}
    (hos : ∀ c ∈ os, ∀ p, c.place <:+ p → ¬place <:+ p)
    (hended : ∀ c ∈ os, endedFootnote? ancestors c ≠ some place) : Apart place steps := by
  intro s hs
  refine ⟨fun p hp => ?_, Bool.eq_false_iff.mpr fun hlinks => ?_⟩
  · obtain ⟨c, hc, hsuffix⟩ := h.places s hs p hp
    exact hos c hc p hsuffix
  · obtain ⟨c, hc, hsuffix | he⟩ := h.links s hs place hlinks
    · exact hos c hc place hsuffix List.suffix_rfl
    · exact hended c hc he

/-- Steps that are apart from a footnote change nothing about it. -/
theorem LinkedBack.extend {steps before after : List Step} {ancestors : List Occurrence}
    {o : Occurrence} {identifier : String} {index : Int}
    (h : LinkedBack steps ancestors o identifier index) (hbefore : Apart o.place before)
    (hafter : Apart o.place after) :
    LinkedBack (before ++ (steps ++ after)) ancestors o identifier index := by
  obtain ⟨before', opening, inside, closing, after', hsteps, hinside, houtside, hlink⟩ := h
  have hfilter : (before ++ (steps ++ after)).filter (Step.linksBack o.place) =
      steps.filter (Step.linksBack o.place) := by
    rw [List.filter_append, List.filter_append, hbefore.filter_eq_nil, hafter.filter_eq_nil,
      List.nil_append, List.append_nil]
  refine ⟨before ++ before', opening, inside, closing, after' ++ after, ?_, hinside, ?_, ?_⟩
  · rw [hsteps]
    simp
  · intro s hs
    simp only [List.mem_append] at hs houtside
    rcases hs with (hs | hs) | hs | hs
    · exact (hbefore s hs).1
    · exact houtside s (.inl hs)
    · exact houtside s (.inr hs)
    · exact (hafter s hs).1
  · rw [hfilter]
    exact hlink

/-- Every footnote that is entered is linked back once. -/
def AllLinked (steps : List Step) : Prop :=
  ∀ ancestors o opening identifier index info children,
    o.node = .box (.footnoteDefinition identifier index) info children →
      Step.visit ancestors o .entering opening ∈ steps → LinkedBack steps ancestors o identifier index

theorem AllLinked.append {as bs : List Step} (ha : AllLinked as) (hb : AllLinked bs)
    (hab : ∀ s ∈ as, ∀ p ∈ s.place?, Apart p bs) (hba : ∀ s ∈ bs, ∀ p ∈ s.place?, Apart p as) :
    AllLinked (as ++ bs) := by
  intro ancestors o opening identifier index info children ho hs
  have hnone : Apart o.place [] := nofun
  rcases List.mem_append.mp hs with hs | hs
  · exact (ha _ _ _ _ _ _ _ ho hs).extend hnone (hab _ hs _ rfl)
  · have h := (hb _ _ _ _ _ _ _ ho hs).extend (hba _ hs _ rfl) hnone
    rwa [List.append_nil] at h

section Footnote

variable {formatter : Formatter} {style : Style} {ancestors : List Occurrence} {marks : Marks}

/-- The last child of an occurrence. -/
theorem getLast?_children (o : Occurrence) :
    o.children.getLast? =
      o.node.children.getLast?.map fun n => ⟨n, (o.node.children.length - 1) :: o.place⟩ := by
  rw [Occurrence.children, List.getLast?_mapIdx]
  rfl

/-- Only the last child ends the footnote around it. -/
theorem last_of_ended {o c : Occurrence} {place : List Nat}
    (h : endedFootnote? (o :: ancestors) c = some place) :
    (∃ info content, c.node = .box .paragraph info content) ∧
      c.place = (o.node.children.length - 1) :: o.place := by
  obtain ⟨parent, rest, last, he, -, hlast, hplace, hparagraph⟩ := endedFootnote?_eq_some h
  obtain rfl := (List.cons.inj he).1
  rw [getLast?_children] at hlast
  obtain ⟨n, -, rfl⟩ := Option.map_eq_some_iff.mp hlast
  exact ⟨hparagraph, hplace.symm⟩

/-- The children that do not end the footnote around them have nothing to do with it. -/
theorem apart_of_not_ended {o : Occurrence} {nodes : List Node} {marks' : Marks}
    {steps : List Step}
    (h : Within (o :: ancestors) (siblings o.place 0 nodes) marks steps marks')
    (hended : ∀ c ∈ siblings o.place 0 nodes, endedFootnote? (o :: ancestors) c ≠ some o.place)
    (hfresh : o.place ∉ marks.backlinked) :
    steps.filter (Step.linksBack o.place) = [] ∧ o.place ∉ marks'.backlinked := by
  have hlonger {c : Occurrence} (hc : c ∈ siblings o.place 0 nodes) : ¬c.place <:+ o.place := by
    obtain ⟨j, -, hplace⟩ := exists_of_mem_siblings hc
    rw [hplace]
    exact not_suffix_of_length (by simp)
  constructor
  · rw [List.filter_eq_nil_iff]
    intro s hs hlinks
    obtain ⟨c, hc, hsuffix | he⟩ := h.links s hs o.place hlinks
    · exact hlonger hc hsuffix
    · exact hended c hc he
  · intro hb
    rcases h.backlinked _ hb with hb | ⟨c, hc, hsuffix | he⟩
    · exact hfresh hb
    · exact hlonger hc hsuffix
    · exact hended c hc he

/-- The way out of a footnote. -/
theorem Formatter.visit_footnote_leaving {o : Occurrence} {identifier : String} {index : Int}
    {info : Info} {children : List Node} {marks' : Marks} {closing : List Piece} {signal : Signal}
    (ho : o.node = .box (.footnoteDefinition identifier index) info children)
    (h : (formatter.emitter style).visit ancestors o .leaving marks =
      ⟨closing, marks', .ok signal⟩) :
    closing = (if o.place ∈ marks.backlinked then [] else
      .freshLine :: Default.backlink identifier index) ++ [.freshLine, .closeTag "li", .newline] := by
  obtain ⟨n, place⟩ := o
  obtain rfl : n = _ := ho
  obtain ⟨rfl, -, -⟩ := Formatter.visit_default rfl h
  simp only [Default.visit, Default.containerVisit, Default.footnoteDefinition, Default.writes]
  by_cases hb : place ∈ marks.backlinked
  · rw [if_pos hb, if_pos (List.contains_iff_mem.mpr hb)]
  · rw [if_neg hb, if_neg (mt List.contains_iff_mem.mp hb)]

/-- The first visit to a footnote opens it, and its children are visited. -/
theorem Formatter.visit_footnote_entering {o : Occurrence} {identifier : String} {index : Int}
    {info : Info} {children : List Node} {marks' : Marks} {opening : List Piece} {signal : Signal}
    (ho : o.node = .box (.footnoteDefinition identifier index) info children)
    (h : (formatter.emitter style).visit ancestors o .entering marks =
      ⟨opening, marks', .ok signal⟩) :
    signal = .html ∧ marks'.backlinked = marks.backlinked ∧
      (Step.visit ancestors o .entering opening).linksBack o.place = false := by
  have hback := Formatter.marksBack_visit h
  obtain ⟨n, place⟩ := o
  obtain rfl : n = _ := ho
  obtain ⟨-, -, hsignal⟩ := Formatter.visit_default rfl h
  refine ⟨(Except.ok.inj hsignal).symm, hback.backlinked, Bool.eq_false_iff.mpr fun hl => ?_⟩
  cases (hback.links _ hl).1

section Closing

variable {o : Occurrence} {identifier : String} {index : Int} {info : Info} {children : List Node}
  {marks₁ : Marks} {below : Recording Unit} {opening closing : List Piece}

/-- A footnote whose last child is no paragraph writes its link back itself. -/
theorem linkedBack_of_other
    (hlast : ∀ pinfo content, children.getLast? ≠ some (.box .paragraph pinfo content))
    (ho : o.node = .box (.footnoteDefinition identifier index) info children)
    (hfresh : o.place ∉ marks₁.backlinked)
    (hopening : (Step.visit ancestors o .entering opening).linksBack o.place = false)
    (hbelow : Within (o :: ancestors) (siblings o.place 0 children) marks₁ below.steps below.marks)
    (hclosing : closing = (if o.place ∈ below.marks.backlinked then [] else
      .freshLine :: Default.backlink identifier index) ++ [.freshLine, .closeTag "li", .newline]) :
    LinkedBack (.visit ancestors o .entering opening ::
      (below.steps ++ [.visit ancestors o .leaving closing])) ancestors o identifier index := by
  have hended : ∀ c ∈ siblings o.place 0 children,
      endedFootnote? (o :: ancestors) c ≠ some o.place := by
    intro c hc he
    obtain ⟨⟨pinfo, content, hparagraph⟩, hplace⟩ := last_of_ended he
    obtain ⟨j, hj, hplace'⟩ := exists_of_mem_siblings hc
    -- the paragraph stands where the last child stands
    have hindex : j = children.length - 1 := by
      have h := (List.cons.inj (hplace'.symm.trans hplace)).1
      rw [ho, Node.children] at h
      omega
    rw [hindex, ← List.getLast?_eq_getElem?, hparagraph] at hj
    exact hlast pinfo content hj
  obtain ⟨hfilter, hb⟩ := apart_of_not_ended hbelow hended hfresh
  rw [if_neg hb] at hclosing
  have hleave : (Step.visit ancestors o .leaving closing).linksBack o.place = true := by
    have hnearest : ((o :: ancestors).find? fun a => a.node.isFootnote) = some o :=
      List.find?_cons_of_pos (by rw [ho]; rfl)
    rw [hclosing]
    exact (linksBack_iff rfl).mpr ⟨o, hnearest, rfl⟩
  refine ⟨[], opening, below.steps, closing, [], rfl, ?_, nofun, .inr ⟨?_, hclosing, ?_⟩⟩
  · intro s hs p hp
    obtain ⟨c, hc, hsuffix⟩ := hbelow.below.places s hs p hp
    rwa [List.mem_singleton.mp hc] at hsuffix
  · rw [ho]
    exact hlast
  · rw [List.filter_cons_of_neg (by rw [hopening]; exact Bool.false_ne_true), List.filter_append,
      hfilter, List.filter_cons_of_pos hleave]
    rfl

/-- The last child of a footnote is the one that ends it, if it is a paragraph. -/
theorem closedFootnote?_last {n : Node}
    (ho : o.node = .box (.footnoteDefinition identifier index) info children)
    (hlast : children.getLast? = some n) :
    Default.closedFootnote? (o :: ancestors) ⟨n, (children.length - 1) :: o.place⟩ =
      some (o, identifier, index) := by
  have hchildren : o.children.getLast? = some ⟨n, (children.length - 1) :: o.place⟩ := by
    rw [getLast?_children, ho, Node.children, hlast]
    rfl
  simp only [Default.closedFootnote?, ho, hchildren, Occurrence.isSame, BEq.rfl, if_true]

/-- The steps of the last paragraph of a footnote: the last one writes the link back and leaves the
mark. -/
theorem Formatter.steps_lastParagraph {pinfo : Info} {content : List Node} {r : Recording Unit}
    (ho : o.node = .box (.footnoteDefinition identifier index) info children)
    (hlast : children.getLast? = some (.box .paragraph pinfo content))
    (h : traverse (formatter.transcriber style) (o :: ancestors)
      ((children.length - 1) :: o.place) (.box .paragraph pinfo content) marks = .ok r) :
    ∃ inner last,
      last = Step.visit (o :: ancestors)
        ⟨.box .paragraph pinfo content, (children.length - 1) :: o.place⟩ .leaving
        (Default.backlink identifier index ++ [.closeTag "p", .newline]) ∧
      r.steps = inner ++ [last] ∧ inner.filter (Step.linksBack o.place) = [] ∧
      last.linksBack o.place = true ∧ o.place ∈ r.marks.backlinked := by
  let p : Occurrence := ⟨.box .paragraph pinfo content, (children.length - 1) :: o.place⟩
  obtain ⟨opening, marks₁, signal, below, closing, signal', he, hinside, hl, hsteps⟩ :=
    Formatter.steps_box h
  have hbelow := Formatter.within_inside (o := p)
    (fun r' hr' => Formatter.within_traverseAll content _ _ 0 marks₁ r' hr') hinside
  have hentering : (Step.visit (o :: ancestors) p .entering opening).linksBack o.place = false := by
    refine Bool.eq_false_iff.mpr fun hlinks => ?_
    cases ((Formatter.marksBack_visit he).links _ hlinks).1
  have hquiet : below.steps.filter (Step.linksBack o.place) = [] := by
    rw [List.filter_eq_nil_iff]
    intro s hs hlinks
    obtain ⟨c, hc, hsuffix⟩ := hbelow.links s hs o.place hlinks
    have hlonger : o.place.length < p.place.length := by simp [p]
    rcases hsuffix with hsuffix | hended
    · obtain ⟨j, -, hplace⟩ := exists_of_mem_siblings hc
      have hle := hsuffix.length_le
      rw [hplace, List.length_cons] at hle
      omega
    · rw [place_of_ended hended] at hlonger
      exact absurd hlonger (Nat.lt_irrefl _)
  have hclosed : Default.closedFootnote? (o :: ancestors) p = some (o, identifier, index) :=
    closedFootnote?_last ho hlast
  obtain ⟨hpieces, hmarks, -⟩ := Formatter.visit_default rfl hl
  have hvisit := Default.visit_lastParagraph style pinfo content p.place below.marks ho hclosed
  have hfootnote : o.node.isFootnote = true := by
    rw [ho]
    rfl
  have hnearest : ((p :: o :: ancestors).find? fun a => a.node.isFootnote) = some o :=
    (List.find?_cons_of_neg Bool.false_ne_true).trans (List.find?_cons_of_pos hfootnote)
  rw [hvisit] at hpieces hmarks
  refine ⟨.visit (o :: ancestors) p .entering opening :: below.steps, _, rfl, ?_, ?_, ?_, ?_⟩
  · rw [hsteps, ← hpieces]
    rfl
  · rw [List.filter_cons_of_neg (by rw [hentering]; exact Bool.false_ne_true), hquiet]
  · exact (linksBack_iff rfl).mpr ⟨o, hnearest, rfl⟩
  · rw [← hmarks]
    exact List.mem_cons_self

/-- A footnote whose last child is a paragraph has its link back in there. -/
theorem linkedBack_of_paragraph {pinfo : Info} {front content : List Node} {first last : Recording Unit}
    (hchildren : children = front ++ [.box .paragraph pinfo content])
    (ho : o.node = .box (.footnoteDefinition identifier index) info children)
    (hfresh : o.place ∉ marks₁.backlinked)
    (hopening : (Step.visit ancestors o .entering opening).linksBack o.place = false)
    (hfirst : Within (o :: ancestors) (siblings o.place 0 front) marks₁ first.steps first.marks)
    (hlast : traverse (formatter.transcriber style) (o :: ancestors) (front.length :: o.place)
      (.box .paragraph pinfo content) first.marks = .ok last)
    (hclosing : closing = (if o.place ∈ last.marks.backlinked then [] else
      .freshLine :: Default.backlink identifier index) ++ [.freshLine, .closeTag "li", .newline]) :
    LinkedBack (.visit ancestors o .entering opening ::
      (first.steps ++ last.steps ++ [.visit ancestors o .leaving closing])) ancestors o identifier
      index := by
  have hlength : children.length - 1 = front.length := by
    rw [hchildren, List.length_append]
    rfl
  have hparagraph : children.getLast? = some (.box .paragraph pinfo content) := by
    rw [hchildren, List.getLast?_concat]
  have hended : ∀ c ∈ siblings o.place 0 front,
      endedFootnote? (o :: ancestors) c ≠ some o.place := by
    intro c hc he
    obtain ⟨-, hplace⟩ := last_of_ended he
    obtain ⟨j, hj, hplace'⟩ := exists_of_mem_siblings hc
    obtain ⟨hlt, -⟩ := List.getElem?_eq_some_iff.mp hj
    have hindex := (List.cons.inj (hplace'.symm.trans hplace)).1
    rw [ho, Node.children, hlength] at hindex
    omega
  obtain ⟨hquiet, -⟩ := apart_of_not_ended hfirst hended hfresh
  rw [← hlength] at hlast
  obtain ⟨inner, step, hstep, hsteps, hinner, hlinks, hmark⟩ :=
    Formatter.steps_lastParagraph ho hparagraph hlast
  rw [if_pos hmark] at hclosing
  have hleave : (Step.visit ancestors o .leaving closing).linksBack o.place = false := by
    rw [hclosing]
    rfl
  refine ⟨[], opening, first.steps ++ last.steps, closing, [], rfl, ?_, nofun, .inl
    ⟨first.steps ++ inner, step, pinfo, content, ?_, ?_, ?_, hclosing, ?_⟩⟩
  · have hwithin := Formatter.within_traverse _ _ _ _ _ hlast
    intro s hs p hp
    rcases List.mem_append.mp hs with hs | hs
    · obtain ⟨c, hc, hsuffix⟩ := hfirst.below.places s hs p hp
      rwa [List.mem_singleton.mp hc] at hsuffix
    · obtain ⟨c, hc, hsuffix⟩ := hwithin.places s hs p hp
      rw [List.mem_singleton.mp hc] at hsuffix
      exact (List.suffix_cons _ _).trans hsuffix
  · rw [ho]
    exact hparagraph
  · rw [hstep, ho]
    rfl
  · rw [hsteps, List.append_assoc]
  · rw [List.filter_cons_of_neg (by rw [hopening]; exact Bool.false_ne_true), hsteps]
    simp only [List.filter_append, hquiet, hinner, List.nil_append]
    rw [List.filter_cons_of_pos hlinks, List.filter_cons_of_neg (by rw [hleave]; exact Bool.false_ne_true)]
    rfl

/-- **A footnote is linked back once**, if no mark for it is there before it is entered. -/
theorem Formatter.linkedBack_footnote {marks' : Marks} {signal signal' : Signal}
    (ho : o.node = .box (.footnoteDefinition identifier index) info children)
    (hfresh : o.place ∉ marks.backlinked)
    (he : (formatter.emitter style).visit ancestors o .entering marks =
      ⟨opening, marks₁, .ok signal⟩)
    (hinside : (formatter.transcriber style).inside children
      (traverseAll (formatter.transcriber style) (o :: ancestors) o.place 0 children) signal marks₁ =
      .ok below)
    (hl : (formatter.emitter style).visit ancestors o .leaving below.marks =
      ⟨closing, marks', .ok signal'⟩) :
    LinkedBack (.visit ancestors o .entering opening ::
      (below.steps ++ [.visit ancestors o .leaving closing])) ancestors o identifier index := by
  obtain ⟨rfl, hmarks, hopening⟩ := Formatter.visit_footnote_entering ho he
  have hclosing := Formatter.visit_footnote_leaving ho hl
  rw [← hmarks] at hfresh
  by_cases hlast : ∃ pinfo content, children.getLast? = some (.box .paragraph pinfo content)
  · obtain ⟨pinfo, content, hlast⟩ := hlast
    obtain ⟨front, hchildren⟩ := List.getLast?_eq_some_iff.mp hlast
    have hall := hinside
    rw [Handler.inside, hchildren] at hall
    obtain ⟨first, second, hfront, hrest, rfl⟩ := Formatter.steps_append hall
    obtain ⟨last, none, hp, hnone, rfl⟩ := Formatter.steps_children hrest
    cases hnone
    rw [Nat.zero_add] at hp
    have hwithin := Formatter.within_traverseAll _ _ _ _ _ _ hfront
    have h := linkedBack_of_paragraph hchildren ho hfresh hopening hwithin hp hclosing
    simpa using h
  · have hother : ∀ pinfo content, children.getLast? ≠ some (.box .paragraph pinfo content) :=
      fun pinfo content he => hlast ⟨pinfo, content, he⟩
    have hwithin := Formatter.within_traverseAll _ _ _ _ _ _ hinside
    exact linkedBack_of_other hother ho hfresh hopening hwithin hclosing

end Closing

end Footnote

/-! ## All footnotes -/

/-- A run over the children of a node is apart from what is in a later child. -/
theorem apart_of_siblings {ancestors : List Occurrence} {place q : List Nat} {nodes : List Node}
    {i k : Nat} {marks marks' : Marks} {steps : List Step}
    (h : Within ancestors (siblings place i nodes) marks steps marks')
    (hancestors : ∀ a ∈ ancestors, a.place.length ≤ place.length)
    (hq : (k :: place) <:+ q) (hk : k < i ∨ i + nodes.length ≤ k) : Apart q steps := by
  refine h.apart (fun c hc p hp hqp => ?_) fun c hc he => ?_
  · obtain ⟨j, hj, hplace⟩ := exists_of_mem_siblings hc
    obtain ⟨hlt, -⟩ := List.getElem?_eq_some_iff.mp hj
    rw [hplace] at hp
    have hindex := index_eq_of_suffix hp (hq.trans hqp)
    omega
  · obtain ⟨parent, rest, -, rfl, rfl, -⟩ := endedFootnote?_eq_some he
    have hle := hancestors parent List.mem_cons_self
    have hlength := hq.length_le
    rw [List.length_cons] at hlength
    omega

/-- A visit of a node is apart from what is deeper than its own place and the places around it. -/
theorem apart_of_visit {ancestors : List Occurrence} {o : Occurrence} {phase : Phase}
    {marks marks' : Marks} {pieces : List Piece} {q : List Nat}
    (h : MarksBack ancestors o phase marks pieces marks')
    (hancestors : ∀ a ∈ ancestors, a.place.length < o.place.length)
    (hq : o.place.length < q.length) : Apart q [.visit ancestors o phase pieces] := by
  intro s hs
  obtain rfl := List.mem_singleton.mp hs
  refine ⟨fun p hp => ?_, Bool.eq_false_iff.mpr fun hlinks => ?_⟩
  · cases hp
    exact not_suffix_of_length hq
  · obtain ⟨-, ⟨-, rfl⟩ | hended⟩ := h.links q hlinks
    · exact absurd hq (Nat.lt_irrefl _)
    · obtain ⟨parent, rest, -, rfl, rfl, -⟩ := endedFootnote?_eq_some hended
      have hlt := hancestors parent List.mem_cons_self
      omega

mutual

/-- In a run over a tree every footnote is linked back once, if no mark for a place in the tree is
there before. -/
theorem Formatter.linked_traverse {formatter : Formatter} {style : Style} :
    ∀ (t : Node) (ancestors : List Occurrence) (place : List Nat) (marks : Marks)
      (r : Recording Unit), (∀ a ∈ ancestors, a.place.length < place.length) →
      (∀ b ∈ marks.backlinked, ¬place <:+ b) →
      traverse (formatter.transcriber style) ancestors place t marks = .ok r → AllLinked r.steps
  | .leaf kind info, ancestors, place, marks, r, hancestors, hfresh, h => by
    obtain ⟨pieces, signal, hv, hsteps⟩ := Formatter.steps_leaf h
    intro ancestors' o opening identifier index info' children ho hs
    rw [hsteps, List.mem_singleton] at hs
    cases hs
    cases ho
  | .box kind info children, ancestors, place, marks, r, hancestors, hfresh, h => by
    let o : Occurrence := ⟨.box kind info children, place⟩
    obtain ⟨opening, marks₁, signal, below, closing, signal', he, hinside, hl, hsteps⟩ :=
      Formatter.steps_box h
    have hback := Formatter.marksBack_visit he
    have hbelow := Formatter.within_inside (o := o)
      (fun r' hr' => Formatter.within_traverseAll children _ _ 0 marks₁ r' hr') hinside
    have hlinked : AllLinked below.steps := by
      cases signal with
      | html =>
        refine Formatter.linked_traverseAll children (o :: ancestors) place 0 marks₁ below ?_ ?_
          hinside
        · intro a ha
          rcases List.mem_cons.mp ha with rfl | ha
          · exact Nat.le_refl _
          · exact Nat.le_of_lt (hancestors a ha)
        · intro b hb j _ hj
          rw [hback.backlinked] at hb
          exact hfresh b hb ((List.suffix_cons j place).trans hj)
      | plain =>
        cases hinside
        intro _ _ _ _ _ _ _ _ hs
        cases List.mem_singleton.mp hs
      | skip =>
        cases hinside
        nofun
    intro ancestors' o' opening' identifier index info' children' ho' hs
    rw [hsteps] at hs ⊢
    rcases List.mem_cons.mp hs with hs | hs
    · -- the node itself is the footnote
      cases hs
      cases ho'
      exact Formatter.linkedBack_footnote rfl (fun hb => hfresh _ hb List.suffix_rfl) he hinside hl
    · rcases List.mem_append.mp hs with hs | hs
      · -- the footnote is below, where it is linked back already
        obtain ⟨c, hc, hsuffix⟩ := hbelow.places _ hs _ rfl
        obtain ⟨j, -, hplace⟩ := exists_of_mem_siblings hc
        have hlonger : place.length < o'.place.length := by
          have hle := hsuffix.length_le
          rw [hplace, List.length_cons] at hle
          exact hle
        have hbefore : Apart o'.place [.visit ancestors o .entering opening] :=
          apart_of_visit hback hancestors hlonger
        have hafter : Apart o'.place [.visit ancestors o .leaving closing] :=
          apart_of_visit (Formatter.marksBack_visit hl) hancestors hlonger
        exact (hlinked _ _ _ _ _ _ _ ho' hs).extend hbefore hafter
      · cases List.mem_singleton.mp hs

theorem Formatter.linked_traverseAll {formatter : Formatter} {style : Style} :
    ∀ (nodes : List Node) (ancestors : List Occurrence) (place : List Nat) (i : Nat)
      (marks : Marks) (r : Recording Unit), (∀ a ∈ ancestors, a.place.length ≤ place.length) →
      (∀ b ∈ marks.backlinked, ∀ j, i ≤ j → ¬(j :: place) <:+ b) →
      traverseAll (formatter.transcriber style) ancestors place i nodes marks = .ok r →
      AllLinked r.steps
  | [], ancestors, place, i, marks, r, hancestors, hfresh, h => by
    cases h
    nofun
  | n :: rest, ancestors, place, i, marks, r, hancestors, hfresh, h => by
    obtain ⟨first, others, hn, hrest, rfl⟩ := Formatter.steps_children h
    have hfirst := Formatter.within_traverse n _ _ _ _ hn
    have hothers := Formatter.within_traverseAll rest _ _ _ _ _ hrest
    have hlinked : AllLinked first.steps := by
      refine Formatter.linked_traverse n ancestors (i :: place) marks first ?_ ?_ hn
      · intro a ha
        exact Nat.lt_succ_of_le (hancestors a ha)
      · exact fun b hb => hfresh b hb i (Nat.le_refl i)
    have hlinked' : AllLinked others.steps := by
      refine Formatter.linked_traverseAll rest ancestors place (i + 1) first.marks others hancestors
        ?_ hrest
      intro b hb j hj hsuffix
      rcases hfirst.backlinked b hb with hb | ⟨c, hc, hc'⟩
      · exact hfresh b hb j (by omega) hsuffix
      · obtain rfl := List.mem_singleton.mp hc
        rcases hc' with hc' | hended
        · have hindex := index_eq_of_suffix hc' hsuffix
          omega
        · obtain ⟨parent, rest', -, rfl, rfl, -⟩ := endedFootnote?_eq_some hended
          have hle := hancestors parent List.mem_cons_self
          have hlength := hsuffix.length_le
          rw [List.length_cons] at hlength
          omega
    refine hlinked.append hlinked' (fun s hs p hp => ?_) fun s hs p hp => ?_
    · obtain ⟨c, hc, hsuffix⟩ := hfirst.places s hs p hp
      obtain rfl := List.mem_singleton.mp hc
      exact apart_of_siblings hothers hancestors hsuffix (.inl (by omega))
    · obtain ⟨c, hc, hsuffix⟩ := hothers.places s hs p hp
      obtain ⟨j, -, hplace⟩ := exists_of_mem_siblings hc
      rw [hplace] at hsuffix
      have hone : Within ancestors (siblings place i [n]) marks first.steps first.marks := hfirst
      exact apart_of_siblings hone hancestors hsuffix (.inr (by simp))

end

/-- **Every footnote that is visited is linked back once**, at its end. -/
theorem Formatter.linkedBack_transcript {formatter : Formatter} {style : Style} {doc : Node}
    {r : Recording Unit} (h : formatter.transcript style doc = .ok r) : AllLinked r.steps :=
  Formatter.linked_traverse doc [] (Occurrence.root doc 0).place {} r nofun nofun h

end FlavoredMarkdown

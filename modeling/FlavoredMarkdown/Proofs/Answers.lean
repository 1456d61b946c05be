import FlavoredMarkdown.Proofs.Transcript

/-!
# What visits answer

The answer of a first visit (`ChildRendering`) decides whether the children of a container are visited,
written as plain text or left out. It is a matter of the node and of the kind around it: an image wants
its children as plain text, and only a link can have them left out.

* A link is ignored if its label shows nothing. Before that, a link around it or a placeholder in its
  URL may have a say.
* An override of some other kind of node fails at a node and answers nothing.

Results:
* `Formatter.visitor_override?`: a formatter uses the override for a kind, if it has one.
* **`Formatter.answer_eq`**: a first visit that does not fail answers as the node demands.
* **`Formatter.entered_transcript`**: the steps of a rendering enter the nodes that these answers
  lead to, in document order. If no links are ignored, these are the visited ones.
-/

namespace FlavoredMarkdown

/-- The override that a formatter uses for a kind of node, if any. -/
def Formatter.override? (formatter : Formatter) (style : Style) (kind : String) : Option Override :=
  match formatter with
  | .plain => none
  | .flavored table => if style.user.on .defaultHtml then none else table.lookup kind

theorem Formatter.visitor_override? (formatter : Formatter) (style : Style) (kind : String) :
    formatter.visitor style kind =
      match formatter.override? style kind with
      | some override => override.visit
      | none => Default.visit := by
  cases formatter with
  | plain => rfl
  | flavored table =>
    simp only [Formatter.visitor, Formatter.override?]
    split <;> rfl

/-- Whether the default markup of a node is a link as Markdown has it, without its label. -/
def Style.ignores (style : Style) (q : Member) : Bool :=
  match q.node with
  | .box (.link ..) _ children =>
    !(style.html.on .relaxedAutolinks && q.inLink) &&
      (style.html.on .ignoreEmptyLinks && Default.isEmptyLabel children)
  | _ => false

/-- Whether an override marks a link for its URL. -/
def Formatter.marksLink (formatter : Formatter) (style : Style) (q : Member) : Bool :=
  match q.node with
  | .box (.link url _) .. =>
    formatter.override? style "link" == some .link && Override.marksIn style url
  | _ => false

/-- Whether a formatter leaves out what is in a link. -/
def Formatter.ignores (formatter : Formatter) (style : Style) (q : Member) : Bool :=
  !formatter.marksLink style q && style.ignores q

/-- What the first visit to a node asks for. -/
def Formatter.answer (formatter : Formatter) (style : Style) (q : Member) : Signal :=
  if q.node.isImage then .plain else if formatter.ignores style q then .skip else .html

section Answers

variable {style : Style} {ancestors : List Occurrence} {marks : Marks} {o : Occurrence}
  {signal : Signal}

/-- The default markup leaves out the label of an ignored link, and asks for plain text in an
image. -/
theorem Default.answer_eq
    (h : (Default.visit style ancestors marks o .entering).outcome = .ok signal) :
    signal = if o.node.isImage then .plain
      else if style.ignores ⟨parentKind? ancestors, o.node⟩ then .skip else .html := by
  obtain ⟨n, place⟩ := o
  cases n with
  | leaf kind info =>
    simp only [Default.visit] at h
    split at h <;> cases h
    rfl
  | box kind info children =>
    simp only [Default.visit] at h
    cases kind with
    | image url title => exact (Except.ok.inj h).symm
    | heading level =>
      simp only [Default.containerVisit, Default.heading] at h
      repeat' split at h
      all_goals cases h
      all_goals rfl
    | link url title =>
      simp only [Default.containerVisit, Default.link] at h
      have hignores : style.ignores ⟨parentKind? ancestors, .box (.link url title) info children⟩ =
        (!(style.html.on .relaxedAutolinks && inLink ancestors) &&
          (style.html.on .ignoreEmptyLinks && Default.isEmptyLabel children)) := rfl
      rw [hignores]
      split at h
      · next hr =>
        rw [hr]
        exact (Except.ok.inj h).symm
      · next hr =>
        rw [Bool.not_eq_true] at hr
        rw [hr]
        split at h
        · next he =>
          rw [he]
          exact (Except.ok.inj h).symm
        · next he =>
          rw [Bool.not_eq_true] at he
          rw [he]
          exact (Except.ok.inj h).symm
    | document | paragraph =>
      simp only [Default.containerVisit, Default.paragraph] at h
      split at h <;> exact (Except.ok.inj h).symm
    | other kind => cases h
    | _ => exact (Except.ok.inj h).symm

/-- Where no override marks a link, the default markup decides. -/
theorem Formatter.answer_unmarked (formatter : Formatter)
    (hm : formatter.marksLink style ⟨parentKind? ancestors, o.node⟩ = false)
    (h : (Default.visit style ancestors marks o .entering).outcome = .ok signal) :
    signal = formatter.answer style ⟨parentKind? ancestors, o.node⟩ := by
  rw [Default.answer_eq h, Formatter.answer, Formatter.ignores, hm, Bool.not_false, Bool.true_and]

/-- **A first visit answers as the node demands**, unless it fails. -/
theorem Formatter.answer_eq (formatter : Formatter)
    (h : ((formatter.emitter style).visit ancestors o .entering marks).outcome = .ok signal) :
    signal = formatter.answer style ⟨parentKind? ancestors, o.node⟩ := by
  rw [Formatter.emitter_visit, Formatter.visitor_override?] at h
  obtain ⟨n, place⟩ := o
  cases hov : formatter.override? style n.kindName with
  | none =>
    rw [hov] at h
    refine formatter.answer_unmarked ?_ h
    unfold Formatter.marksLink
    split
    · next url title info children he =>
      obtain rfl : n = _ := he
      rw [show formatter.override? style "link" = none from hov]
      rfl
    · rfl
  | some override =>
    rw [hov] at h
    simp only [Visitor.emit, Visited.emission, Override.visit] at h
    split at h
    · next content info =>
      unfold Override.visitText at h
      simp only at h
      repeat' split at h
      · exact formatter.answer_unmarked rfl h
      · have hd : (Default.visit style ancestors marks
            ⟨.leaf (.text content) info, place⟩ .entering).outcome = .ok signal := h
        exact formatter.answer_unmarked rfl hd
      · exact (Except.ok.inj h).symm
    · next url title info children =>
      have hlink : formatter.marksLink style
          ⟨parentKind? ancestors, .box (.link url title) info children⟩ =
            Override.marksIn style url := by
        unfold Formatter.marksLink
        rw [show formatter.override? style "link" = some .link from hov]
        rfl
      unfold Override.visitLink at h
      cases hm : Override.marksIn style url with
      | false =>
        rw [hm] at h
        exact formatter.answer_unmarked (hlink.trans hm) h
      | true =>
        rw [hm, Bool.not_true, if_neg Bool.false_ne_true] at h
        rw [Formatter.answer, Formatter.ignores, hlink, hm]
        split at h <;> exact (Except.ok.inj h).symm
    · next url title info children =>
      unfold Override.visitImage at h
      split at h
      · exact formatter.answer_unmarked rfl h
      · exact (Except.ok.inj h).symm
    · next ordered start tight isTaskList info children =>
      unfold Override.visitList at h
      split at h
      · exact formatter.answer_unmarked rfl h
      · exact (Except.ok.inj h).symm
    · next symbol info children =>
      unfold Override.visitTaskItem at h
      simp only at h
      repeat' split at h
      · exact formatter.answer_unmarked rfl h
      · exact formatter.answer_unmarked rfl h
      all_goals exact (Except.ok.inj h).symm
    · cases h

/-- Only an image asks for plain text. -/
theorem Formatter.image_of_plain (formatter : Formatter)
    (h : ((formatter.emitter style).visit ancestors o .entering marks).outcome = .ok .plain) :
    o.node.isImage = true := by
  have ha := formatter.answer_eq h
  unfold Formatter.answer at ha
  split at ha
  · next hi => exact hi
  · split at ha <;> cases ha

/-- If no links are ignored, all children are visited but those of an image. -/
theorem Formatter.answer_html_iff (formatter : Formatter)
    (hempty : style.html.on .ignoreEmptyLinks = false) (q : Member) :
    formatter.answer style q = .html ↔ q.node.isImage = false := by
  have hignores : formatter.ignores style q = false := by
    unfold Formatter.ignores Style.ignores
    split <;> simp [hempty]
  rw [Formatter.answer, hignores]
  cases q.node.isImage <;> simp

/-- The children of any other container are visited if no links are ignored. -/
theorem Formatter.answer_html (formatter : Formatter)
    (hempty : style.html.on .ignoreEmptyLinks = false) (hi : o.node.isImage = false)
    (h : ((formatter.emitter style).visit ancestors o .entering marks).outcome = .ok signal) :
    signal = .html :=
  (formatter.answer_eq h).trans ((formatter.answer_html_iff hempty _).mpr hi)

end Answers

/-! ## The nodes that are entered -/

namespace Node

mutual

/-- The nodes of a tree that visits come to, in document order: what is in a container is left out
unless the answer there is to visit it. -/
def reached (answer : Member → Signal) (parent : Option Container) : Node → List Member
  | .leaf kind info => [⟨parent, .leaf kind info⟩]
  | .box kind info children =>
    ⟨parent, .box kind info children⟩ ::
      if answer ⟨parent, .box kind info children⟩ = .html then
        reachedAll answer (some kind) children
      else []

/-- The nodes of several trees with one parent that visits come to. -/
def reachedAll (answer : Member → Signal) (parent : Option Container) : List Node → List Member
  | [] => []
  | n :: rest => reached answer parent n ++ reachedAll answer parent rest

end

variable {answer : Member → Signal}

@[simp] theorem reached_leaf (parent : Option Container) (kind : Leaf) (info : Info) :
    reached answer parent (.leaf kind info) = [⟨parent, .leaf kind info⟩] := by
  rw [reached]

theorem reached_box (parent : Option Container) (kind : Container) (info : Info)
    (children : List Node) :
    reached answer parent (.box kind info children) =
      ⟨parent, .box kind info children⟩ ::
        if answer ⟨parent, .box kind info children⟩ = .html then
          reachedAll answer (some kind) children
        else [] := by
  rw [reached]

mutual

/-- If visits go everywhere but into images, they come to all visited nodes. -/
theorem reached_eq_visited (h : ∀ q, answer q = .html ↔ q.node.isImage = false) :
    ∀ (n : Node) (parent : Option Container),
    reached answer parent n = visited parent n
  | .leaf kind info, parent => by rw [reached_leaf, visited_leaf]
  | .box kind info children, parent => by
    have hbelow := reachedAll_eq_visitedAll h children (some kind)
    rw [reached_box, visited_box, hbelow]
    by_cases hi : (Node.box kind info children).isImage = true
    · rw [if_pos hi, if_neg fun ha => Bool.false_ne_true ((h _).mp ha ▸ hi)]
    · rw [if_neg hi, if_pos ((h _).mpr (Bool.eq_false_iff.mpr hi))]

theorem reachedAll_eq_visitedAll (h : ∀ q, answer q = .html ↔ q.node.isImage = false) :
    ∀ (nodes : List Node) (parent : Option Container),
    reachedAll answer parent nodes = visitedAll parent nodes
  | [], parent => by rw [reachedAll, visitedAll]
  | n :: rest, parent => by
    rw [reachedAll, visitedAll, reached_eq_visited h n, reachedAll_eq_visitedAll h rest]

end

mutual

/-- If visits go into no image, they come to visited nodes only, in order. -/
theorem reached_sublist_visited (h : ∀ q, answer q = .html → q.node.isImage = false) :
    ∀ (n : Node) (parent : Option Container),
    (reached answer parent n).Sublist (visited parent n)
  | .leaf kind info, parent => by
    exact (reached_leaf parent kind info).symm ▸ (visited_leaf parent kind info).symm ▸
      List.Sublist.refl _
  | .box kind info children, parent => by
    rw [reached_box, visited_box]
    refine List.Sublist.cons_cons _ ?_
    split
    · next ha =>
      rw [if_neg (Bool.eq_false_iff.mp (h _ ha))]
      exact reachedAll_sublist_visitedAll h children (some kind)
    · exact List.nil_sublist _

theorem reachedAll_sublist_visitedAll (h : ∀ q, answer q = .html → q.node.isImage = false) :
    ∀ (nodes : List Node) (parent : Option Container),
    (reachedAll answer parent nodes).Sublist (visitedAll parent nodes)
  | [], parent => by
    rw [reachedAll]
    exact List.nil_sublist _
  | n :: rest, parent => by
    rw [reachedAll, visitedAll]
    exact (reached_sublist_visited h n parent).append (reachedAll_sublist_visitedAll h rest parent)

end

end Node

/-- A rendering comes to visited nodes only, in order. -/
theorem Formatter.reached_sublist (formatter : Formatter) (style : Style) (doc : Node) :
    (doc.reached (formatter.answer style) none).Sublist (doc.visited none) := by
  refine Node.reached_sublist_visited (fun q ha => ?_) doc none
  rw [Formatter.answer] at ha
  split at ha
  · cases ha
  · next hi => exact Bool.eq_false_iff.mpr hi

section Entered

variable {formatter : Formatter} {style : Style}

mutual

/-- The steps of a tree enter the nodes that the answers lead to, in order. -/
theorem Formatter.entered_traverse : ∀ (t : Node) (ancestors : List Occurrence) (place : List Nat)
    (marks : Marks) (r : Recording Unit),
    traverse (formatter.transcriber style) ancestors place t marks = .ok r →
    r.steps.filterMap Step.entered? = t.reached (formatter.answer style) (parentKind? ancestors)
  | .leaf kind info, ancestors, place, marks, r, h => by
    obtain ⟨pieces, signal, -, hsteps⟩ := Formatter.steps_leaf h
    rw [hsteps, Node.reached_leaf]
    rfl
  | .box kind info children, ancestors, place, marks, r, h => by
    obtain ⟨opening, marks₁, signal, below, closing, signal', he, hinside, -, hsteps⟩ :=
      Formatter.steps_box h
    have hanswer : signal = formatter.answer style
        ⟨parentKind? ancestors, .box kind info children⟩ :=
      formatter.answer_eq (congrArg Emission.outcome he)
    have hentered : r.steps.filterMap Step.entered? =
        ⟨parentKind? ancestors, .box kind info children⟩ ::
          below.steps.filterMap Step.entered? := by
      rw [hsteps, List.filterMap_cons, List.filterMap_append]
      simp [Step.entered?]
    rw [hentered, Node.reached_box, ← hanswer]
    cases signal with
    | html =>
      rw [if_pos rfl, Formatter.entered_traverseAll children _ _ _ _ _ hinside]
      rfl
    | plain | skip =>
      cases hinside
      rfl

/-- So do the steps of several trees. -/
theorem Formatter.entered_traverseAll : ∀ (nodes : List Node) (ancestors : List Occurrence)
    (place : List Nat) (i : Nat) (marks : Marks) (r : Recording Unit),
    traverseAll (formatter.transcriber style) ancestors place i nodes marks = .ok r →
    r.steps.filterMap Step.entered? =
      Node.reachedAll (formatter.answer style) (parentKind? ancestors) nodes
  | [], ancestors, place, i, marks, r, h => by
    cases h
    rfl
  | n :: rest, ancestors, place, i, marks, r, h => by
    obtain ⟨first, others, hn, hrest, rfl⟩ := Formatter.steps_children h
    rw [List.filterMap_append, Formatter.entered_traverse n _ _ _ _ hn,
      Formatter.entered_traverseAll rest _ _ _ _ _ hrest, Node.reachedAll]

end

/-- **The steps of a document enter the nodes that the answers lead to.** -/
theorem Formatter.entered_reached {doc : Node} {r : Recording Unit}
    (h : formatter.transcript style doc = .ok r) :
    r.steps.filterMap Step.entered? = doc.reached (formatter.answer style) none :=
  Formatter.entered_traverse doc [] _ {} r h

/-- They enter the visited nodes if no links are ignored. -/
theorem Formatter.entered_transcript (hempty : style.html.on .ignoreEmptyLinks = false) {doc : Node}
    {r : Recording Unit} (h : formatter.transcript style doc = .ok r) :
    r.steps.filterMap Step.entered? = doc.visited none := by
  rw [Formatter.entered_reached h]
  exact Node.reached_eq_visited (formatter.answer_html_iff hempty) doc none

end Entered

end FlavoredMarkdown

import FlavoredMarkdown.Proofs.Emission

/-!
# Overrides are conservative

An override has a say where a text or a URL holds a placeholder, where a task does not apply, and
where a list is a task list. Everywhere else it emits what the default markup emits, although for
lists and for tasks with a symbol of their own it writes the markup itself. So a document without
such nodes has the same HTML with and without the overrides.

* `Unaffected` names the condition for each switch: a switch that is off asks for nothing.
* The records for the log are not compared. With `debug` on, an override notes what it decided.

Results:
* `lookup_standard`: the override that the standard table has for a node depends on what the node
  is, and a foreign kind has none.
* `emission_visitText` … `emission_visitTaskItem`: each override is the default markup where it has
  no say.
* **`format_standard_eq_plain`**: an unaffected document has the same HTML, or fails for the same
  reason.
-/

namespace FlavoredMarkdown

namespace Override

/-- The override for a node in the standard table. -/
def ofNode? : Node → Option Override
  | .leaf (.text _) _ => some .text
  | .box (.link ..) .. => some .link
  | .box (.image ..) .. => some .image
  | .box (.list ..) .. => some .list
  | .box (.taskItem _) .. => some .taskItem
  | _ => none

theorem lookup_standard_of_foreign (kind : ForeignKind) :
    Override.standard.lookup kind.name = none := by
  rw [List.lookup_eq_none_iff]
  intro p hp
  have hk : p.1 ∈ knownKinds := by revert p; decide
  have hne : kind.name ≠ p.1 := fun e => kind.notKnown (e ▸ hk)
  simpa using hne

/-- The standard table goes by what a node is. -/
theorem lookup_standard (n : Node) : Override.standard.lookup n.kindName = ofNode? n := by
  cases n with
  | leaf kind info =>
    cases kind with
    | other kind => exact lookup_standard_of_foreign kind
    | _ => rfl
  | box kind info children =>
    cases kind with
    | other kind => exact lookup_standard_of_foreign kind
    | _ => rfl

end Override

/-- The formatter with all overrides uses the override for a node, if there is one. -/
theorem Formatter.visitor_standard {style : Style} (h : style.user.on .defaultHtml = false)
    (n : Node) :
    Formatter.standard.visitor style n.kindName =
      match Override.ofNode? n with
      | some override => override.visit
      | none => Default.visit := by
  simp only [Formatter.visitor, Formatter.standard, Override.lookup_standard, h]
  rfl

/-- No override that is switched on has a say in the document. -/
structure Unaffected (style : Style) (doc : Node) : Prop where
  urls : style.user.on .placeholderDetection = true →
    ∀ q ∈ doc.members none, ∀ url ∈ q.url?, Placeholder.occursIn url = false
  texts : style.user.on .placeholderDetection = true →
    ∀ q ∈ doc.members none, q.inLabel = false →
      ∀ content ∈ q.text?, Placeholder.occursIn content = false
  tasks : style.user.on .inapplicableTasks = true →
    ∀ q ∈ doc.members none, q.symbol? ≠ some '~'
  lists : style.html.on .tasklistClasses = true →
    ∀ q ∈ doc.members none, q.isTaskList = false

/-! ## Each override where it has no say -/

section Visits

variable (style : Style) (ancestors : List Occurrence) (marks : Marks) (o : Occurrence)

theorem emission_visitText {content : String} (phase : Phase)
    (h : Override.labelKind? ancestors = none → Override.marksIn style content = false) :
    (Override.visitText style ancestors marks o content phase).emission =
      (Default.visit style ancestors marks o phase).emission := by
  unfold Override.visitText
  cases hm : Override.marksIn style content with
  | false => rfl
  | true =>
    cases hl : Override.labelKind? ancestors with
    | none => rw [h hl] at hm; cases hm
    | some kind => rfl

theorem emission_visitLink {info : Info} {url : String} {title : Option String} (phase : Phase)
    (h : Override.marksIn style url = false) :
    (Override.visitLink style ancestors marks o info url title phase).emission =
      (Default.visit style ancestors marks o phase).emission := by
  unfold Override.visitLink
  rw [h]
  rfl

theorem emission_visitImage {info : Info} {url : String} {title : Option String} (phase : Phase)
    (h : Override.marksIn style url = false) :
    (Override.visitImage style ancestors marks o info url title phase).emission =
      (Default.visit style ancestors marks o phase).emission := by
  unfold Override.visitImage
  rw [h]
  rfl

/-- The opening tag of a list that is no task list is written twice over, to the same effect. -/
theorem emission_visitList {info : Info} {ordered tight isTaskList : Bool} {start : Int}
    {children : List Node} {place : List Nat} (phase : Phase)
    (h : style.html.on .tasklistClasses = true → isTaskList = false) :
    let o : Occurrence := ⟨.box (.list ordered start tight isTaskList) info children, place⟩
    (Override.visitList style ancestors marks o info ordered start isTaskList phase).emission =
      (Default.visit style ancestors marks o phase).emission := by
  intro o
  unfold Override.visitList
  cases phase with
  | leaving => rfl
  | entering =>
    cases hc : style.html.on .tasklistClasses with
    | false => rfl
    | true =>
      have ht := h hc
      subst ht
      rfl

/-- A task with a symbol of its own is written twice over, to the same effect. -/
theorem emission_visitTaskItem {info : Info} {symbol : Option Char} {children : List Node}
    {place : List Nat} (phase : Phase)
    (h : style.user.on .inapplicableTasks = true → symbol ≠ some '~') :
    let o : Occurrence := ⟨.box (.taskItem symbol) info children, place⟩
    (Override.visitTaskItem style ancestors marks o info symbol phase).emission =
      (Default.visit style ancestors marks o phase).emission := by
  intro o
  unfold Override.visitTaskItem
  cases hi : style.user.on .inapplicableTasks with
  | false => rfl
  | true =>
    cases hs : symbol.filter fun c => !Default.isChecked c with
    | none => rfl
    | some c =>
      have hc : c ≠ '~' := by
        rintro rfl
        exact h hi (Option.filter_eq_some_iff.mp hs).1
      cases phase with
      | leaving => rfl
      | entering =>
        simp [o, hc, hs, Default.visit, Default.containerVisit, Default.taskOpening,
          Default.writes, Visited.emission]

end Visits

/-! ## Whole documents -/

/-- The override for text looks for a label around it as statements do. -/
theorem inLabel_eq (ancestors : List Occurrence) (n : Node) :
    (Member.mk (parentKind? ancestors) n).inLabel = (Override.labelKind? ancestors).isSome := by
  unfold Override.labelKind? Member.inLabel
  simp only
  cases parentKind? ancestors with
  | none => rfl
  | some kind => cases kind <;> rfl

theorem inLabel_eq_false {ancestors : List Occurrence} {n : Node}
    (h : Override.labelKind? ancestors = none) :
    (Member.mk (parentKind? ancestors) n).inLabel = false := by
  rw [inLabel_eq, h]
  rfl

/-- Equal emissions. -/
def sameEmission : Correspondence Emit Emit where
  rel x y := x = y
  rel_pure _ := rfl
  rel_bind hx hf := by rw [hx, funext hf]

theorem marksIn_eq_false {style : Style} {s : String}
    (h : style.user.on .placeholderDetection = true → Placeholder.occursIn s = false) :
    Override.marksIn style s = false := by
  unfold Override.marksIn
  cases hd : style.user.on .placeholderDetection with
  | false => rfl
  | true => rw [h hd]; rfl

/-- At a node of an unaffected document the two formatters emit the same. -/
theorem Unaffected.visit_eq {style : Style} {doc : Node} (h : Unaffected style doc)
    {ancestors : List Occurrence} {o : Occurrence}
    (hm : ⟨parentKind? ancestors, o.node⟩ ∈ doc.members none) (phase : Phase) :
    (Formatter.standard.emitter style).visit ancestors o phase =
      (Formatter.plain.emitter style).visit ancestors o phase := by
  funext marks
  simp only [Formatter.emitter, Visitor.emit, Formatter.visitor, Formatter.standard,
    Override.lookup_standard]
  split
  · rfl
  · obtain ⟨n, place⟩ := o
    cases n with
    | leaf kind info =>
      cases kind with
      | text content =>
        exact emission_visitText style ancestors marks _ phase fun hl =>
          marksIn_eq_false fun hd => h.texts hd _ hm (inLabel_eq_false hl) content rfl
      | _ => rfl
    | box kind info children =>
      cases kind with
      | link url title =>
        exact emission_visitLink style ancestors marks _ phase
          (marksIn_eq_false fun hd => h.urls hd _ hm url rfl)
      | image url title =>
        exact emission_visitImage style ancestors marks _ phase
          (marksIn_eq_false fun hd => h.urls hd _ hm url rfl)
      | list ordered start tight isTaskList =>
        exact emission_visitList style ancestors marks phase fun hc => h.lists hc _ hm
      | taskItem symbol =>
        exact emission_visitTaskItem style ancestors marks phase fun hi => h.tasks hi _ hm
      | _ => rfl

/-- **Overrides are conservative.** A document in which no override has a say has the HTML of the
default markup, or fails as with the default markup. -/
theorem format_standard_eq_plain {style : Style} {doc : Node} (h : Unaffected style doc) :
    (Formatter.standard.format style doc).1 = (Formatter.plain.format style doc).1 := by
  rw [Formatter.format_eq, Formatter.format_eq]
  have visits : sameEmission.AtMembers (Formatter.standard.emitter style)
      (Formatter.plain.emitter style) (doc.members (parentKind? [])) :=
    Correspondence.atMembers_of_visits (fun _ => rfl) fun _ _ phase hm => h.visit_eq hm phase
  have same := visits.rel_traverse doc [] (Occurrence.root doc 0).place
  exact congrArg (fun x : Emit Unit => (x {}).html) same

/-- Every override switched on. -/
def Style.allOverrides : Style where
  html := { on := fun f => f == .tasklistClasses }
  user := { on := fun f => f != .defaultHtml }

/-- A list that is not flagged, a task with a symbol of its own, a placeholder in the label of a
link, and a foreign kind. -/
theorem format_standard_eq_plain_custom :
    let doc : Node := .box .document {} [.box (.list false 1 true false) {}
      [.box (.taskItem (some '>')) {} [.box .paragraph {}
        [.box (.link "u" none) {} [.leaf (.text "%{a}") {}]]]],
      .leaf (.other (.named "bogus")) {}]
    Unaffected .allOverrides doc ∧
      (Formatter.standard.format .allOverrides doc).1 =
        (Formatter.plain.format .allOverrides doc).1 := by
  intro doc
  have h : Unaffected .allOverrides doc := by
    constructor <;> intro _ q hq <;>
      simp [doc, Node.membersAll] at hq <;>
      rcases hq with rfl | rfl | rfl | rfl | rfl | rfl | rfl <;>
      simp [Member.url?, Member.text?, Member.inLabel, Member.symbol?, Member.isTaskList]
    decide
  exact ⟨h, format_standard_eq_plain h⟩

end FlavoredMarkdown

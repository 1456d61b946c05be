import FlavoredMarkdown.Proofs.Answers
import FlavoredMarkdown.Proofs.Backlinks
import FlavoredMarkdown.Proofs.Blocks
import FlavoredMarkdown.Proofs.VisibleText

/-!
# Raw HTML has no influence

Where raw HTML is left out of the page (`_write_raw_html`), what it is cannot be told from the
rendering: two documents that differ in nothing else have the same page and the same log, or fail alike.
A document's `veiled` form has blanks for all raw HTML that must not matter, so two documents differ in
nothing else if they are equal behind the veil.

* The plain text of inline HTML is read in three places, where nothing is veiled: an image is its
  text, a heading has an anchor made of it if anchors are wanted, and a link is judged by it if empty
  links are ignored. The text of a block of HTML is read nowhere.
* A visit sees the open containers, and so what is in them. It makes use of their kinds and places
  and of the number of their children only, which is an `Outlook`.

Results:
* `Formatter.visit_veiled`: a visit is the same behind the veil.
* `Formatter.traverse_veiled`: so is the rendering of a tree, inside any containers.
* **`Formatter.format_veiled`**: documents that are equal behind the veil are rendered alike.
-/

namespace FlavoredMarkdown

/-! ## The veil -/

/-- Whether the plain text of what is in a container is read. -/
def Style.readsText (style : Style) : Container → Bool
  | .image .. => true
  | .heading _ => !style.html.headerIds.isNone
  | .link .. => style.html.on .ignoreEmptyLinks
  | _ => false

/-- A leaf without its raw HTML. Inline HTML stays where its text is read. -/
def Leaf.veiled (read : Bool) : Leaf → Leaf
  | .htmlBlock _ => .htmlBlock ""
  | .htmlInline content => .htmlInline (if read then content else "")
  | kind => kind

namespace Node

mutual

/-- A tree without the raw HTML that must not matter. `read` says whether the text of the tree is
read. -/
def veiled (style : Style) (read : Bool) : Node → Node
  | .leaf kind info => .leaf (kind.veiled read) info
  | .box kind info children =>
    .box kind info (veiledAll style (read || style.readsText kind) children)

/-- Several trees without the raw HTML that must not matter. -/
def veiledAll (style : Style) (read : Bool) : List Node → List Node
  | [] => []
  | n :: rest => veiled style read n :: veiledAll style read rest

end

section Veil

variable (style : Style) (read : Bool)

@[simp] theorem kindName_veiled (n : Node) : (n.veiled style read).kindName = n.kindName := by
  cases n with
  | leaf kind info => cases kind <;> rfl
  | box kind info children => rfl

@[simp] theorem length_veiledAll (nodes : List Node) :
    (veiledAll style read nodes).length = nodes.length := by
  induction nodes with
  | nil => rfl
  | cons n rest ih => rw [veiledAll, List.length_cons, List.length_cons, ih]

mutual

/-- The veil keeps all text that is read. -/
theorem plainText_veiled : ∀ n : Node, (n.veiled style true).plainText = n.plainText
  | .leaf kind info => by cases kind <;> rfl
  | .box kind info children => plainTexts_veiledAll children

theorem plainTexts_veiledAll : ∀ nodes : List Node,
    plainTexts (veiledAll style true nodes) = plainTexts nodes
  | [] => rfl
  | n :: rest => by
    rw [veiledAll, plainTexts, plainTexts, plainText_veiled n, plainTexts_veiledAll rest]

end

/-- The text of a container that reads it is the same behind the veil. -/
theorem plainText_veiledAll {kind : Container} (h : style.readsText kind = true)
    (nodes : List Node) :
    FlavoredMarkdown.plainText (veiledAll style (read || style.readsText kind) nodes) =
      FlavoredMarkdown.plainText nodes := by
  rw [h, Bool.or_true, plainText_eq_plainTexts, plainText_eq_plainTexts, plainTexts_veiledAll]

end Veil

end Node

/-! ## What a visit makes of the open containers -/

/-- What a visit at a place makes of the open containers is the same for two chains of them: the kind
around it, the tightness of the list around it, whether it is at the first row of a table, and the
footnote that it ends. -/
structure Outlook (ancestors ancestors' : List Occurrence) (place : List Nat) : Prop where
  parent : parentKind? ancestors' = parentKind? ancestors
  tight : inTightList ancestors' = inTightList ancestors
  firstRow : ∀ n n', Default.isFirstRow ancestors' ⟨n', place⟩ =
    Default.isFirstRow ancestors ⟨n, place⟩
  footnote : ∀ n n',
    (Default.closedFootnote? ancestors' ⟨n', place⟩).map (fun f => (f.1.place, f.2)) =
      (Default.closedFootnote? ancestors ⟨n, place⟩).map fun f => (f.1.place, f.2)

theorem Outlook.refl (place : List Nat) : Outlook [] [] place where
  parent := rfl
  tight := rfl
  firstRow _ _ := rfl
  footnote _ _ := rfl

/-- The footnote that a child ends is known from its place. -/
theorem closedFootnote?_below (kind : Container) (info : Info) (children : List Node)
    (place : List Nat) (ancestors : List Occurrence) (n : Node) (i : Nat) :
    Default.closedFootnote? (⟨.box kind info children, place⟩ :: ancestors) ⟨n, i :: place⟩ =
      match kind with
      | .footnoteDefinition identifier index =>
        if i + 1 = children.length then some (⟨.box kind info children, place⟩, identifier, index)
        else none
      | _ => none := by
  cases kind with
  | footnoteDefinition identifier index =>
    simp only [Default.closedFootnote?, getLast?_children, Node.children]
    cases hlast : children.getLast? with
    | none =>
      obtain rfl := List.getLast?_eq_none_iff.mp hlast
      rfl
    | some last =>
      have hpos : 0 < children.length := List.length_pos_of_mem (List.mem_of_getLast? hlast)
      have hsame : Occurrence.isSame ⟨last, (children.length - 1) :: place⟩ ⟨n, i :: place⟩ =
          decide (i + 1 = children.length) := by
        rw [Bool.eq_iff_iff, decide_eq_true_iff]
        simp only [Occurrence.isSame, beq_iff_eq, List.cons.injEq, and_true]
        omega
      simp only [Option.map_some, hsame, decide_eq_true_eq]
  | _ => rfl

/-- Inside two containers of one kind, at one place and with as many children, all places have the
same outlook. -/
theorem Outlook.below {ancestors ancestors' : List Occurrence} {place : List Nat}
    (h : Outlook ancestors ancestors' place) (kind : Container) (info : Info)
    {children children' : List Node} (hlen : children'.length = children.length) (i : Nat) :
    Outlook (⟨.box kind info children, place⟩ :: ancestors)
      (⟨.box kind info children', place⟩ :: ancestors') (i :: place) where
  parent := rfl
  tight := by
    rw [inTightList_cons, inTightList_cons, h.parent]
    rfl
  firstRow n n' := by
    rw [isFirstRow_below, isFirstRow_below, hlen]
  footnote n n' := by
    rw [closedFootnote?_below, closedFootnote?_below, hlen]
    cases kind with
    | footnoteDefinition identifier index =>
      simp only
      split <;> rfl
    | _ => rfl

theorem Outlook.inLink {ancestors ancestors' : List Occurrence} {place : List Nat}
    (h : Outlook ancestors ancestors' place) : inLink ancestors' = inLink ancestors := by
  unfold FlavoredMarkdown.inLink
  rw [h.parent]

/-! ## Visits -/

section Visits

variable {style : Style} (hescape : style.html.on .escape = false)
  (htrusted : style.html.on .trusted = false) {ancestors ancestors' : List Occurrence}
  {place : List Nat} (h : Outlook ancestors ancestors' place) (marks : Marks) (read : Bool)
  (n : Node) (phase : Phase)

include hescape htrusted h

/-- The default markup of a node is the same behind the veil. -/
theorem Default.visit_veiled :
    Default.visit style ancestors' marks ⟨n.veiled style read, place⟩ phase =
      Default.visit style ancestors marks ⟨n, place⟩ phase := by
  cases n with
  | leaf kind info =>
    cases kind with
    | htmlBlock content | htmlInline content =>
      simp [Node.veiled, Leaf.veiled, Default.visit, Default.leafPieces?, Default.rawHtml, hescape,
        htrusted]
    | _ => rfl
  | box kind info children =>
    rw [Node.veiled]
    simp only [Default.visit]
    cases kind with
    | heading level =>
      simp only [Default.containerVisit]
      cases phase with
      | leaving => rfl
      | entering =>
        simp only [Default.heading]
        cases hid : style.html.headerIds.isNone with
        | true => rw [if_pos rfl, if_pos rfl]
        | false =>
          have hread : style.readsText (.heading level) = true := by simp [Style.readsText, hid]
          rw [Node.plainText_veiledAll style read hread]
    | paragraph =>
      simp only [Default.containerVisit, Default.paragraph, h.tight]
      cases phase with
      | entering => rfl
      | leaving =>
        have hf := h.footnote (.box .paragraph info children)
          (.box .paragraph info (Node.veiledAll style (read || style.readsText .paragraph) children))
        cases hin : Default.closedFootnote? ancestors ⟨.box .paragraph info children, place⟩ with
        | none =>
          rw [hin, Option.map_none, Option.map_eq_none_iff] at hf
          rw [hf]
        | some f =>
          rw [hin, Option.map_some, Option.map_eq_some_iff] at hf
          obtain ⟨f', hout, hf⟩ := hf
          obtain ⟨hplace, hnames⟩ := Prod.mk.inj hf
          rw [hout]
          simp only [hplace, hnames]
    | link url title =>
      simp only [Default.containerVisit, Default.link, h.inLink]
      cases hempty : style.html.on .ignoreEmptyLinks with
      | false => rfl
      | true =>
        have hread : style.readsText (.link url title) = true := hempty
        rw [Default.isEmptyLabel, Node.plainText_veiledAll style read hread, ← Default.isEmptyLabel]
    | table hasHeader =>
      simp only [Default.containerVisit]
      have hbody : (tableRows hasHeader (Node.veiledAll style
            (read || style.readsText (.table hasHeader)) children)).isEmpty =
          (tableRows hasHeader children).isEmpty := by
        rw [Bool.eq_iff_iff, List.isEmpty_iff_length_eq_zero, List.isEmpty_iff_length_eq_zero,
          tableRows_eq, tableRows_eq, List.length_drop, List.length_drop, Node.length_veiledAll]
      rw [hbody]
    | tableRow isHeader =>
      simp only [Default.containerVisit, Default.tableRow, Node.info]
      rw [h.firstRow (.box (.tableRow isHeader) info children)]
    | tableCell alignment => simp only [Default.containerVisit, Default.cellTag, h.parent]
    | _ => rfl

/-- So is the markup of an override. -/
theorem Override.visit_veiled (override : Override) :
    override.visit style ancestors' marks ⟨n.veiled style read, place⟩ phase =
      override.visit style ancestors marks ⟨n, place⟩ phase := by
  have hd := Default.visit_veiled hescape htrusted h marks read n phase
  cases n with
  | leaf kind info =>
    cases kind with
    | text content =>
      cases override with
      | text =>
        have hself : (Node.leaf (.text content) info).veiled style read =
          .leaf (.text content) info := rfl
        rw [hself] at hd ⊢
        simp only [Override.visit, Override.visitText, Override.labelKind?, h.parent, hd]
      | _ => rfl
    | _ => cases override <;> rfl
  | box kind info children =>
    rw [Node.veiled] at hd ⊢
    cases override with
    | text => rfl
    | link =>
      cases kind with
      | link url title => simp only [Override.visit, Override.visitLink, h.inLink, hd]
      | _ => rfl
    | image =>
      cases kind with
      | image url title => simp only [Override.visit, Override.visitImage, hd]
      | _ => rfl
    | list =>
      cases kind with
      | list ordered start tight isTaskList => simp only [Override.visit, Override.visitList, hd]
      | _ => rfl
    | taskItem =>
      cases kind with
      | taskItem symbol => simp only [Override.visit, Override.visitTaskItem, hd]
      | _ => rfl

/-- **A visit is the same behind the veil.** -/
theorem Formatter.visit_veiled (formatter : Formatter) :
    (formatter.handler style).visit ancestors' ⟨n.veiled style read, place⟩ phase =
      (formatter.handler style).visit ancestors ⟨n, place⟩ phase := by
  funext r
  simp only [Formatter.handler, Formatter.dispatch, Node.kindName_veiled]
  rcases formatter.visitor_eq style n.kindName with hv | ⟨override, hv⟩ <;> rw [hv]
  · rw [Default.visit_veiled hescape htrusted h]
  · rw [Override.visit_veiled hescape htrusted h]

end Visits

/-! ## Renderings -/

/-- What follows a step may count on the answer that the step gave. -/
theorem RenderM.bind_congr {α β : Type} {x : RenderM α} {f g : α → RenderM β}
    (h : ∀ a r r', x r = .ok a r' → f a = g a) : x >>= f = x >>= g := by
  funext r
  show EStateM.bind x f r = EStateM.bind x g r
  unfold EStateM.bind
  cases hx : x r with
  | ok a r' => simp only [h a r r' hx]
  | error e r' => rfl

/-- A container that has its children written as plain text is an image. -/
theorem Formatter.image_of_handler_plain {formatter : Formatter} {style : Style}
    {ancestors : List Occurrence} {o : Occurrence} {r r' : Rendering}
    (h : (formatter.handler style).visit ancestors o .entering r = .ok .plain r') :
    o.node.isImage = true := by
  obtain ⟨log, hdraws⟩ := draws_visit formatter style ancestors o .entering r
  rw [h] at hdraws
  unfold Emission.onto at hdraws
  split at hdraws
  · next signal hs =>
    obtain rfl : Signal.plain = signal := (EStateM.Result.ok.inj hdraws).1
    exact formatter.image_of_plain hs
  · cases hdraws

section Renderings

variable {style : Style}

/-- What is done around the children of a container is the same behind the veil. -/
theorem Formatter.around_veiled (hescape : style.html.on .escape = false)
    (htrusted : style.html.on .trusted = false) (formatter : Formatter)
    {ancestors ancestors' : List Occurrence} {place : List Nat}
    (h : Outlook ancestors ancestors' place) (read : Bool) (kind : Container) (info : Info)
    (children : List Node) (x : RenderM Unit) :
    (formatter.handler style).around ancestors'
        ⟨(Node.box kind info children).veiled style read, place⟩ x =
      (formatter.handler style).around ancestors ⟨.box kind info children, place⟩ x := by
  have hvisit (phase : Phase) :=
    Formatter.visit_veiled hescape htrusted h read (.box kind info children) phase formatter
  unfold Handler.around
  rw [hvisit, hvisit]
  refine RenderM.bind_congr fun signal r r' hs => ?_
  congr 1
  cases signal with
  | plain =>
    have hread : style.readsText kind = true := by
      obtain ⟨url, title, _, _, he⟩ := Node.exists_of_isImage (Formatter.image_of_handler_plain hs)
      cases he
      rfl
    simp only [Handler.inside, Node.veiled, Node.children, Node.plainText_veiledAll style read hread]
  | html | skip => rfl

mutual

/-- **The rendering of a tree is the same behind the veil**, inside any open containers that look
alike. -/
theorem Formatter.traverse_veiled (hescape : style.html.on .escape = false)
    (htrusted : style.html.on .trusted = false) (formatter : Formatter) :
    ∀ (t : Node) (read : Bool) (ancestors ancestors' : List Occurrence) (place : List Nat),
    Outlook ancestors ancestors' place →
    traverse (formatter.handler style) ancestors' place (t.veiled style read) =
      traverse (formatter.handler style) ancestors place t
  | .leaf kind info, read, ancestors, ancestors', place, h => by
    have hvisit :=
      Formatter.visit_veiled hescape htrusted h read (.leaf kind info) .entering formatter
    rw [Node.veiled] at hvisit ⊢
    rw [traverse, traverse, hvisit]
  | .box kind info children, read, ancestors, ancestors', place, h => by
    have hbelow := Formatter.traverseAll_veiled hescape htrusted formatter children
      (read || style.readsText kind)
      (⟨.box kind info children, place⟩ :: ancestors)
      (⟨(Node.box kind info children).veiled style read, place⟩ :: ancestors') place 0
      fun i => h.below kind info (Node.length_veiledAll ..) i
    have haround := Formatter.around_veiled hescape htrusted formatter h read kind info children
      (traverseAll (formatter.handler style) (⟨.box kind info children, place⟩ :: ancestors) place 0
        children)
    rw [Node.veiled] at hbelow haround ⊢
    rw [traverse, traverse, hbelow, haround]

/-- And so is the rendering of several trees. -/
theorem Formatter.traverseAll_veiled (hescape : style.html.on .escape = false)
    (htrusted : style.html.on .trusted = false) (formatter : Formatter) :
    ∀ (nodes : List Node) (read : Bool) (ancestors ancestors' : List Occurrence)
      (place : List Nat) (i : Nat),
    (∀ i, Outlook ancestors ancestors' (i :: place)) →
    traverseAll (formatter.handler style) ancestors' place i (Node.veiledAll style read nodes) =
      traverseAll (formatter.handler style) ancestors place i nodes
  | [], read, ancestors, ancestors', place, i, h => by rw [Node.veiledAll, traverseAll, traverseAll]
  | n :: rest, read, ancestors, ancestors', place, i, h => by
    rw [Node.veiledAll, traverseAll, traverseAll,
      Formatter.traverse_veiled hescape htrusted formatter n read _ _ (i :: place) (h i),
      Formatter.traverseAll_veiled hescape htrusted formatter rest read _ _ place (i + 1) h]

end

/-- A document is rendered as it is behind the veil. -/
theorem Formatter.format_behind (hescape : style.html.on .escape = false)
    (htrusted : style.html.on .trusted = false) (formatter : Formatter) (doc : Node) :
    formatter.format style (doc.veiled style false) = formatter.format style doc := by
  have hrender : formatter.render style (doc.veiled style false) = formatter.render style doc := by
    rw [Formatter.render_eq, Formatter.render_eq]
    exact Formatter.traverse_veiled hescape htrusted formatter doc false [] [] _ (.refl _)
  unfold Formatter.format
  rw [hrender]

/-- **Raw HTML has no influence where it is left out.** Two documents that are equal behind the veil
have the same page, or fail for the same reason, and leave the same log. -/
theorem Formatter.format_veiled (hescape : style.html.on .escape = false)
    (htrusted : style.html.on .trusted = false) (formatter : Formatter)
    {doc doc' : Node} (h : doc.veiled style false = doc'.veiled style false) :
    formatter.format style doc = formatter.format style doc' := by
  rw [← formatter.format_behind hescape htrusted doc, h,
    formatter.format_behind hescape htrusted doc']

end Renderings

/-- Raw HTML in a block, in a heading without an anchor and in a list, beside an image with raw HTML
in its text, where it counts. -/
theorem Formatter.format_veiled_mixed :
    let doc (block inline : String) : Node := .box .document {} [.leaf (.htmlBlock block) {},
      .box (.heading .top) {} [.leaf (.htmlInline inline) {}],
      .box (.list false 1 true true) {} [.box (.taskItem (some '~')) {} [.box .paragraph {}
        [.box (.link "%{u}" none) {} [.leaf (.htmlInline inline) {}, .leaf (.text "%{a}") {}],
          .box (.image "i.png" none) {} [.leaf (.htmlInline "<b>") {}]]]]]
    (doc "<hr>" "<b>").veiled .allOverrides false = (doc "" "</script>").veiled .allOverrides false ∧
      doc "<hr>" "<b>" ≠ doc "" "</script>" ∧
      Formatter.standard.format .allOverrides (doc "<hr>" "<b>") =
        Formatter.standard.format .allOverrides (doc "" "</script>") := by
  intro doc
  have h : (doc "<hr>" "<b>").veiled .allOverrides false =
    (doc "" "</script>").veiled .allOverrides false := rfl
  refine ⟨h, ?_, Formatter.format_veiled rfl rfl .standard h⟩
  simp [doc]

end FlavoredMarkdown

import FlavoredMarkdown.Proofs.Nesting
import FlavoredMarkdown.Proofs.Overrides

/-!
# Rendered documents are well-nested

In an `Orderly` document the containers are where their markup expects them: one document node at
the root, footnotes directly below it, and tables whose first body row is a row that is not flagged
as a header. Such a document is rendered as well-nested HTML, whatever the options and the overrides
are, as long as no raw HTML gets through.

* Both exceptions to the matching of visits are settled along the tree: a table closes the body that
  its first row opened (`Container.bodyFrom`), and the document closes the section that its first
  footnote opened (`sectionOf`).

Results:
* `takes_traverse` / `takes_traverseAll`: below the root, a tree closes all it opens, except that
  the first body row of a table leaves the body open.
* `leads_traverseAll`: the children of the root leave nothing but the footnote section open.
* **`wellNested_of_format`**: the HTML of an orderly document is well-nested.
-/

namespace FlavoredMarkdown

open Html

/-- If the node is a table with a body, the first row of the body is a row that is not flagged as a
header. -/
def Member.RowsInOrder (q : Member) : Prop :=
  ∀ row ∈ q.firstBodyRow?, row.container? = some (.tableRow false)

instance (q : Member) : Decidable q.RowsInOrder :=
  inferInstanceAs (Decidable (∀ row ∈ q.firstBodyRow?, row.container? = some (.tableRow false)))

/-- A document whose containers are where their markup expects them. -/
structure Orderly (doc : Node) : Prop where
  root : doc.container? = some .document
  single : ∀ c ∈ doc.children, ∀ q ∈ c.members (some .document),
    q.node.container? ≠ some .document
  footnotes : ∀ q ∈ doc.members none, q.isFootnote = true → q.parent = some .document
  rows : ∀ q ∈ doc.members none, q.RowsInOrder
  aligned : ∀ q ∈ doc.members none, ∀ a ∈ q.alignment?, a ∈ alignments

instance (doc : Node) : Decidable (Orderly doc) :=
  decidable_of_iff
    (doc.container? = some .document ∧
      (∀ c ∈ doc.children, ∀ q ∈ c.members (some .document),
        q.node.container? ≠ some .document) ∧
      (∀ q ∈ doc.members none, q.isFootnote = true → q.parent = some .document) ∧
      (∀ q ∈ doc.members none, q.RowsInOrder) ∧
      ∀ q ∈ doc.members none, ∀ a ∈ q.alignment?, a ∈ alignments)
    ⟨fun ⟨h1, h2, h3, h4, h5⟩ => ⟨h1, h2, h3, h4, h5⟩, fun ⟨h1, h2, h3, h4, h5⟩ =>
      ⟨h1, h2, h3, h4, h5⟩⟩

/-- A node that has no part in the footnote section, and whose rows are in order. -/
structure Member.IsInner (q : Member) : Prop where
  isLocal : ∀ kind, q.node.container? = some kind → kind.isLocal = true
  rows : q.RowsInOrder

/-! ## The body of a table -/

/-- The number of rows in the head of a table. -/
def headRows (hasHeader : Bool) : Nat := if hasHeader then 1 else 0

theorem tableRows_eq (hasHeader : Bool) (children : List Node) :
    tableRows hasHeader children = children.drop (headRows hasHeader) := by
  cases hasHeader <;> rfl

/-- Whether a child from position `i` on opens the body of the table. -/
def Container.bodyFrom (children : List Node) (i : Nat) : Container → Bool
  | .table hasHeader => decide (i ≤ headRows hasHeader ∧ headRows hasHeader < children.length)
  | _ => false

theorem Container.bodyFrom_zero (children : List Node) (kind : Container) :
    kind.bodyFrom children 0 = kind.hasBody children := by
  cases kind with
  | table hasHeader =>
    rw [Bool.eq_iff_iff]
    simp [bodyFrom, hasBody, tableRows_eq]
  | _ => rfl

theorem Container.bodyFrom_of_le {children : List Node} {i : Nat} (h : children.length ≤ i)
    (kind : Container) : kind.bodyFrom children i = false := by
  cases kind with
  | table hasHeader =>
    simp only [bodyFrom, decide_eq_false_iff_not]
    omega
  | _ => rfl

/-- The first body row is the child behind the head. -/
theorem isFirstRow_below (kind : Container) (info : Info) (children : List Node)
    (place : List Nat) (ancestors : List Occurrence) (n : Node) (i : Nat) :
    Default.isFirstRow (⟨.box kind info children, place⟩ :: ancestors) ⟨n, i :: place⟩ =
      match kind with
      | .table hasHeader => decide (i = headRows hasHeader ∧ headRows hasHeader < children.length)
      | _ => false := by
  cases kind with
  | table hasHeader =>
    have hlen : (Occurrence.children ⟨.box (.table hasHeader) info children, place⟩).length =
        children.length := by
      simp [Occurrence.children, Node.children]
    unfold Default.isFirstRow
    simp only
    rw [show (if hasHeader = true then 1 else 0) = headRows hasHeader from rfl]
    by_cases h : headRows hasHeader < children.length
    · rw [List.drop_eq_getElem_cons (hlen ▸ h)]
      have hs : (headRows hasHeader == i) = decide (i = headRows hasHeader) := by
        rw [Bool.eq_iff_iff, beq_iff_eq, decide_eq_true_iff]
        exact eq_comm
      simp [Occurrence.children, Occurrence.below, Occurrence.isSame, h, hs]
    · rw [List.drop_eq_nil_of_le (by omega)]
      simp [h]
  | _ => rfl

/-- What the children from one position on leave open is what those behind it leave open, inside
what the child at the position leaves open. -/
theorem bodyOf_bodyFrom (kind : Container) (info : Info) (children : List Node) (place : List Nat)
    (ancestors : List Occurrence) (n : Node) (i : Nat) :
    bodyOf (kind.bodyFrom children i) =
      bodyOf (kind.bodyFrom children (i + 1)) ++ bodyOf (Default.isFirstRow
        (⟨.box kind info children, place⟩ :: ancestors) ⟨n, i :: place⟩) := by
  rw [isFirstRow_below]
  cases kind with
  | table hasHeader =>
    by_cases h : headRows hasHeader < children.length
    · rcases Nat.lt_trichotomy i (headRows hasHeader) with hi | rfl | hi
      · simp [Container.bodyFrom, bodyOf, h, Nat.le_of_lt hi, Nat.ne_of_lt hi, Nat.succ_le_of_lt hi]
      · simp [Container.bodyFrom, bodyOf, h]
      · have h1 : ¬ i ≤ headRows hasHeader := by omega
        have h2 : ¬ i + 1 ≤ headRows hasHeader := by omega
        have h3 : i ≠ headRows hasHeader := by omega
        simp only [Container.bodyFrom, bodyOf, h1, h2, h3, false_and, decide_false, if_false,
          Bool.false_eq_true, List.nil_append]
    · simp [Container.bodyFrom, bodyOf, h]
  | _ => rfl

/-- In a table whose rows are in order, the child that opens the body is a row of the body. -/
theorem Member.RowsInOrder.bodyRow {kind : Container} {info : Info} {children rest : List Node}
    {place : List Nat} {ancestors : List Occurrence} {n : Node} {i : Nat}
    {parent : Option Container} (h : Member.RowsInOrder ⟨parent, .box kind info children⟩)
    (hn : children.drop i = n :: rest)
    (hb : Default.isFirstRow (⟨.box kind info children, place⟩ :: ancestors) ⟨n, i :: place⟩ =
      true) :
    n.container? = some (.tableRow false) := by
  rw [isFirstRow_below] at hb
  cases kind with
  | table hasHeader =>
    obtain ⟨rfl, -⟩ := of_decide_eq_true hb
    have hfirst : (tableRows hasHeader children).head? = some n := by
      rw [tableRows_eq, hn]
      rfl
    exact h n hfirst
  | _ => cases hb

/-! ## Trees below the root -/

section Inner

variable (formatter : Formatter) (style : Style)

mutual

/-- A tree below the root closes all it opens, except that the first body row of a table leaves the
body open. -/
theorem takes_traverse : ∀ (t : Node) (ancestors : List Occurrence) (place : List Nat),
    (∀ q ∈ t.members (parentKind? ancestors), q.IsInner) →
    (Default.isFirstRow ancestors ⟨t, place⟩ = true → t.container? = some (.tableRow false)) →
    (traverse (formatter.emitter style) ancestors place t).Takes []
      (bodyOf (Default.isFirstRow ancestors ⟨t, place⟩))
  | .leaf kind info, ancestors, place, h, hrow => by
    have hb : Default.isFirstRow ancestors ⟨.leaf kind info, place⟩ = false :=
      Bool.eq_false_iff.mpr fun hb => nomatch hrow hb
    rw [traverse, hb]
    exact (takes_leaf formatter style ancestors kind info place).bind
      fun _ _ _ => Emit.takes_pure [] ()
  | .box kind info children, ancestors, place, h, hrow => by
    have hself := h _ (Node.self_mem_members _ _)
    have hbelow := takes_traverseAll children kind info children ancestors place 0 rfl hself.rows
      fun q hq => h q (by rw [Node.members_box]; exact List.mem_cons_of_mem _ hq)
    rw [Container.bodyFrom_zero] at hbelow
    rw [traverse]
    exact takes_around_local (hself.isLocal kind rfl) (fun hb => Option.some.inj (hrow hb)) hbelow

/-- Children of a container, from some position on. -/
theorem takes_traverseAll : ∀ (nodes : List Node) (kind : Container) (info : Info)
    (children : List Node) (ancestors : List Occurrence) (place : List Nat) (i : Nat),
    children.drop i = nodes →
    Member.RowsInOrder ⟨parentKind? ancestors, .box kind info children⟩ →
    (∀ q ∈ Node.membersAll (some kind) nodes, q.IsInner) →
    (traverseAll (formatter.emitter style) (⟨.box kind info children, place⟩ :: ancestors) place i
      nodes).Takes [] (bodyOf (kind.bodyFrom children i))
  | [], kind, info, children, ancestors, place, i, hd, hself, h => by
    rw [traverseAll, Container.bodyFrom_of_le (List.drop_eq_nil_iff.mp hd)]
    exact Emit.takes_pure [] ()
  | n :: rest, kind, info, children, ancestors, place, i, hd, hself, h => by
    rw [Node.membersAll] at h
    rw [traverseAll, bodyOf_bodyFrom kind info children place ancestors n i]
    have hn := takes_traverse n (⟨.box kind info children, place⟩ :: ancestors) (i :: place)
      (fun q hq => h q (List.mem_append_left _ hq)) (hself.bodyRow hd)
    have hd' : children.drop (i + 1) = rest := by
      rw [← List.drop_drop, hd]
      rfl
    have hr := takes_traverseAll rest kind info children ancestors place (i + 1) hd' hself
      fun q hq => h q (List.mem_append_right _ hq)
    exact hn.bind fun _ _ _ => hr.within _

end

end Inner

/-! ## The footnote section -/

/-- The elements of the footnote section, if it is open. -/
def sectionOf (isOpen : Bool) : List String := if isOpen then ["ol", "section"] else []

section Footnotes

variable (formatter : Formatter) (style : Style)

theorem nests_footnote_entering (marks : Marks) (o : Occurrence) (identifier : String)
    (index : Int) :
    Nests (sectionOf marks.footnotesOpen)
      (Default.footnoteDefinition style marks o identifier index .entering).pieces
      ("li" :: sectionOf true) := by
  intro around
  cases hm : marks.footnotesOpen <;>
    simp +decide [Default.footnoteDefinition, Default.writes, sectionOf, hm]

theorem nests_footnote_leaving (marks : Marks) (o : Occurrence) (identifier : String)
    (index : Int) :
    Nests ["li"]
      (Default.footnoteDefinition style marks o identifier index .leaving).pieces [] := by
  have hclose : Nests ["li"] [.freshLine, .closeTag "li", .newline] [] := fun around => by simp
  have hback : Nests ["li"] (.freshLine :: Default.backlink identifier index) ["li"] :=
    fun around => by simpa using Default.nests_backlink ["li"] identifier index around
  simp only [Default.footnoteDefinition, Default.writes]
  split
  · exact hclose
  · exact hback.append hclose

/-- A container that no override is for is always written as the default markup has it. -/
theorem leads_around_default {ancestors : List Occurrence} {o : Occurrence} {f g g' f' : Bool}
    {before mid mid' after : List String} {x : Emit Unit}
    (hno : ∀ (override : Override) (marks : Marks), ∃ e,
      (override.visit style ancestors marks o .entering).outcome = .error e)
    (hanswer : ∀ marks, (Default.visit style ancestors marks o .entering).outcome = .ok .html)
    (henter : (Visitor.emit Default.visit style ancestors o .entering).Leads f g before mid)
    (hx : x.Leads g g' mid mid')
    (hleave : (Visitor.emit Default.visit style ancestors o .leaving).Leads g' f' mid' after) :
    ((formatter.emitter style).around ancestors o x).Leads f f' before after := by
  rcases formatter.visitor_eq style o.node.kindName with hv | ⟨override, hv⟩
  · have he : (formatter.emitter style).visit ancestors o =
        Visitor.emit Default.visit style ancestors o := by
      funext phase
      rw [Formatter.emitter_visit, hv]
    unfold Handler.around
    rw [he]
    refine henter.bind fun marks signal hs => ?_
    have hsignal : signal = .html := Except.ok.inj (hs.symm.trans (hanswer marks))
    subst hsignal
    exact hx.bind fun _ _ _ => hleave.bind fun _ _ _ => Emit.takes_iff.mp (Emit.takes_pure _ ()) _
  · intro marks a _ h
    refine (Formatter.around_ne_ok ?_ x a h).elim
    rw [hv]
    exact hno override marks

/-- A footnote opens the section unless it is open, and leaves it open. -/
theorem leads_footnote {ancestors : List Occurrence} {info : Info} {identifier : String}
    {index : Int} {children : List Node} {place : List Nat} {x : Emit Unit} (hx : x.Takes [] [])
    (f : Bool) :
    ((formatter.emitter style).around ancestors
      ⟨.box (.footnoteDefinition identifier index) info children, place⟩ x).Leads f true
      (sectionOf f) (sectionOf true) := by
  let o : Occurrence := ⟨.box (.footnoteDefinition identifier index) info children, place⟩
  have henter : (Visitor.emit Default.visit style ancestors o .entering).Leads f true
      (sectionOf f) ("li" :: sectionOf true) := by
    rintro marks a rfl -
    exact ⟨nests_footnote_entering style marks _ identifier index, rfl⟩
  have hbelow : x.Leads true true ("li" :: sectionOf true) ("li" :: sectionOf true) :=
    Emit.takes_iff.mp (hx.within _) true
  have hleave : (Visitor.emit Default.visit style ancestors o .leaving).Leads true true
      ("li" :: sectionOf true) (sectionOf true) := by
    rintro marks a hf -
    exact ⟨(nests_footnote_leaving style marks _ identifier index).within _, hf⟩
  refine leads_around_default formatter style (fun override marks => ?_) (fun marks => rfl) henter
    hbelow hleave
  cases override <;> exact ⟨_, rfl⟩

/-- The document closes the section if it is open. -/
theorem leads_document {ancestors : List Occurrence} {info : Info} {children : List Node}
    {place : List Nat} {x : Emit Unit} {f : Bool} (hx : x.Leads false f [] (sectionOf f)) :
    ((formatter.emitter style).around ancestors ⟨.box .document info children, place⟩ x).Leads
      false false [] [] := by
  refine leads_around_default formatter style (fun override marks => ?_) (fun marks => rfl) ?_ hx ?_
  · cases override <;> exact ⟨_, rfl⟩
  · rintro marks a hf -
    exact ⟨nests_nil [], hf⟩
  · rintro marks a rfl -
    simp only [Visitor.emit, Default.visit, Default.containerVisit, Visited.emission]
    cases hm : marks.footnotesOpen with
    | true => exact ⟨fun around => by simp [Default.writes, sectionOf], rfl⟩
    | false => exact ⟨nests_nil [], hm⟩

/-- A child of the root is a footnote or has no part in the footnote section. -/
inductive Node.UnderRoot : Node → Prop
  | inner {c : Node} : (∀ q ∈ c.members (some .document), q.IsInner) → UnderRoot c
  | footnote {identifier : String} {index : Int} {info : Info} {children : List Node} :
    Member.RowsInOrder ⟨some .document, .box (.footnoteDefinition identifier index) info children⟩ →
    (∀ q ∈ Node.membersAll (some (.footnoteDefinition identifier index)) children, q.IsInner) →
    UnderRoot (.box (.footnoteDefinition identifier index) info children)

/-- The children of the root leave nothing but the footnote section open. -/
theorem leads_traverseAll {info : Info} {children : List Node} {root : List Nat}
    {nodes : List Node} (h : ∀ c ∈ nodes, c.UnderRoot) (place : List Nat) (i : Nat) (f : Bool) :
    ∃ f', (traverseAll (formatter.emitter style) [⟨.box .document info children, root⟩] place i
      nodes).Leads f f' (sectionOf f) (sectionOf f') := by
  induction nodes generalizing i f with
  | nil => exact ⟨f, Emit.takes_iff.mp (Emit.takes_pure _ ()) f⟩
  | cons c rest ih =>
    obtain ⟨hc, hrest⟩ := List.forall_mem_cons.mp h
    rw [traverseAll]
    cases hc with
    | inner hc =>
      have ht := takes_traverse formatter style c [⟨.box .document info children, root⟩]
        (i :: place) hc fun hb => nomatch hb
      obtain ⟨f', hf'⟩ := ih hrest (i + 1) f
      exact ⟨f', (Emit.takes_iff.mp (ht.within _) f).bind fun _ _ _ => hf'⟩
    | footnote hself hc =>
      obtain ⟨f', hf'⟩ := ih hrest (i + 1) true
      have hbelow := takes_traverseAll formatter style _ _ _ _
        [⟨.box .document info children, root⟩] (i :: place) 0 rfl hself hc
      rw [traverse]
      exact ⟨f', (leads_footnote formatter style hbelow f).bind fun _ _ _ => hf'⟩

end Footnotes

/-! ## Whole documents -/

theorem Member.isFootnote_of_container (q : Member) {identifier : String} {index : Int}
    (h : q.node.container? = some (.footnoteDefinition identifier index)) :
    q.isFootnote = true := by
  obtain ⟨parent, n⟩ := q
  cases n with
  | leaf kind info => cases h
  | box kind info children =>
    obtain rfl := Option.some.inj h
    rfl

/-- Below the root there is no other document, and a footnote can only stand directly below it. -/
theorem Orderly.underRoot {doc : Node} (h : Orderly doc) {c : Node} (hc : c ∈ doc.children) :
    c.UnderRoot := by
  obtain ⟨hroot, hsingle, hfootnotes, hrows, -⟩ := h
  cases doc with
  | leaf kind info => cases hroot
  | box kind info children =>
    obtain rfl : kind = .document := Option.some.inj hroot
    have hmem {q : Member} (hq : q ∈ c.members (some .document)) :
        q ∈ (Node.box .document info children).members none :=
      Node.mem_members_box.mpr (.inr ⟨c, hc, hq⟩)
    -- A node whose parent is a document is a child of the root.
    have hdeep {q r : Member} (hq : q ∈ c.members (some .document))
        (hr : r ∈ c.members (some .document)) (hp : q.parent = r.node.container?) :
        ∀ kind, q.node.container? = some kind → kind.isLocal = true := by
      intro kind hk
      cases kind with
      | document => exact (hsingle c hc q hq hk).elim
      | footnoteDefinition identifier index =>
        have hparent := hfootnotes q (hmem hq) (q.isFootnote_of_container hk)
        exact (hsingle c hc r hr (hp.symm.trans hparent)).elim
      | _ => rfl
    by_cases hfoot : ∃ identifier index, c.container? = some (.footnoteDefinition identifier index)
    · obtain ⟨identifier, index, hfoot⟩ := hfoot
      cases c with
      | leaf kind info => cases hfoot
      | box kind info children =>
        obtain rfl := Option.some.inj hfoot
        refine .footnote (hrows _ (hmem (Node.self_mem_members _ _))) fun q hq => ?_
        have hq' := Node.mem_members_of_below (some .document) info hq
        refine ⟨?_, hrows q (hmem hq')⟩
        rcases Node.parent_of_mem_membersAll children _ hq with hp | ⟨r, hr, hp⟩
        · exact hdeep hq' (Node.self_mem_members _ _) hp
        · exact hdeep hq' (Node.mem_members_of_below _ info hr) hp
    · refine .inner fun q hq => ⟨?_, hrows q (hmem hq)⟩
      rcases Node.parent_of_mem_members c _ hq with rfl | ⟨r, hr, hp⟩
      · intro kind hk
        cases kind with
        | document => exact (hsingle c hc _ hq hk).elim
        | footnoteDefinition identifier index => exact (hfoot ⟨identifier, index, hk⟩).elim
        | _ => rfl
      · exact hdeep hq hr hp

/-- An orderly document that is rendered leaves no element open. -/
theorem Formatter.nest_emission (formatter : Formatter) {style : Style} {doc : Node}
    (h : Orderly doc) {a : Unit} (ha : (formatter.emission style doc).outcome = .ok a) :
    nest [] (formatter.emission style doc).pieces = some [] := by
  have hroot := h.root
  cases doc with
  | leaf kind info => cases hroot
  | box kind info children =>
    obtain rfl : kind = .document := Option.some.inj hroot
    obtain ⟨f, hbelow⟩ : ∃ f, (traverseAll (formatter.emitter style)
        [⟨.box .document info children, [0]⟩] [0] 0 children).Leads false f [] (sectionOf f) :=
      leads_traverseAll formatter style (fun c hc => h.underRoot hc) [0] 0 false
    have hdoc : ((formatter.emitter style).around [] ⟨.box .document info children, [0]⟩ _).Leads
        false false [] [] :=
      leads_document formatter style hbelow
    unfold Formatter.emission at ha ⊢
    rw [traverse] at ha ⊢
    exact (hdoc {} a rfl ha).1 []

/-- **The HTML of an orderly document is well-nested**, whatever the formatter and the options are,
as long as no raw HTML gets through. -/
theorem wellNested_of_format (formatter : Formatter) {style : Style} {doc : Node} {html : String}
    (h : Orderly doc) (hraw : style.HidesRaw)
    (hf : (formatter.format style doc).1 = .ok html) : WellNested html := by
  rw [Formatter.format_eq] at hf
  unfold Emission.html at hf
  cases ho : (formatter.emission style doc).outcome with
  | error e =>
    rw [ho] at hf
    cases hf
  | ok a =>
    rw [ho] at hf
    obtain rfl := Except.ok.inj hf
    exact wellNested_of_nest (formatter.nest_emission h ho)
      (formatter.sound_emission hraw h.aligned)

/-- Every override is on, raw HTML is left out, and the three exceptions to matching visits occur.
-/
theorem wellNested_of_format_standard :
    let doc : Node := .box .document {} [
      .box .paragraph {} [.leaf (.text "a < b") {}, .leaf (.htmlInline "<i>") {},
        .box (.image "%{u}" (some "t")) {} [.leaf (.text "x") {}]],
      .box (.table true) {} [.box (.tableRow true) {} [.box (.tableCell (some "left")) {} []],
        .box (.tableRow false) {} [.box (.tableCell none) {} [.leaf (.code "c") {}]]],
      .box (.footnoteDefinition "n" 1) {} [.box .paragraph {} [.leaf (.text "d") {}]]]
    let html := "<p>a &lt; b<!-- raw HTML omitted -->" ++
      "<img src=\"%%7Bu%7D\" data-placeholder alt=\"x\" title=\"t\" /></p>\n" ++
      "<table>\n<thead>\n<tr>\n<th align=\"left\"></th>\n</tr>\n</thead>\n" ++
      "<tbody>\n<tr>\n<td><code>c</code></td>\n</tr>\n</tbody>\n</table>\n" ++
      "<section class=\"footnotes\" data-footnotes>\n<ol>\n<li id=\"fn-n\">\n" ++
      "<p>d <a href=\"#fnref-n\" class=\"footnote-backref\" data-footnote-backref " ++
      "data-footnote-backref-idx=\"1\" aria-label=\"Back to reference 1\">↩</a></p>\n</li>\n" ++
      "</ol>\n</section>\n"
    Orderly doc ∧ Style.allOverrides.HidesRaw ∧
      (Formatter.standard.format .allOverrides doc).1 = .ok html ∧ WellNested html := by
  intro doc html
  have h : Orderly doc := by decide
  have hraw : Style.allOverrides.HidesRaw := .inr rfl
  have hf : (Formatter.standard.format .allOverrides doc).1 = .ok html := by decide +kernel
  exact ⟨h, hraw, hf, wellNested_of_format _ h hraw hf⟩

end FlavoredMarkdown

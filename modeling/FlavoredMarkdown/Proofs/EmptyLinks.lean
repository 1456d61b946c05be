import FlavoredMarkdown.Proofs.Detection
import FlavoredMarkdown.Proofs.Footnotes

/-!
# Links without a label

When empty links are ignored, the default markup (`visit_link`) writes a link whose label shows nothing
as Markdown has it, and leaves out what is in it. Links are marked by an override with markup of its own
(`render_link`), and this markup does not ask for the label. So a link without a label is a tag after
all if its URL holds a placeholder and placeholders are looked for.

* A link directly in a link has no tags with relaxed autolinks, whatever its label. The default markup
  and the override both ask for this first.
* Nothing else makes a tag of such a link: not its title, its position, a rewriter or what is around
  it.

Results:
* `Formatter.subrun_traverse`: the steps from an entering on are those of the tree that is entered,
  and then others.
* `Default.visit_emptyLink`, `Formatter.visit_marked`: what visits to such links do.
* **`Formatter.emptyLinks_format`**: what a page has of each link without a label.
-/

namespace FlavoredMarkdown

/-! ## The run of a node -/

/-- An element of a list that is made of two stands in the first or in the second. -/
theorem split_append {α : Type} {as bs before after : List α} {x : α}
    (h : as ++ bs = before ++ x :: after) :
    (∃ mid, as = before ++ x :: mid ∧ after = mid ++ bs) ∨
      ∃ mid, before = as ++ mid ∧ bs = mid ++ x :: after := by
  rcases List.append_eq_append_iff.mp h with ⟨mid, hbefore, hbs⟩ | ⟨mid, has, hafter⟩
  · exact .inr ⟨mid, hbefore, hbs⟩
  · cases mid with
    | nil => exact .inr ⟨[], by simp [has], hafter.symm⟩
    | cons y mid =>
      obtain ⟨rfl, rfl⟩ := List.cons_eq_cons.mp hafter
      exact .inl ⟨mid, has, rfl⟩

section Runs

variable {formatter : Formatter} {style : Style} {around : List Occurrence} {o : Occurrence}
  {pieces : List Piece}

/-- The steps from an entering on are those of the tree that is entered, and then others. -/
def Formatter.RunsFrom (formatter : Formatter) (style : Style) (ancestors : List Occurrence)
    (o : Occurrence) (steps : List Step) : Prop :=
  ∃ marks sub rest, traverse (formatter.transcriber style) ancestors o.place o.node marks = .ok sub ∧
    steps = sub.steps ++ rest

theorem Formatter.RunsFrom.append {steps : List Step} (h : formatter.RunsFrom style around o steps)
    (more : List Step) : formatter.RunsFrom style around o (steps ++ more) := by
  obtain ⟨marks, sub, rest, hsub, rfl⟩ := h
  exact ⟨marks, sub, rest ++ more, hsub, List.append_assoc ..⟩

mutual

/-- **Each entering of a tree begins a run of its own.** -/
theorem Formatter.subrun_traverse : ∀ (t : Node) (ancestors : List Occurrence) (place : List Nat)
    (marks : Marks) (r : Recording Unit),
    traverse (formatter.transcriber style) ancestors place t marks = .ok r →
    ∀ before after, r.steps = before ++ .visit around o .entering pieces :: after →
      formatter.RunsFrom style around o (.visit around o .entering pieces :: after)
  | .leaf kind info, ancestors, place, marks, r, h, before, after, hs => by
    obtain ⟨written, signal, -, hsteps⟩ := Formatter.steps_leaf h
    rw [hsteps] at hs
    cases before with
    | nil =>
      obtain ⟨hv, rfl⟩ := List.cons_eq_cons.mp hs
      cases hv
      exact ⟨marks, r, [], h, by simp [hsteps]⟩
    | cons step before => cases before <;> cases hs
  | .box kind info children, ancestors, place, marks, r, h, before, after, hs => by
    obtain ⟨opening, marks₁, signal, below, closing, signal', -, hinside, -, hsteps⟩ :=
      Formatter.steps_box h
    cases before with
    | nil =>
      have hv := hs
      rw [hsteps] at hv
      obtain ⟨hv, -⟩ := List.cons_eq_cons.mp hv
      cases hv
      exact ⟨marks, r, [], h, by simp [hs]⟩
    | cons step before =>
      rw [hsteps] at hs
      obtain ⟨-, hs⟩ := List.cons_eq_cons.mp hs
      rcases split_append hs with ⟨mid, hbelow, rfl⟩ | ⟨mid, -, hlast⟩
      · have hrun : formatter.RunsFrom style around o (.visit around o .entering pieces :: mid) := by
          cases signal with
          | html => exact Formatter.subrun_traverseAll children _ _ _ _ _ hinside _ _ hbelow
          | plain =>
            cases hinside
            cases before with
            | nil => cases hbelow
            | cons step before => cases before <;> cases hbelow
          | skip =>
            cases hinside
            cases before <;> cases hbelow
        exact hrun.append _
      · -- the last step leaves
        cases mid with
        | nil => cases hlast
        | cons step mid => cases mid <;> cases hlast

theorem Formatter.subrun_traverseAll : ∀ (nodes : List Node) (ancestors : List Occurrence)
    (place : List Nat) (i : Nat) (marks : Marks) (r : Recording Unit),
    traverseAll (formatter.transcriber style) ancestors place i nodes marks = .ok r →
    ∀ before after, r.steps = before ++ .visit around o .entering pieces :: after →
      formatter.RunsFrom style around o (.visit around o .entering pieces :: after)
  | [], ancestors, place, i, marks, r, h, before, after, hs => by
    cases h
    cases before <;> cases hs
  | n :: rest, ancestors, place, i, marks, r, h, before, after, hs => by
    obtain ⟨first, others, hn, hrest, rfl⟩ := Formatter.steps_children h
    rcases split_append hs with ⟨mid, hfirst, rfl⟩ | ⟨mid, -, hothers⟩
    · exact (Formatter.subrun_traverse n _ _ _ _ hn _ _ hfirst).append _
    · exact Formatter.subrun_traverseAll rest _ _ _ _ _ hrest _ _ hothers

end

end Runs

/-! ## Links without a label -/

/-- A link with this URL is marked: the overrides are in use, placeholders are looked for, and there is
one in the URL. -/
def Formatter.MarksUrl (formatter : Formatter) (style : Style) (url : String) : Prop :=
  formatter = .standard ∧ style.user.on .defaultHtml = false ∧
    style.user.on .placeholderDetection = true ∧ Placeholder.occursIn url = true

/-- What stands in a page for a link that is ignored: the link as Markdown has it. -/
def ignoredLink (url : String) : Piece := .text ("[](" ++ url ++ ")")

section Visits

variable {formatter : Formatter} {style : Style} {ancestors : List Occurrence} {url : String}
  {title : Option String} {info : Info} {children : List Node} {place : List Nat} {marks : Marks}
  {phase : Phase}

/-- A link without a label is left out, and its source is written. -/
theorem Default.visit_emptyLink (hempty : style.html.on .ignoreEmptyLinks = true)
    (hlabel : isEmptyLabel children = true)
    (hrelaxed : (style.html.on .relaxedAutolinks && inLink ancestors) = false) :
    (Default.visit style ancestors marks ⟨.box (.link url title) info children, place⟩
      phase).emission = ⟨if phase = .entering then [ignoredLink url] else [], marks, .ok .skip⟩ := by
  simp only [Default.visit, Default.containerVisit, Default.link, hempty, hlabel, hrelaxed]
  rfl

/-- A link that is not marked has the default markup. -/
theorem Formatter.visit_unmarked (hf : formatter.IsBuiltIn) (h : ¬formatter.MarksUrl style url) :
    (formatter.emitter style).visit ancestors ⟨.box (.link url title) info children, place⟩ phase
        marks =
      (Default.visit style ancestors marks ⟨.box (.link url title) info children, place⟩
        phase).emission := by
  rcases hf with rfl | rfl
  · rfl
  rw [Formatter.emitter_visit]
  cases hd : style.user.on .defaultHtml with
  | true => simp [Formatter.visitor, Formatter.standard, hd, Visitor.emit]
  | false =>
    have hmarks : Override.marksIn style url = false := by
      rw [← Bool.not_eq_true, Override.marksIn, Bool.and_eq_true_iff]
      rintro ⟨hdetection, hurl⟩
      exact h ⟨rfl, hd, hdetection, hurl⟩
    rw [Formatter.visitor_standard hd]
    exact emission_visitLink style ancestors marks _ phase hmarks

/-- A link that is marked has a tag, and its label is not asked for. -/
theorem Formatter.visit_marked (h : formatter.MarksUrl style url)
    (hrelaxed : (style.html.on .relaxedAutolinks && inLink ancestors) = false) :
    (formatter.emitter style).visit ancestors ⟨.box (.link url title) info children, place⟩ phase
        marks =
      ⟨if phase = .entering then Default.linkOpening style info url title [Override.mark]
        else [.closeTag "a"], marks, .ok .html⟩ := by
  obtain ⟨rfl, hd, hdetection, hurl⟩ := h
  have hmarks : Override.marksIn style url = true := Bool.and_eq_true_iff.mpr ⟨hdetection, hurl⟩
  rw [Formatter.emitter_visit, Formatter.visitor_standard hd]
  show (Override.visitLink style ancestors marks _ info url title phase).emission = _
  unfold Override.visitLink
  rw [hmarks, hrelaxed]
  cases phase <;> rfl

end Visits

/-! ## What a page has of them -/

section Page

variable {formatter : Formatter} {style : Style} {ancestors : List Occurrence} {url : String}
  {title : Option String} {info : Info} {children : List Node} {place : List Nat}

/-- No line starts behind an ignored link, whatever its URL. -/
theorem lineAfter_ignoredLink (fresh : Bool) (url : String) :
    (ignoredLink url).lineAfter fresh = false := by
  show lineState fresh (Html.escape ("[](" ++ url ++ ")")) = false
  have hend : Html.escape ")" = ")" := by decide
  rw [Html.escape_append, hend, lineState_of_append fresh _ (by decide)]
  decide

theorem lineAfter_openTag (fresh : Bool) (name : String) (attributes : List Attribute) :
    (Piece.openTag name attributes).lineAfter fresh = false :=
  lineState_of_append fresh _ (by decide)

theorem lineAfter_closeTag (fresh : Bool) (name : String) :
    (Piece.closeTag name).lineAfter fresh = false :=
  lineState_of_append fresh _ (by decide)

/-- The visits to a link that is ignored stand one after the other, and write its source. -/
theorem Formatter.ignoredLink_run (hf : formatter.IsBuiltIn)
    (hempty : style.html.on .ignoreEmptyLinks = true)
    (hlabel : Default.isEmptyLabel children = true)
    (hrelaxed : (style.html.on .relaxedAutolinks && inLink ancestors) = false)
    (hmarked : ¬formatter.MarksUrl style url) {steps : List Step}
    (h : formatter.RunsFrom style ancestors ⟨.box (.link url title) info children, place⟩ steps) :
    let o : Occurrence := ⟨.box (.link url title) info children, place⟩
    ∃ rest, steps = .visit ancestors o .entering [ignoredLink url] ::
      .visit ancestors o .leaving [] :: rest := by
  obtain ⟨marks, sub, rest, hsub, rfl⟩ := h
  obtain ⟨opening, marks₁, signal, below, closing, signal', he, hinside, hl, hsteps⟩ :=
    Formatter.steps_box hsub
  rw [Formatter.visit_unmarked hf hmarked, Default.visit_emptyLink hempty hlabel hrelaxed] at he hl
  cases he
  cases hinside
  cases hl
  exact ⟨rest, by simp [hsteps]⟩

/-- The visits to a link that is marked stand around those to its label. -/
theorem Formatter.markedLink_run (hmarked : formatter.MarksUrl style url)
    (hrelaxed : (style.html.on .relaxedAutolinks && inLink ancestors) = false)
    {steps : List Step}
    (h : formatter.RunsFrom style ancestors ⟨.box (.link url title) info children, place⟩ steps) :
    let o : Occurrence := ⟨.box (.link url title) info children, place⟩
    ∃ inside rest, steps = .visit ancestors o .entering
        (Default.linkOpening style info url title [Override.mark]) :: (inside ++
          .visit ancestors o .leaving [.closeTag "a"] :: rest) ∧
      inside.filterMap Step.entered? =
        Node.reachedAll (formatter.answer style) (some (.link url title)) children := by
  obtain ⟨marks, sub, rest, hsub, rfl⟩ := h
  obtain ⟨opening, marks₁, signal, below, closing, signal', he, hinside, hl, hsteps⟩ :=
    Formatter.steps_box hsub
  rw [Formatter.visit_marked hmarked hrelaxed] at he hl
  obtain rfl := congrArg Emission.pieces hl
  cases he
  exact ⟨below.steps, rest, by simp [hsteps], Formatter.entered_traverseAll children _ _ _ _ _ hinside⟩

/-- What an ignored link adds to a page. -/
theorem html_ignoredLink (before rest : List Step) (o : Occurrence) (url : String) :
    (Step.page (before ++ .visit ancestors o .entering [ignoredLink url] ::
        .visit ancestors o .leaving [] :: rest)).html =
      Piece.textFrom true (before.flatMap Step.pieces) ++ Html.escape ("[](" ++ url ++ ")") ++
        Piece.textFrom false (rest.flatMap Step.pieces) := by
  rw [Step.html_page, List.flatMap_append, Piece.textFrom_append, String.append_assoc]
  simp only [List.flatMap_cons, Step.pieces, List.singleton_append, List.nil_append,
    Piece.textFrom_cons, lineAfter_ignoredLink]
  rfl

/-- What a marked link adds to a page. -/
theorem html_markedLink (before inside rest : List Step) (o : Occurrence) :
    (Step.page (before ++ .visit ancestors o .entering
        (Default.linkOpening style info url title [Override.mark]) ::
          (inside ++ .visit ancestors o .leaving [.closeTag "a"] :: rest))).html =
      Piece.textFrom true (before.flatMap Step.pieces) ++
        (Piece.textFrom false (Default.linkOpening style info url title [Override.mark]) ++
          Piece.textFrom false (inside.flatMap Step.pieces) ++ "</a>") ++
        Piece.textFrom false (rest.flatMap Step.pieces) := by
  rw [Step.html_page, List.flatMap_append, Piece.textFrom_append]
  simp only [List.flatMap_cons, List.flatMap_append, Step.pieces, List.singleton_append,
    Default.linkOpening, Piece.textFrom_cons, Piece.textFrom_append, lineAfter_openTag,
    lineAfter_closeTag, Piece.textFrom_nil, String.append_assoc, String.append_empty]
  rfl

end Page

/-- **What a page has of each link without a label**, when empty links are ignored. A link directly in a
link with relaxed autolinks is aside. If the overrides are in use and find a placeholder in the URL,
such a link is a tag around its label. If not, its two visits stand one after the other, and all that
they write is the link as Markdown has it. -/
theorem Formatter.emptyLinks_format {formatter : Formatter} (hf : formatter.IsBuiltIn) {style : Style}
    (hempty : style.html.on .ignoreEmptyLinks = true) (doc : Node) :
    (style.HasAnchorText → (∀ q ∈ doc.members none, q.node.isForeign = false) →
      ∃ html, (formatter.format style doc).1 = .ok html) ∧
    ∀ html, (formatter.format style doc).1 = .ok html →
      ∃ steps marks, formatter.transcript style doc = .ok ⟨steps, marks, ()⟩ ∧
        html = (Step.page steps).html ∧
        steps.filterMap Step.entered? = doc.reached (formatter.answer style) none ∧
        ∀ before after ancestors url title info children place pieces,
          let o : Occurrence := ⟨.box (.link url title) info children, place⟩
          let front := Piece.textFrom true (before.flatMap Step.pieces)
          steps = before ++ .visit ancestors o .entering pieces :: after →
          Default.isEmptyLabel children = true →
          (style.html.on .relaxedAutolinks && inLink ancestors) = false →
          (¬formatter.MarksUrl style url →
            pieces = [.text ("[](" ++ url ++ ")")] ∧
            ∃ rest, after = .visit ancestors o .leaving [] :: rest ∧
              html = front ++ Html.escape ("[](" ++ url ++ ")") ++
                Piece.textFrom false (rest.flatMap Step.pieces)) ∧
          (formatter.MarksUrl style url →
            pieces = Default.linkOpening style info url title [Override.mark] ∧
            ∃ inside rest, after = inside ++ .visit ancestors o .leaving [.closeTag "a"] :: rest ∧
              inside.filterMap Step.entered? =
                Node.reachedAll (formatter.answer style) (some (.link url title)) children ∧
              html = front ++ (Piece.textFrom false pieces ++
                Piece.textFrom false (inside.flatMap Step.pieces) ++ "</a>") ++
                Piece.textFrom false (rest.flatMap Step.pieces)) := by
  refine ⟨fun hid hk => ⟨_, Formatter.format_ok hf hid hk⟩, fun html hhtml => ?_⟩
  obtain ⟨steps, marks, ht, hpage⟩ := Formatter.transcript_of_format hhtml
  refine ⟨steps, marks, ht, hpage, Formatter.entered_reached ht, ?_⟩
  intro before after ancestors url title info children place pieces o front hsteps hlabel hrelaxed
  have hrun : formatter.RunsFrom style ancestors o (.visit ancestors o .entering pieces :: after) :=
    Formatter.subrun_traverse doc _ _ _ _ ht before after hsteps
  constructor
  · intro hmarked
    obtain ⟨rest, hrest⟩ := Formatter.ignoredLink_run hf hempty hlabel hrelaxed hmarked hrun
    obtain ⟨hv, rfl⟩ := List.cons_eq_cons.mp hrest
    obtain rfl : pieces = [ignoredLink url] := by
      injection hv
    refine ⟨rfl, rest, rfl, ?_⟩
    rw [hpage, hsteps, html_ignoredLink]
  · intro hmarked
    obtain ⟨inside, rest, hrest, hinside⟩ := Formatter.markedLink_run hmarked hrelaxed hrun
    obtain ⟨hv, rfl⟩ := List.cons_eq_cons.mp hrest
    obtain rfl : pieces = Default.linkOpening style info url title [Override.mark] := by
      injection hv
    refine ⟨rfl, inside, rest, rfl, hinside, ?_⟩
    rw [hpage, hsteps, html_markedLink]

/-- The place in the steps where a node is entered. -/
theorem exists_entering {steps : List Step} {q : Member} (h : q ∈ steps.filterMap Step.entered?) :
    ∃ before after ancestors place pieces,
      steps = before ++ .visit ancestors ⟨q.node, place⟩ .entering pieces :: after ∧
        parentKind? ancestors = q.parent := by
  obtain ⟨step, hstep, hentered⟩ := List.mem_filterMap.mp h
  obtain ⟨before, after, rfl⟩ := List.append_of_mem hstep
  cases step with
  | label s => cases hentered
  | visit ancestors o phase pieces =>
    cases phase with
    | leaving => cases hentered
    | entering =>
      cases hentered
      exact ⟨before, after, ancestors, o.place, pieces, rfl, rfl⟩

/-- Two links without a label, one of them with a placeholder in its URL. -/
theorem Formatter.emptyLinks_format_placeholder :
    let doc : Node := .box .document {} [.box .paragraph {}
      [.box (.link "%{x}" none) {} [.leaf (.text " ") {}], .box (.link "v" none) {} []]]
    let style : Style :=
      { html := { on := fun f => f == .ignoreEmptyLinks }
        user := { on := fun f => f == .placeholderDetection } }
    Formatter.standard.IsBuiltIn ∧ style.html.on .ignoreEmptyLinks = true ∧
      ∃ html, (Formatter.standard.format style doc).1 = .ok html ∧
        (∃ front label back,
          html = front ++ ("<a href=\"%%7Bx%7D\" data-placeholder>" ++ label ++ "</a>") ++ back) ∧
        ∃ front back, html = front ++ "[](v)" ++ back := by
  intro doc style
  have hf : Formatter.standard.IsBuiltIn := .inr rfl
  have hempty : style.html.on .ignoreEmptyLinks = true := rfl
  have hk : ∀ q ∈ doc.members none, q.node.isForeign = false := by decide
  obtain ⟨hok, hall⟩ := Formatter.emptyLinks_format hf hempty doc
  obtain ⟨html, hhtml⟩ := hok (.inl rfl) hk
  obtain ⟨steps, marks, -, -, hentered, hlinks⟩ := hall html hhtml
  have hrelaxed (ancestors : List Occurrence) :
      (style.html.on .relaxedAutolinks && inLink ancestors) = false := rfl
  have hignored : ¬Formatter.standard.MarksUrl style "v" := fun h => absurd h.2.2.2 (by decide)
  have hmarked : Formatter.standard.MarksUrl style "%{x}" := ⟨rfl, rfl, rfl, by decide⟩
  have hfirst : ⟨some .paragraph, .box (.link "%{x}" none) {} [.leaf (.text " ") {}]⟩ ∈
      steps.filterMap Step.entered? :=
    hentered ▸ List.mem_of_getElem? (i := 2) rfl
  have hsecond : ⟨some .paragraph, .box (.link "v" none) {} []⟩ ∈ steps.filterMap Step.entered? :=
    hentered ▸ List.mem_of_getElem? (i := 4) rfl
  refine ⟨hf, hempty, html, hhtml, ?_, ?_⟩
  · obtain ⟨before, after, ancestors, place, pieces, hsteps, -⟩ := exists_entering hfirst
    have hlabel : Default.isEmptyLabel [.leaf (.text " ") {}] = true := by decide +kernel
    obtain ⟨-, hwritten⟩ := hlinks _ _ _ _ _ _ _ _ _ hsteps hlabel (hrelaxed _)
    obtain ⟨rfl, inside, rest, -, -, hpage⟩ := hwritten hmarked
    have htag : Piece.textFrom false (Default.linkOpening style {} "%{x}" none [Override.mark]) =
        "<a href=\"%%7Bx%7D\" data-placeholder>" := by decide +kernel
    rw [htag] at hpage
    exact ⟨_, _, _, hpage⟩
  · obtain ⟨before, after, ancestors, place, pieces, hsteps, -⟩ := exists_entering hsecond
    have hlabel : Default.isEmptyLabel [] = true := by decide +kernel
    obtain ⟨hwritten, -⟩ := hlinks _ _ _ _ _ _ _ _ _ hsteps hlabel (hrelaxed _)
    obtain ⟨-, rest, -, hpage⟩ := hwritten hignored
    have htext : Html.escape ("[](" ++ "v" ++ ")") = "[](v)" := by decide +kernel
    rw [htext] at hpage
    exact ⟨_, _, hpage⟩

/-- Looking for placeholders makes a tag of a link that is ignored otherwise. -/
theorem Formatter.emptyLinks_detection :
    let doc : Node := .box .document {} [.box .paragraph {} [.box (.link "%{x}" none) {} []]]
    let style (detection : Bool) : Style :=
      { html := { on := fun f => f == .ignoreEmptyLinks }
        user := { on := fun f => f == .placeholderDetection && detection } }
    Default.isEmptyLabel [] = true ∧
      (Formatter.standard.format (style false) doc).1 = .ok "<p>[](%{x})</p>\n" ∧
      (Formatter.plain.format (style true) doc).1 = .ok "<p>[](%{x})</p>\n" ∧
      (Formatter.standard.format (style true) doc).1 =
        .ok "<p><a href=\"%%7Bx%7D\" data-placeholder></a></p>\n" := by
  decide +kernel

end FlavoredMarkdown

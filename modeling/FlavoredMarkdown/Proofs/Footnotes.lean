import FlavoredMarkdown.Proofs.Answers
import FlavoredMarkdown.Proofs.Backlinks
import FlavoredMarkdown.Proofs.Census
import FlavoredMarkdown.Proofs.Completion
import FlavoredMarkdown.Proofs.Occurrences

/-!
# The section of footnotes

All footnotes of a document are in one section. The first one that is visited opens it, wherever it
stands (`visit_footnote_definition`), and the document closes it at its own end (`visit_document`). A
mark says whether it is open.

* A footnote in an image is not visited, so it opens nothing.
* A document within the document would close the section early; the root is the only one here.

Results:
* `Formatter.sections_visit`: only a footnote opens the section, and only if it is not open.
* **`Formatter.footnotes_format`**: there is one section if a footnote is visited and none otherwise,
  and every footnote that is visited is linked back once.
-/

namespace FlavoredMarkdown

open Html

/-! ## The tags of the section -/

/-- The tag that opens the section. -/
def sectionStart : Piece := .openTag "section" [classAttribute "footnotes", ⟨"data-footnotes", none⟩]

/-- The tag that closes the section. -/
def sectionEnd : Piece := .closeTag "section"

/-- What opens the section. -/
def sectionOpening : List Piece := [.freshLine, sectionStart, .newline, .openTag "ol" [], .newline]

/-- What closes the section, at the end of the document. -/
def sectionClosing : List Piece := [.closeTag "ol", .newline, sectionEnd, .newline]

/-- What opens the item of a footnote. -/
def itemOpening (style : Style) (identifier : String) (info : Info) : List Piece :=
  [.freshLine, .openTag "li" (⟨"id", some ("fn-" ++ escape identifier)⟩ :: style.position info),
    .newline]

/-- Whether a piece is a tag of a section. -/
def Piece.isSection : Piece → Bool
  | .openTag name _ | .closeTag name => name == "section"
  | _ => false

theorem Piece.isSection_of_isPlain {p : Piece} (h : p.isPlain = true) : p.isSection = false := by
  cases p with
  | openTag name attributes =>
    have hname := (Bool.and_eq_true_iff.mp h).1
    rwa [bne, Bool.not_eq_true'] at hname
  | closeTag name => rwa [Piece.isPlain, bne, Bool.not_eq_true'] at h
  | _ => rfl

/-- The section so far: the first footnote opens it, and nothing closes it. -/
def sectioning : Law where
  Holds marks steps marks' :=
    marks'.footnotesOpen =
        (marks.footnotesOpen || (steps.filterMap Step.entered?).any Member.isFootnote) ∧
      (steps.flatMap Step.pieces).count sectionStart + marks.footnotesOpen.toNat =
        marks'.footnotesOpen.toNat ∧
      ∀ p ∈ steps.flatMap Step.pieces, p.isSection = true → p = sectionStart
  nil marks := ⟨by simp, by simp, nofun⟩
  append {marks₁ marks₂ marks₃ as bs} ha hb := by
    obtain ⟨hopen, hcount, hall⟩ := ha
    obtain ⟨hopen', hcount', hall'⟩ := hb
    refine ⟨?_, ?_, fun p hp => ?_⟩
    · rw [hopen', hopen, List.filterMap_append, List.any_append, Bool.or_assoc]
    · rw [List.flatMap_append, List.count_append]
      omega
    · rw [List.flatMap_append] at hp
      exact (List.mem_append.mp hp).elim (hall p) (hall' p)

/-- A step without tags of sections that leaves the section as it is. -/
theorem sectioning_of_none {marks marks' : Marks} {s : Step}
    (hs : s.entered?.any Member.isFootnote = false) (hm : marks'.footnotesOpen = marks.footnotesOpen)
    (hp : s.pieces.any Piece.isSection = false) : sectioning.Holds marks [s] marks' := by
  have hnone : ∀ p ∈ s.pieces, p.isSection ≠ true := List.any_eq_false.mp hp
  have hcount : s.pieces.count sectionStart = 0 := List.count_eq_zero.mpr fun hm => hnone _ hm rfl
  refine ⟨?_, ?_, fun p hp => ?_⟩
  · rw [hm]
    cases he : s.entered? with
    | none => simp [he]
    | some q =>
      rw [he] at hs
      simp [he, show q.isFootnote = false from hs]
  · rw [List.flatMap_cons, List.flatMap_nil, List.append_nil, hcount, hm, Nat.zero_add]
  · rw [List.flatMap_cons, List.flatMap_nil, List.append_nil] at hp
    exact fun h => absurd h (hnone p hp)

section Visits

variable {style : Style} {ancestors : List Occurrence} {marks : Marks} {phase : Phase}

theorem isFootnote_of_ordinary {n : Node} (h : n.isOrdinary = true) : n.isFootnote = false := by
  unfold Node.isFootnote
  split
  · cases h
  · rfl

/-- A plain visit to a node that is no footnote has nothing to do with the section. -/
theorem sectioning_of_plain {o : Occurrence} {v : Visited} (ho : o.node.isFootnote = false)
    (h : v.IsPlain marks) : sectioning.Holds marks [.visit ancestors o phase v.pieces] v.marks := by
  refine sectioning_of_none ?_ (congrArg Marks.footnotesOpen h.1) ?_
  · cases phase with
    | entering => exact ho
    | leaving => rfl
  · rw [List.any_eq_false]
    intro p hp
    rw [Piece.isSection_of_isPlain (List.all_eq_true.mp h.2 p hp)]
    exact Bool.false_ne_true

theorem headingTag_ne_section (level : HeadingLevel) : (s!"h{level.val}" == "section") = false := by
  have names : ∀ n < 7, (s!"h{n}" == "section") = false := by decide
  exact names level.val (by have := level.le_six; omega)

/-- A heading has nothing to do with the section. -/
theorem Default.sectioning_heading (level : HeadingLevel) (info : Info) (children : List Node)
    (place : List Nat) :
    let o : Occurrence := ⟨.box (.heading level) info children, place⟩
    let v := Default.visit style ancestors marks o phase
    sectioning.Holds marks [.visit ancestors o phase v.pieces] v.marks := by
  intro o v
  have hopen (attributes : List Attribute) :
      (Piece.openTag s!"h{level.val}" attributes).isSection = false := headingTag_ne_section level
  have hclose : (Piece.closeTag s!"h{level.val}").isSection = false := headingTag_ne_section level
  cases phase with
  | leaving =>
    have hv : v = Default.writes marks [.closeTag s!"h{level.val}", .newline] := rfl
    rw [hv]
    refine sectioning_of_none rfl rfl ?_
    simp only [Step.pieces, Default.writes, List.any_cons, List.any_nil, hclose]
    rfl
  | entering =>
    have hv : v = Default.heading style info level children marks .entering := rfl
    rw [hv, Default.heading]
    simp only
    repeat' split
    all_goals
      refine sectioning_of_none rfl rfl ?_
      simp only [Step.pieces, Default.writes, List.any_append, List.any_cons, List.any_nil, hopen]
      rfl

/-- Nor has a paragraph, whether it ends a footnote or not. -/
theorem Default.sectioning_paragraph (info : Info) (content : List Node) (place : List Nat) :
    let o : Occurrence := ⟨.box .paragraph info content, place⟩
    let v := Default.visit style ancestors marks o phase
    sectioning.Holds marks [.visit ancestors o phase v.pieces] v.marks := by
  intro o v
  rcases Default.visit_paragraph style info content place ancestors marks phase with
    hplain | ⟨parent, identifier, index, rfl, hv⟩
  · exact sectioning_of_plain rfl hplain
  · have hv : v = _ := hv
    rw [hv]
    exact sectioning_of_none rfl rfl rfl

/-- The first visit to a footnote opens its item, and the section if that is not open. -/
theorem Default.visit_footnote (identifier : String) (index : Int) (info : Info)
    (children : List Node) (place : List Nat) :
    Default.visit style ancestors marks
        ⟨.box (.footnoteDefinition identifier index) info children, place⟩ .entering =
      Default.writes { marks with footnotesOpen := true }
        ((if marks.footnotesOpen then [] else sectionOpening) ++
          itemOpening style identifier info) := rfl

/-- A footnote opens the section, unless it is open. -/
theorem Default.sectioning_footnote (identifier : String) (index : Int) (info : Info)
    (children : List Node) (place : List Nat) :
    let o : Occurrence := ⟨.box (.footnoteDefinition identifier index) info children, place⟩
    let v := Default.visit style ancestors marks o phase
    sectioning.Holds marks [.visit ancestors o phase v.pieces] v.marks := by
  intro o v
  cases phase with
  | leaving =>
    refine sectioning_of_none rfl rfl ?_
    simp only [Step.pieces, v, o, Default.visit, Default.containerVisit, Default.footnoteDefinition,
      Default.writes]
    split <;> rfl
  | entering =>
    have hitem : ∀ p ∈ itemOpening style identifier info, p.isSection ≠ true :=
      List.any_eq_false.mp rfl
    have hnone : (itemOpening style identifier info).count sectionStart = 0 :=
      List.count_eq_zero.mpr fun hm => hitem _ hm rfl
    have hstart : ∀ p ∈ sectionOpening, p.isSection = true → p = sectionStart := by decide
    have hv : v = _ := Default.visit_footnote identifier index info children place
    rw [hv]
    refine ⟨?_, ?_, fun p hp hsection => ?_⟩
    · exact (Bool.or_true _).symm
    · rw [List.flatMap_singleton, Step.pieces, Default.writes, List.count_append, hnone]
      cases marks.footnotesOpen <;> rfl
    · rw [List.flatMap_singleton] at hp
      rcases List.mem_append.mp hp with hp | hp
      · split at hp
        · cases hp
        · exact hstart p hp hsection
      · exact absurd hsection (hitem p hp)

/-- **Only a footnote opens the section**, and a document aside, nothing closes it. -/
theorem Formatter.sections_visit {formatter : Formatter} {o : Occurrence} {marks' : Marks}
    {pieces : List Piece} {signal : Signal} (hdoc : o.node.container? ≠ some .document)
    (h : (formatter.emitter style).visit ancestors o phase marks = ⟨pieces, marks', .ok signal⟩) :
    sectioning.Holds marks [.visit ancestors o phase pieces] marks' := by
  obtain ⟨n, place⟩ := o
  cases n.role with
  | ordinary hn =>
    have hplain := Formatter.plain_of_visit h hn
    exact sectioning_of_plain (v := ⟨pieces, marks', [], .ok signal⟩) (isFootnote_of_ordinary hn)
      hplain
  | document info children => exact absurd rfl hdoc
  | heading level info children =>
    obtain ⟨rfl, rfl, -⟩ := Formatter.visit_default rfl h
    exact Default.sectioning_heading level info children place
  | paragraph info children =>
    obtain ⟨rfl, rfl, -⟩ := Formatter.visit_default rfl h
    exact Default.sectioning_paragraph info children place
  | footnote identifier index info children =>
    obtain ⟨rfl, rfl, -⟩ := Formatter.visit_default rfl h
    exact Default.sectioning_footnote identifier index info children place
  | reference identifier index info =>
    obtain ⟨rfl, rfl, -⟩ := Formatter.visit_default rfl h
    refine sectioning_of_none ?_ rfl rfl
    cases phase <;> rfl

end Visits

/-! ## The section in the page -/

section Tags

variable {v : Vocabulary} {p : Piece}

/-- The name of the tag that begins a text. -/
def tagName : List Char → List Char
  | '<' :: '/' :: rest => rest.takeWhile Unmark.isNameChar
  | '<' :: rest => rest.takeWhile Unmark.isNameChar
  | _ => []

theorem tagName_of_not_mem {cs : List Char} (h : '<' ∉ cs) : tagName cs = [] := by
  unfold tagName
  split
  · exact absurd List.mem_cons_self h
  · exact absurd List.mem_cons_self h
  · rfl

theorem tagName_close {name : String} (h : name ∈ elementTags ++ voidTags) {tail : List Char}
    (ht : Unmark.Breaks tail) : tagName ('<' :: '/' :: (name.toList ++ tail)) = name.toList :=
  Unmark.takeWhile_name (Unmark.isName_tag h) ht

theorem tagName_open {name : String} (h : name ∈ elementTags ++ voidTags) {tail : List Char}
    (ht : Unmark.Breaks tail) : tagName ('<' :: (name.toList ++ tail)) = name.toList := by
  have hname := Unmark.isName_tag h
  have hne : name.toList ≠ [] := by
    revert name
    decide
  refine Eq.trans ?_ (Unmark.takeWhile_name hname ht)
  cases hcs : name.toList with
  | nil => exact absurd hcs hne
  | cons c rest =>
    -- a name does not begin with a slash
    have hc : c ≠ '/' := by
      rintro rfl
      have hslash := hname '/' (by simp [hcs])
      revert hslash
      decide
    rw [List.cons_append, tagName]
    intro rest' he
    exact hc (List.cons.inj he).1

/-- What is written like a tag of the section is one. -/
theorem Piece.isSection_of_tagName (h : p.Sound v) (ht : tagName p.written.toList = "section".toList) :
    p.isSection = true := by
  have hblank : Unmark.Breaks ['>'] := Unmark.breaks_cons (by decide)
  have hslash : Unmark.Breaks " />".toList := Unmark.breaks_cons (by decide)
  cases p with
  | openTag name attributes =>
    have htext : (Piece.openTag name attributes).written.toList =
        '<' :: (name.toList ++ ((Attribute.writtenAll attributes).toList ++ ['>'])) := by
      simp [written]
    rw [htext, tagName_open h.1 (Unmark.breaks_writtenAll attributes hblank)] at ht
    exact beq_iff_eq.mpr (String.toList_inj.mp ht)
  | voidTag name attributes =>
    have htext : (Piece.voidTag name attributes).written.toList =
        '<' :: (name.toList ++ ((Attribute.writtenAll attributes).toList ++ " />".toList)) := by
      simp [written]
    have hmem : name ∈ voidTags := h.1
    rw [htext, tagName_open (List.mem_append_right _ hmem)
      (Unmark.breaks_writtenAll attributes hslash)] at ht
    rw [String.toList_inj.mp ht] at hmem
    exact absurd hmem (by decide)
  | closeTag name =>
    have htext : (Piece.closeTag name).written.toList = '<' :: '/' :: (name.toList ++ ['>']) := by
      simp [written]
    rw [htext, tagName_close (List.mem_append_left _ h) hblank] at ht
    exact beq_iff_eq.mpr (String.toList_inj.mp ht)
  | openImage attributes =>
    have htext : (Piece.openImage attributes).written.toList =
        '<' :: ("img".toList ++ ((Attribute.writtenAll attributes).toList ++ " alt=\"".toList)) := by
      simp [written]
    have halt : Unmark.Breaks " alt=\"".toList := Unmark.breaks_cons (by decide)
    have himg : "img" ∈ elementTags ++ voidTags := by decide
    rw [htext, tagName_open himg (Unmark.breaks_writtenAll attributes halt)] at ht
    exact absurd ht (by decide)
  | omission => exact absurd ht (by decide)
  | closeImage title =>
    have hquote : tagName (Piece.closeImage title).written.toList = [] := by
      cases title <;> simp [written, tagName]
    exact absurd (hquote.symm.trans ht) (by decide)
  | text s =>
    have hnone := tagName_of_not_mem (Piece.not_mem_of_inert (inert_escape s))
    exact absurd (hnone.symm.trans ht) (by decide)
  | verbatim html =>
    have hnone := tagName_of_not_mem (Piece.not_mem_of_inert h)
    exact absurd (hnone.symm.trans ht) (by decide)
  | freshLine | newline => exact absurd ht (by decide)

/-- What is written like the opening tag of the section is that tag, and so for the closing tag. -/
theorem Piece.eq_of_written {q : Piece} (hq : q = sectionStart ∨ q = sectionEnd)
    (h : p.Sound v) (hp : p.isSection = true → p = sectionStart ∨ p = sectionEnd)
    (hw : p.written = q.written) : p = q := by
  have hsection : p.isSection = true := by
    refine Piece.isSection_of_tagName h ?_
    rw [hw]
    rcases hq with rfl | rfl <;> decide
  have hne : sectionStart.written ≠ sectionEnd.written := by decide
  rcases hp hsection with rfl | rfl <;> rcases hq with rfl | rfl
  · rfl
  · exact absurd hw hne
  · exact absurd hw.symm hne
  · rfl

/-- **A tag of the section stands in a page as often as it is written.** -/
theorem Piece.occurrences_section {q : Piece} (hq : q = sectionStart ∨ q = sectionEnd)
    {pieces : List Piece} (h : AllSound v pieces)
    (hp : ∀ p ∈ pieces, p.isSection = true → p = sectionStart ∨ p = sectionEnd) (fresh : Bool) :
    occurrences q.written (textFrom fresh pieces) = pieces.count q := by
  obtain ⟨body, hbody, hend, hi⟩ : ∃ body, q.written.toList = tagChars body ∧ '>' ∉ body ∧
      body.head? ≠ some 'i' := by
    rcases hq with rfl | rfl
    · exact ⟨"section class=\"footnotes\" data-footnotes".toList, by decide, by decide, by decide⟩
    · exact ⟨"/section".toList, by decide, by decide, by decide⟩
  rw [occurrences, hbody, Piece.occurrences_textFrom hend hi h, List.count]
  refine List.countP_congr fun p hm => ?_
  rw [decide_eq_true_eq, beq_iff_eq, ← hbody, String.toList_inj]
  constructor
  · exact Piece.eq_of_written hq (h p hm) (hp p hm)
  · rintro rfl
    rfl

/-- What is written for the end of the section, wherever the line starts. -/
theorem textFrom_sectionClosing (fresh : Bool) :
    Piece.textFrom fresh sectionClosing = "</ol>\n</section>\n" := by
  cases fresh <;> decide

/-- **The section of a page**: it is opened as often as its tag is written, and if it is closed, that
is the end of the page and nowhere else. -/
theorem section_page {inside : List Piece} (entered : Bool)
    (h : Piece.AllSound v (inside ++ (if entered then sectionClosing else [])))
    (hcount : inside.count sectionStart = entered.toNat)
    (hall : ∀ p ∈ inside, p.isSection = true → p = sectionStart) :
    let html := Piece.textFrom true (inside ++ (if entered then sectionClosing else []))
    occurrences sectionStart.written html = entered.toNat ∧
      (entered = true → occurrences "</ol>\n</section>\n" html = 1 ∧
        ∃ front, html = front ++ "</ol>\n</section>\n") := by
  have hclosing : ∀ p ∈ sectionClosing, p.isSection = true → p = sectionEnd := by decide
  cases entered with
  | false =>
    simp only [Bool.false_eq_true, if_false, List.append_nil] at h ⊢
    have honly := Piece.occurrences_section (.inl rfl) h (fun p hp hs => .inl (hall p hp hs)) true
    exact ⟨honly.trans hcount, nofun⟩
  | true =>
    simp only [if_true] at h ⊢
    have htags : ∀ p ∈ inside ++ sectionClosing, p.isSection = true →
        p = sectionStart ∨ p = sectionEnd := by
      intro p hp hs
      rcases List.mem_append.mp hp with hp | hp
      · exact .inl (hall p hp hs)
      · exact .inr (hclosing p hp hs)
    have hstart := Piece.occurrences_section (.inl rfl) h htags true
    have hend := Piece.occurrences_section (.inr rfl) h htags true
    have hnone : inside.count sectionEnd = 0 := by
      refine List.count_eq_zero.mpr fun hm => ?_
      have he : sectionEnd = sectionStart := hall _ hm rfl
      revert he
      decide
    have hstartClosing : sectionClosing.count sectionStart = 0 := by decide
    have hendClosing : sectionClosing.count sectionEnd = 1 := by decide
    rw [List.count_append, hcount, hstartClosing] at hstart
    rw [List.count_append, hnone, hendClosing] at hend
    have hsplit : Piece.textFrom true (inside ++ sectionClosing) =
        Piece.textFrom true inside ++ "</ol>\n</section>\n" := by
      rw [Piece.textFrom_append, textFrom_sectionClosing]
    refine ⟨hstart, fun _ => ⟨?_, _, hsplit⟩⟩
    -- the end of the section holds its closing tag, which is there once
    have hle : occurrences "</ol>\n</section>\n" (Piece.textFrom true (inside ++ sectionClosing)) ≤
        1 := by
      refine Nat.le_trans (occurrences_append_le "</ol>\n" "</section>\n" _) ?_
      exact Nat.le_trans (occurrences_append_le_front "</section>" "\n" _) (Nat.le_of_eq hend)
    have hpos := occurrences_end_pos (Piece.textFrom true inside) "</ol>\n</section>\n"
    rw [← hsplit] at hpos
    omega

end Tags

section Document

variable {formatter : Formatter} {style : Style} {info : Info} {children : List Node}

/-- What the root writes when it is left. -/
theorem Default.sections_root (ancestors : List Occurrence) (marks : Marks) (place : List Nat) :
    (Default.visit style ancestors marks ⟨.box .document info children, place⟩ .leaving).pieces =
      if marks.footnotesOpen then sectionClosing else [] := by
  simp only [Default.visit, Default.containerVisit]
  cases marks.footnotesOpen <;> rfl

/-- **The section is opened once if a footnote is entered**, and then it is closed at the end. -/
theorem Formatter.sections_transcript {r : Recording Unit}
    (hroot : ∀ q ∈ Node.membersAll (some .document) children, q.node.container? ≠ some .document)
    (h : formatter.transcript style (.box .document info children) = .ok r) :
    let entered := (r.steps.filterMap Step.entered?).any Member.isFootnote
    ∃ inside, r.steps.flatMap Step.pieces = inside ++ (if entered then sectionClosing else []) ∧
      inside.count sectionStart = entered.toNat ∧
      ∀ p ∈ inside, p.isSection = true → p = sectionStart := by
  intro entered
  obtain ⟨opening, marks₁, signal, below, closing, signal', he, hinside, hl, hsteps⟩ :=
    Formatter.steps_box h
  obtain ⟨rfl, rfl, houtcome⟩ := Formatter.visit_default rfl he
  obtain ⟨rfl, -, -⟩ := Formatter.visit_default rfl hl
  obtain rfl : Signal.html = signal := Except.ok.inj houtcome
  have hobeyed : sectioning.ObeyedAt formatter style (Node.membersAll (some .document) children) :=
    ⟨fun s marks => sectioning_of_none rfl rfl rfl, fun hm _ hv =>
      Formatter.sections_visit (hroot _ hm) hv⟩
  obtain ⟨hopen, hcount, hall⟩ := hobeyed.holds_traverseAll hinside
  let o : Occurrence := Occurrence.root (.box .document info children) 0
  have hsteps' : r.steps = .visit [] o .entering [] :: (below.steps ++
      [.visit [] o .leaving (if below.marks.footnotesOpen then sectionClosing else [])]) := by
    rw [hsteps, Default.sections_root]
    rfl
  -- the root is no footnote, and the section is not open before it
  have hentered : entered = below.marks.footnotesOpen := by
    have hroot : (⟨none, o.node⟩ : Member).isFootnote = false := rfl
    have hbelow : below.marks.footnotesOpen =
        (below.steps.filterMap Step.entered?).any Member.isFootnote :=
      hopen.trans (Bool.false_or _)
    simp [entered, hsteps', hbelow, Step.entered?, hroot]
  refine ⟨below.steps.flatMap Step.pieces, ?_, ?_, hall⟩
  · simp [hsteps', hentered, Step.pieces]
  · rw [hentered, ← hcount]
    rfl

/-- What the steps of a document write is sound. -/
theorem Formatter.sound_transcript (hraw : style.HidesRaw) {doc : Node}
    (ha : ∀ q ∈ doc.members none, ∀ a ∈ q.alignment?, a ∈ alignments) {r : Recording Unit}
    (h : formatter.transcript style doc = .ok r) :
    Piece.AllSound .full (r.steps.flatMap Step.pieces) := by
  have hsound := formatter.sound_emission hraw ha
  have hemission : formatter.emission style doc = r.emission :=
    (formatter.retells_transcript style doc).ok h
  rwa [hemission] at hsound

/-- The page of some steps as a text. -/
theorem Step.html_page (steps : List Step) :
    (Step.page steps).html = Piece.textFrom true (steps.flatMap Step.pieces) := by
  rw [Step.page, Page.html_addAll]
  exact String.empty_append

/-- **There is one section of footnotes if a footnote is visited, and none otherwise.** It ends with
the page, and every footnote that is visited is linked back once, at its end. -/
theorem Formatter.footnotes_format (hf : formatter.IsBuiltIn) (hraw : style.HidesRaw)
    (hempty : style.html.on .ignoreEmptyLinks = false)
    (hroot : ∀ q ∈ Node.membersAll (some .document) children, q.node.container? ≠ some .document)
    (hk : ∀ q ∈ (Node.box .document info children).members none, q.node.isForeign = false)
    (ha : ∀ q ∈ (Node.box .document info children).members none,
      ∀ a ∈ q.alignment?, a ∈ alignments) :
    let doc : Node := .box .document info children
    let hasFootnote := (doc.visited none).any Member.isFootnote
    (style.HasAnchorText → ∃ html, (formatter.format style doc).1 = .ok html) ∧
      ∀ html, (formatter.format style doc).1 = .ok html →
        occurrences "<section class=\"footnotes\" data-footnotes>" html = hasFootnote.toNat ∧
          (hasFootnote = true → occurrences "</ol>\n</section>\n" html = 1 ∧
            ∃ front, html = front ++ "</ol>\n</section>\n") ∧
          ∃ steps marks, formatter.transcript style doc = .ok ⟨steps, marks, ()⟩ ∧
            html = (Step.page steps).html ∧
            steps.filterMap Step.entered? = doc.visited none ∧ AllLinked steps := by
  intro doc hasFootnote
  refine ⟨fun hid => ⟨_, Formatter.format_ok hf hid hk⟩, fun html hhtml => ?_⟩
  obtain ⟨steps, marks, ht, hpage⟩ := Formatter.transcript_of_format hhtml
  have hentered : steps.filterMap Step.entered? = doc.visited none :=
    Formatter.entered_transcript hempty ht
  have hsound : Piece.AllSound .full (steps.flatMap Step.pieces) :=
    Formatter.sound_transcript hraw ha ht
  obtain ⟨inside, hpieces, hcount, hall⟩ := Formatter.sections_transcript hroot ht
  rw [hentered] at hpieces hcount
  rw [hpieces] at hsound
  have htext : html = Piece.textFrom true (inside ++ (if hasFootnote then sectionClosing else [])) := by
    rw [hpage, Step.html_page, hpieces]
  obtain ⟨hstart, hend⟩ := section_page hasFootnote hsound hcount hall
  rw [← htext] at hstart hend
  exact ⟨hstart, hend, steps, marks, ht, hpage, hentered, Formatter.linkedBack_transcript ht⟩

end Document

/-- A footnote that ends with a paragraph and holds one that ends with a list, a footnote in a quote
that ends with an empty one, a code block at the end of one, and a footnote in an image. -/
theorem Formatter.footnotes_format_nested :
    let text (s : String) : Node := .leaf (.text s) {}
    let paragraph (s : String) : Node := .box .paragraph {} [text s]
    let note (identifier : String) (index : Int) (children : List Node) : Node :=
      .box (.footnoteDefinition identifier index) {} children
    let list : Node := .box (.list false 1 true false) {} [.box .listItem {} [paragraph "i"]]
    let children : List Node := [.box .paragraph {} [.leaf (.footnoteReference "a" 1) {},
        .box (.image "u" none) {} [note "z" 9 [paragraph "z"]]],
      note "a" 1 [note "b" 2 [paragraph "b", list], paragraph "a"],
      .box .blockQuote {} [note "c" 3 [paragraph "c", note "d" 4 []]],
      note "e" 5 [.leaf (.codeBlock "e" none) {}]]
    let doc : Node := .box .document {} children
    let style : Style := {}
    Formatter.standard.IsBuiltIn ∧ style.HidesRaw ∧ style.HasAnchorText ∧
      (doc.visited none).countP Member.isFootnote = 5 ∧
      ∃ html, (Formatter.standard.format style doc).1 = .ok html ∧
        occurrences "<section class=\"footnotes\" data-footnotes>" html = 1 ∧
        occurrences "</ol>\n</section>\n" html = 1 ∧
        (∃ front, html = front ++ "</ol>\n</section>\n") ∧
        ∃ steps, html = (Step.page steps).html ∧
          steps.filterMap Step.entered? = doc.visited none ∧ AllLinked steps := by
  intro text paragraph note list children doc style
  have hf : Formatter.standard.IsBuiltIn := .inr rfl
  have hraw : style.HidesRaw := .inr rfl
  have hid : style.HasAnchorText := .inl rfl
  have hempty : style.html.on .ignoreEmptyLinks = false := rfl
  have hroot : ∀ q ∈ Node.membersAll (some .document) children,
      q.node.container? ≠ some .document := by
    decide
  have hk : ∀ q ∈ doc.members none, q.node.isForeign = false := by decide
  have ha : ∀ q ∈ doc.members none, ∀ a ∈ q.alignment?, a ∈ alignments := by decide
  obtain ⟨hok, hall⟩ := Formatter.footnotes_format hf hraw hempty hroot hk ha
  obtain ⟨html, hhtml⟩ := hok hid
  obtain ⟨hstart, hend, steps, marks, -, hpage, hentered, hlinked⟩ := hall html hhtml
  have hvisited : (doc.visited none).any Member.isFootnote = true := by decide
  obtain ⟨hclosed, hlast⟩ := hend hvisited
  exact ⟨hf, hraw, hid, by decide, html, hhtml, hstart.trans (congrArg Bool.toNat hvisited),
    hclosed, hlast, steps, hpage, hentered, hlinked⟩

end FlavoredMarkdown

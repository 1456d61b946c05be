import FlavoredMarkdown.Proofs.Anchors
import FlavoredMarkdown.Proofs.Footnotes
import FlavoredMarkdown.Proofs.VisibleText
import Mathlib.Data.List.Nodup

/-!
# The ids of a page

Three kinds of node have an `id` in a page: a heading for its anchor (`visit_heading`), a footnote
(`visit_footnote_definition`), and a reference to a footnote (`visit_footnote_reference`). Only headings
look at what is in use. The other two make their ids of the identifier alone, so the ids of a page need
not be distinct.

* A footnote that is referred to twice has two references with one id (`Formatter.pageIds_twice`).
* The prefix of the anchors can be one of notes, and then a heading can have the id of one.
* The ids of footnotes and those of references are never alike.

Results:
* `Formatter.pageIds_format`: the ids that are read off a page are those that the pieces write.
* `Formatter.identified_visit`: what ids a visit writes.
* `Formatter.headingIds_nodup`: the ids of headings are distinct.
* **`Formatter.ids_format`**: the ids of a page, and when they are distinct.
-/

namespace FlavoredMarkdown

/-! ## Reading ids -/

namespace Html

/-- The value of a word of a tag, if the word is an `id` with a value. -/
def idValue? : List Char → Option String
  | 'i' :: 'd' :: '=' :: '"' :: rest => some (String.ofList rest.dropLast)
  | _ => none

/-- The ids in a tag. -/
def Lexeme.ids : Lexeme → List String
  | .tag (_ :: words) => words.filterMap idValue?
  | _ => []

/-- The values of all attributes `id` of a page, in order. -/
def pageIds (html : String) : List String := (lex html).flatMap Lexeme.ids

/-- Reading the ids off lexemes. -/
def idCensus : Census String where
  Reads ids lexemes := lexemes.flatMap Lexeme.ids = ids
  reads_nil := rfl
  reads_append h h' := by rw [List.flatMap_append, h, h']

end Html

open Html

/-- The value of an attribute `id`. -/
def Attribute.id? (a : Attribute) : Option String := if a.name = "id" then a.value else none

/-- The ids that a piece writes. -/
def Piece.ids : Piece → List String
  | .openTag _ attributes | .voidTag _ attributes | .openImage attributes =>
    attributes.filterMap Attribute.id?
  | _ => []

/-- A word with a value tells whether it is an `id`. -/
theorem idValue?_word {a : Attribute} (h : Unmark.IsName a.name.toList) :
    idValue? a.word = a.id? := by
  have hequals : Unmark.isNameChar '=' = false := by decide
  obtain ⟨name, value⟩ := a
  cases value with
  | none =>
    rw [Attribute.id?, ite_self, Attribute.word]
    unfold idValue?
    split
    · next rest he =>
      have hname : name.toList = 'i' :: 'd' :: '=' :: '"' :: rest := he
      have hmem : '=' ∈ name.toList := by simp [hname]
      cases hequals.symm.trans (h _ hmem)
    · rfl
  | some value =>
    have hword : Attribute.word ⟨name, some value⟩ =
        name.toList ++ '=' :: '"' :: (value.toList ++ ['"']) := rfl
    by_cases hid : name = "id"
    · subst hid
      have hid : Attribute.word ⟨"id", some value⟩ =
          'i' :: 'd' :: '=' :: '"' :: (value.toList ++ ['"']) := by
        rw [hword]
        rfl
      rw [hid, idValue?, List.dropLast_concat, String.ofList_toList, Attribute.id?, if_pos rfl]
    · rw [Attribute.id?, if_neg hid, hword]
      unfold idValue?
      split
      · next rest he =>
        have hisName : Unmark.IsName "id".toList := by decide
        have hname := (Unmark.name_append_inj h hisName (Unmark.breaks_cons hequals)
          (Unmark.breaks_cons hequals) he).1
        exact absurd (String.toList_inj.mp hname) hid
      · rfl

section Reading

variable {v : Vocabulary} {attributes : List Attribute}

theorem filterMap_idValue? (h : SoundAttributes v attributes) :
    (attributes.map Attribute.word).filterMap idValue? = attributes.filterMap Attribute.id? := by
  rw [List.filterMap_map]
  refine List.filterMap_congr fun a ha => ?_
  exact idValue?_word (isName_of_hasName (h a ha).1)

/-- The lexemes of a piece that is none of an image have the ids of the piece. -/
theorem Piece.ids_lexemes {p : Piece} (hv : v.images = false) (h : p.Sound v) (fresh : Bool) :
    (p.lexemes fresh).flatMap Lexeme.ids = p.ids := by
  have hchars (cs : List Char) : (cs.map Lexeme.char).flatMap Lexeme.ids = [] := by
    rw [List.flatMap_eq_nil_iff]
    intro l hl
    obtain ⟨c, -, rfl⟩ := List.mem_map.mp hl
    rfl
  cases p with
  | openTag name attributes =>
    rw [Piece.lexemes, List.flatMap_singleton]
    exact filterMap_idValue? h.2
  | voidTag name attributes =>
    rw [Piece.lexemes, List.flatMap_singleton, Lexeme.ids, List.filterMap_append,
      filterMap_idValue? h.2]
    exact List.append_nil _
  | freshLine => cases fresh <;> rfl
  | newline => rfl
  | text s => exact hchars _
  | verbatim html => exact hchars _
  | closeTag name => rfl
  | omission => rfl
  | openImage attributes =>
    rw [Piece.Sound, hv] at h
    cases h.1
  | closeImage title => rfl

/-- The pieces show the ids that they write. -/
def ShowsIds (pieces : List Piece) : Prop := idCensus.Shows (pieces.flatMap Piece.ids) pieces

theorem ShowsIds.append {as bs : List Piece} (ha : ShowsIds as) (hb : ShowsIds bs) :
    ShowsIds (as ++ bs) := by
  rw [ShowsIds, List.flatMap_append]
  exact Census.Shows.append ha hb

/-- Sound pieces without an image show their ids. -/
theorem showsIds_sound {pieces : List Piece} (hv : v.images = false)
    (h : Piece.AllSound v pieces) : ShowsIds pieces := by
  refine Census.shows_pieces hv h fun fresh => ?_
  show (Piece.lexemesFrom fresh pieces).flatMap Lexeme.ids = pieces.flatMap Piece.ids
  induction pieces generalizing fresh with
  | nil => rfl
  | cons p rest ih =>
    obtain ⟨hp, hrest⟩ := Piece.allSound_cons.mp h
    rw [Piece.lexemesFrom, List.flatMap_append, List.flatMap_cons, Piece.ids_lexemes hv hp,
      ih hrest]

/-- So does an image, since its text and its title are no ids. -/
theorem showsIds_imageTag (h : SoundAttributes v attributes) (s : String) (title : Option String) :
    ShowsIds [.openImage attributes, .text s, .closeImage title] := by
  have hbehind : (imageAttributes s title).filterMap Attribute.id? = [] := by
    cases title <;> rfl
  have hsound := soundAttributes_append.mpr ⟨h, sound_imageAttributes (v := v) s title⟩
  refine Census.shows_image h ?_
  show [Lexeme.tag (imageWords attributes s title)].flatMap Lexeme.ids = _
  rw [List.flatMap_singleton, imageWords, Lexeme.ids, List.filterMap_append,
    filterMap_idValue? hsound, List.filterMap_append, hbehind]
  simp [Piece.ids, idValue?]

end Reading

/-! ## The ids of the pieces of a page -/

/-- Parts of renderings that show the ids they write, unless they fail. -/
def showingIds : Correspondence Emit Emit where
  rel x _ := ∀ marks b, (x marks).outcome = .ok b → ShowsIds (x marks).pieces
  rel_pure _ _ _ _ := idCensus.shows_nil
  rel_bind {_ _ x _ f _} hx hf marks b h := by
    obtain ⟨a, ha, hb, hpieces, -⟩ := Emit.bind_eq_ok h
    rw [hpieces]
    exact (hx marks a ha).append (hf a _ b hb)

section Pages

variable {formatter : Formatter} {style : Style}

/-- A visit to anything but an image shows the ids that it writes. -/
theorem Formatter.showsIds_visit (hraw : style.HidesRaw) {ancestors : List Occurrence}
    {o : Occurrence} (h : ∀ a ∈ (Member.mk (parentKind? ancestors) o.node).alignment?, a ∈ alignments)
    (hi : o.node.isImage = false) (phase : Phase) (marks : Marks) :
    ShowsIds ((formatter.emitter style).visit ancestors o phase marks).pieces :=
  showsIds_sound rfl (formatter.sound_imageless hraw ancestors h hi phase marks)

/-- An image shows the ids that it writes. -/
theorem Formatter.showsIds_image (hf : formatter.IsBuiltIn) (url : String) (title : Option String)
    (info : Info) (children : List Node) (ancestors : List Occurrence) (place : List Nat)
    (x : Emit Unit) (marks : Marks) :
    ShowsIds ((formatter.emitter style).around ancestors
      ⟨.box (.image url title) info children, place⟩ x marks).pieces := by
  obtain ⟨front, hfront, hopening⟩ := Default.imageOpening_eq style info url
  obtain ⟨back, hback, hclosing⟩ := Default.imageClosing_eq style title
  have hurl := inert_urlText style style.html.imageUrlRewriter url
  have hshown {attributes : List Attribute} (ha : SoundAttributes .full attributes) :
      ShowsIds (Default.imageOpening style info url attributes ++
        .text (plainText children) :: Default.imageClosing style title) := by
    have hsound : SoundAttributes .full (style.position info ++
        ⟨"src", some (style.urlText style.html.imageUrlRewriter url)⟩ :: attributes) := by
      simp +decide [sound_position, hurl, ha]
    have h := ((showsIds_sound rfl hfront).append
      (showsIds_imageTag hsound (plainText children) (nonEmpty? title))).append
        (showsIds_sound rfl hback)
    rw [hopening, hclosing]
    simpa using h
  rcases Formatter.visitor_builtIn hf style (.box (.image url title) info children) with
    hv | ⟨override, ho, hv⟩
  · rw [Formatter.around_image (.inl ⟨hv, rfl⟩)]
    exact hshown soundAttributes_nil
  · cases ho
    rw [Formatter.around_image (.inr ⟨hv, rfl⟩)]
    refine hshown ?_
    split
    · exact Override.sound_mark rfl
    · exact soundAttributes_nil

/-- **The ids that are read off a page are those that its pieces write.** -/
theorem Formatter.pageIds_format (hf : formatter.IsBuiltIn) (hraw : style.HidesRaw) {doc : Node}
    (ha : ∀ q ∈ doc.members none, ∀ a ∈ q.alignment?, a ∈ alignments) {html : String}
    (h : (formatter.format style doc).1 = .ok html) :
    pageIds html = (formatter.emission style doc).pieces.flatMap Piece.ids := by
  have hat : showingIds.AtMembers (formatter.emitter style) (formatter.emitter style)
      (doc.members (parentKind? [])) := by
    refine ⟨fun ancestors place kind info hm marks _ _ => ?_,
      fun ancestors place kind info children hm x y hx => ?_⟩
    · exact Formatter.showsIds_visit hraw (ha _ hm) rfl .entering marks
    · cases hi : (Node.box kind info children).isImage with
      | false =>
        refine showingIds.rel_around (fun s marks _ _ => ?_) (fun phase marks _ _ => ?_) hx
        · have hs : Piece.AllSound .basic [.text s] := by simp [Piece.Sound]
          exact showsIds_sound rfl hs
        · exact Formatter.showsIds_visit hraw (ha _ hm) hi phase marks
      | true =>
        obtain ⟨url, title, info', children', he⟩ := Node.exists_of_isImage hi
        cases he
        exact fun marks _ _ =>
          Formatter.showsIds_image hf url title info children ancestors place x marks
  have hshows := hat.rel_traverse doc [] (Occurrence.root doc 0).place {}
  exact Census.reads_page hshows h

end Pages

/-! ## The ids of a visit -/

/-- The id of a footnote. -/
def footnoteId (identifier : String) : String := "fn-" ++ escape identifier

/-- The id of a reference to a footnote. -/
def referenceId (identifier : String) : String := "fnref-" ++ escape identifier

namespace Member

/-- The identifier of a footnote. -/
def footnote? (q : Member) : Option String :=
  match q.node with
  | .box (.footnoteDefinition identifier _) .. => some identifier
  | _ => none

/-- The identifier of the footnote that a reference is to. -/
def reference? (q : Member) : Option String :=
  match q.node with
  | .leaf (.footnoteReference identifier _) _ => some identifier
  | _ => none

/-- The ids that a node makes of an identifier. -/
def noteIds (q : Member) : List String :=
  (q.footnote?.map footnoteId).toList ++ (q.reference?.map referenceId).toList

end Member

/-- The ids that a step writes. -/
def Step.ids (s : Step) : List String := s.pieces.flatMap Piece.ids

/-- The step writes the ids of the node that is entered. At a heading that is for the anchors to say,
if there are any. -/
structure Step.Identified (style : Style) (s : Step) : Prop where
  note : s.opensHeading = false → s.ids = s.entered?.toList.flatMap Member.noteIds
  heading : s.opensHeading = true → style.html.headerIds.isNone = true → s.ids = []

theorem ids_of_plain {attributes : List Attribute} (h : attributes.all Attribute.isPlain = true) :
    attributes.filterMap Attribute.id? = [] := by
  rw [List.filterMap_eq_nil_iff]
  intro a ha
  have hname : (a.name != "id") = true := (Bool.and_eq_true_iff.mp (List.all_eq_true.mp h a ha)).1
  exact if_neg (bne_iff_ne.mp hname)

theorem Piece.ids_of_plain {pieces : List Piece} (h : pieces.all Piece.isPlain = true) :
    pieces.flatMap Piece.ids = [] := by
  rw [List.flatMap_eq_nil_iff]
  intro p hp
  have hplain := List.all_eq_true.mp h p hp
  cases p with
  | openTag name attributes => exact FlavoredMarkdown.ids_of_plain (Bool.and_eq_true_iff.mp hplain).2
  | voidTag name attributes | openImage attributes => exact FlavoredMarkdown.ids_of_plain hplain
  | _ => rfl

section Visits

variable {style : Style} {ancestors : List Occurrence} {o : Occurrence} {phase : Phase}
  {pieces : List Piece}

theorem noteIds_of_ordinary {n : Node} (h : n.isOrdinary = true) (parent : Option Container) :
    (Member.mk parent n).noteIds = [] := by
  cases n with
  | leaf kind info =>
    cases kind with
    | footnoteReference identifier index => cases h
    | _ => rfl
  | box kind info children =>
    cases kind with
    | footnoteDefinition identifier index => cases h
    | _ => rfl

/-- A step that writes no ids, at a node that makes none. -/
theorem identified_of_nil (hn : phase = .entering → (Member.mk (parentKind? ancestors) o.node).noteIds = [])
    (hp : pieces.flatMap Piece.ids = []) : (Step.visit ancestors o phase pieces).Identified style where
  note _ := by
    rw [Step.ids, Step.pieces, hp]
    cases phase with
    | entering => simp [Step.entered?, hn rfl]
    | leaving => rfl
  heading _ _ := hp

/-- A heading without an anchor has no id, and nothing has one when it is left. -/
theorem Default.identified_heading (marks : Marks) (level : HeadingLevel) (info : Info)
    (children : List Node) (place : List Nat) :
    let o : Occurrence := ⟨.box (.heading level) info children, place⟩
    (Step.visit ancestors o phase (Default.visit style ancestors marks o phase).pieces).Identified
      style := by
  intro o
  cases phase with
  | leaving => exact identified_of_nil (by rintro ⟨⟩) rfl
  | entering =>
    refine ⟨by rintro ⟨⟩, fun _ hnone => ?_⟩
    have hopening : (Piece.openTag s!"h{level.val}" (style.position info)).ids = [] :=
      ids_of_plain (plain_position style info)
    have hv : Default.visit style ancestors marks o .entering =
        Default.heading style info level children marks .entering := rfl
    rw [hv, Default.heading, if_pos hnone, Step.ids, Step.pieces, Default.writes,
      List.flatMap_cons, List.flatMap_singleton, hopening]
    rfl

/-- A footnote has one id, when it is entered. -/
theorem Default.identified_footnote (marks : Marks) (identifier : String) (index : Int) (info : Info)
    (children : List Node) (place : List Nat) :
    let o : Occurrence := ⟨.box (.footnoteDefinition identifier index) info children, place⟩
    (Step.visit ancestors o phase (Default.visit style ancestors marks o phase).pieces).Identified
      style := by
  intro o
  cases phase with
  | leaving =>
    refine identified_of_nil (by rintro ⟨⟩) ?_
    simp only [o, Default.visit, Default.containerVisit, Default.footnoteDefinition, Default.writes]
    split <;> rfl
  | entering =>
    have hsection : (if marks.footnotesOpen then [] else sectionOpening).flatMap Piece.ids = [] := by
      split <;> rfl
    have htag : (Piece.openTag "li" (⟨"id", some (footnoteId identifier)⟩ ::
        style.position info)).ids = [footnoteId identifier] :=
      congrArg (footnoteId identifier :: ·) (ids_of_plain (plain_position style info))
    have hitem : (itemOpening style identifier info).flatMap Piece.ids = [footnoteId identifier] := by
      rw [itemOpening, List.flatMap_cons, List.flatMap_cons, ← footnoteId, htag]
      rfl
    refine ⟨fun _ => ?_, by rintro ⟨⟩⟩
    rw [Step.ids, Step.pieces, Default.visit_footnote, Default.writes, List.flatMap_append, hsection,
      hitem]
    rfl

/-- **What ids a visit writes.** -/
theorem Formatter.identified_visit {formatter : Formatter} {marks marks' : Marks} {signal : Signal}
    (hleaf : phase = .leaving → o.node.isLeaf = false)
    (h : (formatter.emitter style).visit ancestors o phase marks = ⟨pieces, marks', .ok signal⟩) :
    (Step.visit ancestors o phase pieces).Identified style := by
  obtain ⟨n, place⟩ := o
  cases n.role with
  | ordinary hn =>
    obtain ⟨-, hp⟩ := Formatter.plain_of_visit h hn
    exact identified_of_nil (fun _ => noteIds_of_ordinary hn _) (Piece.ids_of_plain hp)
  | document info children =>
    obtain ⟨rfl, -, -⟩ := Formatter.visit_default rfl h
    refine identified_of_nil (fun _ => rfl) ?_
    simp only [Default.visit, Default.containerVisit]
    split <;> rfl
  | heading level info children =>
    obtain ⟨rfl, -, -⟩ := Formatter.visit_default rfl h
    exact Default.identified_heading marks level info children place
  | paragraph info children =>
    obtain ⟨rfl, -, -⟩ := Formatter.visit_default rfl h
    refine identified_of_nil (fun _ => rfl) ?_
    rcases Default.visit_paragraph style info children place ancestors marks phase with
      hplain | ⟨parent, identifier, index, -, hv⟩
    · exact Piece.ids_of_plain hplain.2
    · rw [hv]
      rfl
  | footnote identifier index info children =>
    obtain ⟨rfl, -, -⟩ := Formatter.visit_default rfl h
    exact Default.identified_footnote marks identifier index info children place
  | reference identifier index info =>
    obtain ⟨rfl, -, -⟩ := Formatter.visit_default rfl h
    cases phase with
    | entering => exact ⟨fun _ => rfl, by rintro ⟨⟩⟩
    | leaving => cases hleaf rfl

end Visits

/-! ## The ids of a rendering -/

theorem append_escape_injective (front : String) :
    Function.Injective fun identifier => front ++ escape identifier := by
  intro a b h
  have hchars := congrArg String.toList h
  simp only [String.toList_append, List.append_cancel_left_eq, String.toList_inj] at hchars
  exact escape_injective hchars

/-- The id of a footnote is never that of a reference. -/
theorem footnoteId_ne_referenceId (a b : String) : footnoteId a ≠ referenceId b := by
  intro h
  have hchars := congrArg String.toList h
  rw [footnoteId, referenceId, String.toList_append, String.toList_append] at hchars
  have htail := (List.cons.inj (List.cons.inj hchars).2).2
  cases (List.cons.inj htail).1

/-- The ids of notes are those of footnotes and those of references. -/
theorem noteIds_perm (members : List Member) :
    (members.flatMap Member.noteIds).Perm
      ((members.filterMap Member.footnote?).map footnoteId ++
        (members.filterMap Member.reference?).map referenceId) := by
  have hmap (f : Member → Option String) (g : String → String) :
      (members.filterMap f).map g = members.flatMap fun q => ((f q).map g).toList := by
    rw [List.map_filterMap, List.filterMap_eq_flatMap_toList]
  rw [hmap, hmap]
  exact (List.flatMap_append_perm members _ _).symm

/-- The steps of a run write the ids of headings and those of notes. -/
theorem ids_perm {style : Style} {steps : List Step} (h : ∀ s ∈ steps, s.Identified style) :
    (steps.flatMap Step.ids).Perm ((steps.filter Step.opensHeading).flatMap Step.ids ++
      (steps.filterMap Step.entered?).flatMap Member.noteIds) := by
  induction steps with
  | nil => exact .refl _
  | cons s rest ih =>
    obtain ⟨hs, hrest⟩ := List.forall_mem_cons.mp h
    have hentered : ((s :: rest).filterMap Step.entered?).flatMap Member.noteIds =
        s.entered?.toList.flatMap Member.noteIds ++
          (rest.filterMap Step.entered?).flatMap Member.noteIds := by
      rw [List.filterMap_cons]
      cases s.entered? <;> simp
    rw [List.flatMap_cons, hentered]
    cases ho : s.opensHeading with
    | true =>
      have hnone : s.entered?.toList.flatMap Member.noteIds = [] := by
        unfold Step.opensHeading at ho
        split at ho
        · rfl
        · cases ho
      rw [List.filter_cons_of_pos ho, List.flatMap_cons, hnone, List.nil_append, List.append_assoc]
      exact (ih hrest).append_left _
    | false =>
      rw [List.filter_cons_of_neg (Bool.eq_false_iff.mp ho), hs.note ho]
      exact ((ih hrest).append_left _).trans (List.perm_append_comm_assoc _ _ _)

/-- Runs that write the ids of the nodes they enter. -/
def identifying (style : Style) : Law where
  Holds _ steps _ := ∀ s ∈ steps, s.Identified style
  nil _ := nofun
  append ha hb s hs := (List.mem_append.mp hs).elim (ha s) (hb s)

section Document

variable {formatter : Formatter} {style : Style} {doc : Node} {r : Recording Unit}

theorem Formatter.identified_transcript (h : formatter.transcript style doc = .ok r) :
    ∀ s ∈ r.steps, s.Identified style := by
  have hlaw : (identifying style).ObeyedAt formatter style (doc.members (parentKind? [])) := by
    refine ⟨fun s marks s' hs => ?_, fun _ hleaf hv s' hs => ?_⟩
    · rw [List.mem_singleton.mp hs]
      exact ⟨fun _ => rfl, by rintro ⟨⟩⟩
    · rw [List.mem_singleton.mp hs]
      exact Formatter.identified_visit hleaf hv
  exact hlaw.holds_traverse h

/-- A heading with an anchor writes one id, the prefix and the anchor. -/
theorem Step.SetsAnchor.ids_eq {front : String} {s : Step} {anchor : String}
    (h : s.SetsAnchor style front anchor) : s.ids = [escape front ++ anchor] := by
  obtain ⟨ancestors, place, level, info, children, rfl⟩ := h
  have hposition : (Piece.openTag s!"h{level.val}" (style.position info)).ids = [] :=
    ids_of_plain (plain_position style info)
  rw [Step.ids, Step.pieces, List.flatMap_cons, List.flatMap_cons, hposition]
  rfl

theorem Step.ids_of_anchors {front : String} {steps : List Step} {anchors : List String}
    (h : List.Forall₂ (Step.SetsAnchor style front) steps anchors) :
    steps.flatMap Step.ids = anchors.map (escape front ++ ·) := by
  induction h with
  | nil => rfl
  | cons hs _ ih => rw [List.flatMap_cons, hs.ids_eq, ih, List.map_cons, List.singleton_append]

/-- **The ids of headings are distinct.** -/
theorem Formatter.headingIds_nodup (hid : style.HasAnchorText)
    (h : formatter.transcript style doc = .ok r) :
    ((r.steps.filter Step.opensHeading).flatMap Step.ids).Nodup := by
  rcases hid with hnone | ⟨front, hfront⟩
  · have hempty : (r.steps.filter Step.opensHeading).flatMap Step.ids = [] := by
      rw [List.flatMap_eq_nil_iff]
      intro s hs
      obtain ⟨hmem, ho⟩ := List.mem_filter.mp hs
      exact (Formatter.identified_transcript h s hmem).heading ho hnone
    rw [hempty]
    exact List.nodup_nil
  · obtain ⟨anchors, hsteps, htaken, hdistinct, -⟩ := Formatter.anchoring_transcript hfront h
    have hanchors : anchors.Nodup := by
      have hnodup := hdistinct List.nodup_nil
      rw [htaken] at hnodup
      exact List.nodup_reverse.mp (List.append_nil anchors.reverse ▸ hnodup)
    have hinjective : Function.Injective (escape front ++ ·) := by
      intro a b he
      have hchars := congrArg String.toList he
      simpa [String.toList_inj] using hchars
    rw [Step.ids_of_anchors hsteps]
    exact hanchors.map hinjective

/-- When the ids of headings, of footnotes and of references are distinct altogether. -/
theorem ids_nodup_iff {headings footnotes references : List String} (h : headings.Nodup) :
    (headings ++ (footnotes.map footnoteId ++ references.map referenceId)).Nodup ↔
      footnotes.Nodup ∧ references.Nodup ∧
        ∀ id ∈ headings, id ∉ footnotes.map footnoteId ∧ id ∉ references.map referenceId := by
  have hnotes : (footnotes.map footnoteId).Disjoint (references.map referenceId) := by
    intro id hf hr
    obtain ⟨a, -, rfl⟩ := List.mem_map.mp hf
    obtain ⟨b, -, he⟩ := List.mem_map.mp hr
    exact footnoteId_ne_referenceId a b he.symm
  have hfootnotes : (footnotes.map footnoteId).Nodup ↔ footnotes.Nodup :=
    List.nodup_map_iff (append_escape_injective "fn-")
  have hreferences : (references.map referenceId).Nodup ↔ references.Nodup :=
    List.nodup_map_iff (append_escape_injective "fnref-")
  rw [List.nodup_append', List.nodup_append', hfootnotes, hreferences]
  constructor
  · rintro ⟨-, ⟨hf, hr, -⟩, hdisjoint⟩
    refine ⟨hf, hr, fun id hm => ⟨fun hi => ?_, fun hi => ?_⟩⟩
    · exact hdisjoint hm (List.mem_append_left _ hi)
    · exact hdisjoint hm (List.mem_append_right _ hi)
  · rintro ⟨hf, hr, hheadings⟩
    refine ⟨h, ⟨hf, hr, hnotes⟩, fun id hm hi => ?_⟩
    obtain ⟨hno, hno'⟩ := hheadings id hm
    rcases List.mem_append.mp hi with hi | hi
    · exact hno hi
    · exact hno' hi

/-- **The ids of a page** are those of its headings, of its footnotes and of its references. Those of
headings are distinct. So all are if no identifier has two footnotes or two references, and no heading
has the id of a footnote or a reference. -/
theorem Formatter.ids_format (hf : formatter.IsBuiltIn) (hraw : style.HidesRaw)
    (hid : style.HasAnchorText) (hk : ∀ q ∈ doc.members none, q.node.isForeign = false)
    (ha : ∀ q ∈ doc.members none, ∀ a ∈ q.alignment?, a ∈ alignments) :
    ∃ html steps marks, (formatter.format style doc).1 = .ok html ∧
      formatter.transcript style doc = .ok ⟨steps, marks, ()⟩ ∧
      html = (Step.page steps).html ∧
      (style.html.on .ignoreEmptyLinks = false →
        steps.filterMap Step.entered? = doc.visited none) ∧
      let entered := steps.filterMap Step.entered?
      let headings := (steps.filter Step.opensHeading).flatMap Step.ids
      let footnotes := entered.filterMap Member.footnote?
      let references := entered.filterMap Member.reference?
      (pageIds html).Perm
          (headings ++ (footnotes.map footnoteId ++ references.map referenceId)) ∧
        headings.Nodup ∧
        ((pageIds html).Nodup ↔ footnotes.Nodup ∧ references.Nodup ∧
          ∀ id ∈ headings, id ∉ footnotes.map footnoteId ∧ id ∉ references.map referenceId) := by
  obtain ⟨html, hhtml⟩ : ∃ html, (formatter.format style doc).1 = .ok html :=
    ⟨_, Formatter.format_ok hf hid hk⟩
  obtain ⟨steps, marks, ht, hpage⟩ := Formatter.transcript_of_format hhtml
  refine ⟨html, steps, marks, hhtml, ht, hpage,
    fun hempty => Formatter.entered_transcript hempty ht, ?_⟩
  intro entered headings footnotes references
  have hids : pageIds html = steps.flatMap Step.ids := by
    have hemission : formatter.emission style doc = Recording.emission ⟨steps, marks, ()⟩ :=
      (formatter.retells_transcript style doc).ok ht
    rw [Formatter.pageIds_format hf hraw ha hhtml, hemission, Recording.emission,
      List.flatMap_assoc]
    rfl
  have hperm : (pageIds html).Perm
      (headings ++ (footnotes.map footnoteId ++ references.map referenceId)) := by
    rw [hids]
    exact (ids_perm (Formatter.identified_transcript ht)).trans
      ((noteIds_perm entered).append_left headings)
  have hnodup : headings.Nodup := Formatter.headingIds_nodup hid ht
  exact ⟨hperm, hnodup, hperm.nodup_iff.trans (ids_nodup_iff hnodup)⟩

end Document

/-- Two headings that are alike, a heading that is spelled like the id of a footnote, which the prefix
keeps apart, two references and a footnote in a quote with a heading of its own. -/
theorem Formatter.ids_format_apart :
    let heading (s : String) : Node := .box (.heading .top) {} [.leaf (.text s) {}]
    let note (identifier : String) (children : List Node) : Node :=
      .box (.footnoteDefinition identifier 1) {} children
    let doc : Node := .box .document {} [heading "a", heading "A", heading "fn a",
      .box .paragraph {} [.leaf (.footnoteReference "a" 1) {}, .leaf (.footnoteReference "<b>" 2) {}],
      note "a" [], .box .blockQuote {} [note "<b>" [heading "a"]]]
    let style : Style := { html := { headerIds := .value (.str "x-") } }
    Formatter.standard.IsBuiltIn ∧ style.HidesRaw ∧ style.HasAnchorText ∧
      ∃ html, (Formatter.standard.format style doc).1 = .ok html ∧ (pageIds html).Nodup ∧
        (pageIds html).Perm ["x-a", "x-a-1", "x-fn-a", "x-a-2", "fn-a", "fn-&lt;b&gt;", "fnref-a",
          "fnref-&lt;b&gt;"] := by
  intro heading note doc style
  have hf : Formatter.standard.IsBuiltIn := .inr rfl
  have hraw : style.HidesRaw := .inr rfl
  have hid : style.HasAnchorText := .inr ⟨"x-", rfl⟩
  have hk : ∀ q ∈ doc.members none, q.node.isForeign = false := by decide
  have ha : ∀ q ∈ doc.members none, ∀ a ∈ q.alignment?, a ∈ alignments := by decide
  have hheadings : (Formatter.standard.transcript style doc).map
      (fun r => (r.steps.filter Step.opensHeading).flatMap Step.ids) =
        .ok ["x-a", "x-a-1", "x-fn-a", "x-a-2"] := by
    decide +kernel
  obtain ⟨html, steps, marks, hhtml, ht, -, hentered, hperm, -, hdistinct⟩ :=
    Formatter.ids_format hf hraw hid hk ha
  rw [ht] at hheadings
  have hfootnotes : (doc.visited none).filterMap Member.footnote? = ["a", "<b>"] := by decide
  have hreferences : (doc.visited none).filterMap Member.reference? = ["a", "<b>"] := by decide
  simp only [hentered rfl, Except.ok.inj hheadings, hfootnotes, hreferences] at hperm hdistinct
  exact ⟨hf, hraw, hid, html, hhtml, hdistinct.mpr (by decide), hperm⟩

/-- A footnote that is referred to twice: the two references have one id. -/
theorem Formatter.pageIds_twice :
    let note : Node := .box (.footnoteDefinition "1" 1) {} [.box .paragraph {} [.leaf (.text "n") {}]]
    let reference : Node := .leaf (.footnoteReference "1" 1) {}
    let doc : Node := .box .document {} [.box .paragraph {} [.leaf (.text "a") {}, reference,
      .leaf (.text " b") {}, reference], note]
    ∃ html, (Formatter.plain.format {} doc).1 = .ok html ∧
      (Formatter.standard.format {} doc).1 = .ok html ∧
      pageIds html = ["fnref-1", "fnref-1", "fn-1"] ∧ ¬(pageIds html).Nodup := by
  intro note reference doc
  have hraw : ({} : Style).HidesRaw := .inr rfl
  have hid : ({} : Style).HasAnchorText := .inl rfl
  have hk : ∀ q ∈ doc.members none, q.node.isForeign = false := by decide
  have ha : ∀ q ∈ doc.members none, ∀ a ∈ q.alignment?, a ∈ alignments := by decide
  have hplain := Formatter.format_ok (.inl rfl) hid hk
  have hstandard := Formatter.format_ok (.inr rfl) hid hk
  have hsame : (Formatter.standard.emission {} doc).pieces =
      (Formatter.plain.emission {} doc).pieces := by
    decide +kernel
  have hids : (Formatter.plain.emission {} doc).pieces.flatMap Piece.ids =
      ["fnref-1", "fnref-1", "fn-1"] := by
    decide +kernel
  rw [hsame] at hstandard
  rw [← Formatter.pageIds_format (.inl rfl) hraw ha hplain] at hids
  refine ⟨_, hplain, hstandard, hids, ?_⟩
  rw [hids]
  decide

end FlavoredMarkdown

import FlavoredMarkdown.Proofs.Census
import FlavoredMarkdown.Proofs.Completion

/-!
# The markers of placeholders are exact

A marker is a tag with the attribute `data-placeholder`. With the detection of placeholders on, a page
has one marked span for each placeholder of a visited text, with the placeholder as it was written in
it and nothing else, one marked link for each visited link whose URL has a placeholder, and one marked
image for each such image. They are in document order, and there are no others.

* A text that stands directly in a link is not marked; deeper in the link it is.
* Under relaxed autolinks a link that stands directly in a link has no tags to mark.

Results:
* `shows_basic`: what has no mark to begin with shows no marker.
* `shows_items`: a text that is cut at its placeholders shows them.
* `accounts_standard`: each visited node shows the markers that are due.
* **`Formatter.markers_format`**: the markers of a page are those of the visited nodes.
-/

namespace FlavoredMarkdown

open Html Piece

/-- A tag with the attribute `data-placeholder`: a span, with all that is read before a span is
closed, or a tag of another name. -/
inductive Marker
  | span (content : List Lexeme)
  | tag (name : List Char)
  deriving DecidableEq

namespace Marker

/-- The name of the attribute that a word of a tag is. -/
def attributeName (word : List Char) : List Char := word.takeWhile (· != '=')

/-- Whether one of the words of a tag is the attribute `data-placeholder`. -/
def isMarked (words : List (List Char)) : Bool :=
  words.any fun word => attributeName word == "data-placeholder".toList

/-- The markers among lexemes. -/
def among : List Lexeme → List Marker
  | [] => []
  | .tag (name :: attributes) :: rest =>
    if isMarked attributes then
      (if name = "span".toList then .span (rest.takeWhile (· != .tag ["/span".toList]))
        else .tag name) :: among rest
    else among rest
  | _ :: rest => among rest

/-- The markers of a page, in order. -/
def ofPage (html : String) : List Marker := among (lex html)

/-- What is in a marked span. -/
def content? : Marker → Option (List Lexeme)
  | .span content => some content
  | .tag _ => none

/-- The marker of a placeholder in text. -/
def ofPlaceholder (p : Placeholder) : Marker := .span (p.source.map .char)

/-- Reading the markers off lexemes. -/
def census : Census Marker where
  -- with what follows, since a marked span reads on up to the tag that closes it
  Reads markers lexemes := ∀ rest, among (lexemes ++ rest) = markers ++ among rest
  reads_nil _ := rfl
  reads_append h h' rest := by rw [List.append_assoc, h, h', List.append_assoc]

/-! ## What shows no marker -/

theorem among_chars (cs : List Char) (rest : List Lexeme) :
    among (cs.map .char ++ rest) = among rest := by
  induction cs with
  | nil => rfl
  | cons c cs ih => exact ih

theorem reads_chars (cs : List Char) : census.Reads [] (cs.map .char) := among_chars cs

theorem reads_tag {attributes : List (List Char)} (h : isMarked attributes = false)
    (name : List Char) : census.Reads [] [.tag (name :: attributes)] := by
  intro rest
  simp [among, h]

/-- The word of an attribute begins with its name. -/
theorem attributeName_word {a : Attribute} (h : Unmark.IsName a.name.toList) :
    attributeName a.word = a.name.toList := by
  have hne : ∀ c ∈ a.name.toList, (c != '=') = true := by
    intro c hc
    rw [bne_iff_ne]
    rintro rfl
    cases h _ hc
  obtain ⟨name, value⟩ := a
  cases value with
  | none =>
    have hw := @List.takeWhile_append_of_pos _ _ _ [] hne
    simpa [attributeName, Attribute.word] using hw
  | some value =>
    simp only [attributeName, Attribute.word]
    rw [List.takeWhile_append_of_pos hne]
    simp

theorem isMarked_append (as bs : List (List Char)) :
    isMarked (as ++ bs) = (isMarked as || isMarked bs) := List.any_append

/-- The attributes apart from the mark are no mark. -/
theorem isMarked_basic {attributes : List Attribute} (h : SoundAttributes .basic attributes) :
    isMarked (attributes.map Attribute.word) = false := by
  rw [isMarked, List.any_map, List.any_eq_false]
  intro a ha
  have hname : a.name ∈ attributeNames := h.name_mem ha
  rw [Function.comp_apply, attributeName_word (Unmark.isName_attribute hname), beq_iff_eq,
    String.toList_inj]
  intro he
  rw [he] at hname
  revert hname
  decide

theorem reads_lexemes {piece : Piece} (h : piece.Sound .basic) (fresh : Bool) :
    census.Reads [] (piece.lexemes fresh) := by
  cases piece with
  | freshLine =>
    cases fresh with
    | true => exact census.reads_nil
    | false => exact reads_chars ['\n']
  | newline => exact reads_chars ['\n']
  | text s => exact reads_chars _
  | verbatim html => exact reads_chars _
  | openTag name attributes => exact reads_tag (isMarked_basic h.2) _
  | voidTag name attributes =>
    refine reads_tag ?_ _
    rw [isMarked_append, isMarked_basic h.2]
    rfl
  | closeTag name => exact reads_tag rfl _
  | omission => exact reads_tag (by decide) _
  | openImage attributes => exact census.reads_nil
  | closeImage title => exact census.reads_nil

/-- **Sound pieces without marks** show no marker. -/
theorem shows_basic {pieces : List Piece} (h : AllSound .basic pieces) : census.Shows [] pieces :=
  Census.shows_nothing rfl h fun p hp => reads_lexemes (h p hp)

/-! ## What shows markers -/

theorem isMarked_mark {attributes : List Attribute} (h : Override.mark ∈ attributes) :
    isMarked (attributes.map Attribute.word) = true := by
  rw [isMarked, List.any_map, List.any_eq_true]
  exact ⟨Override.mark, h, by decide⟩

/-- The markup that is escaped is none of word characters, nor of the braces of a placeholder. -/
theorem escapeChar_of_isWord {c : Char} (h : Text.isWord c = true) : escapeChar c = [c] := by
  have hspecial : ∀ d ∈ ['&', '<', '>', '"'], (!Text.isWord d) = true :=
    List.all_eq_true.mp (by decide +kernel)
  have hne : ∀ d ∈ ['&', '<', '>', '"'], c ≠ d := by
    rintro d hd rfl
    have hc := hspecial c hd
    rw [h] at hc
    cases hc
  simp only [List.forall_mem_cons] at hne
  obtain ⟨hamp, hlt, hgt, hquote, -⟩ := hne
  unfold escapeChar
  rw [if_neg hamp, if_neg hlt, if_neg hgt, if_neg hquote]

theorem isWord_of_readAs? {spelling : Spelling} {cs : List Char} {p : Placeholder}
    (h : Placeholder.readAs? spelling cs = some p) : ∀ c ∈ p.name, Text.isWord c = true := by
  unfold Placeholder.readAs? at h
  split at h
  · simp only at h
    split at h
    · cases h
      intro c hc
      exact List.all_eq_true.mp List.all_takeWhile c hc
    · cases h
  · cases h

/-- The names of the placeholders of a text consist of word characters. -/
theorem isWord_of_mem_scanFrom {skip : Nat} {cs : List Char} {p : Placeholder}
    (h : .placeholder p ∈ Placeholder.scanFrom skip cs) : ∀ c ∈ p.name, Text.isWord c = true := by
  induction cs generalizing skip with
  | nil => cases h
  | cons c rest ih =>
    unfold Placeholder.scanFrom at h
    split at h
    · exact ih h
    · split at h
      · next q hq =>
        rcases List.mem_cons.mp h with he | h
        · cases he
          rcases Option.or_eq_some_iff.mp hq with hq | ⟨-, hq⟩
          · exact isWord_of_readAs? hq
          · exact isWord_of_readAs? hq
        · exact ih h
      · rcases List.mem_cons.mp h with he | h
        · cases he
        · exact ih h

theorem escapeChars_word {cs : List Char} (h : ∀ c ∈ cs, Text.isWord c = true) :
    escapeChars cs = cs := by
  induction cs with
  | nil => rfl
  | cons c cs ih =>
    obtain ⟨hc, hcs⟩ := List.forall_mem_cons.mp h
    have hrest : cs.flatMap escapeChar = cs := ih hcs
    rw [escapeChars, List.flatMap_cons, escapeChar_of_isWord hc, hrest, List.singleton_append]

/-- Escaped, a placeholder is what it was. -/
theorem escapeChars_source {p : Placeholder} (h : ∀ c ∈ p.name, Text.isWord c = true) :
    escapeChars p.source = p.source := by
  have hopening : escapeChars p.spelling.opening = p.spelling.opening := by
    cases p.spelling <;> decide
  have hclosing : escapeChars p.spelling.closing = p.spelling.closing := by
    cases p.spelling <;> decide
  rw [Placeholder.source, escapeChars_append, escapeChars_append, escapeChars_word h, hopening,
    hclosing]

/-- A marked placeholder shows itself. -/
theorem shows_placeholder {p : Placeholder} (h : ∀ c ∈ p.name, Text.isWord c = true) :
    census.Shows [ofPlaceholder p] (Override.itemPieces (.placeholder p)) := by
  have hsound : AllSound ⟨true, false⟩ (Override.itemPieces (.placeholder p)) :=
    Override.sound_itemPieces rfl _
  refine Census.shows_pieces rfl hsound fun fresh rest => ?_
  have htext : (escape (String.ofList p.source)).toList = p.source := by
    rw [escape, String.toList_ofList, String.toList_ofList, escapeChars_source h]
  have hread : lexemesFrom fresh (Override.itemPieces (.placeholder p)) ++ rest =
      .tag ["span".toList, "data-placeholder".toList] ::
        (p.source.map .char ++ .tag ["/span".toList] :: rest) := by
    simp [Override.itemPieces, lexemesFrom, Piece.lexemes, htext, Override.mark, Attribute.word]
  have hcontent : (p.source.map Lexeme.char ++ .tag ["/span".toList] :: rest).takeWhile
      (· != .tag ["/span".toList]) = p.source.map .char := by
    rw [List.takeWhile_append_of_pos (by simp)]
    simp
  rw [hread, among, if_pos (by decide), if_pos rfl, hcontent, among_chars]
  rfl

/-- **A text that is cut at its placeholders** shows them. -/
theorem shows_items (content : String) :
    census.Shows ((Placeholder.all content).map ofPlaceholder)
      ((Placeholder.scan content.toList).flatMap Override.itemPieces) := by
  -- a scan is not one of its own tail, so the induction is on any items with names of words
  have hcut (items : List Placeholder.Item)
      (h : ∀ p, .placeholder p ∈ items → ∀ c ∈ p.name, Text.isWord c = true) :
      census.Shows ((Placeholder.among items).map ofPlaceholder)
        (items.flatMap Override.itemPieces) := by
    induction items with
    | nil => exact census.shows_nil
    | cons item items ih =>
      have hrest := ih fun p hp => h p (List.mem_cons_of_mem _ hp)
      cases item with
      | char c => exact (shows_basic (by simp [Override.itemPieces, Piece.Sound])).append hrest
      | placeholder p => exact (shows_placeholder (h p List.mem_cons_self)).append hrest
  exact hcut _ fun p hp => isWord_of_mem_scanFrom hp

theorem reads_marked {attributes : List (List Char)} (h : isMarked attributes = true)
    {name : List Char} (hname : name ≠ "span".toList) :
    census.Reads [.tag name] [.tag (name :: attributes)] := by
  intro rest
  rw [List.singleton_append, among, if_pos h, if_neg hname]
  rfl

/-- The opening tag of a link with a mark. -/
theorem shows_linkOpening (style : Style) (info : Info) (url : String) (title : Option String) :
    census.Shows [.tag "a".toList] (Default.linkOpening style info url title [Override.mark]) := by
  have hsound : AllSound ⟨true, false⟩ (Default.linkOpening style info url title [Override.mark]) :=
    Default.sound_linkOpening style info url title (Override.sound_mark rfl)
  refine Census.shows_pieces rfl hsound fun fresh => ?_
  exact reads_marked (isMarked_mark (by simp)) (by decide)

/-- An image, with a mark or without. -/
theorem shows_image (style : Style) (info : Info) (url : String) (title : Option String)
    (s : String) (marked : Bool) :
    census.Shows (if marked then [.tag "img".toList] else [])
      (Default.imageOpening style info url (if marked then [Override.mark] else []) ++
        .text s :: Default.imageClosing style title) := by
  obtain ⟨front, hfront, hopening⟩ := Default.imageOpening_eq style info url
  obtain ⟨back, hback, hclosing⟩ := Default.imageClosing_eq style title
  have hurl := inert_urlText style style.html.imageUrlRewriter url
  have hafter : SoundAttributes .basic (imageAttributes s (nonEmpty? title)) :=
    sound_imageAttributes s _
  have himage : census.Shows (if marked then [.tag "img".toList] else [])
      [.openImage (style.position info ++
        ⟨"src", some (style.urlText style.html.imageUrlRewriter url)⟩ ::
          if marked then [Override.mark] else []), .text s, .closeImage (nonEmpty? title)] := by
    cases marked with
    | false =>
      have hsound : SoundAttributes .basic (style.position info ++
          [⟨"src", some (style.urlText style.html.imageUrlRewriter url)⟩]) := by
        simp +decide [sound_position, hurl]
      refine Census.shows_image hsound (reads_tag ?_ _)
      rw [isMarked_append, isMarked_basic (soundAttributes_append.mpr ⟨hsound, hafter⟩)]
      rfl
    | true =>
      have hsound : SoundAttributes .full (style.position info ++
          [⟨"src", some (style.urlText style.html.imageUrlRewriter url)⟩, Override.mark]) := by
        simp +decide [sound_position, hurl, Override.mark]
      refine Census.shows_image hsound (reads_marked ?_ (by decide))
      rw [isMarked_append, isMarked_mark (by simp)]
      rfl
  have h := ((shows_basic hfront).append himage).append (shows_basic hback)
  rw [hopening, hclosing]
  simpa using h

end Marker

/-! ## Visits -/

namespace Member

/-- The placeholders of a text node, as they are written. -/
def placeholders (q : Member) : List (List Char) :=
  match q.text? with
  | some content => (Placeholder.all content).map Placeholder.source
  | none => []

/-- Whether the node is a link with a tag that is marked. -/
def isMarkedLink (style : Style) (q : Member) : Bool :=
  match q.node with
  | .box (.link url _) .. =>
    Placeholder.occursIn url && !(style.html.on .relaxedAutolinks && q.inLink)
  | _ => false

/-- Whether the node is an image with a tag that is marked. -/
def isMarkedImage (q : Member) : Bool :=
  match q.node with
  | .box (.image url _) .. => Placeholder.occursIn url
  | _ => false

/-- The markers that are due at a visited node. -/
def markers (style : Style) (q : Member) : List Marker :=
  match q.node with
  | .leaf (.text _) _ => if q.inLabel then [] else q.placeholders.map fun p => .span (p.map .char)
  | .box (.link ..) .. => if q.isMarkedLink style then [.tag "a".toList] else []
  | .box (.image ..) .. => if q.isMarkedImage then [.tag "img".toList] else []
  | _ => []

end Member

section Visits

variable {style : Style} (hraw : style.HidesRaw) {ancestors : List Occurrence}

include hraw

/-- The default markup of anything but an image has no mark. -/
theorem Marker.shows_default {o : Occurrence}
    (h : ∀ a ∈ (Member.mk (parentKind? ancestors) o.node).alignment?, a ∈ alignments)
    (hi : o.node.isImage = false) (marks : Marks) (phase : Phase) :
    census.Shows [] (Default.visit style ancestors marks o phase).pieces :=
  shows_basic (Default.sound_visit hraw ancestors marks h (fun hn => nomatch hi.symm.trans hn) phase)

/-- Nor has that of the overrides that are not for placeholders. -/
theorem Marker.shows_override {override : Override} (hp : override.forPlaceholders = false)
    {o : Occurrence}
    (h : ∀ a ∈ (Member.mk (parentKind? ancestors) o.node).alignment?, a ∈ alignments)
    (hi : o.node.isImage = false) (marks : Marks) (phase : Phase) :
    census.Shows [] (override.visit style ancestors marks o phase).pieces :=
  shows_basic (override.sound_visit hraw ancestors marks h (fun hn => nomatch hi.symm.trans hn) phase
    fun hm => nomatch hp.symm.trans hm)

/-- A container that is neither a link nor an image shows no marker. -/
theorem Marker.emits_container (hmarkup : style.user.on .defaultHtml = false) {kind : Container}
    {info : Info} {children : List Node} {place : List Nat}
    (h : ∀ a ∈ (Member.mk (parentKind? ancestors) (.box kind info children)).alignment?,
      a ∈ alignments)
    (hi : (Node.box kind info children).isImage = false)
    (hl : ∀ url title, kind ≠ .link url title) (phase : Phase) :
    census.Emits [] ((Formatter.standard.emitter style).visit ancestors
      ⟨.box kind info children, place⟩ phase) := by
  intro marks signal hs
  let o : Occurrence := ⟨.box kind info children, place⟩
  have hdefault := shows_default (o := o) hraw h hi marks phase
  rw [Formatter.emitter_visit, Formatter.visitor_standard hmarkup]
  cases kind with
  | link url title => exact (hl url title rfl).elim
  | image url title => cases hi
  | list | taskItem => exact shows_override hraw rfl h hi marks phase
  | _ => exact hdefault

variable (hdetect : style.user.on .placeholderDetection = true)

include hdetect

omit hraw in
theorem Override.marksIn_eq (s : String) : Override.marksIn style s = Placeholder.occursIn s := by
  rw [Override.marksIn, hdetect, Bool.true_and]

/-- A text shows its placeholders, if it is in no label. -/
theorem Marker.emits_text (content : String) (info : Info) (place : List Nat) :
    census.Emits ((Member.mk (parentKind? ancestors) (.leaf (.text content) info)).markers style)
      (Visitor.emit Override.text.visit style ancestors ⟨.leaf (.text content) info, place⟩
        .entering) := by
  intro marks signal hs
  let o : Occurrence := ⟨.leaf (.text content) info, place⟩
  have hd : census.Shows [] (Default.visit style ancestors marks o .entering).pieces :=
    shows_default (o := o) hraw (by rintro _ ⟨⟩) rfl marks .entering
  have hmarkers : (Member.mk (parentKind? ancestors) o.node).markers style =
      if Override.labelKind? ancestors = none then (Placeholder.all content).map ofPlaceholder
      else [] := by
    simp only [Member.markers, o, inLabel_eq]
    cases Override.labelKind? ancestors with
    | none => simp [Member.placeholders, Member.text?, Function.comp_def, ofPlaceholder]
    | some kind => rfl
  show census.Shows ((Member.mk (parentKind? ancestors) o.node).markers style)
    (Override.visitText style ancestors marks o content .entering).emission.pieces
  rw [hmarkers, emission_visitText_entering, Override.marksIn_eq hdetect]
  -- in a label, and without a placeholder, a text has its default markup
  by_cases hl : Override.labelKind? ancestors = none
  · cases ho : Placeholder.occursIn content with
    | true =>
      rw [if_pos hl, if_pos ⟨rfl, hl⟩]
      exact shows_items content
    | false =>
      have hnone : Placeholder.all content = [] := by simpa [Placeholder.occursIn] using ho
      rw [if_pos hl, hnone, if_neg (by simp)]
      exact hd
  · rw [if_neg hl, if_neg fun h => hl h.2]
    exact hd

/-- A link shows a marker if its tag is marked. -/
theorem Marker.emits_link (url : String) (title : Option String) (info : Info)
    (children : List Node) (place : List Nat) :
    census.Emits
      ((Member.mk (parentKind? ancestors) (.box (.link url title) info children)).markers style)
      (Visitor.emit Override.link.visit style ancestors
        ⟨.box (.link url title) info children, place⟩ .entering) := by
  intro marks signal hs
  let o : Occurrence := ⟨.box (.link url title) info children, place⟩
  have hmarked : (Member.mk (parentKind? ancestors) o.node).isMarkedLink style =
      (Placeholder.occursIn url && !(style.html.on .relaxedAutolinks && inLink ancestors)) := rfl
  have hmarkers : (Member.mk (parentKind? ancestors) o.node).markers style =
      if (Member.mk (parentKind? ancestors) o.node).isMarkedLink style then [.tag "a".toList]
      else [] := rfl
  show census.Shows ((Member.mk (parentKind? ancestors) o.node).markers style)
    (Override.visitLink style ancestors marks o info url title .entering).pieces
  rw [hmarkers, hmarked, Override.visitLink, Override.marksIn_eq hdetect]
  cases ho : Placeholder.occursIn url with
  | false => exact shows_default (o := o) hraw (by rintro _ ⟨⟩) rfl marks .entering
  | true =>
    cases hr : style.html.on .relaxedAutolinks && inLink ancestors with
    | true => exact census.shows_nil
    | false => exact shows_linkOpening style info url title

omit hdetect in
/-- A container that is no image shows no marker when it is left. -/
theorem Marker.emits_leaving (hmarkup : style.user.on .defaultHtml = false) {kind : Container}
    {info : Info} {children : List Node} {place : List Nat}
    (h : ∀ a ∈ (Member.mk (parentKind? ancestors) (.box kind info children)).alignment?,
      a ∈ alignments)
    (hi : (Node.box kind info children).isImage = false) :
    census.Emits [] ((Formatter.standard.emitter style).visit ancestors
      ⟨.box kind info children, place⟩ .leaving) := by
  cases kind with
  | link url title =>
    intro marks signal hs
    let o : Occurrence := ⟨.box (.link url title) info children, place⟩
    have hclosing : AllSound .basic [.closeTag "a"] := by simp +decide [Piece.Sound]
    rw [Formatter.emitter_visit, Formatter.visitor_standard hmarkup]
    show census.Shows [] (Override.visitLink style ancestors marks o info url title .leaving).pieces
    unfold Override.visitLink
    split
    · exact shows_default hraw h hi marks .leaving
    · split
      · exact census.shows_nil
      · exact shows_basic hclosing
  | _ => exact emits_container hraw hmarkup h hi (by rintro _ _ ⟨⟩) .leaving

/-- A container that is no image shows the markers that are due when it is entered. -/
theorem Marker.emits_entering (hmarkup : style.user.on .defaultHtml = false) {kind : Container}
    {info : Info} {children : List Node} {place : List Nat}
    (h : ∀ a ∈ (Member.mk (parentKind? ancestors) (.box kind info children)).alignment?,
      a ∈ alignments)
    (hi : (Node.box kind info children).isImage = false) :
    census.Emits ((Member.mk (parentKind? ancestors) (.box kind info children)).markers style)
      ((Formatter.standard.emitter style).visit ancestors ⟨.box kind info children, place⟩
        .entering) := by
  cases kind with
  | link url title =>
    rw [Formatter.emitter_visit, Formatter.visitor_standard hmarkup]
    exact emits_link hraw hdetect url title info children place
  | image url title => cases hi
  | _ => exact emits_container hraw hmarkup h hi (by rintro _ _ ⟨⟩) .entering

omit hraw in
/-- An image shows a marker if its tag is marked. -/
theorem Marker.emits_image (hmarkup : style.user.on .defaultHtml = false) (url : String)
    (title : Option String) (info : Info) (children : List Node) (place : List Nat)
    (x : Emit Unit) :
    census.Emits
      ((Member.mk (parentKind? ancestors) (.box (.image url title) info children)).markers style)
      ((Formatter.standard.emitter style).around ancestors
        ⟨.box (.image url title) info children, place⟩ x) := by
  intro marks a h
  have hvisitor : Formatter.standard.visitor style (Container.image url title).name =
      Override.image.visit := Formatter.visitor_standard hmarkup (.box (.image url title) info [])
  rw [Formatter.around_image (.inr ⟨hvisitor, rfl⟩), Override.marksIn_eq hdetect]
  exact shows_image style info url title (plainText children) (Placeholder.occursIn url)

/-- **Each visited node shows the markers that are due.** -/
theorem Marker.accounts_standard (hmarkup : style.user.on .defaultHtml = false)
    (hempty : style.html.on .ignoreEmptyLinks = false) {members : List Member}
    (h : ∀ q ∈ members, ∀ a ∈ q.alignment?, a ∈ alignments) :
    census.Accounts (Formatter.standard.emitter style) (Member.markers style) members where
  leaf ancestors place kind info hm := by
    rw [Formatter.emitter_visit, Formatter.visitor_standard hmarkup]
    cases kind with
    | text content => exact emits_text hraw hdetect content info place
    | _ => exact fun marks _ _ => shows_default hraw (h _ hm) rfl marks .entering
  box ancestors place kind info children hm hi _ _ hx :=
    Census.emits_around (emits_entering hraw hdetect hmarkup (h _ hm) hi)
      (fun _ _ hs => Formatter.standard.answer_html hempty hi hs) hx
      (emits_leaving hraw hmarkup (h _ hm) hi)
  image ancestors place kind info children hm hi x := by
    cases kind with
    | image url title => exact emits_image hdetect hmarkup url title info children place x
    | _ => cases hi

end Visits

/-! ## Whole pages -/

section Sums

variable (style : Style) (q : Member) {members : List Member}

theorem Marker.contents_of_member : (q.markers style).filterMap content? =
    if q.inLabel then [] else q.placeholders.map (·.map .char) := by
  obtain ⟨parent, n⟩ := q
  cases n with
  | leaf kind info =>
    cases kind with
    | text content =>
      simp only [Member.markers]
      split
      · rfl
      · simp [Function.comp_def, content?]
    | _ => simp [Member.markers, Member.placeholders, Member.text?]
  | box kind info children =>
    have hnone : (Member.mk parent (.box kind info children)).placeholders = [] := rfl
    rw [hnone, List.map_nil, ite_self]
    cases kind with
    | link | image =>
      simp only [Member.markers]
      split <;> rfl
    | _ => rfl

/-- A node has no markers but spans, or one for its tag. -/
theorem Marker.markers_cases :
    (∃ contents : List (List Lexeme), q.markers style = contents.map .span ∧
        q.isMarkedLink style = false ∧ q.isMarkedImage = false) ∨
      q.markers style = [.tag "a".toList] ∧ q.isMarkedLink style = true ∧
        q.isMarkedImage = false ∨
      q.markers style = [.tag "img".toList] ∧ q.isMarkedLink style = false ∧
        q.isMarkedImage = true := by
  obtain ⟨parent, n⟩ := q
  cases n with
  | leaf kind info =>
    cases kind with
    | text content =>
      simp only [Member.markers]
      split
      · exact .inl ⟨[], rfl, rfl, rfl⟩
      · exact .inl ⟨_, (List.map_map ..).symm, rfl, rfl⟩
    | _ => exact .inl ⟨[], rfl, rfl, rfl⟩
  | box kind info children =>
    cases kind with
    | link url title =>
      cases hm : (Member.mk parent (.box (.link url title) info children)).isMarkedLink style with
      | true => exact .inr (.inl ⟨by simp only [Member.markers, hm, if_true], rfl, rfl⟩)
      | false => exact .inl ⟨[], by simp [Member.markers, hm], rfl, rfl⟩
    | image url title =>
      cases hm : (Member.mk parent (.box (.image url title) info children)).isMarkedImage with
      | true => exact .inr (.inr ⟨by simp only [Member.markers, hm, if_true], rfl, rfl⟩)
      | false => exact .inl ⟨[], by simp [Member.markers, hm], rfl, rfl⟩
    | _ => exact .inl ⟨[], rfl, rfl, rfl⟩

theorem Marker.count_spans (contents : List (List Lexeme)) (name : List Char) :
    (contents.map span).count (.tag name) = 0 := by
  rw [List.count_eq_zero]
  intro h
  obtain ⟨content, -, he⟩ := List.mem_map.mp h
  cases he

/-- The spans among the markers of some nodes hold the placeholders of their texts. -/
theorem Marker.contents_markers (h : ∀ q ∈ members, q.inLabel = q.inLink) :
    (members.flatMap (Member.markers style)).filterMap content? =
      (members.filter fun q => !q.inLink).flatMap fun q => q.placeholders.map (·.map .char) := by
  induction members with
  | nil => rfl
  | cons q members ih =>
    obtain ⟨hq, hrest⟩ := List.forall_mem_cons.mp h
    rw [List.flatMap_cons, List.filterMap_append, contents_of_member, hq, ih hrest,
      List.filter_cons]
    cases q.inLink <;> rfl

/-- Markers of one kind are counted by the nodes that have one. -/
theorem Marker.count_markers (marker : Marker) {P : Member → Bool}
    (h : ∀ q, (q.markers style).count marker = if P q then 1 else 0) :
    (members.flatMap (Member.markers style)).count marker = members.countP P := by
  induction members with
  | nil => rfl
  | cons q members ih =>
    rw [List.flatMap_cons, List.count_append, h, ih, List.countP_cons, Nat.add_comm]

theorem Marker.count_link :
    (q.markers style).count (.tag "a".toList) = if q.isMarkedLink style then 1 else 0 := by
  rcases markers_cases style q with ⟨contents, hm, hl, -⟩ | ⟨hm, hl, -⟩ | ⟨hm, hl, -⟩ <;> rw [hm, hl]
  · exact count_spans contents _
  · rfl
  · rfl

theorem Marker.count_image :
    (q.markers style).count (.tag "img".toList) = if q.isMarkedImage then 1 else 0 := by
  rcases markers_cases style q with ⟨contents, hm, -, hi⟩ | ⟨hm, -, hi⟩ | ⟨hm, -, hi⟩ <;> rw [hm, hi]
  · exact count_spans contents _
  · rfl
  · rfl

end Sums

/-- No visited node of a document is directly in an image. -/
theorem Member.inLabel_of_visited {doc : Node} {q : Member} (h : q ∈ doc.visited none) :
    q.inLabel = q.inLink := by
  obtain ⟨parent, n⟩ := q
  have hp := Node.parent_of_mem_visited doc none h
  cases parent with
  | none => rfl
  | some kind =>
    cases kind with
    | image url title =>
      rcases hp with hp | hp
      · cases hp
      · exact (hp url title rfl).elim
    | _ => rfl

/-- **The markers of placeholders are exact.** With the detection on, the marked spans of a page hold
the placeholders of the visited texts that are not directly in a link, in order; the marked links and
images are as many as the visited links and images that are to be marked; and nothing else is marked.
A document of known kinds has such a page, unless its headings get anchors with a prefix that is no
text. -/
theorem Formatter.markers_format {style : Style} {doc : Node}
    (hdetect : style.user.on .placeholderDetection = true)
    (hmarkup : style.user.on .defaultHtml = false) (hraw : style.HidesRaw)
    (hempty : style.html.on .ignoreEmptyLinks = false)
    (hk : ∀ q ∈ doc.members none, q.node.isForeign = false)
    (ha : ∀ q ∈ doc.members none, ∀ a ∈ q.alignment?, a ∈ alignments) :
    (style.HasAnchorText → ∃ html, (Formatter.standard.format style doc).1 = .ok html) ∧
      ∀ html, (Formatter.standard.format style doc).1 = .ok html →
        (Marker.ofPage html).filterMap Marker.content? =
            ((doc.visited none).filter fun q => !q.inLink).flatMap
              (fun q => q.placeholders.map (·.map .char)) ∧
          (Marker.ofPage html).count (.tag "a".toList) =
            (doc.visited none).countP (Member.isMarkedLink style) ∧
          (Marker.ofPage html).count (.tag "img".toList) =
            (doc.visited none).countP Member.isMarkedImage ∧
          ∀ m ∈ Marker.ofPage html, (∃ content, m = .span content) ∨ m = .tag "a".toList ∨
            m = .tag "img".toList := by
  refine ⟨fun hid => ⟨_, Formatter.format_ok (.inr rfl) hid hk⟩, fun html hhtml => ?_⟩
  -- the three parts are read off one equation: the markers of the page, node by node
  have haccounts : Marker.census.Accounts (Formatter.standard.emitter style)
      (Member.markers style) (doc.visited none) :=
    Marker.accounts_standard hraw hdetect hmarkup hempty fun q hq =>
      ha q (Node.mem_members_of_visited doc none hq)
  have hmarkers : Marker.ofPage html = (doc.visited none).flatMap (Member.markers style) := by
    have h := haccounts.reads_format hhtml []
    rwa [List.append_nil, Marker.among, List.append_nil] at h
  rw [hmarkers]
  refine ⟨Marker.contents_markers style fun q hq => Member.inLabel_of_visited hq,
    Marker.count_markers style _ (Marker.count_link style),
    Marker.count_markers style _ (Marker.count_image style), fun m hm => ?_⟩
  obtain ⟨q, -, hq⟩ := List.mem_flatMap.mp hm
  rcases Marker.markers_cases style q with ⟨contents, he, -, -⟩ | ⟨he, -, -⟩ | ⟨he, -, -⟩ <;>
    rw [he] at hq
  · obtain ⟨content, -, rfl⟩ := List.mem_map.mp hq
    exact .inl ⟨content, rfl⟩
  · exact .inr (.inl (List.mem_singleton.mp hq))
  · exact .inr (.inr (List.mem_singleton.mp hq))

/-- A text in a link is not marked, a text deeper in the link is, the text of an image is no text of
the page, and a title is no mark. -/
theorem Formatter.markers_format_nested :
    let doc : Node := .box .document {} [.box .paragraph {} [.leaf (.text "a %{b} %7Bc%7D") {},
      .box (.link "%{u}" none) {} [.leaf (.text "%{d}") {},
        .box .emphasis {} [.leaf (.text "%{e}") {}]],
      .box (.image "%{v}" (some " data-placeholder ")) {} [.leaf (.text "%{f}") {}]]]
    let style : Style := { user := { on := fun f => f == .placeholderDetection } }
    style.user.on .placeholderDetection = true ∧ style.user.on .defaultHtml = false ∧
      style.HidesRaw ∧ style.html.on .ignoreEmptyLinks = false ∧
      (∀ q ∈ doc.members none, q.node.isForeign = false) ∧
      (∀ q ∈ doc.members none, ∀ a ∈ q.alignment?, a ∈ alignments) ∧
      ∃ html, (Formatter.standard.format style doc).1 = .ok html ∧
        (Marker.ofPage html).filterMap Marker.content? =
          ["%{b}", "%7Bc%7D", "%{e}"].map (fun s => s.toList.map .char) ∧
        (Marker.ofPage html).count (.tag "a".toList) = 1 ∧
        (Marker.ofPage html).count (.tag "img".toList) = 1 := by
  intro doc style
  have hdetect : style.user.on .placeholderDetection = true := rfl
  have hmarkup : style.user.on .defaultHtml = false := rfl
  have hraw : style.HidesRaw := .inr rfl
  have hempty : style.html.on .ignoreEmptyLinks = false := rfl
  have hk : ∀ q ∈ doc.members none, q.node.isForeign = false := by decide
  have ha : ∀ q ∈ doc.members none, ∀ a ∈ q.alignment?, a ∈ alignments := by decide
  obtain ⟨hpage, hmarkers⟩ := Formatter.markers_format hdetect hmarkup hraw hempty hk ha
  obtain ⟨html, hhtml⟩ := hpage (.inl rfl)
  obtain ⟨hcontents, hlinks, himages, -⟩ := hmarkers html hhtml
  refine ⟨hdetect, hmarkup, hraw, hempty, hk, ha, html, hhtml, hcontents.trans ?_,
    hlinks.trans ?_, himages.trans ?_⟩
  · decide +kernel
  · decide +kernel
  · decide +kernel

end FlavoredMarkdown

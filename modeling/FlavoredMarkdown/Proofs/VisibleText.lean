import FlavoredMarkdown.Proofs.Completion
import FlavoredMarkdown.Proofs.Flattening
import FlavoredMarkdown.Proofs.Lexemes
import FlavoredMarkdown.Proofs.Soundness

/-!
# The visible text of a page

What a reader sees of a page is what is left when its tags are taken out and its entities are read.
Of a paragraph of inline text that is its literal text, with a new line for each break: markup adds
tags and nothing else, and escaping is undone by reading.

* A tag ends at the first `>` behind its `<`. Neither stands in the name, the attributes or the
  escaped text of a page, so nothing depends on how quotes are read.
* Not among the inline text are images, whose text is an attribute, references to footnotes, which
  show their number, and raw HTML that is not escaped.

Results:
* `plainText_eq_textsWith`: the plain text of some nodes is their literal text with a space for each
  break.
* `Html.unescapeChars_escapeChars`: reading undoes escaping.
* `shows_leaf`, `shows_box`: a leaf shows its literal text, and the tags of a container nothing.
* **`Formatter.visibleText_format`**: the visible text of a paragraph is its literal text.
-/

namespace FlavoredMarkdown

/-! ## Literal text -/

namespace Node

mutual

/-- The literal text of a tree, with `lineBreak` for each line break. -/
def textWith (lineBreak : String) : Node → String
  | .leaf (.lineBreak _) _ => lineBreak
  | .leaf kind _ => kind.literal
  | .box _ _ children => textsWith lineBreak children

/-- The literal text of several trees, one after the other. -/
def textsWith (lineBreak : String) : List Node → String
  | [] => ""
  | n :: rest => textWith lineBreak n ++ textsWith lineBreak rest

end

mutual

theorem plainText_eq_textWith : ∀ n : Node, plainText n = textWith " " n
  | .leaf kind info => by
    rw [plainText]
    cases kind <;> rfl
  | .box kind info children => by
    rw [plainText, textWith]
    exact plainTexts_eq_textsWith children

theorem plainTexts_eq_textsWith : ∀ nodes : List Node, plainTexts nodes = textsWith " " nodes
  | [] => rfl
  | n :: rest => by
    rw [plainTexts, textsWith, plainText_eq_textWith n, plainTexts_eq_textsWith rest]

end

end Node

theorem plainText_eq_textsWith (nodes : List Node) : plainText nodes = Node.textsWith " " nodes := by
  rw [plainText_eq_plainTexts, Node.plainTexts_eq_textsWith]

/-! ## Reading a page -/

namespace Html

/-- The characters of a page that are in no tag. A tag goes from a `<` to the next `>`. -/
def outsideTags : (inTag : Bool) → List Char → List Char
  | _, [] => []
  | true, c :: rest => outsideTags (c != '>') rest
  | false, c :: rest => if c = '<' then outsideTags true rest else c :: outsideTags false rest

/-- Reads the entities of the four characters that are escaped. -/
def unescapeChars : List Char → List Char
  | '&' :: 'a' :: 'm' :: 'p' :: ';' :: rest => '&' :: unescapeChars rest
  | '&' :: 'l' :: 't' :: ';' :: rest => '<' :: unescapeChars rest
  | '&' :: 'g' :: 't' :: ';' :: rest => '>' :: unescapeChars rest
  | '&' :: 'q' :: 'u' :: 'o' :: 't' :: ';' :: rest => '"' :: unescapeChars rest
  | c :: rest => c :: unescapeChars rest
  | [] => []

/-- What a page shows: its text without tags, with the entities read. -/
def visibleText (html : String) : String :=
  String.ofList (unescapeChars (outsideTags false html.toList))

theorem unescapeChars_cons {c : Char} (h : c ≠ '&') (rest : List Char) :
    unescapeChars (c :: rest) = c :: unescapeChars rest := by
  conv => lhs; unfold unescapeChars
  split <;> simp_all

theorem unescapeChars_escapeChar (c : Char) (rest : List Char) :
    unescapeChars (escapeChar c ++ rest) = c :: unescapeChars rest := by
  unfold escapeChar
  by_cases hamp : c = '&'
  · subst hamp
    rfl
  by_cases hlt : c = '<'
  · subst hlt
    rfl
  by_cases hgt : c = '>'
  · subst hgt
    rfl
  by_cases hquote : c = '"'
  · subst hquote
    rfl
  rw [if_neg hamp, if_neg hlt, if_neg hgt, if_neg hquote, List.singleton_append,
    unescapeChars_cons hamp]

/-- **Reading undoes escaping.** -/
theorem unescapeChars_escapeChars (cs : List Char) : unescapeChars (escapeChars cs) = cs := by
  induction cs with
  | nil => rfl
  | cons c cs ih =>
    rw [escapeChars, List.flatMap_cons, unescapeChars_escapeChar]
    exact congrArg (c :: ·) ih

/-- So texts that are escaped alike are one. -/
theorem escape_injective : Function.Injective escape := by
  intro a b h
  have hchars : escapeChars a.toList = escapeChars b.toList := String.ofList_injective h
  rw [← String.toList_inj, ← unescapeChars_escapeChars a.toList, hchars,
    unescapeChars_escapeChars]

/-- Text without a bracket is in no tag. -/
theorem outsideTags_inert {cs : List Char} (h : ∀ c ∈ cs, IsInert c) (rest : List Char) :
    outsideTags false (cs ++ rest) = cs ++ outsideTags false rest := by
  induction cs with
  | nil => rfl
  | cons c cs ih =>
    obtain ⟨⟨hl, -, -⟩, hcs⟩ := List.forall_mem_cons.mp h
    rw [List.cons_append, outsideTags, if_neg hl, ih hcs, List.cons_append]

/-- A tag with everything in it is left out. -/
theorem outsideTags_tag {cs : List Char} (h : '>' ∉ cs) (rest : List Char) :
    outsideTags false ('<' :: (cs ++ '>' :: rest)) = outsideTags false rest := by
  rw [outsideTags, if_pos rfl]
  induction cs with
  | nil => rfl
  | cons c cs ih =>
    obtain ⟨hc, hcs⟩ := not_or.mp fun he => h (List.mem_cons.mpr he)
    rw [List.cons_append, outsideTags, bne_iff_ne.mpr (Ne.symm hc)]
    exact ih hcs

end Html

open Html

/-! ## What pieces show -/

namespace Piece

/-- Outside of tags, the pieces write the text, escaped. -/
def ShowText (text : List Char) (pieces : List Piece) : Prop :=
  ∀ fresh rest, outsideTags false ((textFrom fresh pieces).toList ++ rest) =
    escapeChars text ++ outsideTags false rest

theorem showText_nil : ShowText [] [] := fun _ _ => rfl

theorem ShowText.append {text text' : List Char} {as bs : List Piece} (ha : ShowText text as)
    (hb : ShowText text' bs) : ShowText (text ++ text') (as ++ bs) := by
  intro fresh rest
  rw [textFrom_append, String.toList_append, List.append_assoc, ha, hb, escapeChars_append,
    List.append_assoc]

theorem showText_text (s : String) : ShowText s.toList [.text s] := by
  intro fresh rest
  have hwritten : textFrom fresh [.text s] = escape s := by simp [lineText, written]
  rw [hwritten, outsideTags_inert (inert_escape s)]
  simp [escape]

theorem showText_newline : ShowText ['\n'] [.newline] := by
  intro fresh rest
  have hwritten : textFrom fresh [.newline] = "\n" := by simp [lineText, written]
  rw [hwritten]
  rfl

/-- A tag shows nothing. -/
theorem outsideTags_written {v : Vocabulary} {name ending : String} {attributes : List Attribute}
    (hname : name ∈ elementTags ++ voidTags) (h : SoundAttributes v attributes)
    (he : ending ∈ ["", " /"]) (rest : List Char) :
    outsideTags false
      (("<" ++ name ++ Attribute.writtenAll attributes ++ ending ++ ">").toList ++ rest) =
      outsideTags false rest := by
  have hinside : '>' ∉
      name.toList ++ ((Attribute.writtenAll attributes).toList ++ ending.toList) := by
    have hn : '>' ∉ name.toList := fun hm =>
      (isInert_of_isName (Unmark.isName_tag hname) _ hm).1.2.1 rfl
    have hending : '>' ∉ ending.toList := by
      revert ending
      decide
    simp [hn, hending, not_mem_writtenAll (.inr rfl) h]
  have ht : ("<" ++ name ++ Attribute.writtenAll attributes ++ ending ++ ">").toList ++ rest =
      '<' :: (name.toList ++ ((Attribute.writtenAll attributes).toList ++ ending.toList) ++
        '>' :: rest) := by
    simp
  rw [ht, outsideTags_tag hinside]

section Tags

variable {v : Vocabulary} {name : String} {attributes : List Attribute}

theorem showText_openTag (hname : name ∈ elementTags) (h : SoundAttributes v attributes) :
    ShowText [] [.openTag name attributes] := by
  intro fresh rest
  have hwritten : textFrom fresh [.openTag name attributes] =
      "<" ++ name ++ Attribute.writtenAll attributes ++ "" ++ ">" := by
    simp [lineText, written]
  rw [hwritten, outsideTags_written (List.mem_append_left _ hname) h (by decide)]
  rfl

theorem showText_voidTag (hname : name ∈ voidTags) (h : SoundAttributes v attributes) :
    ShowText [] [.voidTag name attributes] := by
  intro fresh rest
  have hwritten : textFrom fresh [.voidTag name attributes] =
      "<" ++ name ++ Attribute.writtenAll attributes ++ " /" ++ ">" := by
    rw [← String.toList_inj]
    simp [lineText, written]
  rw [hwritten, outsideTags_written (List.mem_append_right _ hname) h (by decide)]
  rfl

theorem showText_closeTag (hname : name ∈ elementTags) : ShowText [] [.closeTag name] := by
  intro fresh rest
  have hinside : '>' ∉ '/' :: name.toList := by
    have hn : '>' ∉ name.toList := fun hm =>
      (isInert_of_isName (Unmark.isName_tag (List.mem_append_left _ hname)) _ hm).1.2.1 rfl
    simp [hn]
  have ht : (textFrom fresh [.closeTag name]).toList ++ rest =
      '<' :: ('/' :: name.toList ++ '>' :: rest) := by
    simp [lineText, written]
  rw [ht, outsideTags_tag hinside]
  rfl

/-- A text in an element shows itself. -/
theorem showText_element (hname : name ∈ elementTags) (h : SoundAttributes v attributes)
    (s : String) : ShowText s.toList [.openTag name attributes, .text s, .closeTag name] := by
  have hs := ((showText_openTag hname h).append (showText_text s)).append (showText_closeTag hname)
  rwa [List.nil_append, List.append_nil] at hs

end Tags

/-- A text that is cut at its placeholders shows itself. -/
theorem showText_items (items : List Placeholder.Item) :
    ShowText (items.flatMap Placeholder.Item.source) (items.flatMap Override.itemPieces) := by
  induction items with
  | nil => exact showText_nil
  | cons item items ih =>
    rw [List.flatMap_cons, List.flatMap_cons]
    refine ShowText.append ?_ ih
    cases item with
    | char c =>
      have h := showText_text (String.singleton c)
      rwa [String.toList_singleton] at h
    | placeholder p =>
      have hmark : SoundAttributes .full [Override.mark] := Override.sound_mark rfl
      have h := showText_element (by decide : "span" ∈ elementTags) hmark (String.ofList p.source)
      rwa [String.toList_ofList] at h

end Piece

open Piece

/-! ## What nodes show -/

/-- Whether the node is inline text: a leaf with literal text, or a container with tags of its own
around its children. Raw HTML is text only where it is escaped. -/
def Node.isProse (style : Style) : Node → Bool
  | .leaf (.text _) _ | .leaf (.code _) _ | .leaf (.mathInline _) _ | .leaf (.lineBreak _) _ => true
  | .leaf (.htmlInline _) _ => style.html.on .escape
  | .box .emphasis .. | .box .strong .. | .box .strikethrough .. | .box .underline ..
  | .box .superscript .. | .box .subscript .. | .box .spoiler .. | .box (.link ..) .. => true
  | _ => false

section Visits

variable {style : Style} (ancestors : List Occurrence) (place : List Nat) (marks : Marks)

theorem Default.shows_leaf {kind : Leaf} {info : Info}
    (h : (Node.leaf kind info).isProse style = true) :
    ∃ pieces, Default.leafPieces? style info kind = some pieces ∧
      ShowText ((Node.leaf kind info).textWith "\n").toList pieces := by
  have hpos : SoundAttributes .full (style.position info) := sound_position style info
  cases kind with
  | text content => exact ⟨_, rfl, showText_text content⟩
  | code content => exact ⟨_, rfl, showText_element (by decide) hpos content⟩
  | mathInline content =>
    have hstyle : SoundAttributes .full [⟨"data-math-style", some "inline"⟩] := by simp +decide
    exact ⟨_, rfl, showText_element (by decide) hstyle content⟩
  | lineBreak soft =>
    have ht : ((Node.leaf (.lineBreak soft) info).textWith "\n").toList = ['\n'] := by
      rw [Node.textWith]
      rfl
    rw [ht]
    simp only [Default.leafPieces?]
    split
    · exact ⟨_, rfl, (showText_voidTag (by decide) hpos).append showText_newline⟩
    · exact ⟨_, rfl, showText_newline⟩
  | htmlInline content =>
    have hescape : style.html.on .escape = true := h
    refine ⟨_, rfl, ?_⟩
    rw [Default.rawHtml, if_pos hescape]
    exact showText_text content
  | _ => cases h

/-- A leaf shows its literal text. -/
theorem shows_leaf {formatter : Formatter} (hf : formatter.IsBuiltIn) {kind : Leaf} {info : Info}
    (h : (Node.leaf kind info).isProse style = true) :
    ∃ pieces, (formatter.emitter style).visit ancestors ⟨.leaf kind info, place⟩ .entering marks =
        ⟨pieces, marks, .ok .html⟩ ∧
      ShowText ((Node.leaf kind info).textWith "\n").toList pieces := by
  obtain ⟨pieces, hp, hs⟩ := Default.shows_leaf h
  have hdefault : (Default.visit style ancestors marks ⟨.leaf kind info, place⟩ .entering).emission =
      ⟨pieces, marks, .ok .html⟩ := by
    simp only [Default.visit, hp]
    rfl
  rw [Formatter.emitter_visit, Visitor.emit]
  rcases Formatter.visitor_builtIn hf style (.leaf kind info) with hv | ⟨override, ho, hv⟩ <;>
    rw [hv]
  · exact ⟨pieces, hdefault, hs⟩
  · cases kind with
    | text content =>
      obtain rfl := Option.some.inj ho
      have he := emission_visitText_entering style ancestors marks
        ⟨.leaf (.text content) info, place⟩ content
      rw [hdefault] at he
      simp only [Override.visit]
      rw [he]
      split
      · refine ⟨_, rfl, ?_⟩
        have hitems := showText_items (Placeholder.scan content.toList)
        rwa [Placeholder.source_scan] at hitems
      · exact ⟨pieces, rfl, hs⟩
    | _ => cases ho

/-- The opening tag of a link shows nothing, whatever its URL and its title are. -/
theorem showText_linkOpening (info : Info) (url : String) (title : Option String)
    {tags : List Attribute} (h : SoundAttributes .full tags) :
    ShowText [] (Default.linkOpening style info url title tags) :=
  showText_openTag (by decide) ((Default.sound_linkOpening style info url title h) _
    List.mem_cons_self).2

/-- A pair of tags shows nothing. -/
theorem Default.shows_wrapped {name : String} {attributes : List Attribute}
    (hn : name ∈ elementTags) (ha : SoundAttributes .full attributes) (phase : Phase) :
    ∃ pieces, (Default.wrapped marks name attributes phase).emission = ⟨pieces, marks, .ok .html⟩ ∧
      ShowText [] pieces := by
  cases phase with
  | entering => exact ⟨_, rfl, showText_openTag hn ha⟩
  | leaving => exact ⟨_, rfl, showText_closeTag hn⟩

theorem Default.shows_link (hempty : style.html.on .ignoreEmptyLinks = false) (info : Info)
    (url : String) (title : Option String) (children : List Node) (phase : Phase) :
    ∃ pieces, (Default.link style ancestors marks info url title children phase).emission =
        ⟨pieces, marks, .ok .html⟩ ∧ ShowText [] pieces := by
  simp only [Default.link, hempty, Bool.false_and, Bool.false_eq_true, if_false]
  split
  · exact ⟨[], rfl, showText_nil⟩
  · cases phase with
    | entering => exact ⟨_, rfl, showText_linkOpening info url title soundAttributes_nil⟩
    | leaving => exact ⟨_, rfl, showText_closeTag (by decide)⟩

theorem Override.shows_link (hempty : style.html.on .ignoreEmptyLinks = false) (info : Info)
    (url : String) (title : Option String) (children : List Node) (phase : Phase) :
    ∃ pieces,
      (Override.visitLink style ancestors marks ⟨.box (.link url title) info children, place⟩ info
        url title phase).emission = ⟨pieces, marks, .ok .html⟩ ∧ ShowText [] pieces := by
  unfold Override.visitLink
  split
  · exact Default.shows_link ancestors marks hempty info url title children phase
  · split
    · exact ⟨[], rfl, showText_nil⟩
    · cases phase with
      | entering =>
        exact ⟨_, rfl, showText_linkOpening info url title (Override.sound_mark rfl)⟩
      | leaving => exact ⟨_, rfl, showText_closeTag (by decide)⟩

/-- The tags of a container show nothing. -/
theorem shows_box {formatter : Formatter} (hf : formatter.IsBuiltIn)
    (hempty : style.html.on .ignoreEmptyLinks = false) {kind : Container}
    {info : Info} {children : List Node}
    (h : (Node.box kind info children).isProse style = true) (phase : Phase) :
    ∃ pieces, (formatter.emitter style).visit ancestors ⟨.box kind info children, place⟩ phase
        marks = ⟨pieces, marks, .ok .html⟩ ∧ ShowText [] pieces := by
  rw [Formatter.emitter_visit, Visitor.emit]
  rcases Formatter.visitor_builtIn hf style (.box kind info children) with hv | ⟨override, ho, hv⟩ <;>
    rw [hv]
  · cases kind with
    | link url title => exact Default.shows_link ancestors marks hempty info url title children phase
    | emphasis | strong | strikethrough | underline | superscript | subscript =>
      exact Default.shows_wrapped marks (by decide) soundAttributes_nil phase
    | spoiler =>
      exact Default.shows_wrapped marks (by decide) (by simp +decide [classAttribute]) phase
    | _ => cases h
  · cases kind with
    | link url title =>
      obtain rfl := Option.some.inj ho
      exact Override.shows_link ancestors place marks hempty info url title children phase
    | list | taskItem | image => cases h
    | _ => cases ho

end Visits

/-! ## Paragraphs -/

/-- What a visited container writes: its two tags around what is inside it. -/
theorem Handler.around_html {handler : Handler Emit} {ancestors : List Occurrence}
    {o : Occurrence} {x : Emit Unit} {marks₁ marks₂ marks₃ marks₄ : Marks}
    {opening inside closing : List Piece}
    (he : handler.visit ancestors o .entering marks₁ = ⟨opening, marks₂, .ok .html⟩)
    (hx : x marks₂ = ⟨inside, marks₃, .ok ()⟩)
    (hl : handler.visit ancestors o .leaving marks₃ = ⟨closing, marks₄, .ok .html⟩) :
    handler.around ancestors o x marks₁ = ⟨opening ++ (inside ++ closing), marks₄, .ok ()⟩ := by
  rw [Handler.around, Emit.bind_ok he, Handler.inside, Emit.bind_ok hx, Emit.bind_ok hl]
  simp [Emit.pure_apply]

section Trees

variable {formatter : Formatter} {style : Style}

mutual

/-- A tree of inline text shows its literal text. -/
theorem shows_traverse (hf : formatter.IsBuiltIn)
    (hempty : style.html.on .ignoreEmptyLinks = false) :
    ∀ (t : Node) (ancestors : List Occurrence) (place : List Nat) (marks : Marks),
    (∀ q ∈ t.members (parentKind? ancestors), q.node.isProse style = true) →
    ∃ pieces, traverse (formatter.emitter style) ancestors place t marks =
        ⟨pieces, marks, .ok ()⟩ ∧ ShowText (t.textWith "\n").toList pieces
  | .leaf kind info, ancestors, place, marks, h => by
    obtain ⟨pieces, hv, hs⟩ := shows_leaf ancestors place marks hf
      (h _ (Node.self_mem_members _ _))
    refine ⟨pieces, ?_, hs⟩
    rw [traverse, Emit.bind_ok hv]
    simp [Emit.pure_apply]
  | .box kind info children, ancestors, place, marks, h => by
    have hself := h _ (Node.self_mem_members _ _)
    obtain ⟨opening, he, hopen⟩ := shows_box ancestors place marks hf hempty hself .entering
    obtain ⟨inside, hx, hbelow⟩ := shows_traverseAll hf hempty children
      (⟨.box kind info children, place⟩ :: ancestors) place 0 marks
      fun q hq => h q (Node.mem_members_of_below _ _ hq)
    obtain ⟨closing, hl, hclose⟩ := shows_box ancestors place marks hf hempty hself .leaving
    refine ⟨opening ++ (inside ++ closing), ?_, ?_⟩
    · rw [traverse]
      exact Handler.around_html he hx hl
    · have hs := hopen.append (hbelow.append hclose)
      rwa [List.nil_append, List.append_nil] at hs

/-- And so do the children of a container. -/
theorem shows_traverseAll (hf : formatter.IsBuiltIn)
    (hempty : style.html.on .ignoreEmptyLinks = false) :
    ∀ (nodes : List Node) (ancestors : List Occurrence) (place : List Nat) (i : Nat)
    (marks : Marks),
    (∀ q ∈ Node.membersAll (parentKind? ancestors) nodes, q.node.isProse style = true) →
    ∃ pieces, traverseAll (formatter.emitter style) ancestors place i nodes marks =
        ⟨pieces, marks, .ok ()⟩ ∧ ShowText (Node.textsWith "\n" nodes).toList pieces
  | [], ancestors, place, i, marks, h => ⟨[], rfl, showText_nil⟩
  | n :: rest, ancestors, place, i, marks, h => by
    rw [Node.membersAll] at h
    obtain ⟨first, hn, hfirst⟩ := shows_traverse hf hempty n ancestors (i :: place) marks
      fun q hq => h q (List.mem_append_left _ hq)
    obtain ⟨others, hr, hothers⟩ := shows_traverseAll hf hempty rest ancestors place (i + 1) marks
      fun q hq => h q (List.mem_append_right _ hq)
    refine ⟨first ++ others, ?_, ?_⟩
    · rw [traverseAll, Emit.bind_ok hn, hr]
    · rw [Node.textsWith, String.toList_append]
      exact hfirst.append hothers

end

end Trees

/-- At a node that no override is for, the formatters of the library use the default markup. -/
theorem Formatter.visitor_default {formatter : Formatter} (hf : formatter.IsBuiltIn) (style : Style)
    {n : Node} (h : Override.ofNode? n = none) :
    formatter.visitor style n.kindName = Default.visit := by
  rcases Formatter.visitor_builtIn hf style n with hv | ⟨override, ho, -⟩
  · exact hv
  · cases h.symm.trans ho

/-- A paragraph at the root is a tag around its content and a new line. -/
theorem Formatter.emission_paragraph {formatter : Formatter} (hf : formatter.IsBuiltIn)
    (style : Style) (docInfo info : Info) {content : List Node} {pieces : List Piece}
    (h : traverseAll (formatter.emitter style)
      [⟨.box .paragraph info content, [0, 0]⟩,
        ⟨.box .document docInfo [.box .paragraph info content], [0]⟩] [0, 0] 0 content {} =
      ⟨pieces, {}, .ok ()⟩) :
    formatter.emission style (.box .document docInfo [.box .paragraph info content]) =
      ⟨[.freshLine, .openTag "p" (style.position info)] ++ (pieces ++ [.closeTag "p", .newline]),
        {}, .ok ()⟩ := by
  let par : Occurrence := ⟨.box .paragraph info content, [0, 0]⟩
  let doc : Occurrence := ⟨.box .document docInfo [par.node], [0]⟩
  have hdoc (phase : Phase) : (formatter.emitter style).visit [] doc phase {} =
      ⟨[], {}, .ok .html⟩ := by
    rw [Formatter.emitter_visit, Formatter.visitor_default hf style (n := doc.node) rfl]
    cases phase <;> rfl
  have henter : (formatter.emitter style).visit [doc] par .entering {} =
      ⟨[.freshLine, .openTag "p" (style.position info)], {}, .ok .html⟩ := by
    rw [Formatter.emitter_visit, Formatter.visitor_default hf style (n := par.node) rfl]
    rfl
  have hleave : (formatter.emitter style).visit [doc] par .leaving {} =
      ⟨[.closeTag "p", .newline], {}, .ok .html⟩ := by
    rw [Formatter.emitter_visit, Formatter.visitor_default hf style (n := par.node) rfl]
    rfl
  have hbelow : traverseAll (formatter.emitter style) [doc] [0] 0 [par.node] {} =
      ⟨[.freshLine, .openTag "p" (style.position info)] ++ (pieces ++ [.closeTag "p", .newline]),
        {}, .ok ()⟩ := by
    rw [traverseAll, traverse, Emit.bind_ok (Handler.around_html henter h hleave)]
    simp [traverseAll, Emit.pure_apply]
  have hroot := Handler.around_html (hdoc .entering) hbelow (hdoc .leaving)
  rw [List.nil_append, List.append_nil] at hroot
  rw [Formatter.emission, traverse]
  exact hroot

/-- **The visible text of a paragraph is its literal text**, with a new line for each break and one
behind it: nothing is lost, added or moved, whatever the tags are. -/
theorem Formatter.visibleText_format {formatter : Formatter} (hf : formatter.IsBuiltIn)
    {style : Style} (hempty : style.html.on .ignoreEmptyLinks = false) (docInfo info : Info)
    {content : List Node}
    (h : ∀ q ∈ Node.membersAll (some .paragraph) content, q.node.isProse style = true) :
    ∃ html, (formatter.format style
        (.box .document docInfo [.box .paragraph info content])).1 = .ok html ∧
      visibleText html = Node.textsWith "\n" content ++ "\n" ∧
      plainText content = Node.textsWith " " content := by
  obtain ⟨pieces, hx, hcontent⟩ := shows_traverseAll hf hempty content
    [⟨.box .paragraph info content, [0, 0]⟩,
      ⟨.box .document docInfo [.box .paragraph info content], [0]⟩] [0, 0] 0 {} h
  have hopen : ShowText [] [.openTag "p" (style.position info)] :=
    showText_openTag (v := .full) (by decide) (sound_position style info)
  have hclose : ShowText ['\n'] [.closeTag "p", .newline] :=
    (showText_closeTag (by decide)).append showText_newline
  -- the page is empty, so the paragraph starts it without a new line
  have hhtml : (formatter.format style
      (.box .document docInfo [.box .paragraph info content])).1 =
        .ok (textFrom true ([.openTag "p" (style.position info)] ++
          (pieces ++ [.closeTag "p", .newline]))) := by
    rw [formatter.format_eq, Formatter.emission_paragraph hf style docInfo info hx, Emission.html,
      Page.html_addAll]
    simp [Page.empty, lineText, lineAfter, lineState, Except.map]
  refine ⟨_, hhtml, ?_, plainText_eq_textsWith content⟩
  have hpage := (hopen.append (hcontent.append hclose)) true []
  rw [List.append_nil, outsideTags, List.append_nil, List.nil_append] at hpage
  rw [visibleText, ← String.toList_inj, String.toList_ofList, String.toList_append, hpage,
    unescapeChars_escapeChars]
  rfl

/-- Text that looks like markup and like an entity, a placeholder that is marked, a link whose title
has a bracket, a link in a link, and both breaks. -/
theorem Formatter.visibleText_format_nested :
    let content : List Node := [.leaf (.text "a < &lt; %{b}") {}, .leaf (.lineBreak true) {},
      .box (.link "%{u}" (some "x > y")) {} [.leaf (.code "c") {},
        .box (.link "v" none) {} [.box .strong {} [.leaf (.text "d") {}]]],
      .leaf (.lineBreak false) {}, .leaf (.mathInline "e \"&\"") {}]
    let style : Style := { user := { on := fun f => f == .placeholderDetection } }
    Formatter.standard.IsBuiltIn ∧ style.html.on .ignoreEmptyLinks = false ∧
      (∀ q ∈ Node.membersAll (some .paragraph) content, q.node.isProse style = true) ∧
      ∃ html, (Formatter.standard.format style
          (.box .document {} [.box .paragraph {} content])).1 = .ok html ∧
        visibleText html = "a < &lt; %{b}\ncd\ne \"&\"\n" ∧
        plainText content = "a < &lt; %{b} cd e \"&\"" := by
  intro content style
  have h : ∀ q ∈ Node.membersAll (some .paragraph) content, q.node.isProse style = true := by
    decide
  have hempty : style.html.on .ignoreEmptyLinks = false := rfl
  obtain ⟨html, hhtml, hshown, hplain⟩ := Formatter.visibleText_format (.inr rfl) hempty {} {} h
  exact ⟨.inr rfl, rfl, h, html, hhtml, hshown.trans (by decide), hplain.trans (by decide)⟩

end FlavoredMarkdown

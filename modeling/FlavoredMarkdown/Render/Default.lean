import FlavoredMarkdown.Anchor
import FlavoredMarkdown.Html.TagFilter
import FlavoredMarkdown.Render.Visit

/-!
# The default markup

What each kind of node is in HTML, in the shapes of the common Markdown engines. A leaf is written in
one visit; a container writes its opening tags on the way in and its closing tags on the way out.

Model of `HtmlFormatter`. `visit` is `format_node_default`, which calls the method of a node's kind: a
method `visit_x` that does more than write is the definition named for it below, and the others are
cases of `leafPieces?` and `containerVisit`.
-/

namespace FlavoredMarkdown.Default

/-- Raw HTML: as text, as a note that it is left out, or as it is, with disallowed tags disarmed if
that is asked for (`_write_raw_html`). -/
def rawHtml (style : Style) (content : String) : Piece :=
  if style.html.on .escape then .text content
  else if !style.html.on .trusted then .omission
  else if style.html.on .tagfilter then .verbatim (Html.filterTags content)
  else .verbatim content

/-- The language of a code block and what stands behind it, cut at the first space, as `visit_code_block`
cuts them. -/
def fenceWords (info : Option String) : List Char × List Char :=
  let words := Text.trim (info.getD "").toList
  (words.takeWhile (· != ' '), Text.trim ((words.dropWhile (· != ' ')).drop 1))

/-- A code block. Its language is a class of the code, or an attribute of the block around it
(`visit_code_block`). -/
def codeBlock (style : Style) (info : Info) (content : String) (fence : Option String) :
    List Piece :=
  let (language, rest) := fenceWords fence
  let extra : List Attribute :=
    if style.html.on .fullInfoString && !rest.isEmpty then
      [⟨"data-meta", some (Html.escape (String.ofList rest))⟩]
    else []
  let word := Html.escape (String.ofList language)
  let opening :=
    if language.isEmpty then [Piece.openTag "pre" (style.position info), .openTag "code" []]
    else if style.html.on .githubPreLang then
      [.openTag "pre" (⟨"lang", some word⟩ :: extra ++ style.position info), .openTag "code" []]
    else
      [.openTag "pre" (style.position info),
        .openTag "code" (classAttribute ("language-" ++ word) :: extra)]
  .freshLine :: opening ++ [.text content, .closeTag "code", .closeTag "pre", .newline]

/-- A reference to a footnote (`visit_footnote_reference`). -/
def footnoteReference (identifier : String) (index : Int) : List Piece :=
  let id := Html.escape identifier
  [.openTag "sup" [classAttribute "footnote-ref"],
    .openTag "a" [⟨"href", some ("#fn-" ++ id)⟩, ⟨"id", some ("fnref-" ++ id)⟩,
      ⟨"data-footnote-ref", none⟩],
    .text (toString index), .closeTag "a", .closeTag "sup"]

/-- The markup of a leaf (`visit_code_block`, `visit_thematic_break`, `visit_html_block`,
`visit_math_block`, `visit_text`, `visit_code`, `visit_line_break`, `visit_html_inline`,
`visit_footnote_reference`, `visit_math_inline`). -/
def leafPieces? (style : Style) (info : Info) : Leaf → Option (List Piece)
  | .codeBlock content fence => some (codeBlock style info content fence)
  | .thematicBreak => some [.freshLine, .voidTag "hr" (style.position info), .newline]
  | .htmlBlock content => some [.freshLine, rawHtml style content, .freshLine]
  | .mathBlock content =>
    some [.freshLine, .openTag "p" [], .openTag "span" [⟨"data-math-style", some "display"⟩],
      .text content, .closeTag "span", .closeTag "p", .newline]
  | .text content => some [.text content]
  | .code content =>
    some [.openTag "code" (style.position info), .text content, .closeTag "code"]
  | .lineBreak soft =>
    if !soft || style.html.on .hardbreaks then some [.voidTag "br" (style.position info), .newline]
    else some [.newline]
  | .htmlInline content => some [rawHtml style content]
  | .footnoteReference identifier index => some (footnoteReference identifier index)
  | .mathInline content =>
    some [.openTag "span" [⟨"data-math-style", some "inline"⟩], .text content, .closeTag "span"]
  | .other _ => none

/-- The link from a footnote back to where it was referred to (`_write_footnote_backref`). -/
def backlink (identifier : String) (index : Int) : List Piece :=
  [.text " ",
    .openTag "a" [⟨"href", some ("#fnref-" ++ Html.escape identifier)⟩,
      classAttribute "footnote-backref", ⟨"data-footnote-backref", none⟩,
      ⟨"data-footnote-backref-idx", some (toString index)⟩,
      ⟨"aria-label", some ("Back to reference " ++ toString index)⟩],
    .text "↩", .closeTag "a"]

/-- Whether the symbol of a task item makes a checked box. -/
def isChecked (symbol : Char) : Bool := symbol == 'x' || symbol == 'X'

/-- The tag of a list. -/
def listTag (ordered : Bool) : String := if ordered then "ol" else "ul"

/-- The opening tag of a list (`visit_list`). An ordered list that does not start at one says where it
starts. -/
def listOpening (style : Style) (info : Info) (ordered : Bool) (start : Int)
    (listClass : List Attribute) : List Piece :=
  let first : List Attribute :=
    if ordered && start != 1 then [⟨"start", some (toString start)⟩] else []
  [.freshLine, .openTag (listTag ordered) (listClass ++ style.position info ++ first), .newline]

/-- The class of task list items, if classes are wanted. -/
def taskItemClass (style : Style) : List Attribute :=
  if style.html.on .tasklistClasses then [classAttribute "task-list-item"] else []

/-- The class of the boxes of task list items, if classes are wanted. -/
def checkboxClass (style : Style) : List Attribute :=
  if style.html.on .tasklistClasses then [classAttribute "task-list-item-checkbox"] else []

/-- An item with a symbol of its own: the symbol in brackets, and no box. -/
def customTask (style : Style) (info : Info) (symbol : Char) : List Piece :=
  [.freshLine, .openTag "li" (taskItemClass style ++ style.position info), .text "[",
    .text (String.singleton symbol), .text "] "]

/-- The opening of a task item (`visit_task_item`). -/
def taskOpening (style : Style) (info : Info) (symbol : Option Char) : List Piece :=
  match symbol.filter fun c => !isChecked c with
  | some c => customTask style info c
  | none =>
    let checked : List Attribute := if symbol.isSome then [⟨"checked", some ""⟩] else []
    [.freshLine, .openTag "li" (taskItemClass style ++ style.position info),
      .voidTag "input" (⟨"type", some "checkbox"⟩ :: checkboxClass style ++ checked ++
        [⟨"disabled", some ""⟩]),
      .text " "]

/-- The opening tag of a link (`visit_link`, `render_link`); `marks` are further attributes. -/
def linkOpening (style : Style) (info : Info) (url : String) (title : Option String)
    (marks : List Attribute) : List Piece :=
  [.openTag "a" (style.position info ++
    ⟨"href", some (style.urlText style.html.linkUrlRewriter url)⟩ :: titleAttribute title ++ marks)]

/-- The beginning of an image, up to the text that stands for it (`visit_image`, `render_image`). -/
def imageOpening (style : Style) (info : Info) (url : String) (marks : List Attribute) :
    List Piece :=
  (if style.html.on .figureWithCaption then [Piece.openTag "figure" []] else []) ++
    [.openImage (style.position info ++
      ⟨"src", some (style.urlText style.html.imageUrlRewriter url)⟩ :: marks)]

/-- The end of an image, behind the text that stands for it (`close_image`). -/
def imageClosing (style : Style) (title : Option String) : List Piece :=
  .closeImage (nonEmpty? title) ::
    if style.html.on .figureWithCaption then
      (match nonEmpty? title with
        | some t => [Piece.openTag "figcaption" [], .text t, .closeTag "figcaption"]
        | none => []) ++ [.closeTag "figure"]
    else []

/-- Whether the label of a link shows nothing (`_is_empty_label`). -/
def isEmptyLabel (children : List Node) : Bool := Text.allBlank (plainText children).toList

/-- A visit that only writes. -/
def writes (marks : Marks) (pieces : List Piece) : Visited := { pieces, marks }

/-- A tag around the children. -/
def wrapped (marks : Marks) (name : String) (attributes : List Attribute) : Phase → Visited
  | .entering => writes marks [.openTag name attributes]
  | .leaving => writes marks [.closeTag name]

/-- A heading, with an anchor in front if there is a prefix for anchors (`visit_heading`). -/
def heading (style : Style) (info : Info) (level : HeadingLevel) (children : List Node)
    (marks : Marks) : Phase → Visited
  | .leaving => writes marks [.closeTag s!"h{level.val}", .newline]
  | .entering =>
    let opening := [Piece.freshLine, .openTag s!"h{level.val}" (style.position info)]
    if style.html.headerIds.isNone then writes marks opening
    else
      let anchor := Anchor.unique (plainText children) marks.anchors
      let marks := { marks with anchors := anchor :: marks.anchors }
      match style.html.headerIds with
      | .value (.str front) =>
        writes marks (opening ++
          [.openTag "a" [⟨"href", some ("#" ++ Html.escape anchor)⟩, ⟨"aria-hidden", some "true"⟩,
            classAttribute "anchor", ⟨"id", some (Html.escape (front ++ anchor))⟩],
            .closeTag "a"])
      | _ => { pieces := opening, marks, outcome := .error .anchorPrefixNotText }

/-- The footnote whose last child is this very node. -/
def closedFootnote? (ancestors : List Occurrence) (o : Occurrence) :
    Option (Occurrence × String × Int) :=
  match ancestors with
  | parent :: _ =>
    match parent.node with
    | .box (.footnoteDefinition identifier index) _ _ =>
      match parent.children.getLast? with
      | some last => if last.isSame o then some (parent, identifier, index) else none
      | none => none
    | _ => none
  | [] => none

/-- A paragraph (`visit_paragraph`). In a tight list it has no tag of its own; at the end of a footnote it
holds the link back. -/
def paragraph (style : Style) (ancestors : List Occurrence) (marks : Marks) (o : Occurrence) :
    Phase → Visited
  | .entering =>
    if inTightList ancestors then writes marks []
    else writes marks [.freshLine, .openTag "p" (style.position o.node.info)]
  | .leaving =>
    let closing := if inTightList ancestors then [] else [Piece.closeTag "p", .newline]
    match closedFootnote? ancestors o with
    | some (parent, identifier, index) =>
      writes { marks with backlinked := parent.place :: marks.backlinked }
        (backlink identifier index ++ closing)
    | none => writes marks closing

/-- A footnote: an item of the section at the end, which the first one opens
(`visit_footnote_definition`). -/
def footnoteDefinition (style : Style) (marks : Marks) (o : Occurrence) (identifier : String)
    (index : Int) : Phase → Visited
  | .entering =>
    let start :=
      if marks.footnotesOpen then []
      else [Piece.freshLine,
        .openTag "section" [classAttribute "footnotes", ⟨"data-footnotes", none⟩], .newline,
        .openTag "ol" [], .newline]
    writes { marks with footnotesOpen := true }
      (start ++ [.freshLine,
        .openTag "li" (⟨"id", some ("fn-" ++ Html.escape identifier)⟩ ::
          style.position o.node.info), .newline])
  | .leaving =>
    let back := if marks.backlinked.contains o.place then [] else
      Piece.freshLine :: backlink identifier index
    writes marks (back ++ [.freshLine, .closeTag "li", .newline])

/-- A link (`visit_link`). Directly in another link it may have to go without tags; without a label it may
be written as Markdown has it. -/
def link (style : Style) (ancestors : List Occurrence) (marks : Marks) (info : Info)
    (url : String) (title : Option String) (children : List Node) (phase : Phase) : Visited :=
  if style.html.on .relaxedAutolinks && inLink ancestors then writes marks []
  else if style.html.on .ignoreEmptyLinks && isEmptyLabel children then
    { pieces := if phase = .entering then [.text ("[](" ++ url ++ ")")] else []
      marks, outcome := .ok .skip }
  else
    match phase with
    | .entering =>
      { pieces := linkOpening style info url title [], marks, log := style.urlLog url }
    | .leaving => writes marks [.closeTag "a"]

/-- An image (`visit_image`). The text that stands for it is written between its two visits. -/
def image (style : Style) (marks : Marks) (info : Info) (url : String) (title : Option String) :
    Phase → Visited
  | .entering =>
    { pieces := imageOpening style info url [], marks, log := style.urlLog url
      outcome := .ok .plain }
  | .leaving => writes marks (imageClosing style title)

/-- Whether a row is the first one of the table around it, its header aside. -/
def isFirstRow (ancestors : List Occurrence) (o : Occurrence) : Bool :=
  match ancestors with
  | table :: _ =>
    match table.node with
    | .box (.table hasHeader) _ _ =>
      match table.children.drop (if hasHeader then 1 else 0) with
      | first :: _ => first.isSame o
      | [] => false
    | _ => false
  | [] => false

/-- A table row (`visit_table_row`). The header row opens and closes the head, and the first row opens the
body. -/
def tableRow (style : Style) (ancestors : List Occurrence) (marks : Marks) (o : Occurrence)
    (isHeader : Bool) : Phase → Visited
  | .entering =>
    let group :=
      if isHeader then [Piece.openTag "thead" [], .newline]
      else if isFirstRow ancestors o then [.openTag "tbody" [], .newline]
      else []
    writes marks (.freshLine :: group ++ [.openTag "tr" (style.position o.node.info)])
  | .leaving =>
    writes marks ([.freshLine, .closeTag "tr"] ++
      if isHeader then [.freshLine, .closeTag "thead"] else [])

/-- The tag of a table cell (`visit_table_cell`). -/
def cellTag (ancestors : List Occurrence) : String :=
  match parentKind? ancestors with
  | some (.tableRow true) => "th"
  | _ => "td"

/-- The markup of a container: the method `visit_x` of its kind. -/
def containerVisit (style : Style) (ancestors : List Occurrence) (marks : Marks) (o : Occurrence)
    (info : Info) (children : List Node) (kind : Container) (phase : Phase) : Visited :=
  match kind with
  | .document =>
    if phase = .leaving && marks.footnotesOpen then
      writes { marks with footnotesOpen := false }
        [.closeTag "ol", .newline, .closeTag "section", .newline]
    else writes marks []
  | .heading level => heading style info level children marks phase
  | .paragraph => paragraph style ancestors marks o phase
  | .blockQuote =>
    match phase with
    | .entering =>
      let spoiler : List Attribute :=
        if ((info.metadata.lookup "spoiler").getD .null).isTrue then [classAttribute "spoiler"]
        else []
      writes marks [.freshLine, .openTag "blockquote" (spoiler ++ style.position info), .newline]
    | .leaving => writes marks [.freshLine, .closeTag "blockquote", .newline]
  | .list ordered start _ isTaskList =>
    match phase with
    | .entering =>
      writes marks (listOpening style info ordered start
        (if isTaskList && style.html.on .tasklistClasses then [classAttribute "contains-task-list"]
          else []))
    | .leaving => writes marks [.closeTag (listTag ordered), .newline]
  | .listItem =>
    match phase with
    | .entering => writes marks [.freshLine, .openTag "li" (style.position info)]
    | .leaving => writes marks [.closeTag "li", .newline]
  | .taskItem symbol =>
    match phase with
    | .entering => writes marks (taskOpening style info symbol)
    | .leaving => writes marks [.closeTag "li", .newline]
  | .table hasHeader =>
    match phase with
    | .entering => writes marks [.freshLine, .openTag "table" (style.position info), .newline]
    | .leaving =>
      let body := if (tableRows hasHeader children).isEmpty then [] else
        [Piece.freshLine, .closeTag "tbody"]
      writes marks (body ++ [.freshLine, .closeTag "table", .newline])
  | .tableRow isHeader => tableRow style ancestors marks o isHeader phase
  | .tableCell alignment =>
    match phase with
    | .entering =>
      let align : List Attribute :=
        match nonEmpty? alignment with
        | some a => [⟨"align", some a⟩]
        | none => []
      writes marks [.freshLine, .openTag (cellTag ancestors) (align ++ style.position info)]
    | .leaving => writes marks [.closeTag (cellTag ancestors)]
  | .footnoteDefinition identifier index =>
    footnoteDefinition style marks o identifier index phase
  | .definitionList =>
    match phase with
    | .entering => writes marks [.freshLine, .openTag "dl" [], .newline]
    | .leaving => writes marks [.freshLine, .closeTag "dl", .newline]
  | .definitionTerm =>
    match phase with
    | .entering => writes marks [.freshLine, .openTag "dt" []]
    | .leaving => writes marks [.closeTag "dt", .newline]
  | .definitionDescription =>
    match phase with
    | .entering => writes marks [.freshLine, .openTag "dd" []]
    | .leaving => writes marks [.freshLine, .closeTag "dd", .newline]
  | .emphasis => wrapped marks "em" [] phase
  | .strong => wrapped marks "strong" [] phase
  | .link url title => link style ancestors marks info url title children phase
  | .image url title => image style marks info url title phase
  | .strikethrough => wrapped marks "del" [] phase
  | .underline => wrapped marks "u" [] phase
  | .superscript => wrapped marks "sup" [] phase
  | .subscript => wrapped marks "sub" [] phase
  | .spoiler => wrapped marks "span" [classAttribute "spoiler"] phase
  | .other kind => { marks, outcome := .error (.noMarkup kind.name) }

/-- The default markup of any node (`format_node_default`). A kind without a method is an error. -/
def visit : Visitor := fun style ancestors marks o phase =>
  match o.node with
  | .leaf kind info =>
    match leafPieces? style info kind with
    | some pieces => writes marks pieces
    | none => { marks, outcome := .error (.noMarkup kind.name) }
  | .box kind info children => containerVisit style ancestors marks o info children kind phase

end FlavoredMarkdown.Default

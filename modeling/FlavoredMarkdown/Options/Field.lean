/-!
# Option fields

Every switch of the program is a `Flag`; three further options hold a text or a URL rewriter. A
`Schema` is one of the four records that options are kept in: the flat record that a caller fills in,
and the records of the three stages that read it. Each lists its fields in the order in which they are
checked. Model of the fields of `RenderOptions`, `MarkdownParserOptions`, `HtmlFormatterOptions` and
`GlfmUserOptions`.
-/

namespace FlavoredMarkdown

/-- An option that is on or off. -/
inductive Flag
  | alerts
  | autolink
  | descriptionLists
  | escape
  | escapedCharSpans
  | figureWithCaption
  | footnotes
  | fullInfoString
  | gemojis
  | gfmQuirks
  | githubPreLang
  | greentext
  | hardbreaks
  | ignoreEmptyLinks
  | ignoreSetext
  | mathCode
  | mathDollars
  | multilineBlockQuotes
  | relaxedAutolinks
  | relaxedTasklistCharacter
  | sourcepos
  | smart
  | spoiler
  | strikethrough
  | subscript
  | superscript
  | table
  | tagfilter
  | tasklist
  | tasklistClasses
  | underline
  | trusted
  | wikilinksTitleAfterPipe
  | wikilinksTitleBeforePipe
  | defaultHtml
  | inapplicableTasks
  | placeholderDetection
  | debug
  deriving DecidableEq, Repr

/-- The name of a flag in option records. -/
def Flag.name : Flag → String
  | .alerts => "alerts"
  | .autolink => "autolink"
  | .descriptionLists => "description_lists"
  | .escape => "escape"
  | .escapedCharSpans => "escaped_char_spans"
  | .figureWithCaption => "figure_with_caption"
  | .footnotes => "footnotes"
  | .fullInfoString => "full_info_string"
  | .gemojis => "gemojis"
  | .gfmQuirks => "gfm_quirks"
  | .githubPreLang => "github_pre_lang"
  | .greentext => "greentext"
  | .hardbreaks => "hardbreaks"
  | .ignoreEmptyLinks => "ignore_empty_links"
  | .ignoreSetext => "ignore_setext"
  | .mathCode => "math_code"
  | .mathDollars => "math_dollars"
  | .multilineBlockQuotes => "multiline_block_quotes"
  | .relaxedAutolinks => "relaxed_autolinks"
  | .relaxedTasklistCharacter => "relaxed_tasklist_character"
  | .sourcepos => "sourcepos"
  | .smart => "smart"
  | .spoiler => "spoiler"
  | .strikethrough => "strikethrough"
  | .subscript => "subscript"
  | .superscript => "superscript"
  | .table => "table"
  | .tagfilter => "tagfilter"
  | .tasklist => "tasklist"
  | .tasklistClasses => "tasklist_classes"
  | .underline => "underline"
  | .trusted => "unsafe"
  | .wikilinksTitleAfterPipe => "wikilinks_title_after_pipe"
  | .wikilinksTitleBeforePipe => "wikilinks_title_before_pipe"
  | .defaultHtml => "default_html"
  | .inapplicableTasks => "inapplicable_tasks"
  | .placeholderDetection => "placeholder_detection"
  | .debug => "debug"

/-- An option of any kind. -/
inductive Field
  | flag (f : Flag)
  | headerIds
  | linkUrlRewriter
  | imageUrlRewriter
  deriving DecidableEq, Repr

/-- The name of an option in option records. -/
def Field.name : Field → String
  | .flag f => f.name
  | .headerIds => "header_ids"
  | .linkUrlRewriter => "link_url_rewriter"
  | .imageUrlRewriter => "image_url_rewriter"

/-- Whether an option is on or off, and nothing else. -/
def Field.isFlag : Field → Bool
  | .flag _ => true
  | _ => false

/-- The option records: all options together, and those of reading Markdown, of the default markup and
of the overrides. -/
inductive Schema
  | render
  | reader
  | html
  | user
  deriving DecidableEq, Repr

/-- The name of a record in messages. -/
def Schema.name : Schema → String
  | .render => "RenderOptions"
  | .reader => "MarkdownParserOptions"
  | .html => "HtmlFormatterOptions"
  | .user => "GlfmUserOptions"

/-- The fields of a record, in order. -/
def Schema.fields : Schema → List Field
  | .render =>
     [.flag .alerts, .flag .autolink, .flag .descriptionLists, .flag .escape,
      .flag .escapedCharSpans, .flag .figureWithCaption, .flag .footnotes, .flag .fullInfoString,
      .flag .gemojis, .flag .gfmQuirks, .flag .githubPreLang, .flag .greentext, .flag .hardbreaks,
      .headerIds, .flag .ignoreEmptyLinks, .flag .ignoreSetext, .flag .mathCode,
      .flag .mathDollars, .flag .multilineBlockQuotes, .flag .relaxedAutolinks,
      .flag .relaxedTasklistCharacter, .flag .sourcepos, .flag .smart, .flag .spoiler,
      .flag .strikethrough, .flag .subscript, .flag .superscript, .flag .table, .flag .tagfilter,
      .flag .tasklist, .flag .tasklistClasses, .flag .underline, .flag .trusted,
      .flag .wikilinksTitleAfterPipe, .flag .wikilinksTitleBeforePipe, .flag .defaultHtml,
      .flag .inapplicableTasks, .flag .placeholderDetection, .flag .debug, .linkUrlRewriter,
      .imageUrlRewriter]
  | .reader =>
     [.flag .alerts, .flag .autolink, .flag .descriptionLists, .flag .footnotes, .flag .gemojis,
      .flag .greentext, .flag .ignoreSetext, .flag .mathCode, .flag .mathDollars,
      .flag .multilineBlockQuotes, .flag .relaxedAutolinks, .flag .relaxedTasklistCharacter,
      .flag .smart, .flag .spoiler, .flag .strikethrough, .flag .subscript, .flag .superscript,
      .flag .table, .flag .tasklist, .flag .underline, .flag .wikilinksTitleAfterPipe,
      .flag .wikilinksTitleBeforePipe]
  | .html =>
     [.flag .escape, .flag .escapedCharSpans, .flag .figureWithCaption, .flag .fullInfoString,
      .flag .gfmQuirks, .flag .githubPreLang, .flag .hardbreaks, .headerIds,
      .flag .ignoreEmptyLinks, .flag .sourcepos, .flag .tasklistClasses, .flag .trusted,
      .flag .tagfilter, .flag .relaxedAutolinks, .linkUrlRewriter, .imageUrlRewriter]
  | .user =>
     [.flag .defaultHtml, .flag .inapplicableTasks, .flag .placeholderDetection, .flag .debug]

/-- The field of a record with a given name. -/
def Schema.field? (schema : Schema) (name : String) : Option Field :=
  schema.fields.find? fun field => field.name == name

end FlavoredMarkdown

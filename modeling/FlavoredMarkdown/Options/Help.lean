import FlavoredMarkdown.Options.Field

/-!
# What each option does

One line for every field of every record, as the command line shows it. The flat record words some of
them more briefly than the records of the stages do. Model of the `help` metadata of the fields.
-/

namespace FlavoredMarkdown

/-- What a flag does, in the records of the stages. -/
def Flag.help : Flag → String
  | .alerts => "Parse GitHub-style alerts"
  | .autolink => "Convert bare URLs into links"
  | .descriptionLists => "Parse description lists"
  | .escape => "Escape raw HTML"
  | .escapedCharSpans => "Wrap escaped characters in spans"
  | .figureWithCaption => "Wrap images in <figure> with a <figcaption> title"
  | .footnotes => "Parse footnotes"
  | .fullInfoString => "Emit the full code fence info string"
  | .gemojis => "Replace :shortcodes: with emoji"
  | .gfmQuirks => "Mimic github.com rendering quirks"
  | .githubPreLang => "Use <pre lang> for code block languages"
  | .greentext => "Treat '>' without a space as text"
  | .hardbreaks => "Render soft breaks as <br />"
  | .ignoreEmptyLinks => "Leave links with empty labels as literal text"
  | .ignoreSetext => "Ignore setext-style headings"
  | .mathCode => "Parse $`math`$ code-style math"
  | .mathDollars => "Parse $dollar$ delimited math"
  | .multilineBlockQuotes => "Parse >>> fenced block quotes"
  | .relaxedAutolinks => "Relax autolink detection inside brackets and links"
  | .relaxedTasklistCharacter => "Accept any single character as a task list symbol"
  | .sourcepos => "Emit data-sourcepos attributes"
  | .smart => "Use smart punctuation"
  | .spoiler => "Parse spoilers"
  | .strikethrough => "Parse ~~strikethrough~~"
  | .subscript => "Parse ~subscript~"
  | .superscript => "Parse ^superscript^"
  | .table => "Parse GFM tables"
  | .tagfilter => "Filter GFM disallowed raw HTML tags"
  | .tasklist => "Parse task list items"
  | .tasklistClasses => "Emit task list CSS classes"
  | .underline => "Parse ^^underline^^"
  | .trusted => "Render raw HTML and dangerous URLs"
  | .wikilinksTitleAfterPipe => "Parse [[url|title]] wikilinks"
  | .wikilinksTitleBeforePipe => "Parse [[title|url]] wikilinks"
  | .defaultHtml => "Only use default HTML formatting"
  | .inapplicableTasks => "Detect inapplicable tasks (- [~])"
  | .placeholderDetection => "Detect and mark %\x7bPLACEHOLDER\x7d variables"
  | .debug => "Log override decisions"

/-- What a field of a record does. -/
def Schema.help : Schema → Field → String
  | .html, .flag .relaxedAutolinks => "Suppress links nested directly in links"
  | .render, .flag .figureWithCaption => "Wrap images in <figure> with a caption"
  | .render, .headerIds => "Prefix for heading anchor ids"
  | .render, .flag .relaxedAutolinks => "Relax autolink detection"
  | .render, .flag .relaxedTasklistCharacter => "Accept any character as a task symbol"
  | .render, .flag .placeholderDetection => "Detect and mark %%\x7bPLACEHOLDER\x7d variables"
  | _, .flag f => f.help
  | _, .headerIds => "Prefix for heading anchor ids (enables anchors)"
  | _, .linkUrlRewriter => "Callable rewriting link URLs"
  | _, .imageUrlRewriter => "Callable rewriting image URLs"

/-- Whether a field can be given on the command line, where no rewriter can be written down. -/
def Field.onCommandLine : Field → Bool
  | .linkUrlRewriter | .imageUrlRewriter => false
  | _ => true

end FlavoredMarkdown

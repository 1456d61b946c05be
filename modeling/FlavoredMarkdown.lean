import FlavoredMarkdown.Anchor
import FlavoredMarkdown.Config.Environment
import FlavoredMarkdown.Config.Error
import FlavoredMarkdown.Config.File
import FlavoredMarkdown.Config.Json
import FlavoredMarkdown.Config.Toml
import FlavoredMarkdown.Config.Yaml
import FlavoredMarkdown.Config.Yaml.Plain
import FlavoredMarkdown.Config.Yaml.Scalar
import FlavoredMarkdown.Decimal.Shortest
import FlavoredMarkdown.Document.Checked
import FlavoredMarkdown.Document.Node
import FlavoredMarkdown.Document.PlainText
import FlavoredMarkdown.Document.Walk
import FlavoredMarkdown.Host
import FlavoredMarkdown.Html.Escape
import FlavoredMarkdown.Html.TagFilter
import FlavoredMarkdown.Log
import FlavoredMarkdown.Main
import FlavoredMarkdown.Markdown.Block
import FlavoredMarkdown.Markdown.Description
import FlavoredMarkdown.Markdown.Dialect
import FlavoredMarkdown.Markdown.Draft
import FlavoredMarkdown.Markdown.Emphasis
import FlavoredMarkdown.Markdown.Footnote
import FlavoredMarkdown.Markdown.Inline
import FlavoredMarkdown.Markdown.Line
import FlavoredMarkdown.Markdown.Link
import FlavoredMarkdown.Markdown.Meaning
import FlavoredMarkdown.Markdown.Piece
import FlavoredMarkdown.Markdown.RawHtml
import FlavoredMarkdown.Markdown.Reader
import FlavoredMarkdown.Markdown.Table
import FlavoredMarkdown.Markdown.TaskMarker
import FlavoredMarkdown.Markdown.Token
import FlavoredMarkdown.Number
import FlavoredMarkdown.Options.Field
import FlavoredMarkdown.Options.Help
import FlavoredMarkdown.Options.Settings
import FlavoredMarkdown.Path
import FlavoredMarkdown.Placeholder
import FlavoredMarkdown.Program.Argument
import FlavoredMarkdown.Program.Invocation
import FlavoredMarkdown.Program.Journal
import FlavoredMarkdown.Program.Merge
import FlavoredMarkdown.Program.Run
import FlavoredMarkdown.Render
import FlavoredMarkdown.Render.Default
import FlavoredMarkdown.Render.Formatter
import FlavoredMarkdown.Render.Override
import FlavoredMarkdown.Render.Page
import FlavoredMarkdown.Render.Visit
import FlavoredMarkdown.Report
import FlavoredMarkdown.Text.Blank
import FlavoredMarkdown.Text.CaseTable
import FlavoredMarkdown.Text.DecimalDigit
import FlavoredMarkdown.Text.Digits
import FlavoredMarkdown.Text.Entity
import FlavoredMarkdown.Text.EntityTable
import FlavoredMarkdown.Text.LetterCase
import FlavoredMarkdown.Text.Printable
import FlavoredMarkdown.Text.Punctuation
import FlavoredMarkdown.Text.Quoted
import FlavoredMarkdown.Text.Ranges
import FlavoredMarkdown.Text.Split
import FlavoredMarkdown.Text.Utf8
import FlavoredMarkdown.Text.WordChar
import FlavoredMarkdown.Url.Danger
import FlavoredMarkdown.Url.Encoded
import FlavoredMarkdown.Url.Href
import FlavoredMarkdown.Url.Rewriter
import FlavoredMarkdown.Value
import FlavoredMarkdown.Proofs.Traversal
import FlavoredMarkdown.Proofs.Flattening
import FlavoredMarkdown.Proofs.Emission
import FlavoredMarkdown.Proofs.Failure
import FlavoredMarkdown.Proofs.Overrides
import FlavoredMarkdown.Proofs.Detection
import FlavoredMarkdown.Proofs.Nesting
import FlavoredMarkdown.Proofs.WellNested
import FlavoredMarkdown.Proofs.Completion
import FlavoredMarkdown.Proofs.Blocks
import FlavoredMarkdown.Proofs.SafeUrl
import FlavoredMarkdown.Proofs.TokenMeaning
import FlavoredMarkdown.Proofs.Census
import FlavoredMarkdown.Proofs.Markers
import FlavoredMarkdown.Proofs.VisibleText
import FlavoredMarkdown.Proofs.Transcript
import FlavoredMarkdown.Proofs.Anchors
import FlavoredMarkdown.Proofs.Occurrences
import FlavoredMarkdown.Proofs.Backlinks
import FlavoredMarkdown.Proofs.Footnotes
import FlavoredMarkdown.Proofs.Identifiers
import FlavoredMarkdown.Proofs.Answers
import FlavoredMarkdown.Proofs.CommonMarkup
import FlavoredMarkdown.Proofs.Noninterference
import FlavoredMarkdown.Proofs.Images
import FlavoredMarkdown.Proofs.TaskLists
import FlavoredMarkdown.Proofs.TaskItems
import FlavoredMarkdown.Proofs.TaskMarking
import FlavoredMarkdown.Proofs.TaskSymbols
import FlavoredMarkdown.Proofs.OptionRecords
import FlavoredMarkdown.Proofs.AcceptedOptions
import FlavoredMarkdown.Proofs.OptionPriority
import FlavoredMarkdown.Proofs.Unplace
import FlavoredMarkdown.Proofs.Positions
import FlavoredMarkdown.Proofs.PlaceholderMatches
import FlavoredMarkdown.Proofs.PercentDecoding
import FlavoredMarkdown.Proofs.OptionParts
import FlavoredMarkdown.Proofs.EmptyLinks
import FlavoredMarkdown.Proofs.DisarmedTags
import FlavoredMarkdown.Proofs.CodeLanguages
import FlavoredMarkdown.Proofs.InlineMerging
import FlavoredMarkdown.Proofs.ConfigFiles
import FlavoredMarkdown.Proofs.EncodedPlaceholders
import FlavoredMarkdown.Proofs.AnchorSearch
import FlavoredMarkdown.Proofs.OptionChecks

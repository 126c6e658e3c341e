import CrossRef.CommandLine.Command
import CrossRef.CommandLine.Options
import CrossRef.CommandLine.Run
import CrossRef.Content.PageName
import CrossRef.Content.Paragraph
import CrossRef.Content.Style
import CrossRef.Document
import CrossRef.Entries
import CrossRef.Failure
import CrossRef.HomePath
import CrossRef.Json.Basic
import CrossRef.Json.Reader
import CrossRef.Json.Writer
import CrossRef.Log
import CrossRef.Main
import CrossRef.Number.Binary64
import CrossRef.Number.Format
import CrossRef.Number.Numeral
import CrossRef.Number.Shortest
import CrossRef.Output.Html
import CrossRef.Output.Node
import CrossRef.Output.Workbench
import CrossRef.Proofs.CommandLine.HtmlPage
import CrossRef.Proofs.CommandLine.SettingsFile
import CrossRef.Proofs.CommandLine.Verbatim
import CrossRef.Proofs.Content.Collapsed
import CrossRef.Proofs.Document.Addresses
import CrossRef.Proofs.Document.Binding
import CrossRef.Proofs.Document.DefaultOutput
import CrossRef.Proofs.Document.History
import CrossRef.Proofs.Document.Lookup
import CrossRef.Proofs.Document.Passes
import CrossRef.Proofs.Document.Registers
import CrossRef.Proofs.Document.Resolution
import CrossRef.Proofs.Document.Run
import CrossRef.Proofs.Document.Unlinked
import CrossRef.Proofs.Json.Number
import CrossRef.Proofs.Json.Plain
import CrossRef.Proofs.Json.RoundTrip
import CrossRef.Proofs.Json.String
import CrossRef.Proofs.Number.Digits
import CrossRef.Proofs.Number.Order
import CrossRef.Proofs.Number.Plain
import CrossRef.Proofs.Number.ReadBack
import CrossRef.Proofs.Number.Rounding
import CrossRef.Proofs.Output.CategoryLink
import CrossRef.Proofs.Output.Decoding
import CrossRef.Proofs.Output.Elements
import CrossRef.Proofs.Output.Form
import CrossRef.Proofs.Output.HtmlReader
import CrossRef.Proofs.Output.Merged
import CrossRef.Proofs.Output.Outline
import CrossRef.Proofs.Output.ShownContent
import CrossRef.Proofs.PageName.BlankContent
import CrossRef.Proofs.PageName.Canonical
import CrossRef.Proofs.PageName.CollapsedContent
import CrossRef.Proofs.PageName.Composition
import CrossRef.Proofs.PageName.FenceLaw
import CrossRef.Proofs.PageName.GapScan
import CrossRef.Proofs.PageName.Spelling
import CrossRef.Proofs.PageName.Start
import CrossRef.Proofs.PageName.ZeroWidth
import CrossRef.Proofs.Reference.Category
import CrossRef.Proofs.Reference.ComposedPage
import CrossRef.Proofs.Reference.Normalised
import CrossRef.Proofs.Reference.Resolution
import CrossRef.Proofs.Reference.Styling
import CrossRef.Proofs.Report.FontSize
import CrossRef.Proofs.Report.InferredPage
import CrossRef.Proofs.Report.Screen
import CrossRef.Proofs.Report.Verbatim
import CrossRef.Proofs.Report.ZeroWidth
import CrossRef.Proofs.Settings.Reload
import CrossRef.Proofs.Settings.Saving
import CrossRef.Proofs.Settings.Validity
import CrossRef.Proofs.Spaced
import CrossRef.Proofs.Terminal.Clock
import CrossRef.Proofs.Terminal.ControlSequence
import CrossRef.Proofs.Terminal.Emoji
import CrossRef.Proofs.Terminal.Layout
import CrossRef.Proofs.Terminal.Literal
import CrossRef.Proofs.Terminal.Pieces
import CrossRef.Proofs.Terminal.Thinning
import CrossRef.Proofs.Terminal.Wrapping
import CrossRef.Proofs.Text.Composition.Idempotence
import CrossRef.Proofs.Text.Composition.Letters
import CrossRef.Proofs.Text.Composition.Stable
import CrossRef.Proofs.Text.Encoding
import CrossRef.Proofs.Text.Percent
import CrossRef.Proofs.Text.Separator
import CrossRef.Proofs.Words
import CrossRef.Reference.Basic
import CrossRef.Reference.Binding
import CrossRef.Reference.Output
import CrossRef.Report.Basic
import CrossRef.Report.PageName
import CrossRef.Report.Reference
import CrossRef.Report.Screen
import CrossRef.Report.Settings
import CrossRef.Scope
import CrossRef.Settings.Basic
import CrossRef.Settings.File
import CrossRef.Settings.Validation
import CrossRef.Terminal.Colour
import CrossRef.Terminal.Console
import CrossRef.Terminal.ControlSequence
import CrossRef.Terminal.Emoji
import CrossRef.Terminal.EmojiNames
import CrossRef.Terminal.Markup
import CrossRef.Terminal.Screen
import CrossRef.Terminal.StyleName
import CrossRef.Terminal.Width
import CrossRef.Terminal.Wrapping
import CrossRef.Text.Blank
import CrossRef.Text.Composition.Basic
import CrossRef.Text.Composition.Decomposition
import CrossRef.Text.Composition.Order
import CrossRef.Text.Digit
import CrossRef.Text.Greek
import CrossRef.Text.Hex
import CrossRef.Text.Pattern
import CrossRef.Text.Percent
import CrossRef.Text.Printable
import CrossRef.Text.Quoted
import CrossRef.Text.Script
import CrossRef.Text.Table
import CrossRef.Text.Utf8
import CrossRef.Text.Word
import CrossRef.Yaml.Implicit
import CrossRef.Yaml.Scalar
import CrossRef.Yaml.Writer
import CrossRef.Proofs.Output.BookmarkLink
import CrossRef.Proofs.Log
import CrossRef.Proofs.Content.Normalised
import CrossRef.Proofs.Output.ClassList

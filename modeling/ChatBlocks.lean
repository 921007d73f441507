import ChatBlocks.Assembly
import ChatBlocks.Block
import ChatBlocks.Block.Json
import ChatBlocks.CommandLine
import ChatBlocks.CommandLine.Arguments
import ChatBlocks.CommandLine.Help
import ChatBlocks.Config
import ChatBlocks.Config.File
import ChatBlocks.Conversion
import ChatBlocks.Environment
import ChatBlocks.FileTree
import ChatBlocks.Files
import ChatBlocks.Input
import ChatBlocks.Json.Printer
import ChatBlocks.Json.Reader
import ChatBlocks.Json.Record
import ChatBlocks.Json.Stream
import ChatBlocks.Json.Value
import ChatBlocks.Main
import ChatBlocks.Markdown.Definition
import ChatBlocks.Markdown.Document
import ChatBlocks.Markdown.Emphasis
import ChatBlocks.Markdown.Entity
import ChatBlocks.Markdown.EntityTable
import ChatBlocks.Markdown.Event
import ChatBlocks.Markdown.Html
import ChatBlocks.Markdown.Inline
import ChatBlocks.Markdown.Interrupt
import ChatBlocks.Markdown.LabelFold
import ChatBlocks.Markdown.LineStart
import ChatBlocks.Markdown.Node
import ChatBlocks.Markdown.Piece
import ChatBlocks.Markdown.Punctuation
import ChatBlocks.Markdown.Scan
import ChatBlocks.Markdown.Source
import ChatBlocks.Markdown.Structure
import ChatBlocks.Markdown.Table
import ChatBlocks.Markdown.Target
import ChatBlocks.Proofs.AssemblyNotes
import ChatBlocks.Proofs.BlankBlocks
import ChatBlocks.Proofs.BlankGaps
import ChatBlocks.Proofs.BlankText
import ChatBlocks.Proofs.BuilderForest
import ChatBlocks.Proofs.Checkboxes
import ChatBlocks.Proofs.Concatenation
import ChatBlocks.Proofs.ConfigRoundTrip
import ChatBlocks.Proofs.Delimiters
import ChatBlocks.Proofs.EscapedText
import ChatBlocks.Proofs.EventForest
import ChatBlocks.Proofs.ForestTokens
import ChatBlocks.Proofs.FormattingErased
import ChatBlocks.Proofs.GivenFlags
import ChatBlocks.Proofs.InlineMarkup
import ChatBlocks.Proofs.ItemLines
import ChatBlocks.Proofs.JsonLayout
import ChatBlocks.Proofs.JsonReading
import ChatBlocks.Proofs.JsonRecords
import ChatBlocks.Proofs.JsonScalars
import ChatBlocks.Proofs.JsonStreaming
import ChatBlocks.Proofs.JsonText
import ChatBlocks.Proofs.LeafSequence
import ChatBlocks.Proofs.ListLines
import ChatBlocks.Proofs.ListWalk
import ChatBlocks.Proofs.LiteralText
import ChatBlocks.Proofs.LoneImages
import ChatBlocks.Proofs.LooseLists
import ChatBlocks.Proofs.MessageRoundTrip
import ChatBlocks.Proofs.NestedMarkers
import ChatBlocks.Proofs.NormalForm
import ChatBlocks.Proofs.OptionEffects
import ChatBlocks.Proofs.QuoteMarkers
import ChatBlocks.Proofs.QuotedSections
import ChatBlocks.Proofs.RunOutcome
import ChatBlocks.Proofs.SavedFiles
import ChatBlocks.Proofs.SettingsText
import ChatBlocks.Proofs.Slices
import ChatBlocks.Proofs.SourceTiling
import ChatBlocks.Proofs.StackDiscipline
import ChatBlocks.Proofs.TableGrid
import ChatBlocks.Proofs.TextLines
import ChatBlocks.Proofs.TextPieces
import ChatBlocks.Proofs.TokenRoundTrip
import ChatBlocks.Proofs.VerbatimCode
import ChatBlocks.Proofs.WordOffsets
import ChatBlocks.Proofs.WrittenAlike
import ChatBlocks.Render.Cell
import ChatBlocks.Render.Inline
import ChatBlocks.Render.List
import ChatBlocks.Render.Options
import ChatBlocks.Render.Plain
import ChatBlocks.Text.Alphanumeric
import ChatBlocks.Text.Blank
import ChatBlocks.Text.Cursor
import ChatBlocks.Text.Lines
import ChatBlocks.Text.Numeral
import ChatBlocks.Token.Basic
import ChatBlocks.Token.Builder
import ChatBlocks.Token.Json
import ChatBlocks.Toml.Printer
import ChatBlocks.Toml.Quoted
import ChatBlocks.Toml.Reader
import ChatBlocks.Toml.Scalar
import ChatBlocks.Toml.Table
import ChatBlocks.Toml.Value

import Blockbook.Command.Arguments
import Blockbook.Command.Run
import Blockbook.Component.Descriptor
import Blockbook.Component.Doc
import Blockbook.Component.Wire
import Blockbook.Decimal.Shortest
import Blockbook.File.Basic
import Blockbook.File.Tree
import Blockbook.Fragment
import Blockbook.Json.Basic
import Blockbook.Json.Number
import Blockbook.Json.Parser
import Blockbook.Json.Pointer
import Blockbook.Json.Printer
import Blockbook.Json.Reader
import Blockbook.Log
import Blockbook.Main
import Blockbook.Markup.Element
import Blockbook.Markup.Escape
import Blockbook.Markup.Highlight
import Blockbook.Markup.Layout
import Blockbook.Markup.Token
import Blockbook.Module.ExportName
import Blockbook.Module.Import
import Blockbook.Module.Inject
import Blockbook.Module.Load
import Blockbook.Module.Options
import Blockbook.Module.Registration
import Blockbook.Panel.Table
import Blockbook.Path
import Blockbook.Proofs.Blank
import Blockbook.Proofs.Component.Merge
import Blockbook.Proofs.Component.Unnamed
import Blockbook.Proofs.Component.Wire
import Blockbook.Proofs.Decimal.Shortest
import Blockbook.Proofs.Fragment
import Blockbook.Proofs.Json.Canonical
import Blockbook.Proofs.Json.Form
import Blockbook.Proofs.Json.Members
import Blockbook.Proofs.Json.Numeral
import Blockbook.Proofs.Json.OneLine
import Blockbook.Proofs.Json.ReadBack
import Blockbook.Proofs.Json.Record
import Blockbook.Proofs.Markup.Construct
import Blockbook.Proofs.Markup.Escape
import Blockbook.Proofs.Markup.Expression
import Blockbook.Proofs.Markup.Highlight
import Blockbook.Proofs.Markup.Idempotence
import Blockbook.Proofs.Markup.Piece
import Blockbook.Proofs.Markup.RawText
import Blockbook.Proofs.Markup.Reduce
import Blockbook.Proofs.Markup.Respaced
import Blockbook.Proofs.Markup.Run
import Blockbook.Proofs.Markup.Scan
import Blockbook.Proofs.Markup.Solid
import Blockbook.Proofs.Markup.Structure
import Blockbook.Proofs.Markup.Tag
import Blockbook.Proofs.Markup.Tree
import Blockbook.Proofs.Markup.Words
import Blockbook.Proofs.Module.Declare
import Blockbook.Proofs.Module.Import
import Blockbook.Proofs.Module.Inject
import Blockbook.Proofs.Module.Pipeline
import Blockbook.Proofs.Panel.Faithful
import Blockbook.Proofs.Panel.Shown
import Blockbook.Proofs.Position
import Blockbook.Proofs.RoundTrip
import Blockbook.Proofs.Search
import Blockbook.Proofs.Slice
import Blockbook.Proofs.Slot.Declaration
import Blockbook.Proofs.Split
import Blockbook.Proofs.Story.Wire
import Blockbook.Proofs.Template.Block
import Blockbook.Proofs.Template.Builder
import Blockbook.Proofs.Template.Coverage
import Blockbook.Proofs.Template.Cut
import Blockbook.Proofs.Template.Dash
import Blockbook.Proofs.Template.Draft
import Blockbook.Proofs.Template.Excerpt
import Blockbook.Proofs.Template.Fault
import Blockbook.Proofs.Template.Nesting
import Blockbook.Proofs.Template.Outline
import Blockbook.Proofs.Template.Registry
import Blockbook.Proofs.Template.Segment
import Blockbook.Proofs.Template.Shift
import Blockbook.Proofs.Template.Spelling
import Blockbook.Proofs.Template.Statement
import Blockbook.Proofs.Template.Tag
import Blockbook.Proofs.Template.Wire
import Blockbook.Slot.Basic
import Blockbook.Slot.Scan
import Blockbook.Span
import Blockbook.Story.Basic
import Blockbook.Story.Wire
import Blockbook.Template.Error
import Blockbook.Template.Grammar
import Blockbook.Template.Kind
import Blockbook.Template.Node
import Blockbook.Template.Registry
import Blockbook.Template.Render
import Blockbook.Template.Segment
import Blockbook.Template.Token
import Blockbook.Template.Wire
import Blockbook.Text.Alphabetic
import Blockbook.Text.Basic
import Blockbook.Text.Blank
import Blockbook.Text.CodeRange
import Blockbook.Text.Numeric
import Blockbook.Text.Quoted
import Blockbook.Text.Word

import Manuscript.Calendar
import Manuscript.CommandLine.Arguments
import Manuscript.CommandLine.Encoding
import Manuscript.CommandLine.Files
import Manuscript.CommandLine.Path
import Manuscript.CommandLine.Run
import Manuscript.Convert.Batch
import Manuscript.Convert.Document
import Manuscript.Document.Block
import Manuscript.Document.Compose
import Manuscript.Document.Kind
import Manuscript.Document.Spacing
import Manuscript.Document.Token
import Manuscript.Formula.Bridge
import Manuscript.Formula.Entities
import Manuscript.Formula.Expression
import Manuscript.Formula.Fault
import Manuscript.Formula.Lexeme
import Manuscript.Formula.Office
import Manuscript.Formula.Presentation
import Manuscript.Formula.Source
import Manuscript.Formula.Standard
import Manuscript.Formula.Symbol
import Manuscript.Inline.Format
import Manuscript.Inline.Span
import Manuscript.Log
import Manuscript.Main
import Manuscript.Markdown.Block
import Manuscript.Markdown.Event
import Manuscript.Markdown.Html
import Manuscript.Markdown.Line
import Manuscript.Markdown.Opening
import Manuscript.Markdown.Reading
import Manuscript.Markdown.Reference
import Manuscript.Markdown.Structure
import Manuscript.Markdown.Table
import Manuscript.Markdown.Tokens
import Manuscript.Number.Double
import Manuscript.Number.Shortest
import Manuscript.Package.Assembly
import Manuscript.Package.Fault
import Manuscript.Package.Measure
import Manuscript.Package.Numbering
import Manuscript.Package.Paragraphs
import Manuscript.Package.Runs
import Manuscript.Package.Styles
import Manuscript.Package.Tables
import Manuscript.Package.Template
import Manuscript.Proofs.CommandLine.Destination
import Manuscript.Proofs.CommandLine.Effects
import Manuscript.Proofs.CommandLine.Writing
import Manuscript.Proofs.Convert.Blanks
import Manuscript.Proofs.Convert.Independence
import Manuscript.Proofs.Convert.ListStart
import Manuscript.Proofs.Convert.Spacers
import Manuscript.Proofs.Convert.Uses
import Manuscript.Proofs.Document.Grid
import Manuscript.Proofs.Document.InStep
import Manuscript.Proofs.Document.Joints
import Manuscript.Proofs.Document.Locality
import Manuscript.Proofs.Document.Report
import Manuscript.Proofs.Document.Shares
import Manuscript.Proofs.Document.Spacing
import Manuscript.Proofs.Document.Trace
import Manuscript.Proofs.Formula.Braces
import Manuscript.Proofs.Formula.Calls
import Manuscript.Proofs.Formula.Containment
import Manuscript.Proofs.Formula.Gate
import Manuscript.Proofs.Formula.Naming
import Manuscript.Proofs.Formula.Pipeline
import Manuscript.Proofs.Formula.Questions
import Manuscript.Proofs.Formula.Stages
import Manuscript.Proofs.Formula.Upright
import Manuscript.Proofs.Formula.Verdict
import Manuscript.Proofs.Formula.Warmth
import Manuscript.Proofs.Inline.Alone
import Manuscript.Proofs.Inline.Cut
import Manuscript.Proofs.Inline.Resolution
import Manuscript.Proofs.Markdown.Attribution
import Manuscript.Proofs.Markdown.Breaks
import Manuscript.Proofs.Markdown.Characters
import Manuscript.Proofs.Markdown.Forest
import Manuscript.Proofs.Markdown.FrontMatter
import Manuscript.Proofs.Markdown.Item
import Manuscript.Proofs.Markdown.LeftOut
import Manuscript.Proofs.Markdown.Ordered
import Manuscript.Proofs.Markdown.Place
import Manuscript.Proofs.Markdown.Recovery
import Manuscript.Proofs.Markdown.Separation
import Manuscript.Proofs.Package.Acceptance
import Manuscript.Proofs.Package.Append
import Manuscript.Proofs.Package.Body
import Manuscript.Proofs.Package.Borders
import Manuscript.Proofs.Package.Content
import Manuscript.Proofs.Package.Grid
import Manuscript.Proofs.Package.Insertion
import Manuscript.Proofs.Package.Numbering
import Manuscript.Proofs.Package.Order
import Manuscript.Proofs.Style.Merge
import Manuscript.Proofs.Style.Refusal
import Manuscript.Proofs.Success
import Manuscript.Proofs.Work
import Manuscript.Style.Config
import Manuscript.Style.Override
import Manuscript.Text.Blank
import Manuscript.Text.Digits
import Manuscript.Text.Lines
import Manuscript.Text.Pattern
import Manuscript.Text.Printable
import Manuscript.Text.Quoted
import Manuscript.Value.Basic
import Manuscript.Work
import Manuscript.Xml.Document
import Manuscript.Xml.Tree
import Manuscript.Yaml.Cursor
import Manuscript.Yaml.Load
import Manuscript.Yaml.Node
import Manuscript.Yaml.Scalar
import Manuscript.Yaml.Token

import Archimate.Architecture
import Archimate.Architecture.Assembly
import Archimate.Choice
import Archimate.Command
import Archimate.Command.Arguments
import Archimate.Command.Report
import Archimate.Conventions
import Archimate.Dictionary
import Archimate.Digraph
import Archimate.Digraph.Search
import Archimate.Document
import Archimate.Document.Body
import Archimate.Document.Declaration
import Archimate.Document.Form
import Archimate.Element
import Archimate.Element.Kind
import Archimate.Failure
import Archimate.Files
import Archimate.Files.Name
import Archimate.Files.Path
import Archimate.Finding
import Archimate.Json
import Archimate.Json.Model
import Archimate.Json.Print
import Archimate.Json.Read
import Archimate.Json.Reading
import Archimate.Json.Reading.Number
import Archimate.Literal
import Archimate.Literal.Parse
import Archimate.Loader
import Archimate.Log
import Archimate.Main
import Archimate.Number.Binary64
import Archimate.Number.Shortest
import Archimate.Number.Whole
import Archimate.Proofs.Architecture.Checked
import Archimate.Proofs.Architecture.Duplicates
import Archimate.Proofs.Architecture.Filing
import Archimate.Proofs.Architecture.Merge
import Archimate.Proofs.Architecture.Names
import Archimate.Proofs.Architecture.Tolerance
import Archimate.Proofs.Choice.Spelling
import Archimate.Proofs.Command.Agreement
import Archimate.Proofs.Dictionary
import Archimate.Proofs.Dictionary.Update
import Archimate.Proofs.Digraph.ClosedWalk
import Archimate.Proofs.Digraph.Components
import Archimate.Proofs.Digraph.CycleRoots
import Archimate.Proofs.Digraph.EdgeOrder
import Archimate.Proofs.Digraph.Edges
import Archimate.Proofs.Digraph.Locality
import Archimate.Proofs.Digraph.Loop
import Archimate.Proofs.Digraph.Outcome
import Archimate.Proofs.Digraph.Recursion
import Archimate.Proofs.Digraph.Search
import Archimate.Proofs.Digraph.Walk
import Archimate.Proofs.Document.Comment
import Archimate.Proofs.Document.Composition
import Archimate.Proofs.Document.Decomposition
import Archimate.Proofs.Document.Deletion
import Archimate.Proofs.Document.FieldLine
import Archimate.Proofs.Document.Grammar
import Archimate.Proofs.Document.IdleLine
import Archimate.Proofs.Document.Layout
import Archimate.Proofs.Document.Line
import Archimate.Proofs.Document.LineEnds
import Archimate.Proofs.Document.ListField
import Archimate.Proofs.Document.Overlong
import Archimate.Proofs.Document.Parse
import Archimate.Proofs.Document.Scan
import Archimate.Proofs.Document.Values
import Archimate.Proofs.Files
import Archimate.Proofs.Json.Findings
import Archimate.Proofs.Json.Properties
import Archimate.Proofs.Literal.Arguments
import Archimate.Proofs.Literal.Blanks
import Archimate.Proofs.Literal.ListForm
import Archimate.Proofs.Literal.Numbers
import Archimate.Proofs.Literal.QuotedArguments
import Archimate.Proofs.Literal.Written
import Archimate.Proofs.Loader.File
import Archimate.Proofs.Loader.Isolation
import Archimate.Proofs.Relationship.CycleCount
import Archimate.Proofs.Relationship.Cycles
import Archimate.Proofs.Relationship.Findings
import Archimate.Proofs.Relationship.Growth
import Archimate.Proofs.Relationship.Interleaving
import Archimate.Proofs.Relationship.Members
import Archimate.Proofs.Relationship.MissingTypes
import Archimate.Proofs.Relationship.PairReports
import Archimate.Proofs.Relationship.PairText
import Archimate.Proofs.Relationship.Pairs
import Archimate.Proofs.Relationship.Placeholder
import Archimate.Proofs.Relationship.StructuralPart
import Archimate.Proofs.Relationship.Views
import Archimate.Proofs.Run.Answers
import Archimate.Proofs.Run.Validity
import Archimate.Proofs.Service.Operation
import Archimate.Proofs.Sorting
import Archimate.Proofs.Store.History
import Archimate.Proofs.Store.Write
import Archimate.Proofs.Text.Ends
import Archimate.Proofs.Text.Newline
import Archimate.Proofs.Text.Pieces
import Archimate.Proofs.Text.Words
import Archimate.Proofs.Web.Effect
import Archimate.Proofs.Web.Frame
import Archimate.Proofs.Web.Properties
import Archimate.Proofs.Web.Question
import Archimate.Proofs.Web.Repeat
import Archimate.Proofs.Web.Routing
import Archimate.Proofs.Web.SentFile
import Archimate.Proofs.Web.Verdict
import Archimate.Proofs.Web.Views
import Archimate.Record
import Archimate.Relationship
import Archimate.Relationship.Guide
import Archimate.Relationship.Validation
import Archimate.Service
import Archimate.Settings
import Archimate.Text.Blank
import Archimate.Text.CodePoint
import Archimate.Text.Digit
import Archimate.Text.Encoding
import Archimate.Text.LetterCase
import Archimate.Text.Order
import Archimate.Text.Quoted
import Archimate.Text.Split
import Archimate.Text.Utf8
import Archimate.Text.Utf8.Lemmas
import Archimate.Text.Word
import Archimate.Web.Address
import Archimate.Web.Answer
import Archimate.Web.Answer.Change
import Archimate.Web.Answer.Question
import Archimate.Web.Endpoint
import Archimate.Web.ModelText
import Archimate.Web.Response



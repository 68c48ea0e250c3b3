import ThreeAddress.Analysis
import ThreeAddress.Build.Run
import ThreeAddress.Build.Sources
import ThreeAddress.Build.Tokens
import ThreeAddress.Build.Unit
import ThreeAddress.Bytes
import ThreeAddress.Cache.Record
import ThreeAddress.Cache.Store
import ThreeAddress.Code.Check
import ThreeAddress.Code.Generator
import ThreeAddress.Code.Opcode
import ThreeAddress.Code.Sink
import ThreeAddress.CommandLine.Command
import ThreeAddress.CommandLine.Console
import ThreeAddress.CommandLine.Flag
import ThreeAddress.CommandLine.Request
import ThreeAddress.CommandLine.Run
import ThreeAddress.DataType.Basic
import ThreeAddress.DataType.Width
import ThreeAddress.Diagnostic.Bag
import ThreeAddress.Diagnostic.Basic
import ThreeAddress.Diagnostic.Code
import ThreeAddress.Diagnostic.Report
import ThreeAddress.Environment
import ThreeAddress.Expr.Basic
import ThreeAddress.Expr.Build
import ThreeAddress.Fault
import ThreeAddress.Files.Error
import ThreeAddress.Files.Replace
import ThreeAddress.Files.System
import ThreeAddress.Files.Tree
import ThreeAddress.Lexer.Basic
import ThreeAddress.Lexer.CharLiteral
import ThreeAddress.Lexer.Character
import ThreeAddress.Lexer.Cursor
import ThreeAddress.Lexer.Name
import ThreeAddress.Lexer.Number
import ThreeAddress.Lexer.Scan
import ThreeAddress.Lexer.Trivia
import ThreeAddress.Main
import ThreeAddress.Manifest
import ThreeAddress.MessagePack.Read
import ThreeAddress.MessagePack.Write
import ThreeAddress.Parse.Event
import ThreeAddress.Parse.Expression
import ThreeAddress.Parse.Statement
import ThreeAddress.Parse.Step
import ThreeAddress.Parse.TypeName
import ThreeAddress.Path
import ThreeAddress.Progress.Board
import ThreeAddress.Progress.Event
import ThreeAddress.Progress.View
import ThreeAddress.Proofs.Analysis.Checking
import ThreeAddress.Proofs.Analysis.Completion
import ThreeAddress.Proofs.Analysis.Denotation
import ThreeAddress.Proofs.Analysis.Emission
import ThreeAddress.Proofs.Analysis.Frames
import ThreeAddress.Proofs.Analysis.IntegerLiterals
import ThreeAddress.Proofs.Analysis.Limits
import ThreeAddress.Proofs.Analysis.Listening
import ThreeAddress.Proofs.Analysis.Operands
import ThreeAddress.Proofs.Analysis.Places
import ThreeAddress.Proofs.Analysis.Recovery
import ThreeAddress.Proofs.Analysis.Refusal
import ThreeAddress.Proofs.Analysis.Rereading
import ThreeAddress.Proofs.Analysis.Running
import ThreeAddress.Proofs.Analysis.SinkFailure
import ThreeAddress.Proofs.Analysis.Spans
import ThreeAddress.Proofs.Analysis.Spelling
import ThreeAddress.Proofs.Analysis.Storage
import ThreeAddress.Proofs.Analysis.Syntax
import ThreeAddress.Proofs.Analysis.WellFormed
import ThreeAddress.Proofs.Analysis.Withholding
import ThreeAddress.Proofs.Build.CacheTransparency
import ThreeAddress.Proofs.Build.Courses
import ThreeAddress.Proofs.Build.Events
import ThreeAddress.Proofs.Build.Failure
import ThreeAddress.Proofs.Build.Footprints
import ThreeAddress.Proofs.Build.Hiding
import ThreeAddress.Proofs.Build.Outputs
import ThreeAddress.Proofs.Build.Schedules
import ThreeAddress.Proofs.Build.Spellings
import ThreeAddress.Proofs.Build.Steps
import ThreeAddress.Proofs.Build.Texts
import ThreeAddress.Proofs.Cache.Record
import ThreeAddress.Proofs.Cache.Store
import ThreeAddress.Proofs.Cache.Writing
import ThreeAddress.Proofs.Code.Acceptance
import ThreeAddress.Proofs.Code.Atoms
import ThreeAddress.Proofs.Code.BoundedSink
import ThreeAddress.Proofs.Code.Execution
import ThreeAddress.Proofs.Code.Lines
import ThreeAddress.Proofs.Code.Listing
import ThreeAddress.Proofs.Code.PostOrder
import ThreeAddress.Proofs.Code.Recording
import ThreeAddress.Proofs.Code.Soundness
import ThreeAddress.Proofs.DataType.Width
import ThreeAddress.Proofs.Diagnostic.Accounts
import ThreeAddress.Proofs.Diagnostic.Bag
import ThreeAddress.Proofs.Diagnostic.Repeats
import ThreeAddress.Proofs.Environment.Blocks
import ThreeAddress.Proofs.Environment.Layout
import ThreeAddress.Proofs.Files.Effects
import ThreeAddress.Proofs.Files.Places
import ThreeAddress.Proofs.Files.Relative
import ThreeAddress.Proofs.Files.Replacement
import ThreeAddress.Proofs.Files.WellFormed
import ThreeAddress.Proofs.Lexer.Bounds
import ThreeAddress.Proofs.Lexer.Complaints
import ThreeAddress.Proofs.Lexer.IntegerText
import ThreeAddress.Proofs.Lexer.Lexemes
import ThreeAddress.Proofs.Lexer.Lookahead
import ThreeAddress.Proofs.Lexer.NumberEnd
import ThreeAddress.Proofs.Lexer.Relayout
import ThreeAddress.Proofs.Lexer.Rescanning
import ThreeAddress.Proofs.Lexer.Separation
import ThreeAddress.Proofs.Lexer.Spans
import ThreeAddress.Proofs.Lexer.Tiling
import ThreeAddress.Proofs.Lexer.TokenText
import ThreeAddress.Proofs.MessagePack.RoundTrip
import ThreeAddress.Proofs.Parse.Combinators
import ThreeAddress.Proofs.Parse.Completeness
import ThreeAddress.Proofs.Parse.Events
import ThreeAddress.Proofs.Parse.Grammar
import ThreeAddress.Proofs.Parse.Looking
import ThreeAddress.Proofs.Parse.Nesting
import ThreeAddress.Proofs.Parse.Places
import ThreeAddress.Proofs.Parse.Printing
import ThreeAddress.Proofs.Parse.Recovery
import ThreeAddress.Proofs.Parse.Scopes
import ThreeAddress.Proofs.Parse.Soundness
import ThreeAddress.Proofs.Parse.Spans
import ThreeAddress.Proofs.Parse.Stack
import ThreeAddress.Proofs.Parse.Statements
import ThreeAddress.Proofs.Parse.Turns
import ThreeAddress.Proofs.Parse.TypeText
import ThreeAddress.Proofs.Parse.Unfold
import ThreeAddress.Proofs.Progress.Board
import ThreeAddress.Proofs.Render.Carets
import ThreeAddress.Proofs.Render.Showing
import ThreeAddress.Proofs.Source.Lines
import ThreeAddress.Proofs.Source.Loading
import ThreeAddress.Proofs.Source.Positions
import ThreeAddress.Proofs.Text.Decimal
import ThreeAddress.Proofs.Text.Encoding
import ThreeAddress.Proofs.Text.Fields
import ThreeAddress.Proofs.Text.IntegerReading
import ThreeAddress.Proofs.Text.Splitting
import ThreeAddress.Proofs.Trace.Ring
import ThreeAddress.Proofs.Unicode.Clusters
import ThreeAddress.Proofs.Unicode.Plain
import ThreeAddress.Proofs.Unicode.WhiteSpace
import ThreeAddress.Render.Document
import ThreeAddress.Render.Location
import ThreeAddress.Render.Pretty
import ThreeAddress.Render.Style
import ThreeAddress.Render.TokenList
import ThreeAddress.Source.File
import ThreeAddress.Source.Load
import ThreeAddress.Source.Span
import ThreeAddress.Text.EditDistance
import ThreeAddress.Text.Fields
import ThreeAddress.Text.Fixed
import ThreeAddress.Text.FloatRange
import ThreeAddress.Text.Integer
import ThreeAddress.Text.Json
import ThreeAddress.Text.Letters
import ThreeAddress.Text.Quoted
import ThreeAddress.Text.Sha256
import ThreeAddress.Text.Utf8
import ThreeAddress.Timer
import ThreeAddress.Token.Basic
import ThreeAddress.Token.Check
import ThreeAddress.Token.Kind
import ThreeAddress.Toml.Document
import ThreeAddress.Toml.Event
import ThreeAddress.Toml.Number
import ThreeAddress.Toml.Text
import ThreeAddress.Trace.Event
import ThreeAddress.Trace.Level
import ThreeAddress.Trace.Setup
import ThreeAddress.Trace.Tracer
import ThreeAddress.Unicode.CellWidth
import ThreeAddress.Unicode.CombiningClass
import ThreeAddress.Unicode.Decomposition
import ThreeAddress.Unicode.Digit
import ThreeAddress.Unicode.DisplayWidth
import ThreeAddress.Unicode.GraphemeBreak
import ThreeAddress.Unicode.GraphemeCluster
import ThreeAddress.Unicode.Letter
import ThreeAddress.Unicode.NonStarter
import ThreeAddress.Unicode.NonspacingMark
import ThreeAddress.Unicode.Normalization
import ThreeAddress.Unicode.Printable
import ThreeAddress.Unicode.Range
import ThreeAddress.Version

import Refactory.Batch
import Refactory.Batch.Plan
import Refactory.Batch.Report
import Refactory.Build
import Refactory.Cli
import Refactory.Cli.Arguments
import Refactory.Cli.Command
import Refactory.Cli.Table
import Refactory.Datum
import Refactory.Fault
import Refactory.Files.Disk
import Refactory.Files.Encoding
import Refactory.Files.FilePath
import Refactory.Files.Parse
import Refactory.Grammar.Canonical
import Refactory.Grammar.Cursor
import Refactory.Grammar.Escape
import Refactory.Grammar.Formatted
import Refactory.Grammar.Lexer
import Refactory.Grammar.Numeral
import Refactory.Grammar.PatternReader
import Refactory.Grammar.Position
import Refactory.Grammar.Statement
import Refactory.Grammar.StatementReader
import Refactory.Grammar.Term
import Refactory.Grammar.TermReader
import Refactory.Grammar.Token
import Refactory.Journal
import Refactory.Modernize.ImportSource
import Refactory.Modernize.Order
import Refactory.Modernize.Returns
import Refactory.Modernize.Strings
import Refactory.Modernize.Template
import Refactory.Modernize.Unused
import Refactory.Modernize.Version
import Refactory.Number
import Refactory.Number.Double
import Refactory.Number.Shortest
import Refactory.Proofs.Batch.Idempotent
import Refactory.Proofs.Batch.Report
import Refactory.Proofs.Batch.Run
import Refactory.Proofs.Batch.Stops
import Refactory.Proofs.Batch.Writing
import Refactory.Proofs.Build.Captures
import Refactory.Proofs.Build.Count
import Refactory.Proofs.Build.Ensures
import Refactory.Proofs.Build.Escapes
import Refactory.Proofs.Build.Fit
import Refactory.Proofs.Build.Parameters
import Refactory.Proofs.Build.Rereading
import Refactory.Proofs.Build.Starts
import Refactory.Proofs.Build.Tally
import Refactory.Proofs.Grammar.Alike
import Refactory.Proofs.Grammar.Blocks
import Refactory.Proofs.Grammar.Captured
import Refactory.Proofs.Grammar.Chains
import Refactory.Proofs.Grammar.Display
import Refactory.Proofs.Grammar.Enclosed
import Refactory.Proofs.Grammar.Escaping
import Refactory.Proofs.Grammar.Forward
import Refactory.Proofs.Grammar.Level
import Refactory.Proofs.Grammar.Lexing
import Refactory.Proofs.Grammar.Lines
import Refactory.Proofs.Grammar.Literal
import Refactory.Proofs.Grammar.Locality
import Refactory.Proofs.Grammar.Mark
import Refactory.Proofs.Grammar.Primary
import Refactory.Proofs.Grammar.ReadBack
import Refactory.Proofs.Grammar.Reading
import Refactory.Proofs.Grammar.Recovery
import Refactory.Proofs.Grammar.Scanning
import Refactory.Proofs.Grammar.Setting
import Refactory.Proofs.Grammar.Stretch
import Refactory.Proofs.Grammar.Unwritable
import Refactory.Proofs.Grammar.Verbatim
import Refactory.Proofs.Modernize.Attached
import Refactory.Proofs.Modernize.Braces
import Refactory.Proofs.Modernize.Complete
import Refactory.Proofs.Modernize.Dropped
import Refactory.Proofs.Modernize.Fields
import Refactory.Proofs.Modernize.Fit
import Refactory.Proofs.Modernize.Formatting
import Refactory.Proofs.Modernize.Fresh
import Refactory.Proofs.Modernize.Honest
import Refactory.Proofs.Modernize.Lookups
import Refactory.Proofs.Modernize.Naming
import Refactory.Proofs.Modernize.Onward
import Refactory.Proofs.Modernize.Order
import Refactory.Proofs.Modernize.Percent
import Refactory.Proofs.Modernize.Runs
import Refactory.Proofs.Modernize.Scope
import Refactory.Proofs.Modernize.Settled
import Refactory.Proofs.Modernize.Sources
import Refactory.Proofs.Modernize.Splice
import Refactory.Proofs.Modernize.Standing
import Refactory.Proofs.Modernize.Strings
import Refactory.Proofs.Modernize.Total
import Refactory.Proofs.Modernize.Unmentioned
import Refactory.Proofs.Modernize.Version
import Refactory.Proofs.Modernize.Visible
import Refactory.Proofs.Render.Ahead
import Refactory.Proofs.Render.Faults
import Refactory.Proofs.Render.Fields
import Refactory.Proofs.Render.First
import Refactory.Proofs.Render.Heads
import Refactory.Proofs.Render.Ink
import Refactory.Proofs.Render.Layout
import Refactory.Proofs.Render.Legible
import Refactory.Proofs.Render.Lenient
import Refactory.Proofs.Render.Modes
import Refactory.Proofs.Render.OneLine
import Refactory.Proofs.Render.Outline
import Refactory.Proofs.Render.Parameters
import Refactory.Proofs.Render.Script
import Refactory.Proofs.Render.Suites
import Refactory.Proofs.Render.Validated
import Refactory.Proofs.Rewrite.Children
import Refactory.Proofs.Rewrite.Congruence
import Refactory.Proofs.Rewrite.Faults
import Refactory.Proofs.Rewrite.Outcome
import Refactory.Proofs.Rewrite.Perform
import Refactory.Proofs.Rewrite.Settle
import Refactory.Proofs.Rewrite.Sweep
import Refactory.Proofs.Rewrite.Visits
import Refactory.Proofs.Session.ByReference
import Refactory.Proofs.Session.Effect
import Refactory.Proofs.Session.References
import Refactory.Proofs.Session.Undo
import Refactory.Proofs.Source.Reindent
import Refactory.Proofs.Tree.Content
import Refactory.Proofs.Tree.Definitions
import Refactory.Proofs.Tree.Exprs
import Refactory.Proofs.Tree.Imports
import Refactory.Proofs.Tree.Names
import Refactory.Proofs.Tree.Nodes
import Refactory.Proofs.Tree.Paths
import Refactory.Proofs.Tree.Places
import Refactory.Proofs.Tree.Replacement
import Refactory.Query
import Refactory.Query.Records
import Refactory.Render.Expr
import Refactory.Render.Literal
import Refactory.Render.Precedence
import Refactory.Render.Stmt
import Refactory.Rewrite
import Refactory.Session
import Refactory.Session.Change
import Refactory.Session.Edits
import Refactory.Snippet
import Refactory.Source.Indent
import Refactory.Source.Rows
import Refactory.Text
import Refactory.Text.Class
import Refactory.Text.Compatible
import Refactory.Text.Digit
import Refactory.Text.Identifier
import Refactory.Text.Lower
import Refactory.Text.Names
import Refactory.Text.Quoted
import Refactory.Text.Table.Compatibility
import Refactory.Text.Table.Digit
import Refactory.Text.Table.Identifier
import Refactory.Text.Table.Lower
import Refactory.Text.Table.Printable
import Refactory.Text.Table.Width
import Refactory.Text.Width
import Refactory.Tree.Equality
import Refactory.Tree.Expr
import Refactory.Tree.Path
import Refactory.Tree.Stmt
import Refactory.Tree.Walk

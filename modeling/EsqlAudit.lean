import EsqlAudit.Analysis.Files
import EsqlAudit.Analysis.Source
import EsqlAudit.Bench.All
import EsqlAudit.Bench.Basic
import EsqlAudit.Bench.Command
import EsqlAudit.Bench.Report
import EsqlAudit.Bench.Source
import EsqlAudit.Command.Arguments
import EsqlAudit.Command.Invocation
import EsqlAudit.Command.Run
import EsqlAudit.Command.Usage
import EsqlAudit.Comment.Basic
import EsqlAudit.Comment.Header
import EsqlAudit.Comment.Inventory
import EsqlAudit.Comment.Module
import EsqlAudit.Comment.Todo
import EsqlAudit.Complexity.Cognitive
import EsqlAudit.Complexity.Cyclomatic
import EsqlAudit.Complexity.Halstead
import EsqlAudit.Complexity.Memo
import EsqlAudit.Complexity.Session
import EsqlAudit.Complexity.Vocabulary
import EsqlAudit.Cursor.Basic
import EsqlAudit.Cursor.Issue
import EsqlAudit.Cursor.Loop
import EsqlAudit.Decimal.Binary
import EsqlAudit.Decimal.Fixed
import EsqlAudit.Decimal.Reader
import EsqlAudit.Decimal.Shortest
import EsqlAudit.Files.Name
import EsqlAudit.Files.Path
import EsqlAudit.Files.Search
import EsqlAudit.Files.Tree
import EsqlAudit.Function.Basic
import EsqlAudit.Function.BeginEnd
import EsqlAudit.Function.Tree
import EsqlAudit.Grammar.Expression
import EsqlAudit.Grammar.Statement
import EsqlAudit.Grammar.Token
import EsqlAudit.Grammar.Unit
import EsqlAudit.Json.Display
import EsqlAudit.Json.Printer
import EsqlAudit.Json.Reader
import EsqlAudit.Json.Record
import EsqlAudit.Json.Value
import EsqlAudit.Main
import EsqlAudit.Memory.Allocation
import EsqlAudit.Memory.Dangerous
import EsqlAudit.Memory.Examination
import EsqlAudit.Memory.Issue
import EsqlAudit.Memory.PointerSize
import EsqlAudit.Proofs.Analysis.Attribution
import EsqlAudit.Proofs.Analysis.Faults
import EsqlAudit.Proofs.Analysis.Switches
import EsqlAudit.Proofs.Outcome
import EsqlAudit.Proofs.Analysis.Namesakes
import EsqlAudit.Proofs.Complexity.Halstead
import EsqlAudit.Proofs.Complexity.Readable
import EsqlAudit.Proofs.Sql.DeclareSection
import EsqlAudit.Proofs.Sql.Exec
import EsqlAudit.Proofs.Sql.ExecFree
import EsqlAudit.Proofs.Sql.Positions
import EsqlAudit.Proofs.Sql.Statements
import EsqlAudit.Proofs.Syntax.Lines
import EsqlAudit.Proofs.Syntax.Readable
import EsqlAudit.Proofs.Text.Keyword
import EsqlAudit.Proofs.Text.Lines
import EsqlAudit.Proofs.Text.Occurrences
import EsqlAudit.Proofs.Text.Reading
import EsqlAudit.Proofs.Text.Splice
import EsqlAudit.Report.Basic
import EsqlAudit.Report.Console
import EsqlAudit.Report.Csv
import EsqlAudit.Report.Document
import EsqlAudit.Report.Grading
import EsqlAudit.Report.Html
import EsqlAudit.Report.Markdown
import EsqlAudit.Report.Markup
import EsqlAudit.Report.Script
import EsqlAudit.Report.Style
import EsqlAudit.Report.Terminal
import EsqlAudit.Round.Coverage
import EsqlAudit.Round.Fault
import EsqlAudit.Round.Page
import EsqlAudit.Round.Plateau
import EsqlAudit.Round.RepoTime
import EsqlAudit.Round.Report
import EsqlAudit.Round.Runner
import EsqlAudit.Round.SelfCheck
import EsqlAudit.Round.Value
import EsqlAudit.Sql.Block
import EsqlAudit.Sql.Statement
import EsqlAudit.Syntax.Kind
import EsqlAudit.Syntax.Node
import EsqlAudit.Syntax.Program
import EsqlAudit.Table
import EsqlAudit.Text.Alphanumeric
import EsqlAudit.Text.Basic
import EsqlAudit.Text.Blank
import EsqlAudit.Text.CaseTable
import EsqlAudit.Text.LetterCase
import EsqlAudit.Text.Line
import EsqlAudit.Text.Numeral
import EsqlAudit.Text.Pattern
import EsqlAudit.Text.Printable
import EsqlAudit.Text.Quoted
import EsqlAudit.Text.Search
import EsqlAudit.Text.Similarity
import EsqlAudit.Text.Utf8
import EsqlAudit.Workload.Sample
import EsqlAudit.Workload.Source
import EsqlAudit.Proofs.Grammar.Definitions
import EsqlAudit.Proofs.Grammar.Structured
import EsqlAudit.Proofs.Grammar.Lexemes
import EsqlAudit.Proofs.Grammar.RoundTrip
import EsqlAudit.Proofs.Complexity.Cyclomatic
import EsqlAudit.Proofs.Complexity.Structured
import EsqlAudit.Analysis.Analyzer
import EsqlAudit.Proofs.Analysis.History
import EsqlAudit.Proofs.Report.Pages
import EsqlAudit.Proofs.Cursor.Loops
import EsqlAudit.Proofs.Files.Selection
import EsqlAudit.Proofs.Analysis.FileSets
import EsqlAudit.Proofs.Comment.Inventory
import EsqlAudit.Proofs.Report.Totals
import EsqlAudit.Proofs.Report.Csv
import EsqlAudit.Proofs.Sql.Exhaustive
import EsqlAudit.Proofs.Sql.Composition
import EsqlAudit.Proofs.Complexity.Details
import EsqlAudit.Proofs.Complexity.Structures
import EsqlAudit.Proofs.Complexity.Sequences
import EsqlAudit.Proofs.Complexity.Decisions
import EsqlAudit.Proofs.Complexity.Levels
import EsqlAudit.Proofs.Grammar.Layout
import EsqlAudit.Proofs.Grammar.Switch
import EsqlAudit.Proofs.Complexity.Labels
import EsqlAudit.Proofs.Cursor.Reopening
import EsqlAudit.Proofs.Complexity.Vocabulary
import EsqlAudit.Proofs.Syntax.Decoding
import EsqlAudit.Proofs.Grammar.MarkedTrees
import EsqlAudit.Proofs.Complexity.Operators
import EsqlAudit.Proofs.Cursor.Consistency
import EsqlAudit.Proofs.Memory.Findings
import EsqlAudit.Proofs.Memory.Sites
import EsqlAudit.Proofs.Memory.Windows
import EsqlAudit.Proofs.Memory.Agreement
import EsqlAudit.Proofs.Text.Words
import EsqlAudit.Proofs.Function.LineRanges
import EsqlAudit.Proofs.Memory.Calls
import EsqlAudit.Proofs.Comment.Tags
import EsqlAudit.Proofs.Comment.Lines
import EsqlAudit.Proofs.Comment.Marks
import EsqlAudit.Proofs.Comment.Todos
import EsqlAudit.Proofs.Function.Nesting
import EsqlAudit.Proofs.Function.Pointers
import EsqlAudit.Proofs.Complexity.Runs
import EsqlAudit.Proofs.Files.Folding
import EsqlAudit.Proofs.LineNumbers
import EsqlAudit.Proofs.Function.Comments
import EsqlAudit.Proofs.Files.PatternLists
import EsqlAudit.Proofs.Round.Plateau
import EsqlAudit.Proofs.Memory.Passes

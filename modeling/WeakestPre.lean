import WeakestPre.Binary64.Notation
import WeakestPre.Binary64.Numeral
import WeakestPre.CommandLine.Run
import WeakestPre.Construction.Part
import WeakestPre.Document.Json
import WeakestPre.Document.Yaml.Reader
import WeakestPre.Grammar.Reading
import WeakestPre.Main
import WeakestPre.Platform
import WeakestPre.Report
import WeakestPre.Settings
import WeakestPre.Stack
import WeakestPre.Standard
import WeakestPre.Stmt.Identity
import WeakestPre.Stmt.Printer
import WeakestPre.Stmt.Similar
import WeakestPre.Text.Casing
import WeakestPre.Text.Quoted
import WeakestPre.Text.Utf8
import WeakestPre.Token.Cursor
import WeakestPre.Proofs.Execution
import WeakestPre.Proofs.Grammar.Expression
import WeakestPre.Proofs.Grammar.Statement
import WeakestPre.Proofs.Grammar.Exchange
import WeakestPre.Proofs.Grammar.Reading
import WeakestPre.Proofs.Grammar.Lookahead
import WeakestPre.Proofs.Grammar.Completion
import WeakestPre.Proofs.Grammar.Depth
import WeakestPre.Proofs.Grammar.Progress
import WeakestPre.Proofs.Grammar.Fault
import WeakestPre.Proofs.Token.Layout
import WeakestPre.Proofs.Token.Joining
import WeakestPre.Proofs.Token.Spacing
import WeakestPre.Proofs.Stmt.Proper
import WeakestPre.Proofs.Derivation
import WeakestPre.Proofs.Stack
import WeakestPre.Proofs.Stmt.Flattening
import WeakestPre.Proofs.Grammar.Placement
import WeakestPre.Proofs.Grammar.Block
import WeakestPre.Proofs.Composition
import WeakestPre.Proofs.Expr.Grouping
import WeakestPre.Proofs.Grammar.Printed
import WeakestPre.Proofs.Expr.Leaves
import WeakestPre.Proofs.Expr.Variables
import WeakestPre.Proofs.Expr.Replacement
import WeakestPre.Proofs.Grammar.Rereading
import WeakestPre.Proofs.Grammar.SourceText
import WeakestPre.Proofs.Binary64.Numeral
import WeakestPre.Proofs.Construction.Building
import WeakestPre.Proofs.Grammar.Checked
import WeakestPre.Proofs.Grammar.Origin
import WeakestPre.Proofs.Construction.Rebuilding
import WeakestPre.Proofs.StepLog
import WeakestPre.Proofs.CommandLine.Run
import WeakestPre.Proofs.CommandLine.ProgramFile
import WeakestPre.Proofs.Document.JsonString
import WeakestPre.Proofs.Document.Json
import WeakestPre.Proofs.CommandLine.Presentation
import WeakestPre.Proofs.CommandLine.Outcome
import WeakestPre.Proofs.Settings
import WeakestPre.Proofs.Settings.Search
import WeakestPre.Proofs.Settings.Verdict
import WeakestPre.Proofs.Stmt.Liveness
import WeakestPre.Proofs.Stmt.Replacement
import WeakestPre.Proofs.Renaming
import WeakestPre.Proofs.Binary64.Closeness
import WeakestPre.Proofs.Similarity
import WeakestPre.Proofs.Stmt.Equality
import WeakestPre.Proofs.Expr.Walk
import WeakestPre.Proofs.Expr.Traversal
import WeakestPre.Proofs.Hashing
import WeakestPre.Proofs.Substitution
import WeakestPre.Proofs.Grammar.Enclosed

import TemplateEngine.CalculateError
import TemplateEngine.Config
import TemplateEngine.Decimal.Digits
import TemplateEngine.Decimal.Notation
import TemplateEngine.Decimal.Shortest
import TemplateEngine.Directive
import TemplateEngine.Directory
import TemplateEngine.Double.Arithmetic
import TemplateEngine.Double.Basic
import TemplateEngine.Environment
import TemplateEngine.Evaluate
import TemplateEngine.Expr.Basic
import TemplateEngine.Expr.Equality
import TemplateEngine.Expr.Outline
import TemplateEngine.Function.Builtin
import TemplateEngine.Function.Registry
import TemplateEngine.Grammar.Content
import TemplateEngine.Grammar.Document
import TemplateEngine.Grammar.Expression
import TemplateEngine.Inheritance
import TemplateEngine.Json.Basic
import TemplateEngine.Json.Data
import TemplateEngine.Json.Printer
import TemplateEngine.Json.Reader
import TemplateEngine.Json.ToData
import TemplateEngine.Loader
import TemplateEngine.Node.Basic
import TemplateEngine.Node.Equality
import TemplateEngine.Number
import TemplateEngine.Operator.Apply
import TemplateEngine.Operator.Basic
import TemplateEngine.ParseError
import TemplateEngine.Path
import TemplateEngine.Pattern.Basic
import TemplateEngine.Pattern.BinaryProperty
import TemplateEngine.Pattern.Break
import TemplateEngine.Pattern.ByteRuns
import TemplateEngine.Pattern.Category
import TemplateEngine.Pattern.CharSet
import TemplateEngine.Pattern.Intervals
import TemplateEngine.Pattern.Match
import TemplateEngine.Pattern.Parser
import TemplateEngine.Pattern.Property
import TemplateEngine.Pattern.Script
import TemplateEngine.Pattern.Size
import TemplateEngine.Position
import TemplateEngine.Proofs.Blame.Expression
import TemplateEngine.Proofs.Blame.Sources
import TemplateEngine.Proofs.Blame.Statements
import TemplateEngine.Proofs.Content.Address
import TemplateEngine.Proofs.Content.Joined
import TemplateEngine.Proofs.Content.Parts
import TemplateEngine.Proofs.Content.Replacement
import TemplateEngine.Proofs.Content.Substitution
import TemplateEngine.Proofs.Document.Concatenation
import TemplateEngine.Proofs.Document.Content
import TemplateEngine.Proofs.Document.Openers
import TemplateEngine.Proofs.Document.Print
import TemplateEngine.Proofs.Document.RoundTrip
import TemplateEngine.Proofs.Document.Segments
import TemplateEngine.Proofs.Document.Slots
import TemplateEngine.Proofs.Document.Statements
import TemplateEngine.Proofs.Document.Stray
import TemplateEngine.Proofs.Document.Tags
import TemplateEngine.Proofs.Document.WellFormed
import TemplateEngine.Proofs.Double.Rounding
import TemplateEngine.Proofs.Evaluation.Agreement
import TemplateEngine.Proofs.Evaluation.Fallbacks
import TemplateEngine.Proofs.Evaluation.Maps
import TemplateEngine.Proofs.Evaluation.Ranges
import TemplateEngine.Proofs.Evaluation.Sums
import TemplateEngine.Proofs.Except
import TemplateEngine.Proofs.Expression.Bases
import TemplateEngine.Proofs.Expression.Print
import TemplateEngine.Proofs.Expression.Readable
import TemplateEngine.Proofs.Expression.RoundTrip
import TemplateEngine.Proofs.Expression.WellFormed
import TemplateEngine.Proofs.Function.Format
import TemplateEngine.Proofs.Function.Sorting
import TemplateEngine.Proofs.Grammar.BlockNames
import TemplateEngine.Proofs.Grammar.Cursor
import TemplateEngine.Proofs.Grammar.Follow
import TemplateEngine.Proofs.Grammar.Inversion
import TemplateEngine.Proofs.Grammar.Loops
import TemplateEngine.Proofs.Grammar.Looseness
import TemplateEngine.Proofs.Grammar.Recursion
import TemplateEngine.Proofs.Grammar.StatementInversion
import TemplateEngine.Proofs.Grammar.StatementYield
import TemplateEngine.Proofs.Grammar.Stays
import TemplateEngine.Proofs.Grammar.Yield
import TemplateEngine.Proofs.Inheritance.Bound
import TemplateEngine.Proofs.Inheritance.Chain
import TemplateEngine.Proofs.Inheritance.Override
import TemplateEngine.Proofs.Json.KeyOrder
import TemplateEngine.Proofs.Json.Laws
import TemplateEngine.Proofs.Json.Library
import TemplateEngine.Proofs.Json.RoundTrip
import TemplateEngine.Proofs.Json.Tokens
import TemplateEngine.Proofs.List
import TemplateEngine.Proofs.Locality.Bases
import TemplateEngine.Proofs.Locality.Brackets
import TemplateEngine.Proofs.Locality.Content
import TemplateEngine.Proofs.Locality.Expression
import TemplateEngine.Proofs.Locality.Halt
import TemplateEngine.Proofs.Locality.Statements
import TemplateEngine.Proofs.Locality.Tags
import TemplateEngine.Proofs.Number
import TemplateEngine.Proofs.Operator.Comparison
import TemplateEngine.Proofs.Operator.Matching
import TemplateEngine.Proofs.Operator.Membership
import TemplateEngine.Proofs.Operator.WholeNumbers
import TemplateEngine.Proofs.Path.Below
import TemplateEngine.Proofs.Path.Components
import TemplateEngine.Proofs.Pattern.Enclosed
import TemplateEngine.Proofs.Pattern.Ending
import TemplateEngine.Proofs.Pattern.Places
import TemplateEngine.Proofs.Position
import TemplateEngine.Proofs.Rendering.Calls
import TemplateEngine.Proofs.Rendering.Cutoff
import TemplateEngine.Proofs.Rendering.Evaluations
import TemplateEngine.Proofs.Rendering.Extension
import TemplateEngine.Proofs.Rendering.Failures
import TemplateEngine.Proofs.Rendering.Frames
import TemplateEngine.Proofs.Rendering.Inlining
import TemplateEngine.Proofs.Rendering.Iterations
import TemplateEngine.Proofs.Rendering.Joined
import TemplateEngine.Proofs.Rendering.Names
import TemplateEngine.Proofs.Rendering.Nesting
import TemplateEngine.Proofs.Rendering.Pipelines
import TemplateEngine.Proofs.Rendering.Simulation
import TemplateEngine.Proofs.Rendering.Transcript
import TemplateEngine.Proofs.Scan.Number
import TemplateEngine.Proofs.Scan.Skipping
import TemplateEngine.Proofs.Scan.Spacing
import TemplateEngine.Proofs.Scan.Spelling
import TemplateEngine.Proofs.Scan.StringLiteral
import TemplateEngine.Proofs.Scan.Swap
import TemplateEngine.Proofs.Scan.Token
import TemplateEngine.Proofs.Scan.Word
import TemplateEngine.Proofs.Scope
import TemplateEngine.Proofs.Table
import TemplateEngine.Proofs.Text.Boundary
import TemplateEngine.Proofs.Text.Lines
import TemplateEngine.Proofs.Value.Containers
import TemplateEngine.Proofs.Value.Equivalence
import TemplateEngine.Proofs.Value.Parts
import TemplateEngine.Render
import TemplateEngine.Scan.Number
import TemplateEngine.Scan.Spacing
import TemplateEngine.Scan.StringLiteral
import TemplateEngine.Scan.Word
import TemplateEngine.Scope
import TemplateEngine.Sink
import TemplateEngine.Table
import TemplateEngine.Template
import TemplateEngine.Text.AdditionTable
import TemplateEngine.Text.AgeTable
import TemplateEngine.Text.Blank
import TemplateEngine.Text.Case
import TemplateEngine.Text.CaseTable
import TemplateEngine.Text.CategoryTable
import TemplateEngine.Text.Extent
import TemplateEngine.Text.FoldTable
import TemplateEngine.Text.PrintTable
import TemplateEngine.Text.PropertyTable
import TemplateEngine.Text.Quoted
import TemplateEngine.Text.Ranges
import TemplateEngine.Text.ScriptExtensionTable
import TemplateEngine.Text.ScriptTable
import TemplateEngine.Value.Basic
import TemplateEngine.Value.Equality
import TemplateEngine.Value.Text

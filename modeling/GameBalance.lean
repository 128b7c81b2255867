import GameBalance.Console.Arguments
import GameBalance.Console.Audit
import GameBalance.Console.Command
import GameBalance.Console.CurveTable
import GameBalance.Console.Files
import GameBalance.Console.Formulas
import GameBalance.Console.Outcome
import GameBalance.Console.Run
import GameBalance.Console.Validation
import GameBalance.Curve.Basic
import GameBalance.Curve.Table
import GameBalance.Decimal.Basic
import GameBalance.Decimal.Literal
import GameBalance.Decimal.Numeral
import GameBalance.Decimal.Shortest
import GameBalance.Decimal.Text
import GameBalance.Double.Basic
import GameBalance.Double.Power
import GameBalance.Double.Rounding
import GameBalance.Formula.Assignment
import GameBalance.Formula.Builtin
import GameBalance.Formula.Evaluation
import GameBalance.Formula.Expr
import GameBalance.Formula.Grammar
import GameBalance.Formula.Name
import GameBalance.Formula.Substitution
import GameBalance.Formula.Token
import GameBalance.Formula.Verdict
import GameBalance.Graph.Basic
import GameBalance.Graph.Order
import GameBalance.Graph.Search
import GameBalance.Json.Basic
import GameBalance.Json.Encoding
import GameBalance.Json.Number
import GameBalance.Json.Reader
import GameBalance.Json.Writer
import GameBalance.Main
import GameBalance.Proofs.Console.Audit
import GameBalance.Proofs.Curve.Agreement
import GameBalance.Proofs.Curve.Table
import GameBalance.Proofs.Decimal.Brief
import GameBalance.Proofs.Decimal.Literal
import GameBalance.Proofs.Decimal.Numeral
import GameBalance.Proofs.Decimal.ReadBack
import GameBalance.Proofs.Double.Arithmetic
import GameBalance.Proofs.Double.Bits
import GameBalance.Proofs.Double.Error
import GameBalance.Proofs.Double.Millionths
import GameBalance.Proofs.Double.Nearest
import GameBalance.Proofs.Double.Range
import GameBalance.Proofs.Double.Sign
import GameBalance.Proofs.Formula.Absence
import GameBalance.Proofs.Formula.Acceptance
import GameBalance.Proofs.Formula.Adjacency
import GameBalance.Proofs.Formula.Answer
import GameBalance.Proofs.Formula.Balance
import GameBalance.Proofs.Formula.Bindings
import GameBalance.Proofs.Formula.Bookkeeping
import GameBalance.Proofs.Formula.Caseless
import GameBalance.Proofs.Formula.Checks
import GameBalance.Proofs.Formula.Derivation
import GameBalance.Proofs.Formula.Enumeration
import GameBalance.Proofs.Formula.Environment
import GameBalance.Proofs.Formula.Failures
import GameBalance.Proofs.Formula.Height
import GameBalance.Proofs.Formula.Image
import GameBalance.Proofs.Formula.Letters
import GameBalance.Proofs.Formula.Lexing
import GameBalance.Proofs.Formula.Lookahead
import GameBalance.Proofs.Formula.Mentions
import GameBalance.Proofs.Formula.Names
import GameBalance.Proofs.Formula.Operators
import GameBalance.Proofs.Formula.Phrase
import GameBalance.Proofs.Formula.Pieces
import GameBalance.Proofs.Formula.Precedence
import GameBalance.Proofs.Formula.Reading
import GameBalance.Proofs.Formula.Recognition
import GameBalance.Proofs.Formula.Renaming
import GameBalance.Proofs.Formula.Replacement
import GameBalance.Proofs.Formula.Script
import GameBalance.Proofs.Formula.Separation
import GameBalance.Proofs.Formula.Simultaneous
import GameBalance.Proofs.Formula.Soundness
import GameBalance.Proofs.Formula.Splice
import GameBalance.Proofs.Formula.Subst
import GameBalance.Proofs.Formula.Tier
import GameBalance.Proofs.Formula.Unambiguity
import GameBalance.Proofs.Formula.Unmentioned
import GameBalance.Proofs.Formula.Viability
import GameBalance.Proofs.Graph.Components
import GameBalance.Proofs.Graph.Gathering
import GameBalance.Proofs.Graph.Order
import GameBalance.Proofs.Graph.Search
import GameBalance.Proofs.Graph.Sink
import GameBalance.Proofs.Graph.Stack
import GameBalance.Proofs.Json.Encoding
import GameBalance.Proofs.Json.Number
import GameBalance.Proofs.Json.RoundTrip
import GameBalance.Proofs.Rules.Encoding
import GameBalance.Proofs.Rules.Report
import GameBalance.Proofs.Rules.RoundTrip
import GameBalance.Proofs.Stat.Agreement
import GameBalance.Proofs.Stat.Context
import GameBalance.Proofs.Stat.Dependency
import GameBalance.Proofs.Stat.Impact
import GameBalance.Proofs.Stat.Ordering
import GameBalance.Proofs.Stat.Queries
import GameBalance.Proofs.Stat.Removal
import GameBalance.Proofs.Stat.Resolution
import GameBalance.Proofs.Stat.Run
import GameBalance.Proofs.Stat.Subgraph
import GameBalance.Proofs.Stat.Values
import GameBalance.Proofs.Text.ByteOrder
import GameBalance.Proofs.Text.Hex
import GameBalance.Proofs.Text.Words
import GameBalance.Proofs.Yaml.Block
import GameBalance.Proofs.Yaml.Encoding
import GameBalance.Proofs.Yaml.Layout
import GameBalance.Proofs.Yaml.Reader
import GameBalance.Proofs.Yaml.Scalar
import GameBalance.Proofs.Yaml.Token
import GameBalance.Proofs.Yaml.Written
import GameBalance.Rules.Basic
import GameBalance.Rules.Document
import GameBalance.Rules.Edit
import GameBalance.Rules.Encoding
import GameBalance.Rules.Format
import GameBalance.Rules.Report
import GameBalance.Skill.Basic
import GameBalance.Skill.Verdict
import GameBalance.Stat.Basic
import GameBalance.Stat.Dependency
import GameBalance.Stat.Preview
import GameBalance.Text.Blank
import GameBalance.Text.Bytes
import GameBalance.Text.Case
import GameBalance.Text.CaseTable
import GameBalance.Text.Hex
import GameBalance.Text.Path
import GameBalance.Text.PrintTable
import GameBalance.Text.Quoted
import GameBalance.Text.Split
import GameBalance.Text.Word
import GameBalance.Text.WordTable
import GameBalance.Yaml.Basic
import GameBalance.Yaml.Block
import GameBalance.Yaml.Encoding
import GameBalance.Yaml.Reader
import GameBalance.Yaml.Resolution
import GameBalance.Yaml.Scalar
import GameBalance.Yaml.Token
import GameBalance.Yaml.Writer

import Enunciado.Analysis.Basic
import Enunciado.Analysis.Paraphrase
import Enunciado.Analysis.Report
import Enunciado.Analysis.Validation
import Enunciado.Binary64.Basic
import Enunciado.Binary64.Decimal
import Enunciado.CommandLine.Markup
import Enunciado.CommandLine.Options
import Enunciado.CommandLine.Run
import Enunciado.Display
import Enunciado.Formula.Basic
import Enunciado.Formula.Document
import Enunciado.Formula.Parser
import Enunciado.Formula.Printer
import Enunciado.Formula.Semantics
import Enunciado.Formula.Token
import Enunciado.History
import Enunciado.Json.Basic
import Enunciado.Json.Literal
import Enunciado.Json.Number
import Enunciado.Json.Printer
import Enunciado.Json.Reader
import Enunciado.Json.Writer
import Enunciado.Main
import Enunciado.Proofs.Analysis.Acceptance
import Enunciado.Proofs.Analysis.Declarations
import Enunciado.Proofs.Analysis.Document
import Enunciado.Proofs.Analysis.Entailment
import Enunciado.Proofs.Analysis.Extraction
import Enunciado.Proofs.Analysis.Failure
import Enunciado.Proofs.Analysis.Given
import Enunciado.Proofs.Analysis.LongNumber
import Enunciado.Proofs.Analysis.Outcome
import Enunciado.Proofs.Analysis.Paraphrase
import Enunciado.Proofs.Analysis.Preview
import Enunciado.Proofs.Analysis.Sameness
import Enunciado.Proofs.Analysis.Stages
import Enunciado.Proofs.Analysis.Undeclared
import Enunciado.Proofs.Analysis.Verdict
import Enunciado.Proofs.Binary64.Decimal
import Enunciado.Proofs.Binary64.Digits
import Enunciado.Proofs.Binary64.Order
import Enunciado.Proofs.Binary64.Rounding
import Enunciado.Proofs.CommandLine.Effects
import Enunciado.Proofs.CommandLine.ShowHistory
import Enunciado.Proofs.Formula.Beginning
import Enunciado.Proofs.Formula.Branch
import Enunciado.Proofs.Formula.Brevity
import Enunciado.Proofs.Formula.Cursor
import Enunciado.Proofs.Formula.Depth
import Enunciado.Proofs.Formula.Failure
import Enunciado.Proofs.Formula.Falsity
import Enunciado.Proofs.Formula.Grammar
import Enunciado.Proofs.Formula.Lexemes
import Enunciado.Proofs.Formula.Nesting
import Enunciado.Proofs.Formula.Parentheses
import Enunciado.Proofs.Formula.Parsing
import Enunciado.Proofs.Formula.Reading
import Enunciado.Proofs.Formula.RoundTrip
import Enunciado.Proofs.Formula.Semantics
import Enunciado.Proofs.Formula.Tokens
import Enunciado.Proofs.Formula.Words
import Enunciado.Proofs.History.Entries
import Enunciado.Proofs.History.Files
import Enunciado.Proofs.History.Interruption
import Enunciado.Proofs.History.Limits
import Enunciado.Proofs.History.Queue
import Enunciado.Proofs.History.Reading
import Enunciado.Proofs.Json.Digits
import Enunciado.Proofs.Json.Fields
import Enunciado.Proofs.Json.Lines
import Enunciado.Proofs.Json.Number
import Enunciado.Proofs.Json.Numeral
import Enunciado.Proofs.Json.Reading
import Enunciado.Proofs.Json.RoundTrip
import Enunciado.Proofs.Json.Text
import Enunciado.Proofs.Json.Writer
import Enunciado.Proofs.Prose.Accents
import Enunciado.Proofs.Prose.Block
import Enunciado.Proofs.Prose.Clause
import Enunciado.Proofs.Prose.Conditional
import Enunciado.Proofs.Prose.Denial
import Enunciado.Proofs.Prose.Juxtaposition
import Enunciado.Proofs.Prose.Normal
import Enunciado.Proofs.Prose.Preference
import Enunciado.Proofs.Prose.Recognition
import Enunciado.Proofs.Prose.Relationship
import Enunciado.Proofs.Prose.Sentence
import Enunciado.Proofs.Prose.Slices
import Enunciado.Proofs.Prose.Spacing
import Enunciado.Proofs.Prose.Splitting
import Enunciado.Proofs.Prose.Terms
import Enunciado.Proofs.Prose.Unchecked
import Enunciado.Proofs.Prose.Wording
import Enunciado.Proofs.Settings.Environment
import Enunciado.Proofs.Settings.Limits
import Enunciado.Proofs.Settings.RoundTrip
import Enunciado.Proofs.Storage.Directory
import Enunciado.Proofs.Storage.Elsewhere
import Enunciado.Proofs.Storage.Encoding
import Enunciado.Proofs.Storage.Footprint
import Enunciado.Proofs.Storage.Path
import Enunciado.Proofs.Text.Blank
import Enunciado.Proofs.Text.CodeRange
import Enunciado.Proofs.Text.Decomposition
import Enunciado.Proofs.Text.LowerForm
import Enunciado.Proofs.Text.Lowercase
import Enunciado.Proofs.Text.Mark
import Enunciado.Proofs.Text.Word
import Enunciado.Proofs.Traversal
import Enunciado.Proofs.TruthTable.Assignments
import Enunciado.Proofs.TruthTable.Numbering
import Enunciado.Proofs.TruthTable.Rows
import Enunciado.Proofs.TruthTable.Strictness
import Enunciado.Proofs.TruthTable.Symbols
import Enunciado.Proofs.TruthTable.Verdict
import Enunciado.Proposition
import Enunciado.Prose.Clause
import Enunciado.Prose.Conditional
import Enunciado.Prose.Match
import Enunciado.Prose.Normal
import Enunciado.Prose.Relationship
import Enunciado.Prose.Sentence
import Enunciado.Prose.Unchecked
import Enunciado.Settings.Basic
import Enunciado.Settings.EnvironmentFile
import Enunciado.Settings.Source
import Enunciado.Settings.Target
import Enunciado.Storage.Change
import Enunciado.Storage.Directory
import Enunciado.Storage.Encoding
import Enunciado.Storage.Fault
import Enunciado.Storage.Path
import Enunciado.Text.Alphanumeric
import Enunciado.Text.Blank
import Enunciado.Text.CaseTable
import Enunciado.Text.CodeRange
import Enunciado.Text.Digit
import Enunciado.Text.Lowercase
import Enunciado.Text.Mark
import Enunciado.Text.MarkTable
import Enunciado.Text.Printable
import Enunciado.Text.Quoted
import Enunciado.Text.Word
import Enunciado.TruthTable.Basic
import Enunciado.TruthTable.Layout

import EventSieve.Text.Blank
import EventSieve.Text.Case
import EventSieve.Text.Digit
import EventSieve.Text.Identifier
import EventSieve.Text.Normal
import EventSieve.Text.Printable
import EventSieve.Text.Ranges
import EventSieve.Text.Quoted
import EventSieve.Number.Binary64
import EventSieve.Number.Shortest
import EventSieve.Number.Numeral
import EventSieve.Number.Reading
import EventSieve.Path
import EventSieve.Value
import EventSieve.Value.Equality
import EventSieve.Value.LogLine
import EventSieve.Value.Text
import EventSieve.Literal
import EventSieve.Problem
import EventSieve.Expression.Lexer
import EventSieve.Expression.Numbers
import EventSieve.Expression.Token
import EventSieve.Expression.Tree
import EventSieve.Expression.Escape
import EventSieve.Expression.Interpolation
import EventSieve.Text.CharacterName
import EventSieve.Expression.Grammar
import EventSieve.Expression.Reader
import EventSieve.Expression.Statement
import EventSieve.Number.Complex
import EventSieve.Number.Places
import EventSieve.Expression.Operand
import EventSieve.Expression.Arithmetic
import EventSieve.Number.Bits
import EventSieve.Expression.FormatSpec
import EventSieve.Expression.Sequence
import EventSieve.Expression.Directive
import EventSieve.Text.Decoding
import EventSieve.Expression.Application
import EventSieve.Expression.Evaluation
import EventSieve.Template
import EventSieve.Journal
import EventSieve.Condition
import EventSieve.Condition.Compile
import EventSieve.Condition.Surrogates
import EventSieve.StageConfig
import EventSieve.Filter
import EventSieve.Settings.Dotenv
import EventSieve.Settings
import EventSieve.Stage
import EventSieve.Sample
import EventSieve.Proofs.Text.Trimming
import EventSieve.Proofs.Journal.Records
import EventSieve.Proofs.Condition.Form
import EventSieve.Proofs.Condition.Compile
import EventSieve.Proofs.Condition.Layout
import EventSieve.Proofs.Condition.Refusal
import EventSieve.Proofs.Condition.Reporting
import EventSieve.Proofs.Filter.Building
import EventSieve.Proofs.Condition.Agreement
import EventSieve.Proofs.Number.Binary64
import EventSieve.Proofs.Number.Reading
import EventSieve.Proofs.Condition.WellFormed
import EventSieve.Proofs.Expression.Subtrees
import EventSieve.Proofs.Expression.Applications
import EventSieve.Proofs.Condition.Surrogates
import EventSieve.Proofs.Condition.Templates
import EventSieve.Proofs.Filter.Conjunction
import EventSieve.Proofs.Filter.Configuration
import EventSieve.Proofs.Expression.Dependence
import EventSieve.Proofs.Filter.Sources
import EventSieve.Proofs.Filter.Asking
import EventSieve.Proofs.Filter.Work
import EventSieve.Proofs.Stage.Starts
import EventSieve.Proofs.Value.Equality
import EventSieve.Proofs.Path.Branches
import EventSieve.Proofs.Number.Numeral
import EventSieve.Proofs.Literal.Reading
import EventSieve.Proofs.Literal.Octal
import EventSieve.Proofs.Literal.Spelling
import EventSieve.Proofs.Condition.Quotation
import EventSieve.Proofs.Condition.Distinction
import EventSieve.Proofs.Condition.Classes
import EventSieve.Proofs.Condition.Extension
import EventSieve.Proofs.Value.Nesting
import EventSieve.Proofs.Value.PartialEquivalence
import EventSieve.Proofs.Condition.FunctionNames
import EventSieve.Proofs.Expression.Needed
import EventSieve.Proofs.Stage.Names
import EventSieve.Proofs.Settings.Loading
import EventSieve.Proofs.Number.Rounding
import EventSieve.Proofs.Number.Shortest
import EventSieve.Proofs.Number.Text
import EventSieve.Proofs.Value.LineReader
import EventSieve.Proofs.Value.LogLine

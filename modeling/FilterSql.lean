import FilterSql.Calendar.Date
import FilterSql.Calendar.Instant
import FilterSql.Column
import FilterSql.Command.Answer
import FilterSql.Command.Arguments
import FilterSql.Command.Basic
import FilterSql.Command.Error
import FilterSql.Command.Run
import FilterSql.Decimal.Binary64
import FilterSql.Decimal.Layout
import FilterSql.Decimal.Nearest
import FilterSql.Decimal.Numeral
import FilterSql.Decimal.Shortest
import FilterSql.Files
import FilterSql.Filter.Basic
import FilterSql.Filter.Error
import FilterSql.Filter.Lexeme
import FilterSql.Filter.Literal
import FilterSql.Filter.Operator
import FilterSql.Filter.Parser
import FilterSql.Filter.Token
import FilterSql.Json
import FilterSql.Main
import FilterSql.Mapping
import FilterSql.Options
import FilterSql.Order
import FilterSql.Parameter
import FilterSql.Pattern.Bracket
import FilterSql.Pattern.CharSet
import FilterSql.Pattern.Escape
import FilterSql.Pattern.Flags
import FilterSql.Pattern.Node
import FilterSql.Pattern.Property
import FilterSql.Pattern.Property.CaseClass
import FilterSql.Pattern.Property.Category
import FilterSql.Pattern.Property.Letter
import FilterSql.Pattern.Property.Script
import FilterSql.Pattern.Property.Symbol
import FilterSql.Pattern.Reading
import FilterSql.Pattern.Replace
import FilterSql.Predicate
import FilterSql.Proofs.AllowList
import FilterSql.Proofs.BoundLiterals
import FilterSql.Proofs.CommandAgreement
import FilterSql.Proofs.Converted
import FilterSql.Proofs.ExactDecimal
import FilterSql.Proofs.FileFrame
import FilterSql.Proofs.FilterTokens
import FilterSql.Proofs.Grammar
import FilterSql.Proofs.JoinedTexts
import FilterSql.Proofs.LexedTokens
import FilterSql.Proofs.LexemeParts
import FilterSql.Proofs.LikePatterns
import FilterSql.Proofs.Names
import FilterSql.Proofs.Noninterference
import FilterSql.Proofs.ParserSteps
import FilterSql.Proofs.Placeholder
import FilterSql.Proofs.PrecedenceAgreement
import FilterSql.Proofs.PredicateText
import FilterSql.Proofs.Printing
import FilterSql.Proofs.QueryText
import FilterSql.Proofs.ReaderMoves
import FilterSql.Proofs.Regrouping
import FilterSql.Proofs.Rendered
import FilterSql.Proofs.RenderedTests
import FilterSql.Proofs.RenderedText
import FilterSql.Proofs.SharedBindings
import FilterSql.Proofs.SpelledTokens
import FilterSql.Proofs.Spelling
import FilterSql.Proofs.StepReader
import FilterSql.Proofs.WrittenTokens
import FilterSql.Query
import FilterSql.Rendering
import FilterSql.Report.Outline
import FilterSql.Report.Query
import FilterSql.Report.Settings
import FilterSql.Report.Styled
import FilterSql.Report.Tokens
import FilterSql.Resolver
import FilterSql.Settings
import FilterSql.Text.Blank
import FilterSql.Text.Hex
import FilterSql.Text.Name
import FilterSql.Text.OneEdit
import FilterSql.Text.Printable
import FilterSql.Text.Quoted
import FilterSql.Text.Ranges
import FilterSql.Text.Replace
import FilterSql.Toml.Quoting
import FilterSql.Toml.Reading
import FilterSql.Toml.Scalar
import FilterSql.Toml.Table
import FilterSql.Toml.Value
import FilterSql.Proofs.FirstMistake
import FilterSql.Proofs.OpenGroups
import FilterSql.Proofs.ErrorPositions
import FilterSql.Proofs.ColumnKinds
import FilterSql.Proofs.CaseFolding
import FilterSql.Proofs.QueryParts
import FilterSql.Proofs.NumberText
import FilterSql.Proofs.NumberRuns
import FilterSql.Proofs.Overflow
import FilterSql.Proofs.NullParameters
import FilterSql.Proofs.PathRenaming
import FilterSql.Proofs.ShownValues
import FilterSql.Proofs.OutlineText
import FilterSql.Proofs.ReportColours

import RecordSieve.Calendar.Date
import RecordSieve.Calendar.InternetForm
import RecordSieve.Calendar.Moment
import RecordSieve.Calendar.NumericForm
import RecordSieve.Calendar.Reader
import RecordSieve.Calendar.Template
import RecordSieve.Calendar.Writer
import RecordSieve.Collation
import RecordSieve.CommandLine.Arguments
import RecordSieve.CommandLine.Printing
import RecordSieve.CommandLine.Program
import RecordSieve.CommandLine.Report
import RecordSieve.CommandLine.Switch
import RecordSieve.Connective
import RecordSieve.Decimal.Binary64
import RecordSieve.Decimal.Digits
import RecordSieve.Decimal.Layout
import RecordSieve.Decimal.Literal
import RecordSieve.Decimal.Power
import RecordSieve.Decimal.Shortest
import RecordSieve.Duration.Basic
import RecordSieve.Duration.Reader
import RecordSieve.Failure
import RecordSieve.FieldType
import RecordSieve.FileTree
import RecordSieve.Json.Basic
import RecordSieve.Json.Numeral
import RecordSieve.Json.Path
import RecordSieve.Json.Reader
import RecordSieve.Json.Writer
import RecordSieve.Locale
import RecordSieve.Main
import RecordSieve.Operator
import RecordSieve.Options
import RecordSieve.Predicate
import RecordSieve.Proofs.Calendar.NumericScan
import RecordSieve.Proofs.Calendar.OffsetCut
import RecordSieve.Proofs.Collation.Congruence
import RecordSieve.Proofs.Outcome
import RecordSieve.Proofs.Rule.BreakOff
import RecordSieve.Proofs.Rule.Definition
import RecordSieve.Proofs.Rule.Reading
import RecordSieve.Proofs.Session.Run
import RecordSieve.Proofs.Text.Decomposition
import RecordSieve.Proofs.Text.Letter
import RecordSieve.Proofs.Text.Size
import RecordSieve.Proofs.Value.Coercion
import RecordSieve.Proofs.Value.SafeSteps
import RecordSieve.RecordText
import RecordSieve.Rule.Basic
import RecordSieve.Rule.Definition
import RecordSieve.Rule.Explanation
import RecordSieve.Session
import RecordSieve.Settings.Basic
import RecordSieve.Settings.FileFormat
import RecordSieve.Settings.KeyPath
import RecordSieve.Settings.Layer
import RecordSieve.Settings.Setting
import RecordSieve.Text.Ascii
import RecordSieve.Text.Blank
import RecordSieve.Text.CodeRange
import RecordSieve.Text.CombiningClass
import RecordSieve.Text.DecimalDigit
import RecordSieve.Text.Decomposition
import RecordSieve.Text.Decomposition.Table
import RecordSieve.Text.Escape
import RecordSieve.Text.LetterCase
import RecordSieve.Text.Line
import RecordSieve.Text.Mark
import RecordSieve.Text.Segment
import RecordSieve.Text.Size
import RecordSieve.Toml.Reader
import RecordSieve.Toml.Scalar
import RecordSieve.Toml.Strings
import RecordSieve.Toml.Tree
import RecordSieve.Value.Basic
import RecordSieve.Value.Coercion
import RecordSieve.Proofs.Collation.Relaxation
import RecordSieve.Proofs.Rule.Leaves
import RecordSieve.Proofs.Session.ReadSet
import RecordSieve.Proofs.Rule.Nodes
import RecordSieve.Proofs.Rule.LocaleUse
import RecordSieve.Proofs.Rule.Relaxation
import RecordSieve.Proofs.Collation.PlainText
import RecordSieve.Proofs.Rule.OptionScope
import RecordSieve.Proofs.Rule.Grammar
import RecordSieve.Proofs.Collation.Order
import RecordSieve.Proofs.Value.Order
import RecordSieve.Proofs.Rule.Ordering
import RecordSieve.Proofs.Rule.Duality
import RecordSieve.Proofs.Decimal.Padded
import RecordSieve.Proofs.Calendar.DigitRun
import RecordSieve.Proofs.Calendar.FormParts
import RecordSieve.Proofs.Calendar.Expressible
import RecordSieve.Proofs.Calendar.WrittenFields
import RecordSieve.Proofs.Calendar.WrittenForms
import RecordSieve.Proofs.Calendar.Rereading
import RecordSieve.Proofs.Rule.Defaults
import RecordSieve.Proofs.Rule.Membership
import RecordSieve.Proofs.Rule.SelfMatch
import RecordSieve.Proofs.CommandLine.Output
import RecordSieve.Proofs.Duration.Grammar
import RecordSieve.Proofs.Duration.Sum
import RecordSieve.Proofs.Duration.Designators
import RecordSieve.Proofs.Duration.Elapsed
import RecordSieve.Proofs.Text.Blank
import RecordSieve.Proofs.Duration.Reading
import RecordSieve.Proofs.Text.NormalForm
import RecordSieve.Proofs.Collation.Completeness
import RecordSieve.Proofs.Calendar.Fallback
import RecordSieve.Proofs.Calendar.FieldOrder
import RecordSieve.Proofs.Json.Prefix
import RecordSieve.Proofs.Json.Nesting
import RecordSieve.Proofs.RecordText
import RecordSieve.Proofs.CommandLine.Refiltering
import RecordSieve.Proofs.Calendar.DayCount
import RecordSieve.Proofs.Calendar.NumericText
import RecordSieve.Proofs.Calendar.NumericMoment
import RecordSieve.Proofs.Calendar.OffsetLimit
import RecordSieve.Proofs.Calendar.MonthName
import RecordSieve.Proofs.Calendar.NamedDate
import RecordSieve.Proofs.Calendar.LocaleIndependence
import RecordSieve.Proofs.Calendar.BareDate
import RecordSieve.Proofs.Duration.Refusal
import RecordSieve.Proofs.Rule.Canonical
import RecordSieve.Proofs.Rule.NodePath
import RecordSieve.Proofs.Rule.Visits
import RecordSieve.Proofs.Session.Report
import RecordSieve.Proofs.Collation.Boundary
import RecordSieve.Proofs.Rule.Assignment
import RecordSieve.Proofs.Decimal.WholeDouble
import RecordSieve.Proofs.Value.Integer
import RecordSieve.Proofs.Session.DefinitionPath
import RecordSieve.Proofs.Rule.Spelling
import RecordSieve.Proofs.Rule.DottedField
import RecordSieve.Proofs.Decimal.FiniteDouble
import RecordSieve.Proofs.Rule.OperandKind
import RecordSieve.Proofs.Settings.Overlay
import RecordSieve.Proofs.Settings.Layering
import RecordSieve.Proofs.Locale
import RecordSieve.Proofs.Calendar.Fraction

import QueryShorthand.Bindings
import QueryShorthand.Condition.Basic
import QueryShorthand.Condition.Compare
import QueryShorthand.Condition.Compile
import QueryShorthand.Condition.Operator
import QueryShorthand.Condition.Reader
import QueryShorthand.Error
import QueryShorthand.Join.Basic
import QueryShorthand.Join.Compile
import QueryShorthand.Join.Kind
import QueryShorthand.Join.Leaf
import QueryShorthand.Join.Reader
import QueryShorthand.Json.Basic
import QueryShorthand.Json.Printer
import QueryShorthand.Json.Reader
import QueryShorthand.Number.Binary64
import QueryShorthand.Number.Decimal
import QueryShorthand.Number.Shortest
import QueryShorthand.Operand.Basic
import QueryShorthand.Operand.Reader
import QueryShorthand.Preset.Stock
import QueryShorthand.Statement.Basic
import QueryShorthand.Target.Basic
import QueryShorthand.Target.Config
import QueryShorthand.Text.Alphanumeric
import QueryShorthand.Text.DecimalDigit
import QueryShorthand.Text.Quoted
import QueryShorthand.Text.UpperCase
import QueryShorthand.Text.Visible
import QueryShorthand.Text.WordChar
import QueryShorthand.Token.Basic
import QueryShorthand.Token.Clip
import QueryShorthand.Token.Lexer
import QueryShorthand.Token.List
import QueryShorthand.Token.Sequence
import QueryShorthand.Token.Tree
import QueryShorthand.Upsert
import QueryShorthand.Proofs.Sql.Fragment
import QueryShorthand.Proofs.Agreement
import QueryShorthand.Proofs.Value.Numeral
import QueryShorthand.Proofs.Value.Shape
import QueryShorthand.Proofs.Operand.Reading
import QueryShorthand.Proofs.Operand.Sound
import QueryShorthand.Proofs.Condition.Formed
import QueryShorthand.Proofs.Condition.Comparison
import QueryShorthand.Proofs.Condition.Rebinding
import QueryShorthand.Proofs.Join.Reading
import QueryShorthand.Proofs.Statement.Builder
import QueryShorthand.Proofs.Join.Rebinding
import QueryShorthand.Proofs.Statement.Rebinding
import QueryShorthand.Proofs.Sql.Connective
import QueryShorthand.Proofs.Condition.Phrase
import QueryShorthand.Proofs.Condition.Precedence
import QueryShorthand.Proofs.Token.Span
import QueryShorthand.Proofs.Text.Trim
import QueryShorthand.Proofs.Token.Level
import QueryShorthand.Proofs.Token.Hook
import QueryShorthand.Proofs.Token.Scan
import QueryShorthand.Proofs.Condition.Items
import QueryShorthand.Proofs.Condition.Composition
import QueryShorthand.Proofs.Json.RoundTrip
import QueryShorthand.Proofs.Token.Enclosed
import QueryShorthand.Proofs.Token.Inside
import QueryShorthand.Proofs.Operand.Names
import QueryShorthand.Proofs.Operand.Number
import QueryShorthand.Proofs.Operand.Writing
import QueryShorthand.Proofs.Operand.Faithful
import QueryShorthand.Proofs.Condition.Writing
import QueryShorthand.Proofs.Sql.Literal
import QueryShorthand.Proofs.Statement.Names
import QueryShorthand.Proofs.Statement.Deletion
import QueryShorthand.Proofs.Join.Bracket
import QueryShorthand.Proofs.Join.Writing
import QueryShorthand.Proofs.Join.Placement
import QueryShorthand.Proofs.Join.Failure
import QueryShorthand.Proofs.Join.Scope
import QueryShorthand.Proofs.Preset.Stock
import QueryShorthand.Proofs.Operand.Column
import QueryShorthand.Proofs.Condition.Alternation
import QueryShorthand.Proofs.Token.Spelling
import QueryShorthand.Proofs.Join.Items
import QueryShorthand.Proofs.Alternation
import QueryShorthand.Proofs.Join.Lifecycle
import QueryShorthand.Proofs.Statement.Reordering
import QueryShorthand.Proofs.Condition.Canonical
import QueryShorthand.Proofs.Condition.Dialects
import QueryShorthand.Proofs.Condition.Negation
import QueryShorthand.Proofs.Condition.Pattern
import QueryShorthand.Proofs.Condition.NonFinite
import QueryShorthand.Proofs.Join.Columns
import QueryShorthand.Proofs.Join.Override
import QueryShorthand.Proofs.Join.Handover
import QueryShorthand.Proofs.Token.Copy
import QueryShorthand.Proofs.Token.Leaf
import QueryShorthand.Proofs.Condition.Faults
import QueryShorthand.Proofs.Condition.Malformed
import QueryShorthand.Proofs.Condition.Null
import QueryShorthand.Proofs.Operand.Spelling
import QueryShorthand.Proofs.Statement.Labels
import QueryShorthand.Proofs.Statement.SelectList
import QueryShorthand.Proofs.Value.Conversion
import QueryShorthand.Proofs.Preset.Session
import QueryShorthand.Proofs.Statement.Insertion
import QueryShorthand.Proofs.Text.Quotation
import QueryShorthand.Proofs.Number.Decimal
import QueryShorthand.Proofs.Statement.Assignment
import QueryShorthand.Proofs.Statement.Updating
import QueryShorthand.Proofs.Operand.Literal
import QueryShorthand.Proofs.Token.Culprit
import QueryShorthand.Proofs.Token.Clip
import QueryShorthand.Proofs.Token.Quoted

import ColumnQuery.Clause.Index
import ColumnQuery.Clause.Predicate
import ColumnQuery.Clause.Select
import ColumnQuery.Command.Arguments
import ColumnQuery.Command.Paint
import ColumnQuery.Command.Request
import ColumnQuery.Command.Run
import ColumnQuery.Error
import ColumnQuery.Expr
import ColumnQuery.Expr.Evaluate
import ColumnQuery.Expr.Outline
import ColumnQuery.Grammar.Predicate
import ColumnQuery.Grammar.Reader
import ColumnQuery.Grammar.Token
import ColumnQuery.Json.Decode
import ColumnQuery.Json.Encode
import ColumnQuery.Json.Node
import ColumnQuery.Json.Quoted
import ColumnQuery.Json.Reader
import ColumnQuery.Main
import ColumnQuery.Number.Bigint
import ColumnQuery.Number.Digits
import ColumnQuery.Number.Double
import ColumnQuery.Number.Layout
import ColumnQuery.Number.Numeral
import ColumnQuery.Number.Scaled
import ColumnQuery.Number.Shortest
import ColumnQuery.Operator
import ColumnQuery.Proofs.Clause.Assertions
import ColumnQuery.Proofs.Clause.Chain
import ColumnQuery.Proofs.Clause.Compile
import ColumnQuery.Proofs.Clause.Composition
import ColumnQuery.Proofs.Clause.Conjuncts
import ColumnQuery.Proofs.Clause.DecimalText
import ColumnQuery.Proofs.Clause.Fault
import ColumnQuery.Proofs.Clause.Folding
import ColumnQuery.Proofs.Clause.InOrder
import ColumnQuery.Proofs.Clause.IndexAgreement
import ColumnQuery.Proofs.Clause.Indistinct
import ColumnQuery.Proofs.Clause.IntegerText
import ColumnQuery.Proofs.Clause.ReadBack
import ColumnQuery.Proofs.Clause.Restate
import ColumnQuery.Proofs.Clause.SingleLine
import ColumnQuery.Proofs.Clause.Unambiguous
import ColumnQuery.Proofs.Command.FileInput
import ColumnQuery.Proofs.Command.Lines
import ColumnQuery.Proofs.Command.Options
import ColumnQuery.Proofs.Command.Paths
import ColumnQuery.Proofs.Expr.Display
import ColumnQuery.Proofs.Expr.Erase
import ColumnQuery.Proofs.Expr.Exact
import ColumnQuery.Proofs.Expr.Induction
import ColumnQuery.Proofs.Expr.Leaves
import ColumnQuery.Proofs.Expr.Place
import ColumnQuery.Proofs.Grammar.Context
import ColumnQuery.Proofs.Grammar.Cut
import ColumnQuery.Proofs.Grammar.Decimals
import ColumnQuery.Proofs.Grammar.Depth
import ColumnQuery.Proofs.Grammar.Extent
import ColumnQuery.Proofs.Grammar.Forward
import ColumnQuery.Proofs.Grammar.NameList
import ColumnQuery.Proofs.Grammar.Names
import ColumnQuery.Proofs.Grammar.Operand
import ColumnQuery.Proofs.Grammar.Phrase
import ColumnQuery.Proofs.Grammar.Position
import ColumnQuery.Proofs.Grammar.Predicate
import ColumnQuery.Proofs.Grammar.Reading
import ColumnQuery.Proofs.Grammar.TextLiteral
import ColumnQuery.Proofs.Grammar.Token
import ColumnQuery.Proofs.Json.Canonical
import ColumnQuery.Proofs.Json.Decode
import ColumnQuery.Proofs.Json.Expr
import ColumnQuery.Proofs.Json.Fits
import ColumnQuery.Proofs.Json.Numeral
import ColumnQuery.Proofs.Json.Quoted
import ColumnQuery.Proofs.Json.ShortNumber
import ColumnQuery.Proofs.Json.Text
import ColumnQuery.Proofs.Json.Value
import ColumnQuery.Proofs.Number.Nearest
import ColumnQuery.Proofs.Number.Overflow
import ColumnQuery.Proofs.Number.Scaled
import ColumnQuery.Proofs.Number.Written
import ColumnQuery.Proofs.Record.History
import ColumnQuery.Proofs.Record.LifeCycle
import ColumnQuery.Proofs.Record.Removal
import ColumnQuery.Proofs.Record.Run
import ColumnQuery.Proofs.Text.Blank
import ColumnQuery.Proofs.Text.Quoted
import ColumnQuery.Proofs.Time.Calendar
import ColumnQuery.Proofs.Time.Timestamp
import ColumnQuery.Proofs.Uuid
import ColumnQuery.Query
import ColumnQuery.Record
import ColumnQuery.Settings
import ColumnQuery.Text.Classes
import ColumnQuery.Text.Escaped
import ColumnQuery.Text.Literal
import ColumnQuery.Time.Calendar
import ColumnQuery.Time.Timestamp
import ColumnQuery.Toml.Item
import ColumnQuery.Toml.Quoted
import ColumnQuery.Toml.Reader
import ColumnQuery.Toml.Scalar
import ColumnQuery.Toml.Settings
import ColumnQuery.Uuid
import ColumnQuery.Value

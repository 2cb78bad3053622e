import QuizBank.Main
import QuizBank.Proofs.Item.Acceptance
import QuizBank.Proofs.Expr.Grammar
import QuizBank.Proofs.Expr.Parsing
import QuizBank.Proofs.Expr.Scanning
import QuizBank.Proofs.Expr.SourceSafety
import QuizBank.Proofs.Expr.Visibility
import QuizBank.Proofs.Json.Canonical
import QuizBank.Proofs.Json.Stability
import QuizBank.Proofs.Bank.TemplateOrder
import QuizBank.Proofs.Json.Reading
import QuizBank.Proofs.Json.Splicing
import QuizBank.Proofs.Number.Decimal
import QuizBank.Proofs.Number.Shortest
import QuizBank.Proofs.Json.Numerals
import QuizBank.Proofs.Json.Writing
import QuizBank.Proofs.Template.Contents
import QuizBank.Proofs.Template.RoundTrip
import QuizBank.Proofs.Bank.TemplateText
import QuizBank.Proofs.Random.Draws
import QuizBank.Proofs.Item.Drawing
import QuizBank.Proofs.Item.Attempts
import QuizBank.Proofs.Item.Failures
import QuizBank.Proofs.Item.Options
import QuizBank.Proofs.Number.Rounding
import QuizBank.Proofs.Number.Interpolation
import QuizBank.Proofs.Number.Arithmetic
import QuizBank.Proofs.Number.Order
import QuizBank.Proofs.Number.Whole
import QuizBank.Proofs.Random.Fractions
import QuizBank.Proofs.Item.RangeBounds
import QuizBank.Proofs.Item.Constraints
import QuizBank.Proofs.Bank.Batch
import QuizBank.Proofs.Bank.Entries
import QuizBank.Proofs.File.Growth
import QuizBank.Proofs.Bank.Snapshot
import QuizBank.Proofs.Bank.Agreement
import QuizBank.Proofs.Expr.Names
import QuizBank.Proofs.Item.Safety
import QuizBank.Proofs.Item.Wording
import QuizBank.Proofs.Item.Placeholders
import QuizBank.Proofs.Item.Rendering
import QuizBank.Proofs.Item.Finiteness
import QuizBank.Proofs.Item.Rejection
import QuizBank.Proofs.Item.InvalidParams
import QuizBank.Proofs.Item.Operators
import QuizBank.Proofs.Command.Validation
import QuizBank.Proofs.Expr.Comparisons
import QuizBank.Proofs.Expr.Arity
import QuizBank.Proofs.Bank.Reproduction
import QuizBank.Proofs.Number.Reading
import QuizBank.Proofs.Number.Display
import QuizBank.Proofs.File.Spelling
import QuizBank.Proofs.Config.Selection
import QuizBank.Proofs.Bank.Records
import QuizBank.Proofs.Bank.Seeds
import QuizBank.Proofs.Text.Bytes
import QuizBank.Proofs.Bank.Listing
import QuizBank.Proofs.Expr.Blanks
import QuizBank.Proofs.Expr.Writing
import QuizBank.Proofs.Toml.Quoted
import QuizBank.Proofs.Toml.Reading
import QuizBank.Proofs.Toml.Building
import QuizBank.Proofs.Config.Environment
import QuizBank.Proofs.OrderedMap.Insertions

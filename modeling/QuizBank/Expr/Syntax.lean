import QuizBank.Expr.Math
import QuizBank.Value

/-!
# Expressions

The trees that expressions are parsed to.
-/

namespace QuizBank

/-- An operator in front of its operand. -/
inductive UnaryOp
  | neg
  | pos
  | not
  deriving DecidableEq

/-- An operator between two operands, both of which are evaluated. -/
inductive BinaryOp
  | add
  | sub
  | mul
  | div
  | rem
  | pow
  | lt
  | le
  | gt
  | ge
  | looseEq
  | looseNe
  | strictEq
  | strictNe
  deriving DecidableEq

/-- An operator whose left operand may decide alone. -/
inductive LogicalOp
  | and
  | or
  deriving DecidableEq

/-- An expression. -/
inductive Expr
  | literal (v : Value)
  | var (name : String)
  | call (f : MathFunction) (args : List Expr)
  | unary (op : UnaryOp) (operand : Expr)
  | binary (op : BinaryOp) (lhs rhs : Expr)
  | logical (op : LogicalOp) (lhs rhs : Expr)
  | conditional (cond yes no : Expr)

instance : Inhabited Expr := ⟨.literal (.bool false)⟩

end QuizBank

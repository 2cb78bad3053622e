import QuizBank.Error
import QuizBank.Expr.Eval
import QuizBank.Expr.Lexer
import QuizBank.Expr.Parser
import QuizBank.Expr.Safety

/-!
# Compiled expressions

An expression is compiled from its source text: cut into tokens, screened by the safety check, and
parsed. It can then be evaluated in any scope. A result has to be finite.
-/

namespace QuizBank

/-- An expression with its source text. -/
structure Expression where
  source : String
  tree : Expr

namespace Expression

/-- The expression of a source text. The safety check comes before parsing, so an unsafe text is
reported as unsafe whatever else is wrong with it. -/
def compile (source : String) : Except Error Expression :=
  let tokens := Token.ofText source
  match safetyFault? tokens with
  | some fault => .error (.unsafeExpression source fault.message)
  | none =>
    match Expr.ofTokens tokens with
    | .error e => .error (.evaluation source e.message)
    | .ok tree => .ok ⟨source, tree⟩

/-- Refuses a number that is not finite. -/
def requireFinite : Value → Except EvalError Value
  | .number x => if x.isFinite then .ok (.number x) else .error (.notFinite x)
  | v => .ok v

/-- The value of the expression in a scope. -/
def eval (e : Expression) (scope : Scope) : Except Error Value :=
  match e.tree.eval scope with
  | .error fault => .error (.evaluation e.source fault.message)
  | .ok v =>
    match requireFinite v with
    | .error fault => .error (.evaluation e.source fault.message)
    | .ok v => .ok v

end Expression

/-- The value of a source text in a scope. -/
def evaluate (source : String) (scope : Scope) : Except Error Value :=
  match Expression.compile source with
  | .error e => .error e
  | .ok e => e.eval scope

end QuizBank

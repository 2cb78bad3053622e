import QuizBank.Expr.Syntax
import QuizBank.Number.Reader
import QuizBank.Text.Classes

/-!
# Evaluation

An expression is evaluated in a scope. Operators coerce their operands to numbers where they need
numbers: truth values count 0 and 1, a text counts as the number that it reads as, a blank text
as 0.
-/

namespace QuizBank

/-- Why an expression has no value. -/
inductive EvalError
  | unknownIdentifier (name : String)
  | notANumber (text : String)
  | divisionByZero
  | moduloByZero
  | notFinite (x : Float)
  deriving DecidableEq

/-- The text of an evaluation error. -/
def EvalError.message : EvalError → String
  | unknownIdentifier name => "unknown identifier '" ++ name ++ "'"
  | notANumber text => "type mismatch: '" ++ text ++ "' is not a number"
  | divisionByZero => "division by zero"
  | moduloByZero => "modulo by zero"
  | notFinite x => "result is not a finite number (" ++ Number.plain x ++ ")"

namespace Value

/-- The value as a number. -/
def toNumber : Value → Except EvalError Float
  | number n => .ok n
  | bool b => .ok (if b then 1 else 0)
  | text s =>
    let trimmed := Text.trim s.toList
    if trimmed.isEmpty then .ok 0
    else match Number.read trimmed with
      | some x => .ok x
      | none => .error (.notANumber s)

/-- The order of two numbers; NaN has none. -/
def compareNumbers (x y : Float) : Option Ordering :=
  if x < y then some .lt else if x == y then some .eq else if x > y then some .gt else none

/-- The order of two values: of texts by their characters, of all else as numbers. -/
def compare (a b : Value) : Except EvalError (Option Ordering) :=
  match a, b with
  | text s, text t => .ok (some (if s < t then .lt else if s = t then .eq else .gt))
  | a, b =>
    match a.toNumber with
    | .error e => .error e
    | .ok x =>
      match b.toNumber with
      | .error e => .error e
      | .ok y => .ok (compareNumbers x y)

/-- Equality across kinds: values of one kind are compared as they are, others as numbers. A text
that is no number equals no number. -/
def looseEquals (a b : Value) : Bool :=
  match a, b with
  | text s, text t => s == t
  | bool x, bool y => x == y
  | number x, number y => x == y
  | a, b =>
    match a.toNumber, b.toNumber with
    | .ok x, .ok y => x == y
    | _, _ => false

end Value

namespace UnaryOp

/-- The value of a unary operator. -/
def apply : UnaryOp → Value → Except EvalError Value
  | neg, v => v.toNumber.map fun x => .number (-x)
  | pos, v => v.toNumber.map .number
  | not, v => .ok (.bool !v.truthy)

end UnaryOp

namespace BinaryOp

/-- An operator on two numbers. -/
def arithmetic (f : Float → Float → Float) (a b : Value) : Except EvalError Value :=
  match a.toNumber with
  | .error e => .error e
  | .ok x =>
    match b.toNumber with
    | .error e => .error e
    | .ok y => .ok (.number (f x y))

/-- An operator on two numbers that has no value for a zero on the right. The right operand is
looked at first. -/
def divisionLike (atZero : EvalError) (f : Float → Float → Float) (a b : Value) :
    Except EvalError Value :=
  match b.toNumber with
  | .error e => .error e
  | .ok y =>
    if y == 0 then .error atZero
    else match a.toNumber with
      | .error e => .error e
      | .ok x => .ok (.number (f x y))

/-- A test of the order of two values. -/
def ordered (accept : Option Ordering → Bool) (a b : Value) : Except EvalError Value :=
  (Value.compare a b).map fun o => .bool (accept o)

/-- The value of a binary operator. A text on either side of `+` makes it a concatenation. -/
def apply : BinaryOp → Value → Value → Except EvalError Value
  | add, .text s, b => .ok (.text (s ++ b.display))
  | add, a, .text t => .ok (.text (a.display ++ t))
  | add, a, b => arithmetic (· + ·) a b
  | sub, a, b => arithmetic (· - ·) a b
  | mul, a, b => arithmetic (· * ·) a b
  | div, a, b => divisionLike .divisionByZero (· / ·) a b
  | rem, a, b => divisionLike .moduloByZero Number.remainder a b
  | pow, a, b => arithmetic Float.pow a b
  | lt, a, b => ordered (· == some .lt) a b
  | le, a, b => ordered (fun o => o == some .lt || o == some .eq) a b
  | gt, a, b => ordered (· == some .gt) a b
  | ge, a, b => ordered (fun o => o == some .gt || o == some .eq) a b
  | looseEq, a, b => .ok (.bool (a.looseEquals b))
  | looseNe, a, b => .ok (.bool !(a.looseEquals b))
  | strictEq, a, b => .ok (.bool (a.equals b))
  | strictNe, a, b => .ok (.bool !(a.equals b))

end BinaryOp

/-- Does the left operand decide? -/
def LogicalOp.decides : LogicalOp → Value → Bool
  | and, v => !v.truthy
  | or, v => v.truthy

namespace Expr

mutual

/-- The value of an expression in a scope. Operands are evaluated from left to right; of a
conditional and of a logical operator only what is needed. -/
def eval (scope : Scope) : Expr → Except EvalError Value
  | literal v => .ok v
  | var name =>
    match scope.get? name with
    | some v => .ok v
    | none => .error (.unknownIdentifier name)
  | call f args =>
    match evalNumbers scope args with
    | .error e => .error e
    | .ok xs => .ok (.number (f.apply xs))
  | unary op operand =>
    match eval scope operand with
    | .error e => .error e
    | .ok v => op.apply v
  | binary op lhs rhs =>
    match eval scope lhs with
    | .error e => .error e
    | .ok a =>
      match eval scope rhs with
      | .error e => .error e
      | .ok b => op.apply a b
  | logical op lhs rhs =>
    match eval scope lhs with
    | .error e => .error e
    | .ok a => if op.decides a then .ok a else eval scope rhs
  | conditional cond yes no =>
    match eval scope cond with
    | .error e => .error e
    | .ok c => if c.truthy then eval scope yes else eval scope no

/-- The values of arguments, as numbers. -/
def evalNumbers (scope : Scope) : List Expr → Except EvalError (List Float)
  | [] => .ok []
  | arg :: rest =>
    match eval scope arg with
    | .error e => .error e
    | .ok v =>
      match v.toNumber with
      | .error e => .error e
      | .ok x =>
        match evalNumbers scope rest with
        | .error e => .error e
        | .ok xs => .ok (x :: xs)

end

end Expr
end QuizBank

import QuizBank.Number.Text
import QuizBank.OrderedMap

/-!
# Values

Parameters, derived values, answers and distractors are all of one type: a truth value, a number or
a text.
-/

namespace QuizBank

/-- A value of a question. -/
inductive Value
  | bool (b : Bool)
  | number (n : Float)
  | text (s : String)
  deriving DecidableEq

namespace Value

/-- The number, if the value is one. -/
def number? : Value → Option Float
  | number n => some n
  | _ => none

/-- The text, if the value is one. -/
def text? : Value → Option String
  | text s => some s
  | _ => none

/-- Does the value count as true? Zero, NaN and the empty text do not. -/
def truthy : Value → Bool
  | bool b => b
  | number n => n != 0 && !n.isNaN
  | text s => !s.isEmpty

/-- How the value reads in a text. -/
def display : Value → String
  | bool b => if b then "true" else "false"
  | number n => Number.display n
  | text s => s

/-- Equality of values: of one kind and equal, numbers as numbers (so the two zeros are equal, and
NaN equals nothing). -/
def equals : Value → Value → Bool
  | bool a, bool b => a == b
  | number a, number b => a == b
  | text a, text b => a == b
  | _, _ => false

end Value

/-- The variables that an expression sees. -/
abbrev Scope := OrderedMap Value

end QuizBank

import QuizBank.Value

/-!
# Templates

A template describes a family of questions: parameters with the rules they are drawn by, values
derived from them, constraints that every question has to meet, the answer, and wrong answers to
offer beside it.
-/

namespace QuizBank

/-- How a parameter is drawn: from a list of values, or from a range without some values. The fields
are kept as they were given; whether they make a rule is seen when the parameter is drawn. -/
structure ParamSpec where
  values : Option (List Value) := none
  min : Option Float := none
  max : Option Float := none
  exclude : List Value := []
  deriving DecidableEq

/-- A template of questions. -/
structure Template where
  id : Option String := none
  stem : String := ""
  params : OrderedMap (Option ParamSpec) := .empty
  derived : OrderedMap String := .empty
  constraints : List String := []
  answer : Option Value := none
  distractors : List Value := []
  deriving DecidableEq

namespace Template

/-- The name of the template in messages. -/
def label (t : Template) : String := t.id.getD "<anonymous>"

end Template
end QuizBank

import QuizBank.Template.Json

/-!
# Items

An item is a question made from a template.
-/

namespace QuizBank

/-- A question: its text, the parameters that were drawn, the values derived from them, the answer
and the wrong answers offered beside it. -/
structure Item where
  stem : String
  params : OrderedMap Value
  derived : OrderedMap Value
  answer : Value
  distractors : List Value
  deriving DecidableEq

namespace Item

/-- The parameters and derived values as variables; a derived value hides a parameter of its
name. -/
def scope (item : Item) : Scope := item.params.insertAll item.derived.entries

/-- The JSON form of variables, in order. -/
def valuesToJson (m : OrderedMap Value) : Json := .object (m.entries.map fun e => (e.1, e.2.toJson))

/-- The JSON form of an item. -/
def toJson (item : Item) : Json :=
  .object [
    ("stem", .text item.stem), ("params", valuesToJson item.params),
    ("derived", valuesToJson item.derived), ("answer", item.answer.toJson),
    ("distractors", Value.listToJson item.distractors)]

end Item
end QuizBank

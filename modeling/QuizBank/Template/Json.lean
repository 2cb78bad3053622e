import QuizBank.Template
import QuizBank.Value.Json

/-!
# Templates in JSON

`Template.toJson` writes a template and `Template.ofJson` reads one. The order of parameters and
derived values is the order of their members.
-/

namespace QuizBank

/-- An array of values. -/
def Value.listToJson (vs : List Value) : Json := .array (vs.map Value.toJson)

namespace ParamSpec

/-- The fields in the order in which an array gives them. -/
def fields : List String := ["values", "min", "max", "exclude"]

/-- The JSON form: only what is there. -/
def toJson (s : ParamSpec) : Json :=
  .object (
    (s.values.map fun vs => ("values", Value.listToJson vs)).toList ++
    (s.min.map fun x => ("min", .number (.float x))).toList ++
    (s.max.map fun x => ("max", .number (.float x))).toList ++
    (if s.exclude.isEmpty then [] else [("exclude", Value.listToJson s.exclude)]))

/-- Gives a field its value. -/
def assign (s : ParamSpec) (field : String) (j : Json) : Except ShapeError ParamSpec :=
  match field with
  | "values" => do return { s with values := ← j.readOptional (·.readItems Value.ofJson) }
  | "min" => do return { s with min := ← j.readOptional Json.readNumber }
  | "max" => do return { s with max := ← j.readOptional Json.readNumber }
  | "exclude" => do return { s with exclude := ← j.readItems Value.ofJson }
  | _ => .ok s

/-- Reads a parameter's rule. -/
def ofJson : Json → Except ShapeError ParamSpec := Json.readRecord .paramSpec fields 0 {} assign

end ParamSpec

namespace Template

/-- The fields in the order in which an array gives them. -/
def fields : List String :=
  ["id", "stem", "params", "derived", "constraints", "answer", "distractors"]

/-- The JSON form. An id is written only if there is one, an answer always. -/
def toJson (t : Template) : Json :=
  .object (
    (t.id.map fun id => ("id", .text id)).toList ++
    [("stem", .text t.stem),
      ("params", .object (t.params.entries.map fun e =>
        (e.1, (e.2.map ParamSpec.toJson).getD .null))),
      ("derived", .object (t.derived.entries.map fun e => (e.1, .text e.2))),
      ("constraints", .array (t.constraints.map .text)),
      ("answer", (t.answer.map Value.toJson).getD .null),
      ("distractors", Value.listToJson t.distractors)])

/-- Gives a field its value. -/
def assign (t : Template) (field : String) (j : Json) : Except ShapeError Template :=
  match field with
  | "id" => do return { t with id := ← j.readOptional Json.readText }
  | "stem" => do return { t with stem := ← j.readText }
  | "params" => do
    let entries ← j.readMembers (·.readOptional ParamSpec.ofJson)
    return { t with params := .ofList entries }
  | "derived" => do
    let entries ← j.readMembers Json.readText
    return { t with derived := .ofList entries }
  | "constraints" => do return { t with constraints := ← j.readItems Json.readText }
  | "answer" => do return { t with answer := ← j.readOptional Value.ofJson }
  | "distractors" => do return { t with distractors := ← j.readItems Value.ofJson }
  | _ => .ok t

/-- Reads a template. An array must reach up to the answer. -/
def ofJson : Json → Except ShapeError Template := Json.readRecord .template fields 6 {} assign

end Template
end QuizBank

import QuizBank.Value
import QuizBank.Json.Shape

/-!
# Values in JSON
-/

namespace QuizBank
namespace Value

/-- Whole numbers below `10 ^ 16` or so, all of which a double holds, are written as integers. -/
def numberToJson (n : Float) : Json :=
  if Number.isWhole n && n.abs < 9007199254740992 then
    match Number.toInt n with
    | .ofNat k => .number (.natural k)
    | .negSucc k => .number (.negative (k + 1))
  else .number (.float n)

/-- The JSON form of a value. -/
def toJson : Value → Json
  | bool b => .bool b
  | number n => numberToJson n
  | text s => .text s

/-- Reads a value: a truth value, a number or a text, and nothing else. -/
def ofJson : Json → Except ShapeError Value
  | .bool b => .ok (bool b)
  | .number n => .ok (number n.toFloat)
  | .text s => .ok (text s)
  | _ => .error .noValue

end Value
end QuizBank

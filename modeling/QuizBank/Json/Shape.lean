import QuizBank.Json.Basic

/-!
# The shape of JSON values

Readers that expect a certain kind of value, and what they say when they find another.
-/

namespace QuizBank

/-- What a reader expects. -/
inductive Shape
  | string
  | number
  | sequence
  | object
  | template
  | paramSpec
  | entry
  deriving DecidableEq

/-- The name of an expected shape in a message. -/
def Shape.describe : Shape → String
  | string => "a string"
  | number => "f64"
  | sequence => "a sequence"
  | object => "a JSON object"
  | template => "struct Template"
  | paramSpec => "struct ParamSpec"
  | entry => "struct BankEntry"

/-- Why a JSON value does not have the expected shape. -/
inductive ShapeError
  | wrongKind (found : String) (expected : Shape)
  | noValue
  | tooFew (length : Nat)
  | tooMany (length : Nat)
  | repeatedField (name : String)
  | notKept
  deriving DecidableEq

/-- The text of a shape error. The last one stands for what the library that reads JSON says of a
document that it cannot keep. -/
def ShapeError.message : ShapeError → String
  | wrongKind found expected => "invalid type: " ++ found ++ ", expected " ++ expected.describe
  | noValue => "data did not match any variant of untagged enum Value"
  | tooFew length =>
    "invalid length " ++ Nat.repr length ++ ", expected struct Template with 7 elements"
  | tooMany length =>
    "invalid length " ++ Nat.repr length ++ ", expected fewer elements in array"
  | repeatedField name => "duplicate field `" ++ name ++ "`"
  | notKept => "number out of range, half a surrogate pair, or too deeply nested"

namespace Json

/-- Complains that a value is not of the expected kind. -/
def mismatch {α : Type} (j : Json) (expected : Shape) : Except ShapeError α :=
  .error (.wrongKind j.describe expected)

/-- Reads a text. -/
def readText : Json → Except ShapeError String
  | text s => .ok s
  | j => j.mismatch .string

/-- Reads a number. -/
def readNumber : Json → Except ShapeError Float
  | number n => .ok n.toFloat
  | j => j.mismatch .number

/-- Reads every item of an array. -/
def readItems {α : Type} (read : Json → Except ShapeError α) : Json → Except ShapeError (List α)
  | array items => items.mapM read
  | j => j.mismatch .sequence

/-- Reads every member of an object. -/
def readMembers {α : Type} (read : Json → Except ShapeError α) :
    Json → Except ShapeError (List (String × α))
  | object members => members.mapM fun m => do return (m.1, ← read m.2)
  | j => j.mismatch .object

/-- Reads a value that may be `null`. -/
def readOptional {α : Type} (read : Json → Except ShapeError α) :
    Json → Except ShapeError (Option α)
  | null => .ok none
  | j => do return some (← read j)

/-- Refuses a list of members in which one of the given fields occurs twice. -/
def refuseRepeated (fields : List String) (members : List (String × Json)) :
    Except ShapeError Unit :=
  match fields.find? fun f => decide (1 < (members.filter fun m => m.1 == f).length) with
  | some f => .error (.repeatedField f)
  | none => .ok ()

/-- Reads a record: an object with the record's fields in any order, among others that are ignored,
or an array with the values of the fields in order. At least `needed` items must stand in the
array. -/
def readRecord {ρ : Type} (shape : Shape) (fields : List String) (needed : Nat) (start : ρ)
    (assign : ρ → String → Json → Except ShapeError ρ) : Json → Except ShapeError ρ
  | object members => do
    refuseRepeated fields members
    members.foldlM (fun r m => assign r m.1 m.2) start
  | array items => do
    let r ← (fields.zip items).foldlM (fun r m => assign r m.1 m.2) start
    if items.length < needed then .error (.tooFew (needed - 1))
    else if fields.length < items.length then .error (.tooMany items.length)
    else .ok r
  | j => j.mismatch shape

end Json
end QuizBank

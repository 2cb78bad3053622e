import QuizBank.Expr.Expression
import QuizBank.Item
import QuizBank.Item.Rendering
import QuizBank.Item.Sampling

/-!
# Generation

An item is made in attempts. An attempt draws the parameters, derives the other values, checks the
constraints, and works out the answer and the distractors. Where it fails in a way that other draws
may mend it is rejected, and the next attempt goes on with the same stream of draws. All other
failures end the generation.
-/

namespace QuizBank

/-- How an attempt ends. -/
inductive Attempt
  | accepted (item : Item)
  | rejected (reason : String)
  | failed (error : Error)
  deriving DecidableEq

namespace Generation

/-- How many attempts are made. -/
def maxAttempts : Nat := 250

/-- The variable that distractors know the answer by. -/
def answerVariable : String := "ans"

/-- The characters that make a text look like an expression. -/
def operatorChars : List Char := "+-*/^()=<>".toList

/-- Does the text look like an expression: does it hold an operator character or a member of the
mathematical library? -/
def looksLikeExpression (text : String) : Bool :=
  text.toList.any operatorChars.contains || Text.occurs "Math.".toList text.toList

/-- The value of an answer or a distractor. A text that looks like an expression is evaluated;
another text is the name of a variable or else stands for itself. -/
def resolveOption (raw : Value) (scope : Scope) : Except Error Value :=
  match raw with
  | .text source =>
    if looksLikeExpression source then evaluate source scope
    else .ok ((scope.get? source).getD raw)
  | raw => .ok raw

/-- Draws the parameters in order. -/
def drawParams : List (String × Option ParamSpec) → OrderedMap Value → Draws →
    Except Error (OrderedMap Value) × Draws
  | [], drawn, s => (.ok drawn, s)
  | (name, spec) :: rest, drawn, s =>
    match Sampling.sample name spec s with
    | (.ok v, s) => drawParams rest (drawn.insert name v) s
    | (.error e, s) => (.error e, s)

/-- Derives values in order; each sees the variables before it. The reason comes out when one has no
value. -/
def derive : List (String × String) → Scope → OrderedMap Value →
    Except String (Scope × OrderedMap Value)
  | [], scope, derived => .ok (scope, derived)
  | (name, source) :: rest, scope, derived =>
    match evaluate source scope with
    | .ok v => derive rest (scope.insert name v) (derived.insert name v)
    | .error e => .error ("derived '" ++ name ++ "': " ++ e.message)

/-- Why a constraint is not met in a scope, if it is not. -/
def unmet? (scope : Scope) (constraint : String) : Option String :=
  match evaluate constraint scope with
  | .ok v => if v.truthy then none else some ("constraint '" ++ constraint ++ "' was not satisfied")
  | .error e => some ("constraint '" ++ constraint ++ "': " ++ e.message)

/-- The distractors that do not read like the answer, in order. -/
def distractors (answerText : String) (scope : Scope) : List Value → Except Error (List Value)
  | [] => .ok []
  | raw :: rest =>
    match resolveOption raw scope with
    | .error e => .error e
    | .ok v =>
      match distractors answerText scope rest with
      | .error e => .error e
      | .ok vs => .ok (if v.display = answerText then vs else v :: vs)

/-- How an attempt ends with an error of an answer or a distractor. -/
def ofOptionError (what : String) (e : Error) : Attempt :=
  if e.isAttemptLocal then .rejected (what ++ ": " ++ e.message) else .failed e

/-- An attempt after its draws: nothing in it is random any more. -/
def complete (t : Template) (answer : Value) (params : OrderedMap Value) : Attempt :=
  match derive t.derived.entries params .empty with
  | .error reason => .rejected reason
  | .ok (scope, derived) =>
    match t.constraints.findSome? (unmet? scope) with
    | some reason => .rejected reason
    | none =>
      match resolveOption answer scope with
      | .error e => ofOptionError "answer" e
      | .ok answer =>
        match distractors answer.display (scope.insert answerVariable answer) t.distractors with
        | .error e => ofOptionError "distractor" e
        | .ok options =>
          .accepted ⟨Rendering.render t.stem scope, params, derived, answer, options⟩

/-- How an attempt ends with an error of a parameter. -/
def ofParamError : Error → Attempt
  | .invalidParamSpec param reason => .failed (.invalidParamSpec param reason)
  | e => .rejected e.message

/-- One attempt. -/
def attempt (t : Template) (answer : Value) (s : Draws) : Attempt × Draws :=
  match drawParams t.params.entries .empty s with
  | (.ok params, s) => (complete t answer params, s)
  | (.error e, s) => (ofParamError e, s)

/-- Makes attempts until one is not rejected. -/
def attempts (t : Template) (answer : Value) (seed : String) :
    Nat → Option String → Draws → Except Error Item
  | 0, lastFailure, _ => .error (.unsatisfiable t.label seed maxAttempts lastFailure)
  | n + 1, _, s =>
    match attempt t answer s with
    | (.accepted item, _) => .ok item
    | (.failed e, _) => .error e
    | (.rejected reason, s) => attempts t answer seed n (some reason) s

end Generation

/-- The item of a template and a seed. -/
def generate (t : Template) (seed : String) : Except Error Item :=
  match t.answer with
  | none => .error (.invalidTemplate t.label "missing answer")
  | some answer =>
    Generation.attempts t answer seed Generation.maxAttempts none (Draws.ofSeed seed)

end QuizBank

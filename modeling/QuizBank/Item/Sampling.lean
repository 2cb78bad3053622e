import QuizBank.Error
import QuizBank.Random.Draws
import QuizBank.Template

/-!
# Sampling

A parameter's specification is resolved to a rule: a choice among values, a range of whole numbers,
or a range of numbers. A choice takes one draw. A range takes draws until one gives a number that is
not excluded, and gives up after 400.
-/

namespace QuizBank

/-- Why a specification makes no rule. -/
inductive SpecFault
  | missing
  | emptyValues
  | noBounds
  | notFinite
  | crossed
  deriving DecidableEq

/-- The text of a specification's fault. -/
def SpecFault.message : SpecFault → String
  | missing => "spec is missing"
  | emptyValues => "`values` must not be empty"
  | noBounds => "needs either `values` or `min`/`max` bounds"
  | notFinite => "bounds must be finite numbers"
  | crossed => "`min` is greater than `max`"

/-- How a parameter is drawn. -/
inductive Rule
  | choice (values : List Value) (nonempty : values ≠ [])
  | whole (min max : Float)
  | real (min max : Float)
  deriving DecidableEq

/-- The bounds of a range: a missing minimum is 0, a missing maximum is the minimum. -/
def ParamSpec.bounds? (spec : ParamSpec) : Option (Float × Float) :=
  match spec.min, spec.max with
  | none, none => none
  | some min, max => some (min, max.getD min)
  | none, some max => some (0, max)

/-- The rule that a specification makes. Values come before bounds. -/
def ParamSpec.resolve (spec : Option ParamSpec) : Except SpecFault Rule :=
  match spec with
  | none => .error .missing
  | some spec =>
    match spec.values with
    | some [] => .error .emptyValues
    | some (v :: vs) => .ok (.choice (v :: vs) (List.cons_ne_nil v vs))
    | none =>
      match spec.bounds? with
      | none => .error .noBounds
      | some (min, max) =>
        if !min.isFinite || !max.isFinite then .error .notFinite
        else if min > max then .error .crossed
        else if Number.isWhole min && Number.isWhole max then .ok (.whole min max)
        else .ok (.real min max)

namespace Sampling

/-- How many draws a range may take. -/
def maxTries : Nat := 400

/-- The value that a draw chooses from a list. -/
def pick (values : List Value) (nonempty : values ≠ []) (r : Float) : Value :=
  let index := min (Number.toNat (Number.floor (r * Float.ofNat values.length))) (values.length - 1)
  values.get ⟨index, by
    have := List.length_pos_iff.2 nonempty
    omega⟩

/-- The whole number of a range that a draw stands for. -/
def wholeCandidate (min max r : Float) : Float := Number.floor (min + r * (max - min + 1))

/-- The number of a range that a draw stands for. -/
def realCandidate (min max r : Float) : Float := min + r * (max - min)

/-- Is the number among the excluded values? -/
def isExcluded (excluded : List Value) (x : Float) : Bool :=
  excluded.any fun v => v.equals (.number x)

/-- The first candidate that is not excluded, within a number of tries. -/
def firstAllowed (candidate : Float → Float) (excluded : List Value) :
    Nat → Draws → Option Float × Draws
  | 0, s => (none, s)
  | tries + 1, s =>
    let (r, s) := s.next
    if isExcluded excluded (candidate r) then firstAllowed candidate excluded tries s
    else (some (candidate r), s)

/-- The number that a range gives. -/
def fromRange (name : String) (candidate : Float → Float) (excluded : List Value) (s : Draws) :
    Except Error Value × Draws :=
  match firstAllowed candidate excluded maxTries s with
  | (some x, s) => (.ok (.number x), s)
  | (none, s) => (.error (.samplingExhausted name maxTries), s)

/-- Draws a parameter. A specification that makes no rule takes no draw. -/
def sample (name : String) (spec : Option ParamSpec) (s : Draws) : Except Error Value × Draws :=
  match ParamSpec.resolve spec with
  | .error fault => (.error (.invalidParamSpec name fault.message), s)
  | .ok (.choice values nonempty) =>
    let (r, s) := s.next
    (.ok (pick values nonempty r), s)
  | .ok (.whole min max) =>
    fromRange name (wholeCandidate min max) ((spec.map ParamSpec.exclude).getD []) s
  | .ok (.real min max) =>
    fromRange name (realCandidate min max) ((spec.map ParamSpec.exclude).getD []) s

end Sampling
end QuizBank

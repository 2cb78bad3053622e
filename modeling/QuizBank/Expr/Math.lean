import QuizBank.Number.Functions

/-!
# The mathematical library

The functions and constants that an expression reaches through the name `Math`. A function takes a
fixed number of arguments or any number of them, which is checked when the expression is parsed.
-/

namespace QuizBank

/-- A function of the mathematical library. -/
inductive MathFunction
  | abs
  | sign
  | floor
  | ceil
  | round
  | trunc
  | sqrt
  | cbrt
  | exp
  | expm1
  | log
  | log2
  | log10
  | log1p
  | sin
  | cos
  | tan
  | asin
  | acos
  | atan
  | sinh
  | cosh
  | tanh
  | asinh
  | acosh
  | atanh
  | atan2
  | pow
  | hypot
  | min
  | max
  deriving DecidableEq

namespace MathFunction

/-- How many arguments a function takes. -/
inductive Arity
  | exactly (n : Nat)
  | any
  deriving DecidableEq

/-- The functions by name. -/
def table : List (String × MathFunction) := [
  ("abs", abs), ("sign", sign), ("floor", floor), ("ceil", ceil), ("round", round),
  ("trunc", trunc), ("sqrt", sqrt), ("cbrt", cbrt), ("exp", exp), ("expm1", expm1), ("log", log),
  ("log2", log2), ("log10", log10), ("log1p", log1p), ("sin", sin), ("cos", cos), ("tan", tan),
  ("asin", asin), ("acos", acos), ("atan", atan), ("sinh", sinh), ("cosh", cosh), ("tanh", tanh),
  ("asinh", asinh), ("acosh", acosh), ("atanh", atanh), ("atan2", atan2), ("pow", pow),
  ("hypot", hypot), ("min", min), ("max", max)]

/-- The function of a name. -/
def ofName? (name : String) : Option MathFunction :=
  (table.find? fun e => e.1 == name).map Prod.snd

/-- The name of a function as a title. -/
def title : MathFunction → String
  | abs => "Abs"
  | sign => "Sign"
  | floor => "Floor"
  | ceil => "Ceil"
  | round => "Round"
  | trunc => "Trunc"
  | sqrt => "Sqrt"
  | cbrt => "Cbrt"
  | exp => "Exp"
  | expm1 => "Expm1"
  | log => "Log"
  | log2 => "Log2"
  | log10 => "Log10"
  | log1p => "Log1p"
  | sin => "Sin"
  | cos => "Cos"
  | tan => "Tan"
  | asin => "Asin"
  | acos => "Acos"
  | atan => "Atan"
  | sinh => "Sinh"
  | cosh => "Cosh"
  | tanh => "Tanh"
  | asinh => "Asinh"
  | acosh => "Acosh"
  | atanh => "Atanh"
  | atan2 => "Atan2"
  | pow => "Pow"
  | hypot => "Hypot"
  | min => "Min"
  | max => "Max"

/-- How many arguments the function takes. -/
def arity : MathFunction → Arity
  | hypot => .any
  | min => .any
  | max => .any
  | atan2 => .exactly 2
  | pow => .exactly 2
  | _ => .exactly 1

/-- Does the function take so many arguments? -/
def accepts (f : MathFunction) (given : Nat) : Bool :=
  match f.arity with
  | .any => true
  | .exactly n => given == n

/-- A function of one argument. -/
def applyOne (f : MathFunction) (x : Float) : Float :=
  match f with
  | abs => x.abs
  | sign => Number.sign x
  | floor => Number.floor x
  | ceil => Number.ceil x
  | round => Number.round x
  | trunc => Number.trunc x
  | sqrt => Float.sqrt x
  | cbrt => Number.cbrt x
  | exp => Float.exp x
  | expm1 => Number.expm1 x
  | log => Float.log x
  | log2 => Float.log2 x
  | log10 => Float.log10 x
  | log1p => Number.log1p x
  | sin => Float.sin x
  | cos => Float.cos x
  | tan => Float.tan x
  | asin => Float.asin x
  | acos => Float.acos x
  | atan => Float.atan x
  | sinh => Float.sinh x
  | cosh => Float.cosh x
  | tanh => Float.tanh x
  | asinh => Number.asinh x
  | acosh => Number.acosh x
  | atanh => Number.atanh x
  | _ => Number.nan

/-- The value of a function. A number of arguments that the function does not take gives NaN. -/
def apply (f : MathFunction) (args : List Float) : Float :=
  match f, args with
  | hypot, xs => Number.hypot xs
  | min, xs => Number.least xs
  | max, xs => Number.greatest xs
  | atan2, [y, x] => Float.atan2 y x
  | pow, [x, y] => Float.pow x y
  | f, [x] => f.applyOne x
  | _, _ => Number.nan

end MathFunction

/-- The constants of the mathematical library by name. -/
def mathConstants : List (String × Float) := [
  ("PI", 3.14159265358979323846264338327950288),
  ("E", 2.71828182845904523536028747135266250),
  ("LN2", 0.693147180559945309417232121458176568),
  ("LN10", 2.30258509299404568401799145468436421),
  ("LOG2E", 1.44269504088896340735992468100189214),
  ("LOG10E", 0.434294481903251827651128918916605082),
  ("SQRT2", 1.41421356237309504880168872420969808),
  ("SQRT1_2", 0.707106781186547524400844362104849039)]

/-- The constant of a name. -/
def mathConstant? (name : String) : Option Float :=
  (mathConstants.find? fun e => e.1 == name).map Prod.snd

end QuizBank

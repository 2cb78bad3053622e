import QuizBank.Number.Binary

/-!
# Functions of numbers

What the mathematical library of expressions needs beyond the operations of doubles.
-/

namespace QuizBank
namespace Number

/-- Infinity. -/
def infinity : Float := 1 / 0

/-- Not a number. -/
def nan : Float := 0 / 0

/-- 1 or -1 after the sign of a number; a zero and NaN stay as they are. -/
def sign (x : Float) : Float :=
  if x.isNaN || x == 0 then x else if x > 0 then 1 else -1

/-- The magnitude of `x` with the sign of `y`. -/
def copySign (x y : Float) : Float := if signIsPositive y then x.abs else -x.abs

/-- The logarithm of `1 + x`, accurate near 0: what rounding `1 + x` loses cancels. The quotient is
near 1 and comes first, since the logarithm times `x` may be too large. -/
def log1p (x : Float) : Float :=
  let u := 1 + x
  if u == 1 then x
  else if u == infinity then u
  else Float.log u * (x / (u - 1))

/-- The exponential of `x` less 1, accurate near 0: what rounding loses cancels. -/
def expm1 (x : Float) : Float :=
  let u := Float.exp x
  if u == 1 then x
  else if u == infinity then u
  else if u - 1 == -1 then -1
  else (u - 1) * (x / Float.log u)

/-- The greatest natural number below `2 ^ bits` whose cube is at most `n`, bit by bit from the
highest. -/
def cubeRootFloor (n : Nat) : Nat → Nat → Nat
  | 0, root => root
  | bits + 1, root =>
    let next := root + Nat.pow 2 bits
    cubeRootFloor n bits (if Nat.pow next 3 ≤ n then next else root)

/-- The double nearest to the cube root. The mantissa is scaled up by a multiple of three binary
places until the root has more bits than a double; one more bit says whether the root is exact, so
the only rounding is the last one. -/
def cbrt (x : Float) : Float :=
  match Binary.ofFloat? x with
  | none => x
  | some b =>
    if b.mantissa = 0 then x
    else
      let shift := 168 + (b.exponent % 3).toNat
      let cube := b.mantissa * Nat.pow 2 shift
      let root := cubeRootFloor cube 76 0
      let doubled := 2 * root + (if Nat.pow root 3 = cube then 0 else 1)
      match Binary.ofFloat? (Float.ofNat doubled) with
      | some r => Binary.toFloat ⟨b.negative, r.mantissa, r.exponent + (b.exponent - shift) / 3 - 1⟩
      | none => x

/-- From here on a double and the root of its square plus or minus 1 are the same. -/
def rootBound : Float := 268435456

/-- The logarithm of `2 * x`, where doubling `x` may be too much. -/
def logOfDouble (x : Float) : Float := Float.log x + Float.log 2

/-- The inverse hyperbolic sine. -/
def asinh (x : Float) : Float :=
  let a := x.abs
  let i := 1 / a
  copySign (if a < rootBound then log1p (a + a / (Float.sqrt (1 + i * i) + i)) else logOfDouble a) x

/-- The inverse hyperbolic cosine. -/
def acosh (x : Float) : Float :=
  if x < 1 then nan
  else if x < rootBound then Float.log (x + Float.sqrt (x - 1) * Float.sqrt (x + 1))
  else logOfDouble x

/-- The inverse hyperbolic tangent. -/
def atanh (x : Float) : Float := 0.5 * log1p (2 * x / (1 - x))

/-- The root of the sum of the squares. -/
def hypot (xs : List Float) : Float := Float.sqrt (xs.foldl (fun sum x => sum + x * x) (-0.0))

/-- The least of some numbers; infinity if there are none, NaN if one of them is NaN. -/
def least (xs : List Float) : Float :=
  xs.foldl (fun m x => if m.isNaN || x.isNaN then nan else if x < m then x else m) infinity

/-- The greatest of some numbers; minus infinity if there are none, NaN if one of them is NaN. -/
def greatest (xs : List Float) : Float :=
  xs.foldl (fun m x => if m.isNaN || x.isNaN then nan else if m < x then x else m) (-infinity)

end Number
end QuizBank

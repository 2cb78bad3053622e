import QuizBank.Number.Binary

/-!
# Decimals and doubles

`Decimal.toFloat` is the double nearest to a decimal, and `Decimal.shortest` goes back: of the
decimals that read back as a given double it takes one with the fewest digits, and among those the
nearest. Both are exact, so the way back loses nothing.
-/

namespace QuizBank

/-- The decimal `digits * 10 ^ exponent`. -/
structure Decimal where
  digits : Nat
  exponent : Int
  deriving DecidableEq

/-- Which of two equally near neighbours is taken. -/
inductive Tie
  | up
  | even
  deriving DecidableEq

namespace Decimal

/-- The double nearest to the decimal, ties going to the even mantissa; infinite beyond the
range. -/
def toFloat (d : Decimal) : Float :=
  Float.ofScientific d.digits (decide (d.exponent < 0)) d.exponent.natAbs

/-- Numerator and denominator of `b / 10 ^ place`. -/
def ratio (b : Binary) (place : Int) : Nat × Nat :=
  (b.mantissa * Nat.pow 2 b.exponent.toNat * Nat.pow 10 (-place).toNat,
    Nat.pow 2 (-b.exponent).toNat * Nat.pow 10 place.toNat)

/-- Is the magnitude at least `10 ^ place`? -/
def reaches (b : Binary) (place : Int) : Bool :=
  let (num, den) := ratio b place
  decide (den ≤ num)

/-- The decimal place of the first digit of a nonzero magnitude. The binary exponent gives it up to
one, and comparing with the powers of ten settles it. -/
def leadingPlace (b : Binary) : Int :=
  let guess := ((b.mantissa.log2 : Int) + b.exponent) * 30103 / 100000
  if reaches b (guess + 1) then guess + 1
  else if reaches b guess then guess
  else guess - 1

/-- Of the two multiples of `10 ^ place` around the magnitude, the nearest one that reads back as
`x`, if there is one. -/
def neighbour? (tie : Tie) (x : Float) (b : Binary) (place : Int) : Option Decimal :=
  let (num, den) := ratio b place
  let lower : Decimal := ⟨num / den, place⟩
  let upper : Decimal := ⟨num / den + 1, place⟩
  let upperFirst :=
    match compare (2 * (num % den)) den, tie with
    | .lt, _ => false
    | .gt, _ => true
    | .eq, .up => true
    | .eq, .even => decide (lower.digits % 2 = 1)
  match lower.toFloat == x, upper.toFloat == x with
  | true, true => some (if upperFirst then upper else lower)
  | true, false => some lower
  | false, true => some upper
  | false, false => none

/-- The magnitude written out in full. -/
def exact (b : Binary) : Decimal :=
  if 0 ≤ b.exponent then ⟨b.mantissa * Nat.pow 2 b.exponent.toNat, 0⟩
  else ⟨b.mantissa * Nat.pow 5 (-b.exponent).toNat, b.exponent⟩

/-- The same number without zeros at the end of its digits. -/
def trim (d : Decimal) : Decimal :=
  if h : d.digits ≠ 0 ∧ d.digits % 10 = 0 then trim ⟨d.digits / 10, d.exponent + 1⟩ else d
termination_by d.digits
decreasing_by exact Nat.div_lt_self (Nat.pos_of_ne_zero h.1) (by decide)

/-- A decimal with the fewest digits that reads back as the positive double `x`, whose exact value
is `b`. Seventeen digits always suffice; the exact value stands behind them. -/
def shortest (tie : Tie) (x : Float) (b : Binary) : Decimal :=
  let first := leadingPlace b
  let found := (List.range 17).findSome? fun (i : Nat) => neighbour? tie x b (first - i)
  (found.getD (exact b)).trim

end Decimal
end QuizBank

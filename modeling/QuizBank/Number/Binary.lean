/-!
# The exact value of a double

A finite double is `± mantissa * 2 ^ exponent`. `Binary.ofFloat?` takes it apart, `Binary.toFloat`
puts it together again, and the roundings to a whole number (`floor`, `ceil`, `trunc`) and the
remainder of a division are then questions about natural numbers, with no rounding error.
-/

namespace QuizBank

/-- The finite double `± mantissa * 2 ^ exponent`. -/
structure Binary where
  negative : Bool
  mantissa : Nat
  exponent : Int
  deriving DecidableEq

namespace Binary

/-- The sign, mantissa and exponent of a finite double; `none` for an infinity and for NaN. A
nonzero exponent field stands for a hidden leading bit; the field 0 counts like 1, without it. -/
def ofFloat? (x : Float) : Option Binary :=
  let bits := x.toBits.toNat
  let field : Nat := bits / Nat.pow 2 52 % Nat.pow 2 11
  let low := bits % Nat.pow 2 52
  let negative := decide (Nat.pow 2 63 ≤ bits)
  if field = 2047 then none
  else if field = 0 then some ⟨negative, low, -1074⟩
  else some ⟨negative, Nat.pow 2 52 + low, (field : Int) - 1075⟩

/-- The double of a value that is representable: the mantissa is shifted up to 53 bits or to the
least exponent, whichever comes first. -/
def toFloat (b : Binary) : Float :=
  let sign := if b.negative then Nat.pow 2 63 else 0
  if b.mantissa = 0 then Float.ofBits (UInt64.ofNat sign)
  else
    let shift := min (52 - b.mantissa.log2) (b.exponent + 1074).toNat
    let mantissa := b.mantissa * Nat.pow 2 shift
    let field := if Nat.pow 2 52 ≤ mantissa then (b.exponent - shift + 1075).toNat else 0
    Float.ofBits (UInt64.ofNat (sign + field * Nat.pow 2 52 + mantissa % Nat.pow 2 52))

/-- The whole part of the magnitude. -/
def whole (b : Binary) : Nat :=
  if 0 ≤ b.exponent then b.mantissa * Nat.pow 2 b.exponent.toNat
  else b.mantissa / Nat.pow 2 (-b.exponent).toNat

/-- Does the value have no fractional part? -/
def isWhole (b : Binary) : Bool :=
  decide (0 ≤ b.exponent) || decide (b.mantissa % Nat.pow 2 (-b.exponent).toNat = 0)

/-- The whole number with this sign and magnitude, as a double of the same sign (so a magnitude 0
keeps its sign). -/
def ofWhole (negative : Bool) (magnitude : Nat) : Float :=
  toFloat ⟨negative, magnitude, 0⟩

/-- The remainder of the magnitudes, with the sign of the dividend. It is a multiple of the smaller
of the two last places and below both, hence representable. -/
def remainder (a b : Binary) : Binary :=
  let place := min a.exponent b.exponent
  let dividend := a.mantissa * Nat.pow 2 (a.exponent - place).toNat
  let divisor := b.mantissa * Nat.pow 2 (b.exponent - place).toNat
  ⟨a.negative, dividend % divisor, place⟩

end Binary

namespace Number

/-- Is the number finite and without a fractional part? -/
def isWhole (x : Float) : Bool :=
  match Binary.ofFloat? x with
  | some b => b.isWhole
  | none => false

/-- The number without its fractional part. Infinities, NaN and whole numbers stay as they are. -/
def trunc (x : Float) : Float :=
  match Binary.ofFloat? x with
  | some b => if b.isWhole then x else Binary.ofWhole b.negative b.whole
  | none => x

/-- The greatest whole number that is not above `x`. -/
def floor (x : Float) : Float :=
  match Binary.ofFloat? x with
  | some b =>
    if b.isWhole then x
    else if b.negative then Binary.ofWhole true (b.whole + 1)
    else Binary.ofWhole false b.whole
  | none => x

/-- The least whole number that is not below `x`. -/
def ceil (x : Float) : Float :=
  match Binary.ofFloat? x with
  | some b =>
    if b.isWhole then x
    else if b.negative then Binary.ofWhole true b.whole
    else Binary.ofWhole false (b.whole + 1)
  | none => x

/-- The nearest whole number, a half going up. -/
def round (x : Float) : Float :=
  let below := floor x
  if x - below ≥ 0.5 then below + 1 else below

/-- The remainder of a division that truncates: exact, with the sign of the dividend. It is NaN for
an infinite dividend or a zero divisor, and an infinite divisor leaves the dividend alone. -/
def remainder (x y : Float) : Float :=
  match Binary.ofFloat? x, Binary.ofFloat? y with
  | some a, some b => if b.mantissa = 0 then 0 / 0 else (a.remainder b).toFloat
  | some _, none => if y.isNaN then y else x
  | none, _ => 0 / 0

/-- The greatest index: what 64 bits can hold. -/
def maxIndex : Nat := Nat.pow 2 64 - 1

/-- The whole part of a number as an index: what is too large, infinity included, becomes the
greatest index, and a negative number and NaN become 0. -/
def toNat (x : Float) : Nat :=
  match Binary.ofFloat? x with
  | some b => if b.negative then 0 else min b.whole maxIndex
  | none => if x > 0 then maxIndex else 0

example : toNat (1 / 0) = maxIndex ∧ toNat (-1 / 0) = 0 ∧ toNat (0 / 0) = 0 ∧ toNat 2.5 = 2 := by
  decide +kernel

/-- The whole part of a number, toward zero, as an integer; 0 when it has none. -/
def toInt (x : Float) : Int :=
  match Binary.ofFloat? x with
  | some b => if b.negative then -(b.whole : Int) else b.whole
  | none => 0

/-- Is the sign bit clear? -/
def signIsPositive (x : Float) : Bool := decide (x.toBits.toNat < Nat.pow 2 63)

end Number
end QuizBank

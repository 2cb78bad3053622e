import QuizBank.Number.Decimal

/-!
# How numbers are written

Three written forms of a double share their digits (`Decimal.shortest`) and differ in layout:

* `Number.display`, in stems and in option texts;
* `Number.json`, in JSON texts;
* `Number.plain`, in messages about tokens and results.
-/

namespace QuizBank
namespace Number

/-- The digits with a point in the right place and no exponent: zeros fill up to the point on
either side. -/
def positional (d : Decimal) : List Char :=
  let digits := Nat.toDigits 10 d.digits
  let whole := (digits.length : Int) + d.exponent
  if 0 ≤ d.exponent then digits ++ List.replicate d.exponent.toNat '0'
  else if whole ≤ 0 then '0' :: '.' :: (List.replicate (-whole).toNat '0' ++ digits)
  else digits.take whole.toNat ++ '.' :: digits.drop whole.toNat

/-- One digit, a point if more follow, and the exponent with a sign: always, or only when it is
negative. -/
def scientific (plusSign : Bool) (d : Decimal) : List Char :=
  let digits := Nat.toDigits 10 d.digits
  let exponent := (digits.length : Int) - 1 + d.exponent
  let mark := if exponent < 0 then ['-'] else if plusSign then ['+'] else []
  let tail := if digits.length ≤ 1 then [] else '.' :: digits.drop 1
  digits.take 1 ++ tail ++ 'e' :: (mark ++ Nat.toDigits 10 exponent.natAbs)

/-- A minus sign in front of a negative number. -/
def signed (negative : Bool) (text : List Char) : List Char :=
  if negative then '-' :: text else text

/-- The digits of a finite number other than zero. -/
def digits (tie : Tie) (x : Float) (b : Binary) : Decimal :=
  Decimal.shortest tie x.abs b

/-- How a number reads in a text. Zero has no sign; a whole number below `10 ^ 21` is written out
exactly; numbers from `10 ^ 21` on and below `10 ^ -6` have an exponent. -/
def display (x : Float) : String :=
  match Binary.ofFloat? x with
  | none => if x.isNaN then "NaN" else if x > 0 then "Infinity" else "-Infinity"
  | some b =>
    if b.mantissa = 0 then "0"
    else String.ofList (signed b.negative
      (if x.abs ≥ 1e21 || x.abs < 1e-6 then scientific true (digits .up x b)
      else if b.isWhole then Nat.toDigits 10 b.whole
      else positional (digits .up x b)))

/-- How a number reads in a message: without exponent, zeros filling up the digits. -/
def plain (x : Float) : String :=
  match Binary.ofFloat? x with
  | none => if x.isNaN then "NaN" else if x > 0 then "inf" else "-inf"
  | some b =>
    String.ofList (signed b.negative
      (if b.mantissa = 0 then ['0'] else positional (digits .up x b)))

/-- How a number reads in JSON: with a point, or with an exponent when that is below -5 or above 15.
JSON has no infinity and no NaN; `null` stands for them. -/
def json (x : Float) : String :=
  match Binary.ofFloat? x with
  | none => "null"
  | some b =>
    String.ofList (signed b.negative
      (if b.mantissa = 0 then ['0', '.', '0']
      else
        let d := digits .even x b
        let place := ((Nat.toDigits 10 d.digits).length : Int) - 1 + d.exponent
        if place < -5 || 15 < place then scientific true d
        else if 0 ≤ d.exponent then positional d ++ ['.', '0']
        else positional d))

end Number
end QuizBank

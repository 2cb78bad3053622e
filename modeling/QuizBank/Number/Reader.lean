import QuizBank.Number.Decimal

/-!
# Reading numbers

A number text has an optional sign and then a decimal literal (digits with an optional point, at
least one digit in all, and an optional exponent) or one of the words `inf`, `infinity`, `nan` in
any case. The value is the nearest double.
-/

namespace QuizBank

/-- A decimal literal in parts: the digits before and after the point, and the exponent. -/
structure Literal where
  whole : List Char
  fraction : List Char
  exponent : Int

namespace Literal

/-- The decimal that the literal denotes. -/
def value (l : Literal) : Decimal :=
  ⟨Nat.ofDigitChars 10 (l.whole ++ l.fraction) 0, l.exponent - l.fraction.length⟩

/-- An exponent: `e` or `E`, an optional sign, one digit or more. Nothing at all is exponent 0. -/
def readExponent : List Char → Option Int
  | [] => some 0
  | c :: rest =>
    if c = 'e' ∨ c = 'E' then
      let (negative, digits) : Bool × List Char := match rest with
        | '-' :: r => (true, r)
        | '+' :: r => (false, r)
        | r => (false, r)
      if digits.isEmpty || !digits.all Char.isDigit then none
      else
        let n : Int := Nat.ofDigitChars 10 digits 0
        some (if negative then -n else n)
    else none

/-- Reads a literal that makes up the whole text. -/
def read (text : List Char) : Option Literal :=
  let whole := text.takeWhile Char.isDigit
  let (fraction, rest) : List Char × List Char := match text.dropWhile Char.isDigit with
    | '.' :: r => (r.takeWhile Char.isDigit, r.dropWhile Char.isDigit)
    | r => ([], r)
  if whole.isEmpty && fraction.isEmpty then none
  else (readExponent rest).map fun e => ⟨whole, fraction, e⟩

end Literal

namespace Number

/-- The double that a text without sign denotes. -/
def readUnsigned (text : List Char) : Option Float :=
  let word := text.map Char.toLower
  if word = "inf".toList ∨ word = "infinity".toList then some (1 / 0)
  else if word = "nan".toList then some (0 / 0)
  else (Literal.read text).map fun l => l.value.toFloat

/-- The double that a text denotes. -/
def read (text : List Char) : Option Float :=
  match text with
  | '-' :: rest => (readUnsigned rest).map Float.neg
  | '+' :: rest => readUnsigned rest
  | rest => readUnsigned rest

end Number
end QuizBank

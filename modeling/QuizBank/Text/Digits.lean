/-!
# Digits

Digits of a base up to sixteen, in either case, and the numbers that they write.
-/

namespace QuizBank
namespace Text

/-- The value of a hexadecimal digit. -/
def hexDigit? (c : Char) : Option Nat :=
  if '0' ≤ c ∧ c ≤ '9' then some (c.toNat - '0'.toNat)
  else if 'a' ≤ c ∧ c ≤ 'f' then some (c.toNat - 'a'.toNat + 10)
  else if 'A' ≤ c ∧ c ≤ 'F' then some (c.toNat - 'A'.toNat + 10)
  else none

/-- Is the character a digit of the base? -/
def isDigitOf (base : Nat) (c : Char) : Bool :=
  match hexDigit? c with
  | some n => n < base
  | none => false

/-- The number that digits write in a base; a character that is no digit counts as zero. -/
def natural (base : Nat) (digits : List Char) : Nat :=
  digits.foldl (fun n c => n * base + (hexDigit? c).getD 0) 0

/-- The number that a text of at least one digit writes in a base. -/
def natural? (base : Nat) (s : List Char) : Option Nat :=
  if s.isEmpty || !s.all (isDigitOf base) then none else some (natural base s)

end Text
end QuizBank

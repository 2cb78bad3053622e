import QuizBank.Number.Reader
import QuizBank.Text.Digits
import QuizBank.Toml.Basic

/-!
# TOML scalars without quotes

Truth values, integers, floats, dates and times. A word is one of them or no value at all.
-/

namespace QuizBank
namespace Toml

/-! ### Numbers -/

/-- Digits with single underscores between them, the underscores left out. -/
def ungroup (base : Nat) : List Char → Option (List Char)
  | [] => none
  | [c] => if Text.isDigitOf base c then some [c] else none
  | c :: '_' :: rest =>
    if Text.isDigitOf base c then (ungroup base rest).map (c :: ·) else none
  | c :: rest => if Text.isDigitOf base c then (ungroup base rest).map (c :: ·) else none

/-- A sign, if there is one: is it a minus? And what follows. -/
def splitSign : List Char → Bool × List Char
  | '-' :: rest => (true, rest)
  | '+' :: rest => (false, rest)
  | rest => (false, rest)

/-- The digits of a decimal number before its point: no zero stands in front. -/
def wholeDigits (s : List Char) : Option (List Char) :=
  match ungroup 10 s with
  | some ['0'] => some ['0']
  | some ('0' :: _) => none
  | digits => digits

/-- An integer that some 128-bit type holds. -/
def ofInt (n : Int) : Toml :=
  if -(Nat.pow 2 127 : Int) ≤ n ∧ n < Nat.pow 2 128 then integer n else unrepresentable

/-- An integer: decimal with an optional sign, or hexadecimal, octal or binary behind its mark. -/
def integer? (s : List Char) : Option Toml :=
  match s with
  | '0' :: 'x' :: digits => (ungroup 16 digits).map fun ds => ofInt (Text.natural 16 ds)
  | '0' :: 'o' :: digits => (ungroup 8 digits).map fun ds => ofInt (Text.natural 8 ds)
  | '0' :: 'b' :: digits => (ungroup 2 digits).map fun ds => ofInt (Text.natural 2 ds)
  | s =>
    let (negative, digits) := splitSign s
    (wholeDigits digits).map fun ds =>
      let n : Int := Text.natural 10 ds
      ofInt (if negative then -n else n)

/-- The fraction of a float behind its point, and the exponent behind its mark, both optional, as
`Number.read` takes them. At least one of them must be there. -/
def fractionAndExponent (s : List Char) : Option (List Char) :=
  let exponent (s : List Char) : Option (List Char) := match s with
    | 'e' :: '-' :: rest => (ungroup 10 rest).map ('e' :: '-' :: ·)
    | 'e' :: '+' :: rest => (ungroup 10 rest).map ('e' :: ·)
    | 'e' :: rest => (ungroup 10 rest).map ('e' :: ·)
    | _ => none
  let s := s.map fun c => if c = 'E' then 'e' else c
  match s with
  | '.' :: rest =>
    match ungroup 10 (rest.takeWhile (· != 'e')), rest.dropWhile (· != 'e') with
    | some ds, [] => some ('.' :: ds)
    | some ds, mark => (exponent mark).map (('.' :: ds) ++ ·)
    | none, _ => none
  | s => exponent s

/-- A float: a number with a fraction or an exponent, or one of the words `inf` and `nan`. -/
def float? (s : List Char) : Option Toml :=
  let (negative, s) := splitSign s
  let signed (x : Float) : Toml := float (if negative then -x else x)
  if s = "inf".toList then some (signed (1 / 0))
  else if s = "nan".toList then some (signed (0 / 0))
  else
    let isWhole (c : Char) : Bool := c.isDigit || c == '_'
    match wholeDigits (s.takeWhile isWhole), fractionAndExponent (s.dropWhile isWhole) with
    | some whole, some rest =>
      match Number.read (whole ++ rest) with
      | some x => some (if x.isInf then unrepresentable else signed x)
      | none => none
    | _, _ => none

/-! ### Dates and times -/

/-- The number that two digits write. -/
def twoDigits (a b : Char) : Option Nat := Text.natural? 10 [a, b]

/-- The number of days of a month. -/
def daysOf (year month : Nat) : Nat :=
  if month = 2 then
    if year % 4 = 0 ∧ (year % 100 ≠ 0 ∨ year % 400 = 0) then 29 else 28
  else if month = 4 ∨ month = 6 ∨ month = 9 ∨ month = 11 then 30
  else 31

/-- What follows a date that exists. -/
def afterDate? : List Char → Option (List Char)
  | a :: b :: c :: d :: '-' :: e :: f :: '-' :: g :: h :: rest =>
    match twoDigits a b, twoDigits c d, twoDigits e f, twoDigits g h with
    | some century, some year, some month, some day =>
      if 1 ≤ month ∧ month ≤ 12 ∧ 1 ≤ day ∧ day ≤ daysOf (century * 100 + year) month then some rest
      else none
    | _, _, _, _ => none
  | _ => none

/-- What follows the seconds of a time and their fraction, if they are there. -/
def afterSeconds? : List Char → Option (List Char)
  | ':' :: a :: b :: rest =>
    match twoDigits a b with
    | some second =>
      if 60 < second then none
      else
        match rest with
        | '.' :: fraction =>
          if (fraction.takeWhile Char.isDigit).isEmpty then none
          else some (fraction.dropWhile Char.isDigit)
        | rest => some rest
    | none => none
  | ':' :: _ => none
  | rest => some rest

/-- What follows a time of day. -/
def afterTime? : List Char → Option (List Char)
  | a :: b :: ':' :: c :: d :: rest =>
    match twoDigits a b, twoDigits c d with
    | some hour, some minute => if hour ≤ 23 ∧ minute ≤ 59 then afterSeconds? rest else none
    | _, _ => none
  | _ => none

/-- Is the text an offset from universal time? -/
def isOffset : List Char → Bool
  | [c] => c == 'Z' || c == 'z'
  | [sign, a, b, ':', c, d] =>
    (sign == '+' || sign == '-') &&
      match twoDigits a b, twoDigits c d with
      | some hour, some minute => hour ≤ 23 && minute ≤ 59
      | _, _ => false
  | _ => false

/-- Is the text a date, a time, or both with a mark between them and perhaps an offset? -/
def isMoment (s : List Char) : Bool :=
  match afterDate? s with
  | some [] => true
  | some (mark :: rest) =>
    (mark == 'T' || mark == 't' || mark == ' ') &&
      match afterTime? rest with
      | some rest => rest.isEmpty || isOffset rest
      | none => false
  | none => afterTime? s == some []

/-- The value of a word. -/
def ofWord? (s : List Char) : Option Toml :=
  if s = "true".toList then some (bool true)
  else if s = "false".toList then some (bool false)
  else
    match integer? s with
    | some t => some t
    | none =>
      match float? s with
      | some t => some t
      | none => if isMoment s then some (moment (String.ofList s)) else none

end Toml
end QuizBank

import QuizBank.Json.Basic
import QuizBank.Text.Digits
import QuizBank.Text.Found

/-!
# Reading JSON

`Json.parse?` reads a whole text. Every step returns what is left of the text together with a proof
that it is shorter, so the readers of values, items and members end.

A number is read digit by digit: digits that would take the significand beyond 64 bits are dropped,
and the significand, as a double, is then scaled by a power of ten. This is the nearest double for
numbers of everyday size and one rounding away from it for others.
-/

namespace QuizBank
namespace Json

/-! ### Numbers -/

/-- The greatest significand. -/
def maxSignificand : Nat := Nat.pow 2 64 - 1

/-- Appends digits to a significand as long as it fits; the digits that are left come second. -/
def absorb (significand : Nat) : List Char → Nat × List Char
  | [] => (significand, [])
  | c :: rest =>
    let next := 10 * significand + (c.toNat - '0'.toNat)
    if next ≤ maxSignificand then absorb next rest else (significand, c :: rest)

/-- Multiplies by a power of ten; `none` if the result is infinite. Powers below `10 ^ -308` take
several steps. -/
def scale (x : Float) (exponent : Int) : Option Float :=
  if exponent < -308 then
    if x == 0 then some x else scale (x / Float.ofScientific 1 false 308) (exponent + 308)
  else if exponent < 0 then some (x / Float.ofScientific 1 false exponent.natAbs)
  else if 308 < exponent then if x == 0 then some x else none
  else
    let y := x * Float.ofScientific 1 false exponent.toNat
    if y.isInf then none else some y
termination_by exponent.natAbs
decreasing_by omega

/-- The number of a literal, in parts: its sign, the digits before the point, the digits after it if
there is one, and its exponent if it has one. -/
def numberOf (negative : Bool) (whole : List Char) (fraction : Option (List Char))
    (exponent : Option Int) : Json :=
  let (significand, dropped) := absorb 0 whole
  match fraction, exponent, dropped with
  | none, none, [] =>
    if negative then
      if 1 ≤ significand ∧ significand ≤ Nat.pow 2 63 then number (.negative significand)
      else number (.float (-(Float.ofNat significand)))
    else number (.natural significand)
  | _, _, _ =>
    let digits := fraction.getD []
    let (significand, rest) := absorb significand digits
    let place := (dropped.length : Int) - ((digits.length : Int) - rest.length)
    match scale (Float.ofNat significand) (place + exponent.getD 0) with
    | some x => number (.float (if negative then -x else x))
    | none => unrepresentable

/-! ### Texts -/

/-- A piece of a text: a character, or a 16-bit unit written in hexadecimal. -/
inductive Piece
  | char (c : Char)
  | unit (n : Nat)

/-- Puts the pieces together. Two units of a surrogate pair make one character; half a pair makes
no text. -/
def assemble : List Piece → Option (List Char)
  | [] => some []
  | .char c :: rest => (assemble rest).map (c :: ·)
  | .unit n :: .unit m :: rest =>
    if 0xd800 ≤ n ∧ n < 0xdc00 then
      if 0xdc00 ≤ m ∧ m < 0xe000 then
        (assemble rest).map (Char.ofNat (0x10000 + (n - 0xd800) * 0x400 + (m - 0xdc00)) :: ·)
      else none
    else if 0xdc00 ≤ n ∧ n < 0xe000 then none
    else (assemble (.unit m :: rest)).map (Char.ofNat n :: ·)
  | .unit n :: rest =>
    if 0xd800 ≤ n ∧ n < 0xe000 then none else (assemble rest).map (Char.ofNat n :: ·)

/-- Four hexadecimal digits. -/
def hexUnit (a b c d : Char) : Option Nat :=
  match Text.hexDigit? a, Text.hexDigit? b, Text.hexDigit? c, Text.hexDigit? d with
  | some a, some b, some c, some d => some (((a * 16 + b) * 16 + c) * 16 + d)
  | _, _, _, _ => none

/-- The character that a short escape stands for. -/
def shortEscape (c : Char) : Option Char :=
  if c = '"' then some '"'
  else if c = '\\' then some '\\'
  else if c = '/' then some '/'
  else if c = 'b' then some '\x08'
  else if c = 'f' then some '\x0c'
  else if c = 'n' then some '\n'
  else if c = 'r' then some '\r'
  else if c = 't' then some '\t'
  else none

/-- The pieces of a text up to its closing quote, and what follows the quote. -/
def pieces : List Char → Option (List Piece × List Char)
  | [] => none
  | '"' :: rest => some ([], rest)
  | '\\' :: 'u' :: a :: b :: c :: d :: rest =>
    match hexUnit a b c d, pieces rest with
    | some n, some (ps, rest) => some (.unit n :: ps, rest)
    | _, _ => none
  | '\\' :: c :: rest =>
    match shortEscape c, pieces rest with
    | some e, some (ps, rest) => some (.char e :: ps, rest)
    | _, _ => none
  | c :: rest =>
    if c = '\\' ∨ c.toNat < 32 then none
    else
      match pieces rest with
      | some (ps, rest) => some (.char c :: ps, rest)
      | none => none

theorem length_lt_of_pieces {s : List Char} {p : List Piece × List Char}
    (h : pieces s = some p) : p.2.length < s.length := by
  fun_induction pieces s generalizing p <;> grind

/-! ### Trees -/

/-- The blanks between the parts of a JSON text. -/
def isBlank (c : Char) : Bool := c == ' ' || c == '\n' || c == '\t' || c == '\r'

/-- The text behind its leading blanks. -/
def skipBlanks (s : List Char) : List Char := s.dropWhile isBlank

theorem length_lt_of_skipBlanks {s t : List Char} {c : Char} (h : skipBlanks s = c :: t) :
    t.length < s.length := by
  have := length_dropWhile_le isBlank s
  rw [skipBlanks] at h
  simp only [h, List.length_cons] at this
  omega

/-- The sign at the front of a text, if there is one, and the text behind it. -/
def signAt : List Char → Bool × List Char
  | '-' :: r => (true, r)
  | '+' :: r => (false, r)
  | r => (false, r)

/-- An exponent behind its letter: a sign if there is one, and at least one digit. -/
def exponentOf (s : List Char) : Option (Int × List Char) :=
  let (negative, s) := signAt s
  let digits := s.takeWhile Char.isDigit
  if digits.isEmpty then none
  else
    let n : Int := Nat.ofDigitChars 10 digits 0
    some (if negative then -n else n, s.dropWhile Char.isDigit)

/-- The exponent at the front of a text, if there is one. -/
def exponentAt : List Char → Option (Option Int × List Char)
  | c :: r =>
    if c = 'e' ∨ c = 'E' then (exponentOf r).map fun (e, rest) => (some e, rest)
    else some (none, c :: r)
  | [] => some (none, [])

/-- The digits behind a point at the front of a text, if there is one. -/
def fractionAt : List Char → Option (List Char) × List Char
  | '.' :: r => (some (r.takeWhile Char.isDigit), r.dropWhile Char.isDigit)
  | r => (none, r)

/-- A number without its sign: digits without a leading zero, and a fraction and an exponent if
they are there. -/
def unsignedNumber (negative : Bool) (s : List Char) : Option (Json × List Char) :=
  let whole := s.takeWhile Char.isDigit
  if whole.isEmpty || (whole.head? == some '0' && whole.length != 1) then none
  else
    let (fraction, rest) := fractionAt (s.dropWhile Char.isDigit)
    if fraction == some [] then none
    else
      (exponentAt rest).map fun (exponent, rest) =>
        (numberOf negative whole fraction exponent, rest)

/-- A number with its sign. -/
def numberAt (s : List Char) : Option (Json × List Char) :=
  match s with
  | '-' :: r => unsignedNumber true r
  | r => unsignedNumber false r

/-- A word or a number, and the text behind it. -/
def scalarPart (s : List Char) : Option (Json × List Char) :=
  if "null".toList.isPrefixOf s then some (null, s.drop 4)
  else if "true".toList.isPrefixOf s then some (bool true, s.drop 4)
  else if "false".toList.isPrefixOf s then some (bool false, s.drop 5)
  else numberAt s

/-- A scalar that is not a text. -/
def scalarAt (s : List Char) : Option (Found Json s) :=
  match scalarPart s with
  | some (value, rest) => if h : rest.length < s.length then some ⟨value, rest, h⟩ else none
  | none => none

/-- A text behind its opening quote. -/
def textAt (s : List Char) : Option (Found (Option String) s) :=
  match h : pieces s with
  | some (ps, rest) => some ⟨(assemble ps).map String.ofList, rest, length_lt_of_pieces h⟩
  | none => none

/-- An object, unless one of its names is no text. -/
def objectOf (members : List (Option String × Json)) : Json :=
  match members.mapM fun m => m.1.map fun name => (name, m.2) with
  | some members => object members
  | none => unrepresentable

mutual

/-- A value, with the blanks before it. -/
def valueAt (s : List Char) : Option (Found Json s) :=
  match h : skipBlanks s with
  | [] => none
  | '"' :: t =>
    have ht := length_lt_of_skipBlanks h
    (textAt t).map fun f =>
      ⟨match f.value with
        | some value => text value
        | none => unrepresentable, f.rest, Nat.lt_trans f.shorter ht⟩
  | '[' :: t =>
    have ht := length_lt_of_skipBlanks h
    match h' : skipBlanks t with
    | ']' :: u => some ⟨array [], u, Nat.lt_trans (length_lt_of_skipBlanks h') ht⟩
    | _ => (itemsAt t).map fun f => ⟨array f.value, f.rest, Nat.lt_trans f.shorter ht⟩
  | '\x7b' :: t =>
    have ht := length_lt_of_skipBlanks h
    match h' : skipBlanks t with
    | '\x7d' :: u => some ⟨object [], u, Nat.lt_trans (length_lt_of_skipBlanks h') ht⟩
    | _ => (membersAt t).map fun f => ⟨objectOf f.value, f.rest, Nat.lt_trans f.shorter ht⟩
  | c :: t =>
    (scalarAt (c :: t)).map fun f =>
      ⟨f.value, f.rest, Nat.lt_of_lt_of_le f.shorter (h ▸ length_dropWhile_le isBlank s)⟩
termination_by 2 * s.length

/-- Items with commas between them, up to the closing bracket. -/
def itemsAt (s : List Char) : Option (Found (List Json) s) :=
  match valueAt s with
  | none => none
  | some f =>
    match h : skipBlanks f.rest with
    | ',' :: t =>
      have ht := Nat.lt_trans (length_lt_of_skipBlanks h) f.shorter
      (itemsAt t).map fun g => ⟨f.value :: g.value, g.rest, Nat.lt_trans g.shorter ht⟩
    | ']' :: t =>
      some ⟨[f.value], t, Nat.lt_trans (length_lt_of_skipBlanks h) f.shorter⟩
    | _ => none
termination_by 2 * s.length + 1

/-- Members with commas between them, up to the closing brace. -/
def membersAt (s : List Char) : Option (Found (List (Option String × Json)) s) :=
  match h : skipBlanks s with
  | '"' :: t =>
    have ht := length_lt_of_skipBlanks h
    match textAt t with
    | none => none
    | some name =>
      match h₁ : skipBlanks name.rest with
      | ':' :: u =>
        have hu := Nat.lt_trans (Nat.lt_trans (length_lt_of_skipBlanks h₁) name.shorter) ht
        match valueAt u with
        | none => none
        | some f =>
          match h₂ : skipBlanks f.rest with
          | ',' :: v =>
            have hv := Nat.lt_trans (Nat.lt_trans (length_lt_of_skipBlanks h₂) f.shorter) hu
            (membersAt v).map fun g =>
              ⟨(name.value, f.value) :: g.value, g.rest, Nat.lt_trans g.shorter hv⟩
          | '\x7d' :: v =>
            some ⟨[(name.value, f.value)], v,
              Nat.lt_trans (Nat.lt_trans (length_lt_of_skipBlanks h₂) f.shorter) hu⟩
          | _ => none
      | _ => none
  | _ => none
termination_by 2 * s.length + 1

end

/-- The tree of a text that holds one value and otherwise blanks. -/
def parse? (s : String) : Option Json :=
  match valueAt s.toList with
  | some f => if (skipBlanks f.rest).isEmpty then some f.value else none
  | none => none

end Json
end QuizBank

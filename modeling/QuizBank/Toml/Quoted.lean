import QuizBank.Text.Digits
import QuizBank.Text.Found

/-!
# TOML texts in quotes

There are four forms: between double quotes with escapes, between single quotes without, and each of
them between triple quotes, where a text may run over several lines. Every reader starts behind the
opening quotes. The end of a line stays as it is written, with or without a carriage return.
-/

namespace QuizBank
namespace Toml

/-- The characters that may stand for themselves: all but the control characters, and the tab. -/
def isPlain (c : Char) : Bool := c == '\t' || (0x20 ≤ c.toNat && c.toNat != 0x7f)

/-- The character that an escape of one letter stands for. -/
def shortEscape (c : Char) : Option Char :=
  if c = '"' then some '"'
  else if c = '\\' then some '\\'
  else if c = 'b' then some '\x08'
  else if c = 'e' then some '\x1b'
  else if c = 'f' then some '\x0c'
  else if c = 'n' then some '\n'
  else if c = 'r' then some '\r'
  else if c = 't' then some '\t'
  else none

/-- How many digits follow the letter of an escape that gives the number of a character. -/
def escapeWidth (c : Char) : Option Nat :=
  if c = 'x' then some 2
  else if c = 'u' then some 4
  else if c = 'U' then some 8
  else none

/-- The character of a number, if there is one. -/
def charOfNumber? (n : Nat) : Option Char := if n.isValidChar then some (Char.ofNat n) else none

/-- The character of an escape, behind the backslash. -/
def escapeAt : (s : List Char) → Option (Found Char s)
  | [] => none
  | c :: rest =>
    match shortEscape c, escapeWidth c with
    | some e, _ => some ⟨e, rest, by simp⟩
    | none, some width =>
      if (rest.take width).length = width then
        ((Text.natural? 16 (rest.take width)).bind charOfNumber?).map fun e =>
          ⟨e, rest.drop width, by rw [List.length_drop, List.length_cons]; omega⟩
      else none
    | none, none => none

/-- A text up to its double quote. -/
def escapedAt (s : List Char) : Option (Found (List Char) s) :=
  match s with
  | [] => none
  | '"' :: rest => some ⟨[], rest, by simp⟩
  | '\\' :: rest =>
    match escapeAt rest with
    | some e =>
      have := e.shorter
      (escapedAt e.rest).map fun f =>
        ⟨e.value :: f.value, f.rest, by have := f.shorter; simp only [List.length_cons]; omega⟩
    | none => none
  | c :: rest =>
    if isPlain c then
      (escapedAt rest).map fun f =>
        ⟨c :: f.value, f.rest, Nat.lt_succ_of_lt f.shorter⟩
    else none
termination_by s.length

/-- A text up to its single quote. -/
def literalAt : (s : List Char) → Option (Found (List Char) s)
  | [] => none
  | c :: rest =>
    if c = '\x27' then some ⟨[], rest, by simp⟩
    else if isPlain c then
      (literalAt rest).map fun f => ⟨c :: f.value, f.rest, Nat.lt_succ_of_lt f.shorter⟩
    else none

/-- The text behind a line end that stands at its front. -/
def afterLineEnd : List Char → List Char
  | '\n' :: rest => rest
  | '\r' :: '\n' :: rest => rest
  | s => s

/-- The text behind blanks and line ends. -/
def skipLines : List Char → List Char
  | '\r' :: '\n' :: rest => skipLines rest
  | c :: rest => if c = ' ' ∨ c = '\t' ∨ c = '\n' then skipLines rest else c :: rest
  | [] => []

theorem length_skipLines_le (s : List Char) : (skipLines s).length ≤ s.length := by
  fun_induction skipLines s <;> simp_all <;> omega

/-- Does a line end follow, perhaps behind blanks? -/
def isLineEnd (s : List Char) : Bool :=
  match s.dropWhile fun c => c == ' ' || c == '\t' with
  | '\n' :: _ => true
  | '\r' :: '\n' :: _ => true
  | _ => false

/-- The quotes behind three closing quotes that still belong to the text: no more than two. -/
def extraQuotes (quote : Char) (s : List Char) : Found (List Char) (quote :: s) :=
  match s with
  | a :: b :: rest =>
    if a = quote then
      if b = quote then ⟨[quote, quote], rest, by grind⟩ else ⟨[quote], b :: rest, by simp⟩
    else ⟨[], a :: b :: rest, by simp⟩
  | [a] => if a = quote then ⟨[quote], [], by simp⟩ else ⟨[], [a], by simp⟩
  | [] => ⟨[], [], by simp⟩

/-- A text up to three double quotes. A backslash at the end of a line takes the line end away, and
the blanks behind it. -/
def longEscapedAt (s : List Char) : Option (Found (List Char) s) :=
  match s with
  | [] => none
  | '"' :: '"' :: '"' :: rest => some ((extraQuotes '"' rest).within (by simp))
  | '\r' :: '\n' :: rest =>
    (longEscapedAt rest).map fun f =>
      ⟨'\r' :: '\n' :: f.value, f.rest, by have := f.shorter; simp only [List.length_cons]; omega⟩
  | '\\' :: rest =>
    if isLineEnd rest then
      have := length_skipLines_le rest
      (longEscapedAt (skipLines rest)).map fun f =>
        f.within (by simp only [List.length_cons]; omega)
    else
      match escapeAt rest with
      | some e =>
        have := e.shorter
        (longEscapedAt e.rest).map fun f =>
          ⟨e.value :: f.value, f.rest, by have := f.shorter; simp only [List.length_cons]; omega⟩
      | none => none
  | c :: rest =>
    if isPlain c ∨ c = '\n' then
      (longEscapedAt rest).map fun f => ⟨c :: f.value, f.rest, Nat.lt_succ_of_lt f.shorter⟩
    else none
termination_by s.length
decreasing_by all_goals simp only [List.length_cons]; omega

/-- A text up to three single quotes. -/
def longLiteralAt (s : List Char) : Option (Found (List Char) s) :=
  match s with
  | [] => none
  | '\x27' :: '\x27' :: '\x27' :: rest => some ((extraQuotes '\x27' rest).within (by simp))
  | '\r' :: '\n' :: rest =>
    (longLiteralAt rest).map fun f =>
      ⟨'\r' :: '\n' :: f.value, f.rest, by have := f.shorter; simp only [List.length_cons]; omega⟩
  | c :: rest =>
    if isPlain c ∨ c = '\n' then
      (longLiteralAt rest).map fun f => ⟨c :: f.value, f.rest, Nat.lt_succ_of_lt f.shorter⟩
    else none

theorem length_afterLineEnd_le (s : List Char) : (afterLineEnd s).length ≤ s.length := by
  unfold afterLineEnd
  split <;> grind

/-- A find behind the opening quotes, with the quotes and as a text. -/
def withQuotes {s t : List Char} (h : t.length ≤ s.length) (found : Option (Found (List Char) t)) :
    Option (Found String s) :=
  found.map fun f => (f.map String.ofList).within h

/-- A text in quotes on one line, with its opening quote. -/
def quotedAt : (s : List Char) → Option (Found String s)
  | '"' :: t => withQuotes (by simp) (escapedAt t)
  | '\x27' :: t => withQuotes (by simp) (literalAt t)
  | _ => none

/-- A text in quotes of any form, with its opening quotes. A line end right behind three quotes does
not belong to the text. -/
def textAt : (s : List Char) → Option (Found String s)
  | '"' :: '"' :: '"' :: t =>
    withQuotes (by have := length_afterLineEnd_le t; simp only [List.length_cons]; omega)
      (longEscapedAt (afterLineEnd t))
  | '\x27' :: '\x27' :: '\x27' :: t =>
    withQuotes (by have := length_afterLineEnd_le t; simp only [List.length_cons]; omega)
      (longLiteralAt (afterLineEnd t))
  | s => quotedAt s

end Toml
end QuizBank

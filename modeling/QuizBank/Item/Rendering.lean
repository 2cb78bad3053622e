import QuizBank.Text.Classes
import QuizBank.Value

/-!
# Rendering

A placeholder in a stem is a name between double braces, with blanks around it if wanted. Rendering
goes through the stem once, from left to right, and puts the value of the name in place of the
placeholder. A placeholder whose name has no value stays as it is.
-/

namespace QuizBank
namespace Rendering

/-- A placeholder at the front of a text: the blanks before the name, the name, the blanks behind
it, and the text behind the placeholder. -/
structure Placeholder where
  before : List Char
  name : List Char
  after : List Char
  rest : List Char

namespace Placeholder

/-- The characters of a placeholder. -/
def chars (p : Placeholder) : List Char :=
  '\x7b' :: '\x7b' :: (p.before ++ p.name ++ p.after ++ ['\x7d', '\x7d'])

/-- Characters that a name starts with. -/
def startsName (c : Char) : Bool := c.isAlpha || c == '_'

/-- The placeholder at the front of a text, if there is one. -/
def read? : List Char → Option Placeholder
  | '\x7b' :: '\x7b' :: s =>
    let before := s.takeWhile Text.isBlank
    match s.dropWhile Text.isBlank with
    | c :: s =>
      if startsName c then
        let tail := s.dropWhile Text.isWord
        match tail.dropWhile Text.isBlank with
        | '\x7d' :: '\x7d' :: rest =>
          some ⟨before, c :: s.takeWhile Text.isWord, tail.takeWhile Text.isBlank, rest⟩
        | _ => none
      else none
    | [] => none
  | _ => none

theorem length_rest_lt_of_read? {s : List Char} {p : Placeholder} (h : read? s = some p) :
    p.rest.length < s.length := by
  unfold read? at h
  split at h
  · next s =>
    dsimp only at h
    split at h
    · next c t ht =>
      split at h
      · split at h
        · next rest hrest =>
          have h1 := (List.dropWhile_sublist Text.isBlank (l := s)).length_le
          have h2 := (List.dropWhile_sublist Text.isWord (l := t)).length_le
          have h3 := (List.dropWhile_sublist Text.isBlank
            (l := t.dropWhile Text.isWord)).length_le
          simp only [Option.some.injEq] at h
          subst h
          simp only [ht, hrest, List.length_cons] at *
          omega
        · simp at h
      · simp at h
    · simp at h
  · simp at h

/-- What stands in place of a placeholder. -/
def fill (p : Placeholder) (scope : Scope) : List Char :=
  match scope.get? (String.ofList p.name) with
  | some v => v.display.toList
  | none => p.chars

end Placeholder

/-- The characters of a stem with its placeholders filled. -/
def renderChars (scope : Scope) (s : List Char) : List Char :=
  match _h : Placeholder.read? s with
  | some p => p.fill scope ++ renderChars scope p.rest
  | none =>
    match s with
    | [] => []
    | c :: rest => c :: renderChars scope rest
termination_by s.length
decreasing_by
  · exact Placeholder.length_rest_lt_of_read? _h
  · exact Nat.lt_succ_self _

/-- The stem with its placeholders filled. -/
def render (stem : String) (scope : Scope) : String := String.ofList (renderChars scope stem.toList)

end Rendering
end QuizBank

/-!
# Results of a reader

A reader takes something off the front of a text. Its result carries a proof that what is left is
shorter, so that readers which call each other in turn come to an end.
-/

namespace QuizBank

/-- What a reader found at the front of a text, and what is left of the text. -/
structure Found (α : Type) (s : List Char) where
  value : α
  rest : List Char
  shorter : rest.length < s.length

namespace Found

variable {α β : Type} {s t : List Char}

/-- The same find with another value. -/
def map (f : α → β) (found : Found α s) : Found β s := ⟨f found.value, found.rest, found.shorter⟩

/-- A find at the front of `t` is one at the front of a text that is at least as long. -/
def within (found : Found α t) (h : t.length ≤ s.length) : Found α s :=
  ⟨found.value, found.rest, Nat.lt_of_lt_of_le found.shorter h⟩

end Found

theorem length_dropWhile_le (p : Char → Bool) (s : List Char) :
    (s.dropWhile p).length ≤ s.length := (List.dropWhile_sublist p).length_le

/-- Both ways of taking two texts apart give them back. -/
theorem takeWhile_append_dropWhile_append (p : Char → Bool) (s t : List Char) :
    (s ++ t).takeWhile p ++ (s ++ t).dropWhile p = s.takeWhile p ++ (s.dropWhile p ++ t) := by
  rw [List.takeWhile_append_dropWhile, ← List.append_assoc, List.takeWhile_append_dropWhile]

/-! A part whose characters are all of one kind is told apart from a text behind it that does not
start with a character of the kind. -/

section Stop

variable {p : Char → Bool} {s t : List Char} (hs : ∀ c ∈ s, p c = true)
  (ht : ∀ c ∈ t.head?, p c = false)
include hs ht

theorem takeWhile_append_of_stop : (s ++ t).takeWhile p = s := by
  rw [List.takeWhile_append_of_pos hs]
  cases t with
  | nil => simp
  | cons c t => simp [ht c rfl]

theorem dropWhile_append_of_stop : (s ++ t).dropWhile p = t := by
  rw [List.dropWhile_append_of_pos hs]
  cases t with
  | nil => rfl
  | cons c t => simp [ht c rfl]

end Stop

end QuizBank

import QuizBank.Random.Keystream

/-!
# Draws

A stream of draws is a sequence of numbers with a place in it. Everything random in this library
takes the stream and returns it further on, so the number of draws that a step takes can be read
off: it is the difference of the places.
-/

namespace QuizBank

/-- A sequence of numbers, and how many of them have been taken. -/
structure Draws where
  sequence : Nat → Float
  taken : Nat

namespace Draws

/-- The next number, and the stream behind it. -/
def next (s : Draws) : Float × Draws := (s.sequence s.taken, { s with taken := s.taken + 1 })

/-- The stream without its next `n` numbers. -/
def skip (s : Draws) (n : Nat) : Draws := { s with taken := s.taken + n }

/-- The next `n` numbers. -/
def peek (s : Draws) (n : Nat) : List Float :=
  (List.range n).map fun i => s.sequence (s.taken + i)

/-- The upper 53 bits of a word as a fraction: a number from 0 up to, not including, 1. -/
def fraction (w : UInt64) : Float := (w >>> 11).toFloat / 9007199254740992

/-- The stream of a seed: the seed's digest is the key, and each word of the key stream gives one
number. Equal seeds give equal streams. -/
def ofSeed (seed : String) : Draws :=
  let key := Digest.sha256 seed.toUTF8.toList
  ⟨fun n => fraction (Keystream.word64 key n), 0⟩

end Draws
end QuizBank

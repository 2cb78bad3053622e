import QuizBank.Random.Draws

/-!
# Reading a stream in order

A function that takes draws could look anywhere in the stream: in front of its place, far ahead, or
in another stream altogether. `InOrder` says that it does nothing of the kind. What it gives depends
only on the numbers from its place on, and it returns the same stream, as many numbers further on as
it would take from a fresh stream of these numbers. Functions that are put together from such ones
are such functions themselves.
-/

namespace QuizBank
namespace Draws

variable {α β : Type}

/-- The stream of a sequence of which nothing has been taken. -/
def start (d : Nat → Float) : Draws := ⟨d, 0⟩

/-- The sequence behind its first `n` numbers. -/
def behind (d : Nat → Float) (n : Nat) : Nat → Float := fun i => d (n + i)

/-- The numbers of a seed. -/
def numbers (seed : String) : Nat → Float := (ofSeed seed).sequence

@[simp] theorem behind_zero (d : Nat → Float) : behind d 0 = d := by
  funext i
  rw [behind, Nat.zero_add]

theorem behind_behind (d : Nat → Float) (m n : Nat) :
    behind (behind d m) n = behind d (m + n) := by
  funext i
  show d (m + (n + i)) = d (m + n + i)
  rw [Nat.add_assoc]

/-- The function reads the stream from its place on, and moves the place by what it took. -/
def InOrder (f : Draws → α × Draws) : Prop :=
  ∀ d n, f ⟨d, n⟩ =
    ((f (start (behind d n))).1, ⟨d, n + (f (start (behind d n))).2.taken⟩)

namespace InOrder

variable {f : Draws → α × Draws}

/-- From the start of a sequence the place is what was taken. -/
theorem at_start (hf : InOrder f) (d : Nat → Float) :
    f (start d) = ((f (start d)).1, ⟨d, (f (start d)).2.taken⟩) := by
  have h := hf d 0
  rw [behind_zero, Nat.zero_add] at h
  exact h

theorem congr {g : Draws → α × Draws} (hf : InOrder f) (h : ∀ s, g s = f s) : InOrder g := by
  rw [funext h]
  exact hf

/-- A function that takes no draw. -/
theorem pure (a : α) : InOrder fun s => (a, s) := fun _ _ => rfl

theorem next : InOrder next := fun _ _ => rfl

/-- One function after another, the second told what the first gave. -/
theorem bind (hf : InOrder f) {g : α → Draws → β × Draws} (hg : ∀ a, InOrder (g a)) :
    InOrder fun s => g (f s).1 (f s).2 := by
  intro d n
  obtain ⟨a, taken, hfirst⟩ : ∃ a taken,
      f (start (behind d n)) = (a, ⟨behind d n, taken⟩) := ⟨_, _, hf.at_start _⟩
  have hplace : f ⟨d, n⟩ = (a, ⟨d, n + taken⟩) := by rw [hf d n, hfirst]
  show g (f ⟨d, n⟩).1 (f ⟨d, n⟩).2 =
    ((g (f (start (behind d n))).1 (f (start (behind d n))).2).1,
      ⟨d, n + (g (f (start (behind d n))).1 (f (start (behind d n))).2).2.taken⟩)
  rw [hplace, hfirst]
  -- Both calls of the second function read the sequence behind `n + taken` numbers.
  show g a ⟨d, n + taken⟩ = ((g a ⟨behind d n, taken⟩).1,
    ⟨d, n + (g a ⟨behind d n, taken⟩).2.taken⟩)
  rw [hg a d (n + taken), hg a (behind d n) taken, behind_behind, Nat.add_assoc]

/-- What a function gives may be changed without a draw. -/
theorem map (hf : InOrder f) (h : α → β) : InOrder fun s => (h (f s).1, (f s).2) :=
  hf.bind fun a => pure (h a)

end InOrder
end Draws
end QuizBank

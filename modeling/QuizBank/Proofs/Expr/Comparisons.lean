import QuizBank.Expr.Eval
import QuizBank.Proofs.Number.Order

/-!
# Comparison operators

The operators of order and the loose equality coerce their operands by functions of their own. Two
values fall into one of three cases (`Value.Compared`): both are texts, both coerce to numbers and
one of them is no text, or one of them is a text that is no number. In each case the order of the
values and their equality agree: they are equal exactly where the order says so
(`Value.looseEquals_of_compare`), and where there is no order they are not
(`Value.looseEquals_of_compare_error`). The laws of the operators are read off from these.
-/

namespace QuizBank
namespace Value

/-! ### Numbers -/

theorem compareNumbers_eq (x y : Float) :
    compareNumbers x y = x.toModel.unpack.compare y.toModel.unpack := by
  have hgt : x > y ↔ x.toModel.unpack.compare y.toModel.unpack = some .gt := by
    show y < x ↔ _
    rw [Number.lt_iff_compare, ← Number.compare_swap x.toModel.unpack]
    rcases x.toModel.unpack.compare y.toModel.unpack with _ | _ | _ | _ <;> decide
  simp only [compareNumbers, Number.lt_iff_compare, Number.beq_iff_compare, hgt]
  rcases x.toModel.unpack.compare y.toModel.unpack with _ | _ | _ | _ <;> rfl

theorem compareNumbers_swap (x y : Float) :
    (compareNumbers x y).map Ordering.swap = compareNumbers y x := by
  rw [compareNumbers_eq, compareNumbers_eq, Number.compare_swap]

theorem beq_eq_compareNumbers (x y : Float) : (x == y) = (compareNumbers x y == some .eq) := by
  rw [Bool.eq_iff_iff, Number.beq_iff_compare, compareNumbers_eq, beq_iff_eq]

theorem compareNumbers_eq_none_iff (x y : Float) :
    compareNumbers x y = none ↔ x.isNaN = true ∨ y.isNaN = true := by
  rw [compareNumbers_eq]
  exact Number.compare_eq_none_iff _ _

/-! ### Coercion of both operands -/

/-- Only a text may be no number. -/
theorem exists_toNumber {v : Value} (h : v.text? = none) : ∃ x, v.toNumber = .ok x := by
  cases v with
  | bool b => exact ⟨_, rfl⟩
  | number n => exact ⟨n, rfl⟩
  | text s => cases h

section Coerced

variable {a b : Value} {x y : Float} {e : EvalError}

section Kind

variable (hkind : a.text? = none ∨ b.text? = none)
include hkind

theorem compare_of_toNumber (ha : a.toNumber = .ok x) (hb : b.toNumber = .ok y) :
    a.compare b = .ok (compareNumbers x y) := by
  unfold compare
  split
  · simp [text?] at hkind
  · simp only [ha, hb]

theorem compare_of_left (ha : a.toNumber = .error e) : a.compare b = .error e := by
  unfold compare
  split
  · simp [text?] at hkind
  · simp only [ha]

theorem compare_of_right (ha : a.toNumber = .ok x) (hb : b.toNumber = .error e) :
    a.compare b = .error e := by
  unfold compare
  split
  · simp [text?] at hkind
  · simp only [ha, hb]

theorem looseEquals_of_toNumber (ha : a.toNumber = .ok x) (hb : b.toNumber = .ok y) :
    a.looseEquals b = (x == y) := by
  unfold looseEquals
  split
  · simp [text?] at hkind
  · next p q =>
    cases ha
    cases hb
    cases p <;> cases q <;> decide
  · cases ha
    cases hb
    rfl
  · simp only [ha, hb]

end Kind

theorem looseEquals_of_left (ha : a.toNumber = .error e) (hb : b.text? = none) :
    a.looseEquals b = false := by
  cases a with
  | bool p => cases ha
  | number n => cases ha
  | text s =>
    cases b with
    | bool q => simp only [looseEquals, ha]
    | number n => simp only [looseEquals, ha]
    | text t => cases hb

theorem looseEquals_of_right (ha : a.text? = none) (hb : b.toNumber = .error e) :
    a.looseEquals b = false := by
  cases b with
  | bool p => cases hb
  | number n => cases hb
  | text t =>
    obtain ⟨x, hx⟩ := exists_toNumber ha
    cases a with
    | bool q => simp only [looseEquals, hx, hb]
    | number n => simp only [looseEquals, hx, hb]
    | text s => cases ha

end Coerced

/-! ### Two values -/

/-- How two values compare: as texts, as numbers, or not at all. -/
inductive Compared : Value → Value → Prop
  | texts (s t : String) : Compared (text s) (text t)
  | numbers {a b : Value} {x y : Float} :
      a.text? = none ∨ b.text? = none → a.toNumber = .ok x → b.toNumber = .ok y → Compared a b
  | failing {a b : Value} {e : EvalError} :
      a.compare b = .error e → b.compare a = .error e → a.looseEquals b = false → Compared a b

theorem compared (a b : Value) : Compared a b := by
  cases ha : a.text? with
  | none =>
    obtain ⟨x, hx⟩ := exists_toNumber ha
    cases hb : b.toNumber with
    | ok y => exact .numbers (.inl ha) hx hb
    | error e =>
      exact .failing (compare_of_right (.inl ha) hx hb) (compare_of_left (.inr ha) hb)
        (looseEquals_of_right ha hb)
  | some s =>
    cases hb : b.text? with
    | none =>
      obtain ⟨y, hy⟩ := exists_toNumber hb
      cases hx : a.toNumber with
      | ok x => exact .numbers (.inr hb) hx hy
      | error e =>
        exact .failing (compare_of_left (.inr hb) hx) (compare_of_right (.inl hb) hy hx)
          (looseEquals_of_left hx hb)
    | some t =>
      cases a <;> cases ha
      cases b <;> cases hb
      exact .texts s t

/-- Turned round, a comparison gives the opposite answer or the same error. -/
theorem compare_swap (a b : Value) :
    (a.compare b).map (Option.map Ordering.swap) = b.compare a := by
  cases compared a b with
  | texts s t =>
    show Except.ok (some (Ord.compare s t).swap) = Except.ok (some (Ord.compare t s))
    rw [← Std.OrientedCmp.eq_swap]
  | numbers hkind ha hb =>
    rw [compare_of_toNumber hkind ha hb, compare_of_toNumber hkind.symm hb ha]
    exact congrArg Except.ok (compareNumbers_swap _ _)
  | failing hab hba =>
    rw [hab, hba]
    rfl

theorem looseEquals_of_compare {a b : Value} {o : Option Ordering} (h : a.compare b = .ok o) :
    a.looseEquals b = (o == some .eq) := by
  cases compared a b with
  | texts s t =>
    obtain rfl : some (Ord.compare s t) = o := Except.ok.inj h
    show (s == t) = _
    rw [Bool.eq_iff_iff, beq_iff_eq, beq_iff_eq, Option.some_inj]
    exact Std.LawfulEqCmp.compare_eq_iff_eq.symm
  | numbers hkind ha hb =>
    rw [compare_of_toNumber hkind ha hb] at h
    cases h
    rw [looseEquals_of_toNumber hkind ha hb, beq_eq_compareNumbers]
  | failing hab =>
    rw [hab] at h
    cases h

theorem looseEquals_of_compare_error {a b : Value} {e : EvalError} (h : a.compare b = .error e) :
    a.looseEquals b = false := by
  cases compared a b with
  | texts s t => cases h
  | numbers hkind ha hb =>
    rw [compare_of_toNumber hkind ha hb] at h
    cases h
  | failing _ _ hne => exact hne

/-- Equality does not depend on the side: the order that it goes by is only turned round. -/
theorem looseEquals_comm (a b : Value) : a.looseEquals b = b.looseEquals a := by
  have hswap := compare_swap a b
  cases hab : a.compare b with
  | error e =>
    rw [hab] at hswap
    rw [looseEquals_of_compare_error hab, looseEquals_of_compare_error hswap.symm]
  | ok o =>
    rw [hab] at hswap
    rw [looseEquals_of_compare hab, looseEquals_of_compare hswap.symm]
    rcases o with _ | _ | _ | _ <;> rfl

theorem looseEquals_of_equals {a b : Value} (h : a.equals b = true) : a.looseEquals b = true := by
  cases a <;> cases b <;> first | exact h | cases h

/-- The value counts as a number, and that is NaN. -/
def CoercesToNaN (v : Value) : Prop := ∃ x, v.toNumber = .ok x ∧ x.isNaN = true

theorem coercesToNaN_iff {v : Value} {x : Float} (h : v.toNumber = .ok x) :
    v.CoercesToNaN ↔ x.isNaN = true := by
  simp [CoercesToNaN, h]

theorem eq_none_iff_of_compare {a b : Value} {o : Option Ordering} (h : a.compare b = .ok o) :
    o = none ↔ (a.text? = none ∨ b.text? = none) ∧ (a.CoercesToNaN ∨ b.CoercesToNaN) := by
  cases compared a b with
  | texts s t =>
    cases h
    simp [text?]
  | numbers hkind ha hb =>
    rw [compare_of_toNumber hkind ha hb] at h
    cases h
    rw [compareNumbers_eq_none_iff, coercesToNaN_iff ha, coercesToNaN_iff hb]
    exact (and_iff_right hkind).symm
  | failing hab =>
    rw [hab] at h
    cases h

end Value

/-! ### The operators -/

namespace BinaryOp

variable {a b : Value}

theorem ordered_of_compare {o : Option Ordering} (h : a.compare b = .ok o)
    (accept : Option Ordering → Bool) : ordered accept a b = .ok (.bool (accept o)) := by
  rw [ordered, h]
  rfl

theorem ordered_of_compare_error {e : EvalError} (h : a.compare b = .error e)
    (accept : Option Ordering → Bool) : ordered accept a b = .error e := by
  rw [ordered, h]
  rfl

/-- A test of the order with its operands exchanged is the opposite test. -/
theorem ordered_swap {accept accept' : Option Ordering → Bool}
    (h : ∀ o, accept' (o.map Ordering.swap) = accept o) (a b : Value) :
    ordered accept a b = ordered accept' b a := by
  rw [ordered, ordered, ← Value.compare_swap a b]
  cases a.compare b with
  | error e => rfl
  | ok o => exact congrArg (fun r => Except.ok (Value.bool r)) (h o).symm

theorem lt_swap (a b : Value) : lt.apply a b = gt.apply b a := by
  apply ordered_swap
  rintro (_ | _ | _ | _) <;> rfl

theorem le_swap (a b : Value) : le.apply a b = ge.apply b a := by
  apply ordered_swap
  rintro (_ | _ | _ | _) <;> rfl

/-- **Order and equality agree.** Of all pairs of values: an order turned round has the same result
or the same error; equality does not depend on the side, inequality is its negation, and what is
strictly equal is equal. Where the values cannot be ordered they are not equal. Where they can, "at
most" means less or equal, and at most one of less, greater and equal holds; none of them holds
exactly if one of the values coerces to NaN and they are not both texts. -/
theorem comparisons_coherent (a b : Value) :
    (lt.apply a b = gt.apply b a ∧ le.apply a b = ge.apply b a) ∧
    ∃ equal, (looseEq.apply a b = .ok (.bool equal) ∧ looseEq.apply b a = .ok (.bool equal) ∧
        looseNe.apply a b = .ok (.bool !equal)) ∧
      (strictEq.apply a b = .ok (.bool true) → equal = true) ∧
      ((∃ e, lt.apply a b = .error e ∧ equal = false) ∨
        ∃ less greater, lt.apply a b = .ok (.bool less) ∧ gt.apply a b = .ok (.bool greater) ∧
          le.apply a b = .ok (.bool (less || equal)) ∧
          [less, greater, equal].count true ≤ 1 ∧
          ([less, greater, equal].count true = 0 ↔
            (a.text? = none ∨ b.text? = none) ∧ (a.CoercesToNaN ∨ b.CoercesToNaN))) := by
  refine ⟨⟨lt_swap a b, le_swap a b⟩, a.looseEquals b, ⟨rfl, ?_, rfl⟩, ?_, ?_⟩
  · rw [Value.looseEquals_comm]
    rfl
  · intro hstrict
    have hequals : a.equals b = true := Value.bool.inj (Except.ok.inj hstrict)
    exact Value.looseEquals_of_equals hequals
  · cases hab : a.compare b with
    | error e =>
      exact .inl ⟨e, ordered_of_compare_error hab _, Value.looseEquals_of_compare_error hab⟩
    | ok o =>
      refine .inr ⟨_, _, ordered_of_compare hab _, ordered_of_compare hab _, ?_, ?_, ?_⟩
      · rw [Value.looseEquals_of_compare hab]
        exact ordered_of_compare hab _
      · rw [Value.looseEquals_of_compare hab]
        rcases o with _ | _ | _ | _ <;> decide
      · rw [Value.looseEquals_of_compare hab, ← Value.eq_none_iff_of_compare hab]
        rcases o with _ | _ | _ | _ <;> decide

/-- A text that reads as NaN is neither less than a number, nor greater, nor equal to it; a text
that is no number cannot be ordered with a truth value, and is not equal to it. -/
theorem comparisons_coherent_texts :
    (∃ less greater equal, lt.apply (.text " NaN") (.number 1) = .ok (.bool less) ∧
      gt.apply (.text " NaN") (.number 1) = .ok (.bool greater) ∧
      looseEq.apply (.text " NaN") (.number 1) = .ok (.bool equal) ∧
      [less, greater, equal].count true = 0) ∧
    ∃ e, lt.apply (.text "yes") (.bool true) = .error e ∧
      looseEq.apply (.text "yes") (.bool true) = .ok (.bool false) := by
  constructor
  · obtain ⟨-, equal, ⟨hequal, -⟩, -, ⟨e, herror, -⟩ | ⟨less, greater, hless, hgreater, -, -, hnone⟩⟩ :=
      comparisons_coherent (.text " NaN") (.number 1)
    · have hok : (lt.apply (.text " NaN") (.number 1)).isOk = true := by decide +kernel
      rw [herror] at hok
      cases hok
    · refine ⟨less, greater, equal, hless, hgreater, hequal, hnone.2 ⟨.inr rfl, .inl ?_⟩⟩
      exact ⟨0 / 0, by decide +kernel, by decide +kernel⟩
  · obtain ⟨-, equal, ⟨hequal, -⟩, -, ⟨e, herror, rfl⟩ | ⟨less, -, hless, -⟩⟩ :=
      comparisons_coherent (.text "yes") (.bool true)
    · exact ⟨e, herror, hequal⟩
    · have hfails : (lt.apply (.text "yes") (.bool true)).isOk = false := by decide +kernel
      rw [hless] at hfails
      cases hfails

end BinaryOp
end QuizBank

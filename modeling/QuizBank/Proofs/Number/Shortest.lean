import QuizBank.Number.Text
import QuizBank.Proofs.Number.Decimal
import QuizBank.Proofs.Number.Whole

/-!
# The digits of a double

`Decimal.shortest` looks for a decimal that reads back as a given double, and whatever it takes does
so (`value?_shortest`): where no short decimal is found the exact value stands in for it, and zeros at
the end are left out without a change of value. It has a digit other than zero, unless the double is
a zero (`shortest_digits_ne_zero`), so that no number is written with zeros in front.
-/

namespace QuizBank

open Float.Model (UnpackedFloat)
open Float.Model.UnpackedFloat

namespace Number

theorem IsValue.abs {u : UnpackedFloat} {q : ℚ} (h : IsValue u q) : IsValue u.abs |q| := by
  rcases h.zero_or_finite with ⟨s, rfl, rfl⟩ | ⟨s, m, e, hm, rfl, rfl, hb⟩
  · rw [abs_zero]
    exact isValue_zero .positive
  · refine ⟨⟨false, m, e⟩, rfl, ⟨hb.mantissa_lt, hb.le_exponent, hb.full⟩, ?_⟩
    have hpos := mul_zpow_pos hm e
    rw [abs_withSign, abs_of_pos hpos]
    rfl

/-- The absolute value of a double stands for the absolute value. -/
theorem value?_abs {x : Float} {q : ℚ} (hx : value? x = some q) : value? x.abs = some |q| := by
  have hlt := abs_lt_overflow_of_value? hx
  rw [← abs_abs] at hlt
  exact (value?_pack (isValue_unpack hx).abs).trans (limited_of_lt hlt)

end Number

namespace Decimal

open Number

variable {x : Float} {b : Binary}

/-- A neighbour is only taken if it reads back. -/
theorem toFloat_of_neighbour? {tie : Tie} {place : ℤ} {d : Decimal}
    (h : neighbour? tie x b place = some d) : (d.toFloat == x) = true := by
  unfold neighbour? at h
  dsimp only at h
  split at h
  · next hlower hupper =>
    have heither : ∀ {lower upper : Decimal} {upperFirst : Bool},
        (lower.toFloat == x) = true → (upper.toFloat == x) = true →
          ((if upperFirst = true then upper else lower).toFloat == x) = true := by
      intro lower upper upperFirst hl hu
      cases upperFirst with
      | false => exact hl
      | true => exact hu
    cases h
    exact heither hlower hupper
  · next hlower _ =>
    cases h
    exact hlower
  · next _ hupper =>
    cases h
    exact hupper
  · cases h

/-- What is looked for is taken only if it reads back; else the exact value is taken. -/
theorem shortest_eq (tie : Tie) (x : Float) (b : Binary) :
    ∃ d, shortest tie x b = d.trim ∧ ((d.toFloat == x) = true ∨ d = exact b) := by
  rw [shortest]
  cases hfound : (List.range 17).findSome? fun (i : ℕ) =>
      neighbour? tie x b (leadingPlace b - i) with
  | none => exact ⟨exact b, rfl, .inr rfl⟩
  | some d =>
    obtain ⟨i, -, hi⟩ := List.exists_of_findSome?_eq_some hfound
    exact ⟨d, rfl, .inl (toFloat_of_neighbour? hi)⟩

theorem value_trim (d : Decimal) : d.trim.value = d.value := by
  fun_induction trim d with
  | case1 d hd ih =>
    have hdigits : ((d.digits / 10 : ℕ) : ℚ) * 10 = d.digits := by
      exact_mod_cast Nat.div_mul_cancel (Nat.dvd_of_mod_eq_zero hd.2)
    rw [ih, value, value, zpow_add₀ (by norm_num), zpow_one, ← hdigits]
    ring
  | case2 => rfl

theorem value_exact (b : Binary) : (exact b).value = |b.value| := by
  rw [exact, Binary.abs_value]
  split
  · next he =>
    rw [value, zpow_zero, mul_one, Binary.mantissa_mul_eq_natCast he]
    rfl
  · next he =>
    -- A half is five tenths.
    have hten : (10 : ℚ) ^ b.exponent = 5 ^ b.exponent * 2 ^ b.exponent := by
      rw [← mul_zpow]
      norm_num
    have hfive : ((5 ^ (-b.exponent).toNat : ℕ) : ℚ) * 5 ^ b.exponent = 1 := by
      rw [Nat.cast_pow, ← zpow_natCast, Int.toNat_of_nonneg (by omega)]
      exact zpow_neg_mul_zpow_self _ (by norm_num)
    rw [value, hten]
    show ((b.mantissa * 5 ^ (-b.exponent).toNat : ℕ) : ℚ) * _ = _
    rw [Nat.cast_mul, mul_assoc, ← mul_assoc _ ((5 : ℚ) ^ b.exponent), hfive, one_mul]

/-- **The digits of a double read back as its magnitude.** -/
theorem value?_shortest (tie : Tie) (hx : Binary.ofFloat? x = some b) :
    value? (shortest tie x.abs b).toFloat = some |b.value| := by
  have hvalue : value? x = some b.value := by rw [value?, hx, Option.map_some]
  have habs := value?_abs hvalue
  obtain ⟨d, hd, h⟩ := shortest_eq tie x.abs b
  have hread : value? d.toFloat = some |b.value| := by
    rcases h with h | rfl
    · exact value?_of_beq habs h
    · rw [value?_toFloat, value_exact, rounded_of_representable (representable_of_value? habs),
        limited_of_lt]
      rw [abs_abs]
      exact abs_lt_overflow_of_value? hvalue
  rw [hd, value?_toFloat, value_trim, ← value?_toFloat, hread]

/-- The digits of a double other than zero are not all zero. -/
theorem shortest_digits_ne_zero {tie : Tie} (hx : Binary.ofFloat? x = some b)
    (hb : b.mantissa ≠ 0) : (shortest tie x.abs b).digits ≠ 0 := by
  intro hdigits
  have hread := value?_shortest tie hx
  rw [value?_toFloat, value, hdigits, Nat.cast_zero, zero_mul, rounded_zero,
    limited_of_lt (by simp [overflow])] at hread
  have hpos : 0 < |b.value| := by
    rw [Binary.abs_value]
    exact mul_zpow_pos (Nat.pos_of_ne_zero hb) _
  exact hpos.ne (Option.some.inj hread)

end Decimal
end QuizBank

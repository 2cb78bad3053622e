import QuizBank.Proofs.Number.Arithmetic

/-!
# Order of doubles

Doubles are compared by their unpacked forms. The comparison is a partial order: turned round it
gives the opposite answer (`compare_swap`), and it gives none exactly if one of the two is NaN
(`compare_eq_none_iff`). Finite doubles are ordered and equal as their values are, and no other
double equals a finite one.
-/

namespace QuizBank

open Float.Model (UnpackedFloat)
open Float.Model.UnpackedFloat

namespace Number

/-! ### The partial order -/

theorem compare_sign_swap (s t : Sign) : (compare s t).swap = compare t s := by
  cases s <;> cases t <;> rfl

/-- Turned round, a comparison gives the opposite answer, or none as before. The cases are those of
both forms; only for two finite numbers other than zero is there something to compare. -/
theorem compare_swap (u v : UnpackedFloat) : (u.compare v).map Ordering.swap = v.compare u := by
  cases u with
  | notANumber => cases v <;> rfl
  | infinity s =>
    cases v with
    | notANumber => rfl
    | infinity t => exact congrArg some (compare_sign_swap s t)
    | zero t => cases s <;> rfl
    | finite t m e hm => cases s <;> rfl
  | zero s =>
    cases v with
    | notANumber => rfl
    | infinity t => cases t <;> rfl
    | zero t => rfl
    | finite t m e hm => cases t <;> rfl
  | finite s m e hm =>
    cases v with
    | notANumber => cases s <;> rfl
    | infinity t => cases s <;> cases t <;> rfl
    | zero t => cases s <;> rfl
    | finite t m' e' hm' =>
      have hparts : ((compare e e').then (compare m m')).swap =
          (compare e' e).then (compare m' m) := by
        rw [Ordering.swap_then, Int.compare_swap, Nat.compare_swap]
      cases s <;> cases t
      · exact congrArg (fun o => some (Ordering.swap o)) hparts
      · rfl
      · rfl
      · exact congrArg some hparts

theorem isNaN_iff_eq (u : UnpackedFloat) : u.isNaN = true ↔ u = .notANumber := by
  cases u <;> simp [UnpackedFloat.isNaN]

theorem compare_eq_none_iff (u v : UnpackedFloat) :
    u.compare v = none ↔ u.isNaN = true ∨ v.isNaN = true := by
  rw [isNaN_iff_eq, isNaN_iff_eq]
  constructor
  · intro h
    unfold UnpackedFloat.compare at h
    split at h <;> first | exact .inl rfl | exact .inr rfl | cases h
  · rintro (rfl | rfl)
    · rfl
    · cases u with
      | notANumber => rfl
      | infinity s => rfl
      | zero s => rfl
      | finite s m e hm => cases s <;> rfl

theorem le_iff_compare (x y : Float) :
    x ≤ y ↔ (x.toModel.unpack.compare y.toModel.unpack).any (·.isLE) = true := by
  show decide (x.toModel ≤ y.toModel) = true ↔ _
  rw [decide_eq_true_iff]
  rfl

theorem lt_iff_compare (x y : Float) :
    x < y ↔ x.toModel.unpack.compare y.toModel.unpack = some .lt := by
  show decide (x.toModel < y.toModel) = true ↔ _
  rw [decide_eq_true_iff]
  show (x.toModel.unpack.compare y.toModel.unpack == some .lt) = true ↔ _
  rw [beq_iff_eq]

theorem beq_iff_compare (x y : Float) :
    (x == y) = true ↔ x.toModel.unpack.compare y.toModel.unpack = some .eq := by
  show (x.toModel.unpack.compare y.toModel.unpack == some .eq) = true ↔ _
  rw [beq_iff_eq]

/-! ### Finite doubles -/

variable {u v : UnpackedFloat} {p q : ℚ}

/-- In canonical form a greater exponent makes a greater magnitude. -/
theorem lt_of_exponent_lt {b b' : Binary} (hb : b.Canonical) (hb' : b'.Canonical)
    (h : b.exponent < b'.exponent) : |b.value| < |b'.value| := by
  have hlow := hb.le_exponent
  have hpow := zpow_le_zpow_two (show b.exponent + 1 ≤ b'.exponent by omega)
  rw [zpow_add_two, zpow_one] at hpow
  calc |b.value| < 2 ^ 53 * 2 ^ b.exponent := hb.abs_value_lt
    _ ≤ 2 ^ 52 * 2 ^ b'.exponent := by linarith
    _ ≤ |b'.value| := hb'.le_abs_value (by omega)

theorem compare_parts {b b' : Binary} (hb : b.Canonical) (hb' : b'.Canonical) :
    (compare b.exponent b'.exponent).then (compare b.mantissa b'.mantissa) =
      compare |b.value| |b'.value| := by
  rcases lt_trichotomy b.exponent b'.exponent with h | h | h
  · rw [compare_lt_iff_lt.2 h, compare_lt_iff_lt.2 (lt_of_exponent_lt hb hb' h)]
    rfl
  · rw [compare_eq_iff_eq.2 h, Binary.abs_value, Binary.abs_value, h]
    have hpos := zpow_pos_two b'.exponent
    rcases lt_trichotomy b.mantissa b'.mantissa with hm | hm | hm
    · rw [compare_lt_iff_lt.2 hm,
        compare_lt_iff_lt.2 (mul_lt_mul_of_pos_right (by exact_mod_cast hm) hpos)]
      rfl
    · rw [compare_eq_iff_eq.2 hm, hm, compare_eq_iff_eq.2 rfl]
      rfl
    · rw [compare_gt_iff_gt.2 hm,
        compare_gt_iff_gt.2 (mul_lt_mul_of_pos_right (by exact_mod_cast hm) hpos)]
      rfl
  · rw [compare_gt_iff_gt.2 h, compare_gt_iff_gt.2 (lt_of_exponent_lt hb' hb h)]
    rfl

theorem compare_neg_neg (x y : ℚ) : compare (-x) (-y) = (compare x y).swap := by
  rcases lt_trichotomy x y with h | rfl | h
  · rw [compare_lt_iff_lt.2 h, compare_gt_iff_gt.2 (neg_lt_neg h)]
    rfl
  · rw [compare_eq_iff_eq.2 rfl, compare_eq_iff_eq.2 rfl]
    rfl
  · rw [compare_gt_iff_gt.2 h, compare_lt_iff_lt.2 (neg_lt_neg h)]
    rfl

theorem IsValue.compare_eq (hu : IsValue u p) (hv : IsValue v q) :
    u.compare v = some (compare p q) := by
  rcases hu.zero_or_finite with ⟨s, rfl, rfl⟩ | ⟨s, m, e, hm, rfl, rfl, hb⟩ <;>
    rcases hv.zero_or_finite with ⟨s', rfl, rfl⟩ | ⟨s', m', e', hm', rfl, rfl, hb'⟩
  · rw [compare_eq_iff_eq.2 rfl]
    rfl
  · have hpos := mul_zpow_pos hm' e'
    cases s' with
    | negative => exact congrArg some (compare_gt_iff_gt.2 (neg_lt_zero.2 hpos)).symm
    | positive => exact congrArg some (compare_lt_iff_lt.2 hpos).symm
  · have hpos := mul_zpow_pos hm e
    cases s with
    | negative => exact congrArg some (compare_lt_iff_lt.2 (neg_lt_zero.2 hpos)).symm
    | positive => exact congrArg some (compare_gt_iff_gt.2 hpos).symm
  · have hpos := mul_zpow_pos hm e
    have hpos' := mul_zpow_pos hm' e'
    have hparts := compare_parts hb hb'
    rw [Binary.abs_value, Binary.abs_value] at hparts
    cases s <;> cases s'
    · exact congrArg some ((congrArg Ordering.swap hparts).trans (compare_neg_neg _ _).symm)
    · exact congrArg some (compare_lt_iff_lt.2 (lt_trans (neg_lt_zero.2 hpos) hpos')).symm
    · exact congrArg some (compare_gt_iff_gt.2 (lt_trans (neg_lt_zero.2 hpos') hpos)).symm
    · exact congrArg some hparts

variable {x y : Float}

theorem le_iff (hx : value? x = some p) (hy : value? y = some q) : x ≤ y ↔ p ≤ q := by
  have h := (isValue_unpack hx).compare_eq (isValue_unpack hy)
  rw [le_iff_compare, h]
  exact Ordering.isLE_iff_ne_gt.trans compare_le_iff_le

theorem lt_iff (hx : value? x = some p) (hy : value? y = some q) : x < y ↔ p < q := by
  have h := (isValue_unpack hx).compare_eq (isValue_unpack hy)
  rw [lt_iff_compare, h, Option.some_inj]
  exact compare_lt_iff_lt

theorem beq_iff (hx : value? x = some p) (hy : value? y = some q) : (x == y) = true ↔ p = q := by
  have h := (isValue_unpack hx).compare_eq (isValue_unpack hy)
  rw [beq_iff_compare, h, Option.some_inj]
  exact compare_eq_iff_eq

/-- An infinity and NaN equal no finite double. -/
theorem beq_of_none (hx : value? x = none) (hy : value? y = some q) : (x == y) = false := by
  have hu := value?_eq_none hx
  show (x.toModel.unpack.compare y.toModel.unpack == some .eq) = false
  cases hx : x.toModel.unpack with
  | zero s => rw [hx] at hu; cases hu
  | finite s m e hm => rw [hx] at hu; cases hu
  | notANumber => rfl
  | infinity s =>
    rcases (isValue_unpack hy).zero_or_finite with ⟨s', h, -⟩ | ⟨s', m, e, hm, h, -, -⟩
    all_goals
      rw [h]
      cases s <;> rfl

/-- What equals a finite double has its value. -/
theorem value?_of_beq (hy : value? y = some q) (h : (x == y) = true) : value? x = some q := by
  cases hx : value? x with
  | none =>
    rw [beq_of_none hx hy] at h
    cases h
  | some p => rw [(beq_iff hx hy).1 h]

/-- Doubles of one value are equal to the same doubles. -/
theorem beq_congr (hx : value? x = some p) (hy : value? y = some p) (z : Float) :
    (z == x) = (z == y) := by
  cases hz : value? z with
  | none => rw [beq_of_none hz hx, beq_of_none hz hy]
  | some r => rw [Bool.eq_iff_iff, beq_iff hz hx, beq_iff hz hy]

end Number

/-! ### One double for one value -/

namespace Binary

theorem eq_of_ofFloat? {x y : Float} {b : Binary} (hx : ofFloat? x = some b)
    (hy : ofFloat? y = some b) : x = y := by
  have hbits : x.toBits.toNat = y.toBits.toNat := by
    have hx' := x.toBits.toNat_lt
    have hy' := y.toBits.toNat_lt
    unfold ofFloat? at hx hy
    simp only [Nat.pow_eq] at hx hy
    split at hx
    · cases hx
    split at hy
    · cases hy
    split at hx <;> cases hx <;> split at hy <;>
      simp only [Option.some.injEq, Binary.mk.injEq, decide_eq_decide] at hy <;> omega
  obtain ⟨⟨u, hu⟩⟩ := x
  obtain ⟨⟨v, hv⟩⟩ := y
  obtain rfl : u = v := UInt64.toNat_inj.1 hbits
  rfl

/-- A number other than zero has one canonical form. -/
theorem Canonical.eq_of_value {b b' : Binary} (hb : b.Canonical) (hb' : b'.Canonical)
    (hvalue : b.value = b'.value) (hne : b.value ≠ 0) : b = b' := by
  have habs : |b.value| = |b'.value| := by rw [hvalue]
  have hexponent : b.exponent = b'.exponent := by
    rcases lt_trichotomy b.exponent b'.exponent with h | h | h
    · exact absurd habs (Number.lt_of_exponent_lt hb hb' h).ne
    · exact h
    · exact absurd habs (Number.lt_of_exponent_lt hb' hb h).ne'
  have hmantissa : b.mantissa = b'.mantissa := by
    rw [abs_value, abs_value, hexponent] at habs
    exact_mod_cast mul_right_cancel₀ (Number.zpow_pos_two b'.exponent).ne' habs
  have hsign : b.negative = b'.negative := by
    have hm : |b'.value| ≠ 0 := by rwa [← habs, abs_ne_zero]
    rw [← withSign_abs_value b, ← withSign_abs_value b', habs] at hvalue
    cases h : b.negative <;> cases h' : b'.negative
    · rfl
    · rw [h, h'] at hvalue
      exact absurd (self_eq_neg.1 hvalue) hm
    · rw [h, h'] at hvalue
      exact absurd (neg_eq_self.1 hvalue) hm
    · rfl
  obtain ⟨negative, m, e⟩ := b
  rw [Binary.mk.injEq]
  exact ⟨hsign, hmantissa, hexponent⟩

end Binary

/-- Only the two zeros share a value. -/
theorem Number.eq_of_value? {x y : Float} {q : ℚ} (hx : value? x = some q)
    (hy : value? y = some q) (hq : q ≠ 0) : x = y := by
  obtain ⟨b, hb, rfl⟩ := Option.map_eq_some_iff.1 hx
  obtain ⟨b', hb', hvalue⟩ := Option.map_eq_some_iff.1 hy
  have heq := (Binary.canonical_of_ofFloat? hb').1.eq_of_value (Binary.canonical_of_ofFloat? hb).1
    hvalue (hvalue ▸ hq)
  exact Binary.eq_of_ofFloat? hb (heq ▸ hb')

end QuizBank

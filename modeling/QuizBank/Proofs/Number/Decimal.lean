import QuizBank.Number.Decimal
import QuizBank.Proofs.Number.Order

/-!
# Values of decimals

The double of a decimal is the nearest one: it stands for the decimal's `value`, rounded
(`Decimal.value?_toFloat`). So two decimals of one value, however many zeros they end with, are read
as one double.
-/

namespace QuizBank

open Float.Model (UnpackedFloat Format)
open Float.Model.UnpackedFloat

namespace Number

/-! ### Beyond the range of doubles -/

/-- A number below half the smallest place is rounded away. -/
theorem rounded_eq_zero {x : ℚ} (h : |x| < 2 ^ (-1075 : ℤ)) : rounded x = 0 := by
  -- Zero is as near as any, and from zero the next number is twice as far as `x`.
  have hnear := abs_rounded_sub_le .zero x
  rw [zero_sub, abs_neg] at hnear
  have hsmall : |rounded x| < 2 ^ (-1074 : ℤ) := by
    have hstep : |rounded x| ≤ |rounded x - x| + |x| := by
      simpa using abs_add_le (rounded x - x) x
    have hdouble : (2 : ℚ) ^ (-1074 : ℤ) = 2 * 2 ^ (-1075 : ℤ) := by
      rw [show (-1074 : ℤ) = 1 + -1075 by norm_num, zpow_add_two, zpow_one]
    linarith
  obtain ⟨n, hn⟩ | ⟨hplace, -⟩ := (representable_rounded x).eq_mul_zpow (le_refl (-1074))
  · rw [hn, abs_mul, abs_of_pos (zpow_pos_two _)] at hsmall
    have hone := (mul_lt_iff_lt_one_left (zpow_pos_two _)).1 hsmall
    have hzero : n = 0 := by
      rw [← Int.abs_lt_one_iff]
      exact_mod_cast hone
    rw [hn, hzero, Int.cast_zero, zero_mul]
  · exact absurd hplace (lt_irrefl _)

theorem representable_overflow : Representable overflow := by
  have h := Representable.mul_zpow (n := 2 ^ 53) (t := 971) (by norm_num) (by norm_num)
  rwa [Int.cast_pow, Int.cast_ofNat] at h

/-- A number that is too large for a double is so after rounding. -/
theorem limited_rounded_eq_none {x : ℚ} (h : overflow ≤ x) : limited (rounded x) = none := by
  have hle := le_rounded representable_overflow h
  rw [limited, if_neg]
  exact not_lt.2 (hle.trans (le_abs_self _))

/-! ### Scientific notation -/

variable {m : ℕ} {e : ℤ}

theorem overflow_le_mul_pow (hm : 0 < m) (he : 2048 < e) : overflow ≤ m * 10 ^ e := by
  have hm' : (1 : ℚ) ≤ m := by exact_mod_cast hm
  calc overflow = 2 ^ (53 + 971 : ℤ) := (zpow_add_two 53 971).symm
    _ ≤ 2 ^ (2048 : ℤ) := zpow_le_zpow_two (by norm_num)
    _ ≤ 10 ^ (2048 : ℤ) := zpow_le_zpow_left₀ (by norm_num) (by norm_num) (by norm_num)
    _ ≤ 10 ^ e := zpow_le_zpow_right₀ (by norm_num) he.le
    _ ≤ m * 10 ^ e := le_mul_of_one_le_left (zpow_nonneg (by norm_num) e) hm'

theorem mul_pow_lt_smallest (he : e < -(2048 + (m.log2 : ℤ))) :
    (m : ℚ) * 10 ^ e < 2 ^ (-1075 : ℤ) := by
  have hm : (m : ℚ) < 2 ^ ((m.log2 : ℤ) + 1) := by
    have h : m < 2 ^ (m.log2 + 1) := Nat.lt_log2_self
    exact_mod_cast h
  have hpow : (10 : ℚ) ^ e ≤ 2 ^ e := by
    have h : (2 : ℚ) ^ (-e) ≤ 10 ^ (-e) := zpow_le_zpow_left₀ (by omega) (by norm_num) (by norm_num)
    rw [zpow_neg, zpow_neg] at h
    exact (inv_le_inv₀ (zpow_pos_two e) (zpow_pos (by norm_num) e)).1 h
  calc (m : ℚ) * 10 ^ e ≤ m * 2 ^ e := mul_le_mul_of_nonneg_left hpow (Nat.cast_nonneg m)
    _ < 2 ^ ((m.log2 : ℤ) + 1) * 2 ^ e := mul_lt_mul_of_pos_right hm (zpow_pos_two e)
    _ = 2 ^ ((m.log2 : ℤ) + 1 + e) := (zpow_add_two _ _).symm
    _ ≤ 2 ^ (-1075 : ℤ) := zpow_le_zpow_two (by omega)

/-- Within its range the notation is a product or a quotient of whole numbers. -/
theorem isValue_ofScientific (hm : 0 < m) (hle : e ≤ 2048) (hge : -(2048 + (m.log2 : ℤ)) ≤ e) :
    IsValue (UnpackedFloat.ofScientific .binary64 m e) (rounded (m * 10 ^ e)) := by
  have hbits : ((2 : ℤ) ^ Format.binary64.exponentBits : ℤ) = 2048 := by decide
  rw [UnpackedFloat.ofScientific, dif_neg hm.ne', hbits, if_neg (by omega), if_neg (by omega)]
  split
  · next he =>
    -- The mantissa is shifted up, so that no bit of a product is lost before it is rounded.
    have hshift : m <<< Format.binary64.mantissaBits = m * 2 ^ 53 := Nat.shiftLeft_eq _ _
    have hpow : 0 < 10 ^ e.toNat := Nat.pow_pos (by decide)
    have hplace : (-53 : ℤ) + 0 ≤ targetPlace (m * 2 ^ 53 * 10 ^ e.toNat) (-53 + 0) := by
      have hfull : 2 ^ 53 ≤ m * 2 ^ 53 * 10 ^ e.toNat := by
        have := Nat.mul_pos hm hpow
        nlinarith
      have hlog := (Nat.le_log2 (by omega)).2 hfull
      rw [targetPlace]
      omega
    have h : IsValue _ (rounded (((m * 2 ^ 53 : ℕ) : ℚ) * 2 ^ (-53 : ℤ) *
        (((10 ^ e.toNat : ℕ) : ℚ) * 2 ^ (0 : ℤ)))) :=
      isValue_mul_finite .positive .positive (by positivity) hpow hplace
    have hvalue : ((m * 2 ^ 53 : ℕ) : ℚ) * 2 ^ (-53 : ℤ) * (((10 ^ e.toNat : ℕ) : ℚ) * 2 ^ (0 : ℤ)) =
        m * 10 ^ e := by
      have hunit : ((m * 2 ^ 53 : ℕ) : ℚ) * 2 ^ (-53 : ℤ) = m := by
        push_cast
        rw [mul_assoc]
        norm_num
      rw [hunit, zpow_zero, mul_one, Nat.cast_pow, ← zpow_natCast, Int.toNat_of_nonneg he]
      rfl
    rw [hvalue] at h
    simp only [hshift]
    exact h
  · next he =>
    have hpow : 0 < 10 ^ (-e).toNat := Nat.pow_pos (by decide)
    have h : IsValue _ (rounded ((m : ℚ) * 2 ^ (0 : ℤ) /
        (((10 ^ (-e).toNat : ℕ) : ℚ) * 2 ^ (0 : ℤ)))) :=
      isValue_div_finite .positive .positive 0 0 hm hpow
    have hvalue : (m : ℚ) * 2 ^ (0 : ℤ) / (((10 ^ (-e).toNat : ℕ) : ℚ) * 2 ^ (0 : ℤ)) =
        m * 10 ^ e := by
      rw [zpow_zero, mul_one, mul_one, Nat.cast_pow, ← zpow_natCast,
        Int.toNat_of_nonneg (by omega), zpow_neg, div_inv_eq_mul]
      rfl
    rw [hvalue] at h
    exact h

theorem value?_ofScientific (m : ℕ) (e : ℤ) :
    value? (.ofModel (.ofScientific m e)) = limited (rounded (m * 10 ^ e)) := by
  show value? (.ofModel (.pack (UnpackedFloat.ofScientific .binary64 m e))) = _
  rcases Nat.eq_zero_or_pos m with rfl | hm
  · rw [Nat.cast_zero, zero_mul, rounded_zero]
    exact value?_pack (isValue_zero .positive)
  have hbits : ((2 : ℤ) ^ Format.binary64.exponentBits : ℤ) = 2048 := by decide
  by_cases hlarge : 2048 < e
  · rw [limited_rounded_eq_none (overflow_le_mul_pow hm hlarge)]
    apply value?_pack_of_none
    rw [UnpackedFloat.ofScientific, dif_neg hm.ne', hbits, if_pos hlarge]
    rfl
  by_cases hsmall : e < -(2048 + (m.log2 : ℤ))
  · have hnonneg : 0 ≤ (m : ℚ) * 10 ^ e := mul_nonneg (Nat.cast_nonneg m) (zpow_nonneg (by norm_num) e)
    rw [rounded_eq_zero (by rw [abs_of_nonneg hnonneg]; exact mul_pow_lt_smallest hsmall)]
    have h : IsValue (UnpackedFloat.ofScientific .binary64 m e) 0 := by
      rw [UnpackedFloat.ofScientific, dif_neg hm.ne', hbits, if_neg hlarge, if_pos hsmall]
      exact isValue_zero .positive
    exact value?_pack h
  · exact value?_pack (isValue_ofScientific hm (by omega) (by omega))

/-! ### Small decimals -/

/-- A whole number that a double can hold. -/
theorem value?_toFloat_of_lt {n : ℕ} (hn : n < 2 ^ 53) : value? n.toUInt64.toFloat = some (n : ℚ) := by
  have hword : n.toUInt64.toNat = n := Nat.mod_eq_of_lt (by omega)
  have hrepresentable : Representable (n : ℤ) := .intCast (by
    rw [Nat.abs_cast]
    exact_mod_cast hn.le)
  have h : value? n.toUInt64.toFloat = limited (rounded (((n.toUInt64.toNat : ℕ) : ℤ) * 2 ^ (0 : ℤ))) :=
    value?_pack (isValue_normalize n.toUInt64.toNat 0 .positive)
  rw [hword, zpow_zero, mul_one, rounded_of_representable hrepresentable, Int.cast_natCast] at h
  rw [h, limited_of_lt (abs_natCast_lt_overflow hn)]

/-- The powers of ten that a double holds exactly are known one by one. -/
theorem value?_exactPower (i : Fin 23) :
    value? Float.exactlyRepresentablePowersOfTen[i.val] = some (10 ^ i.val) := by
  have hparts : ∀ i : Fin 23, (Binary.ofFloat? Float.exactlyRepresentablePowersOfTen[i.val]).map
      (fun b => (b.negative, decide (-52 ≤ b.exponent), b.mantissa * 2 ^ (b.exponent + 52).toNat)) =
      some (false, true, 10 ^ i.val * 2 ^ 52) := by
    decide +kernel
  obtain ⟨⟨negative, m, e⟩, hb, hm⟩ := Option.map_eq_some_iff.1 (hparts i)
  simp only [Prod.mk.injEq, decide_eq_true_eq] at hm
  obtain ⟨rfl, he, hm⟩ := hm
  rw [value?, hb, Option.map_some, Option.some_inj]
  show (m : ℚ) * 2 ^ e = 10 ^ i.val
  have hsplit : (2 : ℚ) ^ e = 2 ^ (e + 52).toNat * 2 ^ (-52 : ℤ) := by
    rw [← zpow_natCast, ← zpow_add_two]
    congr 1
    omega
  have hm' : (m : ℚ) * 2 ^ (e + 52).toNat = 10 ^ i.val * 2 ^ 52 := by exact_mod_cast hm
  rw [hsplit, ← mul_assoc, hm', mul_assoc]
  norm_num

end Number

namespace Decimal

open Number

/-- The number that a decimal stands for. -/
def value (d : Decimal) : ℚ := d.digits * 10 ^ d.exponent

/-- The double of a decimal is the nearest one. -/
theorem value?_toFloat (d : Decimal) : value? d.toFloat = limited (rounded d.value) := by
  obtain ⟨m, e⟩ := d
  rw [toFloat, Float.ofScientific, value]
  dsimp only
  split
  · next h =>
    have hm := value?_toFloat_of_lt h.1
    have hpow := value?_exactPower ⟨e.natAbs, Nat.lt_succ_of_le h.2⟩
    dsimp only at hpow
    by_cases he : e < 0
    · rw [if_pos (decide_eq_true he), value?_div hm hpow (by positivity)]
      have hvalue : (m : ℚ) / 10 ^ e.natAbs = m * 10 ^ e := by
        rw [← zpow_natCast, Int.natCast_natAbs, abs_of_neg he, zpow_neg, div_inv_eq_mul]
      rw [hvalue]
    · rw [if_neg (by simpa using he), value?_mul hm hpow]
      have hvalue : (m : ℚ) * 10 ^ e.natAbs = m * 10 ^ e := by
        rw [← zpow_natCast, Int.natCast_natAbs, abs_of_nonneg (not_lt.1 he)]
      rw [hvalue]
  · have hsign : (if decide (e < 0) = true then Int.negOfNat e.natAbs else Int.ofNat e.natAbs) = e := by
      by_cases he : e < 0
      · rw [if_pos (decide_eq_true he), Int.negOfNat_eq]
        show -(e.natAbs : ℤ) = e
        omega
      · rw [if_neg (by simpa using he)]
        show (e.natAbs : ℤ) = e
        omega
    rw [hsign]
    exact value?_ofScientific m e

end Decimal
end QuizBank

import QuizBank.Proofs.Number.Arithmetic
import QuizBank.Random.Draws

/-!
# The numbers of a stream

Each number that a stream gives is a whole number of `2 ^ -53`, from 0 up to, not including, 1: the
division by `2 ^ 53` is exact.
-/

namespace QuizBank
namespace Draws

open Number

/-- A number that a stream can give. -/
def IsDraw (r : Float) : Prop := ∃ k : ℕ, k < 2 ^ 53 ∧ value? r = some ((k : ℚ) / 2 ^ 53)

/-- The greatest number that a stream can give. -/
def greatest : Float := fraction 18446744073709551615

/-- All numbers of the stream are such numbers. -/
def Proper (s : Draws) : Prop := ∀ n, IsDraw (s.sequence n)

theorem bounds_of_isDraw {r : Float} (h : IsDraw r) :
    ∃ q, value? r = some q ∧ 0 ≤ q ∧ q ≤ 1 - 1 / 2 ^ 53 := by
  obtain ⟨k, hk, hr⟩ := h
  have hk' : (k : ℚ) + 1 ≤ 2 ^ 53 := by exact_mod_cast hk
  refine ⟨_, hr, by positivity, ?_⟩
  rw [div_le_iff₀ (by norm_num)]
  linarith

theorem value?_toFloat {n : UInt64} (hn : n.toNat < 2 ^ 53) :
    value? n.toFloat = some (n.toNat : ℚ) := by
  have h := isValue_normalize (n.toNat : ℤ) 0 .positive
  have hrep : Representable ((n.toNat : ℤ) : ℚ) :=
    .intCast (by rw [Nat.abs_cast]; exact_mod_cast hn.le)
  rw [zpow_zero, mul_one, rounded_of_representable hrep, Int.cast_natCast] at h
  rw [← limited_of_lt (abs_natCast_lt_overflow hn)]
  exact value?_pack h

theorem value?_divisor : value? 9007199254740992 = some (2 ^ 53) := by
  have h : Binary.ofFloat? 9007199254740992 = some ⟨false, 2 ^ 52, 1⟩ := by decide +kernel
  rw [value?, h, Option.map_some, Binary.value]
  norm_num [withSign]

theorem toNat_shiftRight_lt (w : UInt64) : (w >>> 11).toNat < 2 ^ 53 := by
  have hw := w.toNat_lt
  rw [UInt64.toNat_shiftRight]
  show w.toNat >>> 11 < 2 ^ 53
  rw [Nat.shiftRight_eq_div_pow]
  omega

theorem value?_fraction (w : UInt64) :
    value? (fraction w) = some (((w >>> 11).toNat : ℚ) / 2 ^ 53) := by
  have hlt := toNat_shiftRight_lt w
  have hrep : Representable (((w >>> 11).toNat : ℚ) / 2 ^ 53) := by
    have h := Representable.mul_zpow (n := ((w >>> 11).toNat : ℤ)) (t := -53)
      (by rw [Nat.abs_cast]; exact_mod_cast hlt.le) (by norm_num)
    rw [zpow_neg, ← div_eq_mul_inv, Int.cast_natCast] at h
    exact_mod_cast h
  have hlimit : |((w >>> 11).toNat : ℚ) / 2 ^ 53| < overflow := by
    have hlt' : ((w >>> 11).toNat : ℚ) < 2 ^ 53 := by exact_mod_cast hlt
    rw [abs_of_nonneg (by positivity)]
    refine lt_of_lt_of_le ?_ pow_le_overflow
    rw [div_lt_iff₀ (by norm_num)]
    linarith
  rw [fraction, value?_div (value?_toFloat hlt) value?_divisor (by norm_num),
    rounded_of_representable hrep, limited_of_lt hlimit]

theorem isDraw_fraction (w : UInt64) : IsDraw (fraction w) :=
  ⟨(w >>> 11).toNat, toNat_shiftRight_lt w, value?_fraction w⟩

/-- A stream of a seed gives such numbers. -/
theorem proper_ofSeed (seed : String) : (ofSeed seed).Proper := fun _ => isDraw_fraction _

theorem value?_greatest : value? greatest = some (1 - 1 / 2 ^ 53) := by
  have h : ((18446744073709551615 : UInt64) >>> 11).toNat = 2 ^ 53 - 1 := by decide
  rw [greatest, value?_fraction, h]
  norm_num

end Draws
end QuizBank

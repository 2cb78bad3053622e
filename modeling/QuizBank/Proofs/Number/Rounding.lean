import Mathlib.Data.Int.Log
import Mathlib.Data.Rat.Floor
import Mathlib.Tactic.Linarith
import Mathlib.Tactic.NormNum
import Mathlib.Tactic.Positivity
import Mathlib.Tactic.Ring

/-!
# Rounding to a double

The result of an operation on doubles is the exact result, rounded to the nearest double, of two
equally near ones to the one with the even mantissa. Here this rounding is a function on rational
numbers, without a largest double: `rounded` scales a number so that the last place of its mantissa
is the unit, takes the nearest whole number, and scales back.

What proofs need of it is that its values are `Representable`, that no representable number is
nearer (`abs_rounded_sub_le`), and therefore that it respects every comparison with representable
numbers (`rounded_le`, `le_rounded`).
-/

namespace QuizBank
namespace Number

/-! ### The nearest whole number -/

/-- The nearest whole number, of two equally near ones the even one. -/
def nearestEven (x : ℚ) : ℤ :=
  if Int.fract x < 1 / 2 then ⌊x⌋
  else if 1 / 2 < Int.fract x then ⌊x⌋ + 1
  else ⌊x⌋ + ⌊x⌋ % 2

theorem nearestEven_of_lt {x : ℚ} (h : Int.fract x < 1 / 2) : nearestEven x = ⌊x⌋ := if_pos h

theorem nearestEven_of_gt {x : ℚ} (h : 1 / 2 < Int.fract x) : nearestEven x = ⌊x⌋ + 1 := by
  rw [nearestEven, if_neg h.not_gt, if_pos h]

theorem nearestEven_of_eq {x : ℚ} (h : Int.fract x = 1 / 2) :
    nearestEven x = ⌊x⌋ + ⌊x⌋ % 2 := by
  rw [nearestEven, if_neg h.not_lt, if_neg h.not_gt]

@[simp] theorem nearestEven_intCast (n : ℤ) : nearestEven n = n := by
  rw [nearestEven_of_lt, Int.floor_intCast]
  rw [Int.fract_intCast]
  norm_num

theorem nearestEven_neg (x : ℚ) : nearestEven (-x) = -nearestEven x := by
  by_cases hx : Int.fract x = 0
  · -- A whole number is its own nearest one.
    have hfloor : ((⌊x⌋ : ℤ) : ℚ) = x := by
      have := Int.floor_add_fract x
      rw [hx, add_zero] at this
      exact this
    rw [← hfloor, ← Int.cast_neg, nearestEven_intCast, nearestEven_intCast]
  · have hfract : Int.fract (-x) = 1 - Int.fract x := Int.fract_neg hx
    have hfloor : ⌊-x⌋ = -⌊x⌋ - 1 := by
      have h₁ := Int.floor_add_fract x
      have h₂ := Int.floor_add_fract (-x)
      have h₃ : ((⌊-x⌋ : ℤ) : ℚ) = ((-⌊x⌋ - 1 : ℤ) : ℚ) := by
        push_cast
        linarith
      exact_mod_cast h₃
    rcases lt_trichotomy (Int.fract x) (1 / 2) with h | h | h
    · rw [nearestEven_of_lt h, nearestEven_of_gt (by rw [hfract]; linarith), hfloor]
      omega
    · rw [nearestEven_of_eq h, nearestEven_of_eq (by rw [hfract]; linarith), hfloor]
      omega
    · rw [nearestEven_of_gt h, nearestEven_of_lt (by rw [hfract]; linarith), hfloor]
      omega

/-- The nearest whole number is as near as any. -/
theorem abs_nearestEven_sub_le (x : ℚ) (n : ℤ) : |(nearestEven x : ℚ) - x| ≤ |(n : ℚ) - x| := by
  have hsplit := Int.floor_add_fract x
  have hnonneg := Int.fract_nonneg x
  have hlt := Int.fract_lt_one x
  have hn : (n : ℚ) ≤ ⌊x⌋ ∨ (⌊x⌋ : ℚ) + 1 ≤ n := by
    rcases lt_or_ge ⌊x⌋ n with h | h
    · exact .inr (by exact_mod_cast h)
    · exact .inl (by exact_mod_cast h)
  -- A whole number differs by the fractional part or more below, and by its complement above.
  have hdist : min (Int.fract x) (1 - Int.fract x) ≤ |(n : ℚ) - x| := by
    rcases hn with hn | hn
    · refine le_trans (min_le_left _ _) ?_
      rw [abs_of_nonpos (by linarith)]
      linarith
    · refine le_trans (min_le_right _ _) ?_
      rw [abs_of_nonneg (by linarith)]
      linarith
  refine le_trans ?_ hdist
  rcases lt_trichotomy (Int.fract x) (1 / 2) with h | h | h
  · rw [nearestEven_of_lt h, abs_of_nonpos (by linarith)]
    exact le_min (by linarith) (by linarith)
  · rw [nearestEven_of_eq h]
    push_cast
    rcases Int.emod_two_eq_zero_or_one ⌊x⌋ with hpar | hpar
    · rw [hpar, abs_of_nonpos (by push_cast; linarith)]
      exact le_min (by push_cast; linarith) (by push_cast; linarith)
    · rw [hpar, abs_of_nonneg (by push_cast; linarith)]
      exact le_min (by push_cast; linarith) (by push_cast; linarith)
  · rw [nearestEven_of_gt h]
    push_cast
    rw [abs_of_nonneg (by linarith)]
    exact le_min (by linarith) (by linarith)

/-! ### Representable numbers -/

/-- A whole multiple of a power of two that a double could hold, were there no largest double: the
mantissa has 53 bits, and the smallest place is `2 ^ -1074`. -/
def Representable (x : ℚ) : Prop :=
  ∃ m e : ℤ, |m| < 2 ^ 53 ∧ -1074 ≤ e ∧ x = m * 2 ^ e

theorem zpow_pos_two (e : ℤ) : (0 : ℚ) < 2 ^ e := zpow_pos (by norm_num) e

theorem zpow_add_two (e e' : ℤ) : (2 : ℚ) ^ (e + e') = 2 ^ e * 2 ^ e' :=
  zpow_add₀ (by norm_num) e e'

theorem zpow_le_zpow_two {e e' : ℤ} (h : e ≤ e') : (2 : ℚ) ^ e ≤ 2 ^ e' :=
  zpow_le_zpow_right₀ (by norm_num) h

namespace Representable

theorem neg {x : ℚ} (h : Representable x) : Representable (-x) := by
  obtain ⟨m, e, hm, he, rfl⟩ := h
  exact ⟨-m, e, by rwa [abs_neg], he, by push_cast; ring⟩

/-- A whole number of units of a place, as many as a mantissa holds. -/
theorem mul_zpow {n t : ℤ} (hn : |n| ≤ 2 ^ 53) (ht : -1074 ≤ t) :
    Representable (n * 2 ^ t) := by
  rcases lt_or_eq_of_le hn with h | h
  · exact ⟨n, t, h, ht, rfl⟩
  · -- The mantissa has one bit too many, and its last bit is 0.
    obtain ⟨k, rfl⟩ : ∃ k, n = 2 * k := by
      rcases abs_eq (by norm_num) |>.1 h with rfl | rfl
      · exact ⟨2 ^ 52, by norm_num⟩
      · exact ⟨-2 ^ 52, by norm_num⟩
    refine ⟨k, t + 1, ?_, by omega, ?_⟩
    · rw [abs_mul, abs_two] at h
      omega
    · rw [zpow_add_two]
      push_cast
      ring

theorem intCast {n : ℤ} (hn : |n| ≤ 2 ^ 53) : Representable n := by
  have h := mul_zpow hn (show (-1074 : ℤ) ≤ 0 by norm_num)
  rwa [zpow_zero, mul_one] at h

theorem zero : Representable 0 := by exact_mod_cast intCast (n := 0) (by norm_num)

/-- A representable number is a whole number of units of any place, unless it is too small. -/
theorem eq_mul_zpow {x : ℚ} (h : Representable x) {t : ℤ} (ht : -1074 ≤ t) :
    (∃ n : ℤ, x = n * 2 ^ t) ∨ (-1074 < t ∧ |x| < 2 ^ 52 * 2 ^ t) := by
  obtain ⟨m, e, hm, he, rfl⟩ := h
  by_cases hte : t ≤ e
  · refine .inl ⟨m * 2 ^ (e - t).toNat, ?_⟩
    have hpow : (2 : ℚ) ^ e = 2 ^ (e - t).toNat * 2 ^ t := by
      rw [← zpow_natCast, ← zpow_add_two]
      congr 1
      omega
    rw [hpow]
    push_cast
    ring
  · refine .inr ⟨by omega, ?_⟩
    rw [abs_mul, abs_of_pos (zpow_pos_two e)]
    have hm' : |(m : ℚ)| < 2 ^ 53 := by exact_mod_cast hm
    have hpow : (2 : ℚ) ^ 53 * 2 ^ e ≤ 2 ^ 52 * 2 ^ t := by
      have h := zpow_le_zpow_two (show e + 1 ≤ t by omega)
      rw [zpow_add_two] at h
      linarith
    exact lt_of_lt_of_le (mul_lt_mul_of_pos_right hm' (zpow_pos_two e)) hpow

end Representable

/-! ### Rounding -/

/-- The exponent of the last place of the mantissa of a number. -/
def lastPlace (x : ℚ) : ℤ := max (Int.log 2 |x| - 52) (-1074)

/-- The number rounded to a mantissa of 53 bits, or to the smallest place. -/
def rounded (x : ℚ) : ℚ := nearestEven (x / 2 ^ lastPlace x) * 2 ^ lastPlace x

@[simp] theorem rounded_zero : rounded 0 = 0 := by
  have h := nearestEven_intCast 0
  rw [Int.cast_zero] at h
  rw [rounded, zero_div, h, Int.cast_zero, zero_mul]

theorem neg_1074_le_lastPlace (x : ℚ) : -1074 ≤ lastPlace x := le_max_right _ _

theorem lastPlace_neg (x : ℚ) : lastPlace (-x) = lastPlace x := by rw [lastPlace, abs_neg, lastPlace]

theorem rounded_neg (x : ℚ) : rounded (-x) = -rounded x := by
  rw [rounded, lastPlace_neg, neg_div, nearestEven_neg, rounded]
  push_cast
  ring

theorem abs_lt_zpow_lastPlace (x : ℚ) : |x| < 2 ^ 53 * 2 ^ lastPlace x := by
  have hlog : |x| < 2 ^ (Int.log 2 |x| + 1) := by
    exact_mod_cast Int.lt_zpow_succ_log_self (b := 2) (by norm_num) |x|
  have hplace : (2 : ℚ) ^ (Int.log 2 |x| + 1) ≤ 2 ^ (53 + lastPlace x) :=
    zpow_le_zpow_two (by have := le_max_left (Int.log 2 |x| - 52) (-1074); rw [lastPlace]; omega)
  exact lt_of_lt_of_le hlog (hplace.trans_eq (zpow_add_two 53 _))

/-- Above the smallest place the mantissa has all of its 53 bits. -/
theorem zpow_lastPlace_le_abs {x : ℚ} (hx : x ≠ 0) (hplace : lastPlace x ≠ -1074) :
    2 ^ 52 * 2 ^ lastPlace x ≤ |x| := by
  have hlog : (2 : ℚ) ^ Int.log 2 |x| ≤ |x| := by
    exact_mod_cast Int.zpow_log_le_self (b := 2) (by norm_num) (abs_pos.2 hx)
  have heq : Int.log 2 |x| = 52 + lastPlace x := by
    rw [lastPlace] at hplace ⊢
    omega
  rw [heq, zpow_add_two] at hlog
  exact hlog

/-- A place is the last one of every number with 53 bits above it. -/
theorem lastPlace_eq {x : ℚ} {t : ℤ} (hlt : |x| < 2 ^ 53 * 2 ^ t)
    (hle : 2 ^ 52 * 2 ^ t ≤ |x| ∨ t = -1074) (ht : -1074 ≤ t) (hx : x ≠ 0) : lastPlace x = t := by
  have hlog : Int.log 2 |x| < t + 53 := by
    apply (Int.lt_zpow_iff_log_lt (by norm_num) (abs_pos.2 hx)).1
    rw [show t + 53 = 53 + t from by ring]
    push_cast
    rw [zpow_add_two]
    exact hlt
  rcases hle with hle | rfl
  · have hlog' : t + 52 ≤ Int.log 2 |x| := by
      apply (Int.zpow_le_iff_le_log (by norm_num) (abs_pos.2 hx)).1
      rw [show t + 52 = 52 + t from by ring]
      push_cast
      rw [zpow_add_two]
      exact hle
    rw [lastPlace]
    omega
  · rw [lastPlace]
    omega

theorem nearestEven_le {x : ℚ} {n : ℤ} (h : x ≤ n) : nearestEven x ≤ n := by
  by_contra hlt
  have hnear := abs_nearestEven_sub_le x n
  have hstep : (n : ℚ) + 1 ≤ nearestEven x := by exact_mod_cast not_le.1 hlt
  rw [abs_of_nonneg (by linarith), abs_of_nonneg (by linarith)] at hnear
  linarith

theorem le_nearestEven {x : ℚ} {n : ℤ} (h : (n : ℚ) ≤ x) : n ≤ nearestEven x := by
  have hneg : -x ≤ ((-n : ℤ) : ℚ) := by
    push_cast
    linarith
  have := nearestEven_le hneg
  rw [nearestEven_neg] at this
  omega

theorem abs_mantissa_le (x : ℚ) : |nearestEven (x / 2 ^ lastPlace x)| ≤ 2 ^ 53 := by
  have hpos := zpow_pos_two (lastPlace x)
  have hlt : |x / 2 ^ lastPlace x| < 2 ^ 53 := by
    rw [abs_div, abs_of_pos hpos, div_lt_iff₀ hpos]
    exact abs_lt_zpow_lastPlace x
  obtain ⟨hlow, hhigh⟩ := abs_lt.1 hlt
  apply abs_le.2
  constructor
  · apply le_nearestEven
    push_cast
    exact hlow.le
  · apply nearestEven_le
    push_cast
    exact hhigh.le

theorem le_mantissa {x : ℚ} (hx : 0 < x) (hplace : lastPlace x ≠ -1074) :
    2 ^ 52 ≤ nearestEven (x / 2 ^ lastPlace x) := by
  apply le_nearestEven
  have hle := zpow_lastPlace_le_abs hx.ne' hplace
  rw [abs_of_pos hx] at hle
  push_cast
  exact (le_div_iff₀ (zpow_pos_two _)).2 hle

theorem representable_rounded (x : ℚ) : Representable (rounded x) :=
  .mul_zpow (abs_mantissa_le x) (neg_1074_le_lastPlace x)

/-- No whole number of units of the last place is nearer. -/
theorem abs_rounded_sub_le_of_mul (x : ℚ) (n : ℤ) :
    |rounded x - x| ≤ |n * 2 ^ lastPlace x - x| := by
  have hpos := zpow_pos_two (lastPlace x)
  have hscale (k : ℤ) : |k * 2 ^ lastPlace x - x| = |(k : ℚ) - x / 2 ^ lastPlace x| * 2 ^ lastPlace x := by
    rw [← abs_of_pos hpos, ← abs_mul, abs_of_pos hpos, sub_mul, div_mul_cancel₀ _ hpos.ne']
  rw [rounded, hscale, hscale]
  exact mul_le_mul_of_nonneg_right (abs_nearestEven_sub_le _ n) hpos.le

/-- No representable number is nearer. -/
theorem abs_rounded_sub_le {f : ℚ} (hf : Representable f) (x : ℚ) :
    |rounded x - x| ≤ |f - x| := by
  rcases hf.eq_mul_zpow (neg_1074_le_lastPlace x) with ⟨n, rfl⟩ | ⟨hplace, hsmall⟩
  · exact abs_rounded_sub_le_of_mul x n
  · rcases eq_or_ne x 0 with rfl | hx
    · rw [rounded_zero, sub_zero, abs_zero]
      exact abs_nonneg _
    · -- The least mantissa with all its bits is between such a small number and `x`.
      have hbound := zpow_lastPlace_le_abs hx (by omega)
      obtain ⟨hlow, hhigh⟩ := abs_lt.1 hsmall
      rcases le_total 0 x with hsign | hsign
      · refine le_trans (abs_rounded_sub_le_of_mul x (2 ^ 52)) ?_
        push_cast
        rw [abs_of_nonneg hsign] at hbound
        rw [abs_of_nonpos (by linarith), abs_of_nonpos (by linarith)]
        linarith
      · refine le_trans (abs_rounded_sub_le_of_mul x (-2 ^ 52)) ?_
        push_cast
        rw [abs_of_nonpos hsign] at hbound
        rw [abs_of_nonneg (by linarith), abs_of_nonneg (by linarith)]
        linarith

theorem rounded_le {x f : ℚ} (hf : Representable f) (h : x ≤ f) : rounded x ≤ f := by
  by_contra hlt
  have hnear := abs_rounded_sub_le hf x
  rw [abs_of_nonneg (by linarith), abs_of_nonneg (by linarith)] at hnear
  linarith

theorem le_rounded {x f : ℚ} (hf : Representable f) (h : f ≤ x) : f ≤ rounded x := by
  have := rounded_le hf.neg (neg_le_neg h)
  rw [rounded_neg] at this
  linarith

theorem rounded_of_representable {x : ℚ} (hx : Representable x) : rounded x = x :=
  le_antisymm (rounded_le hx le_rfl) (le_rounded hx le_rfl)

theorem rounded_mono {x y : ℚ} (h : x ≤ y) : rounded x ≤ rounded y := by
  by_contra hlt
  -- Both numbers then lie between the two results, and each has the nearer one beyond the other.
  have hx : rounded y < x := by
    by_contra hle
    exact hlt (rounded_le (representable_rounded y) (not_lt.1 hle))
  have hy : y < rounded x := by
    by_contra hle
    exact hlt (le_rounded (representable_rounded x) (not_lt.1 hle))
  have hnear₁ := abs_rounded_sub_le (representable_rounded y) x
  have hnear₂ := abs_rounded_sub_le (representable_rounded x) y
  rw [abs_of_nonneg (by linarith), abs_of_nonpos (by linarith)] at hnear₁
  rw [abs_of_nonpos (by linarith), abs_of_nonneg (by linarith)] at hnear₂
  have heq : x = y := by linarith
  rw [heq] at hlt
  exact hlt le_rfl

end Number
end QuizBank

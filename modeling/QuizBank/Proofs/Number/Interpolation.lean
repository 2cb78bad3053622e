import QuizBank.Proofs.Number.Rounding

/-!
# Points of a range

A draw `r` from 0 up to, not including, 1 stands for the point `l + r * (h - l)` of a range, and for
the whole number below `l + r * (h - l + 1)`. Here is what rounding each operation leaves of the
bounds of these points. The greatest draw is `1 - 2 ^ -53`.

A product with a draw is below the other factor unless that factor is among the smallest numbers
(`rounded_mul_lt`); there, differences are exact (`representable_sub`). So the second term is at
most the exact width of the range, and a point can miss the range only by the last rounding.
-/

namespace QuizBank
namespace Number

/-- The least number that has a full mantissa. -/
def smallestNormal : ℚ := 2 ^ 52 * 2 ^ (-1074 : ℤ)

theorem smallestNormal_pos : 0 < smallestNormal := mul_pos (by norm_num) (zpow_pos_two _)

theorem smallestNormal_lt_one : smallestNormal < 1 := by
  calc (2 : ℚ) ^ 52 * 2 ^ (-1074 : ℤ)
      ≤ 2 ^ 52 * 2 ^ (-53 : ℤ) :=
        mul_le_mul_of_nonneg_left (zpow_le_zpow_two (by norm_num)) (by norm_num)
    _ < 1 := by norm_num

/-! ### Products with a draw -/

/-- Above the smallest numbers, the next one below is nearer than twice the share that the greatest
draw leaves. -/
theorem exists_representable_below {w : ℚ} (hw : Representable w) (hmin : smallestNormal < w) :
    ∃ f, Representable f ∧ f < w ∧ w - f < 2 * (w / 2 ^ 53) := by
  have hpos : 0 < w := lt_trans smallestNormal_pos hmin
  have hplace := neg_1074_le_lastPlace w
  have hunit := zpow_pos_two (lastPlace w)
  have hlow : 2 ^ 52 * 2 ^ lastPlace w ≤ w := by
    by_cases h : lastPlace w = -1074
    · rw [h]
      exact hmin.le
    · have hle := zpow_lastPlace_le_abs hpos.ne' h
      rwa [abs_of_pos hpos] at hle
  have hhigh := abs_lt_zpow_lastPlace w
  rw [abs_of_pos hpos] at hhigh
  generalize lastPlace w = t at hplace hunit hlow hhigh
  obtain ⟨n, hn⟩ : ∃ n : ℤ, w = n * 2 ^ t := by
    rcases hw.eq_mul_zpow hplace with h | ⟨-, h⟩
    · exact h
    · rw [abs_of_pos hpos] at h
      linarith
  have hn_high : n < 2 ^ 53 := by
    rw [hn] at hhigh
    have h : (n : ℚ) < 2 ^ 53 := lt_of_mul_lt_mul_right hhigh hunit.le
    exact_mod_cast h
  have hn_low : 2 ^ 52 ≤ n := by
    rw [hn] at hlow
    have h : (2 : ℚ) ^ 52 ≤ n := le_of_mul_le_mul_right hlow hunit
    exact_mod_cast h
  rcases eq_or_lt_of_le hn_low with rfl | hlt
  · -- The least mantissa has its neighbour below at the next smaller place.
    have hhalf : (2 : ℚ) ^ t = 2 ^ (t - 1) * 2 := by
      have h := zpow_add_two (t - 1) 1
      rwa [sub_add_cancel, zpow_one] at h
    have hplace' : -1074 ≤ t - 1 := by
      by_contra hcontra
      obtain rfl : t = -1074 := by omega
      rw [hn, smallestNormal, Int.cast_pow, Int.cast_ofNat] at hmin
      exact lt_irrefl _ hmin
    refine ⟨(2 ^ 53 - 1 : ℤ) * 2 ^ (t - 1), .mul_zpow (by norm_num) hplace', ?_, ?_⟩ <;>
    · rw [hn, hhalf]
      have := zpow_pos_two (t - 1)
      push_cast
      linarith
  · refine ⟨(n - 1 : ℤ) * 2 ^ t, .mul_zpow ?_ hplace, ?_, ?_⟩
    · rw [abs_of_nonneg (by omega)]
      omega
    · rw [hn]
      push_cast
      linarith
    · have hstep : (2 ^ 52 : ℚ) * 2 ^ t < n * 2 ^ t :=
        mul_lt_mul_of_pos_right (by exact_mod_cast hlt) hunit
      rw [hn]
      push_cast
      linarith

/-- A product with a draw rounds to less than the other factor. -/
theorem rounded_mul_lt {r w : ℚ} (hw : Representable w) (hmin : smallestNormal < w)
    (hr : r ≤ 1 - 1 / 2 ^ 53) : rounded (r * w) < w := by
  obtain ⟨f, hf, hbelow, hgap⟩ := exists_representable_below hw hmin
  have hpos : 0 < w := lt_trans smallestNormal_pos hmin
  have hproduct : r * w ≤ w - w / 2 ^ 53 := by
    have := mul_le_mul_of_nonneg_right hr hpos.le
    linarith
  by_cases hle : r * w ≤ f
  · exact lt_of_le_of_lt (rounded_le hf hle) hbelow
  · -- The product is between the two neighbours, and nearer to the lower one.
    by_contra hge
    have hnear := abs_rounded_sub_le hf (r * w)
    have hshare : 0 ≤ w / 2 ^ 53 := by positivity
    rw [abs_of_nonneg (by linarith), abs_of_nonpos (by linarith)] at hnear
    linarith

theorem rounded_mul_le {r w : ℚ} (hw : Representable w) (hpos : 0 ≤ w) (hr : r ≤ 1) :
    rounded (r * w) ≤ w :=
  rounded_le hw (mul_le_of_le_one_left hpos hr)

theorem rounded_mul_nonneg {r w : ℚ} (hpos : 0 ≤ w) (hr : 0 ≤ r) : 0 ≤ rounded (r * w) :=
  le_rounded .zero (mul_nonneg hr hpos)

/-! ### The width of a range -/

/-- Small differences are exact. -/
theorem representable_sub {a b : ℚ} (ha : Representable a) (hb : Representable b)
    (hsmall : |a - b| ≤ 2 * smallestNormal) : Representable (a - b) := by
  have hmul {x : ℚ} (hx : Representable x) : ∃ n : ℤ, x = n * 2 ^ (-1074 : ℤ) := by
    rcases hx.eq_mul_zpow le_rfl with h | ⟨h, -⟩
    · exact h
    · exact absurd h (lt_irrefl _)
  obtain ⟨m, rfl⟩ := hmul ha
  obtain ⟨n, rfl⟩ := hmul hb
  have hunit := zpow_pos_two (-1074)
  rw [← sub_mul, ← Int.cast_sub] at hsmall ⊢
  apply Representable.mul_zpow _ le_rfl
  rw [abs_mul, abs_of_pos hunit, smallestNormal, ← mul_assoc] at hsmall
  have h := le_of_mul_le_mul_right hsmall hunit
  rw [← Int.cast_abs] at h
  norm_num at h
  exact_mod_cast h

variable {l h r : ℚ}

/-- A product with a draw is at most the exact width, although the width is rounded before. -/
theorem rounded_mul_width_le (hl : Representable l) (hh : Representable h) (hle : l ≤ h)
    (hr₁ : r ≤ 1 - 1 / 2 ^ 53) : rounded (r * rounded (h - l)) ≤ h - l := by
  have hw := representable_rounded (h - l)
  have hwidth : 0 ≤ h - l := by linarith
  have hpos : 0 ≤ rounded (h - l) := le_rounded .zero hwidth
  by_cases hsmall : h - l ≤ 2 * smallestNormal
  · have hexact := rounded_of_representable
      (representable_sub hh hl (by rwa [abs_of_nonneg hwidth]))
    rw [hexact] at hpos hw ⊢
    exact rounded_mul_le hw hpos (by linarith)
  · -- The product is below the rounded width, and whatever is representable and below the rounded
    -- width is below the exact one.
    have hnormal : Representable (2 * smallestNormal) := by
      have h : 2 * smallestNormal = (2 ^ 53 : ℤ) * 2 ^ (-1074 : ℤ) := by
        rw [smallestNormal, ← mul_assoc, Int.cast_pow, Int.cast_ofNat, ← pow_succ']
      rw [h]
      exact .mul_zpow (by norm_num) le_rfl
    have hlt : smallestNormal < rounded (h - l) := by
      have := le_rounded hnormal (not_le.1 hsmall).le
      have := smallestNormal_pos
      linarith
    by_contra hcontra
    have := rounded_le (representable_rounded _) (not_le.1 hcontra).le
    have := rounded_mul_lt hw hlt hr₁
    linarith

/-! ### A point between the bounds -/

/-- The point of a range that a draw stands for, with every operation rounded. -/
def realPoint (l h r : ℚ) : ℚ := rounded (l + rounded (r * rounded (h - l)))

theorem le_realPoint (hl : Representable l) (hle : l ≤ h) (hr : 0 ≤ r) : l ≤ realPoint l h r := by
  apply le_rounded hl
  have hwidth : 0 ≤ rounded (h - l) := le_rounded .zero (by linarith)
  have := rounded_mul_nonneg hwidth hr
  linarith

theorem realPoint_le (hl : Representable l) (hh : Representable h) (hle : l ≤ h)
    (hr₁ : r ≤ 1 - 1 / 2 ^ 53) : realPoint l h r ≤ h := by
  apply rounded_le hh
  have := rounded_mul_width_le hl hh hle hr₁
  linarith

theorem realPoint_mono {r' : ℚ} (hle : l ≤ h) (hr : r ≤ r') :
    realPoint l h r ≤ realPoint l h r' := by
  apply rounded_mono
  have hwidth : 0 ≤ rounded (h - l) := le_rounded .zero (by linarith)
  have := rounded_mono (mul_le_mul_of_nonneg_right hr hwidth)
  linarith

/-! ### A point between whole bounds -/

/-- The point of a range with whole bounds that a draw stands for, with every operation rounded, and
before the fractional part is dropped. -/
def wholePoint (l h r : ℚ) : ℚ := rounded (l + rounded (r * rounded (rounded (h - l) + 1)))

theorem one_le_lastPlace {x : ℚ} (hx : 2 ^ 53 ≤ x) : 1 ≤ lastPlace x := by
  by_contra hplace
  have hunit : (2 : ℚ) ^ lastPlace x ≤ 2 ^ (0 : ℤ) := zpow_le_zpow_two (by omega)
  have hlt := abs_lt_zpow_lastPlace x
  rw [abs_of_nonneg (by linarith)] at hlt
  rw [zpow_zero] at hunit
  linarith

/-- An odd number in the range of places of two is rounded to a multiple of 4. -/
theorem rounded_odd {k : ℤ} (hplace : lastPlace (2 * k + 1) = 1) :
    rounded (2 * k + 1) = 4 * ((k + k % 2) / 2 : ℤ) := by
  have hhalf : ((2 : ℚ) * k + 1) / 2 ^ (1 : ℤ) = k + 1 / 2 := by
    rw [zpow_one]
    ring
  have hfract : Int.fract ((k : ℚ) + 1 / 2) = 1 / 2 := by
    rw [Int.fract_intCast_add]
    norm_num
  have hfloor : ⌊(k : ℚ) + 1 / 2⌋ = k := by
    rw [Int.floor_intCast_add]
    norm_num
  have heven : k + k % 2 = 2 * ((k + k % 2) / 2) := by omega
  rw [rounded, hplace, hhalf, nearestEven_of_eq hfract, hfloor, heven, zpow_one]
  push_cast
  rw [← heven]
  ring

theorem exists_rounded_eq_four_mul {x : ℚ} (hplace : 2 ≤ lastPlace x) :
    ∃ j : ℤ, rounded x = 4 * j := by
  refine ⟨nearestEven (x / 2 ^ lastPlace x) * 2 ^ (lastPlace x - 2).toNat, ?_⟩
  have hpow : (2 : ℚ) ^ lastPlace x = 4 * 2 ^ (lastPlace x - 2).toNat := by
    have h := zpow_add_two 2 (lastPlace x - 2)
    rw [show lastPlace x - 2 = ((lastPlace x - 2).toNat : ℤ) by omega, zpow_natCast] at h
    rw [show (4 : ℚ) = 2 ^ (2 : ℤ) by norm_num, ← h]
    congr 1
    omega
  rw [rounded, hpow]
  push_cast
  ring

/-- A whole number that rounding changes is rounded to a multiple of 4. -/
theorem exists_rounded_eq_of_ne {z : ℤ} (hz : 2 ^ 53 ≤ z) (hne : rounded z ≠ z) :
    ∃ j : ℤ, rounded z = 4 * j := by
  have hplace : 1 ≤ lastPlace z := one_le_lastPlace (by exact_mod_cast hz)
  rcases eq_or_lt_of_le hplace with heq | hlt
  · obtain ⟨k, rfl | rfl⟩ := Int.even_or_odd' z
    · refine absurd (rounded_of_representable ?_) hne
      have hbound := abs_lt_zpow_lastPlace ((2 * k : ℤ) : ℚ)
      rw [← heq, zpow_one, ← Int.cast_abs] at hbound
      have hbound' : |2 * k| < 2 ^ 53 * 2 := by exact_mod_cast hbound
      rw [abs_mul, abs_two] at hbound'
      have h := Representable.mul_zpow (n := k) (t := 1) (by omega) (by norm_num)
      rw [zpow_one] at h
      push_cast
      rwa [mul_comm]
    · push_cast at heq ⊢
      exact ⟨_, rounded_odd heq.symm⟩
  · exact exists_rounded_eq_four_mul hlt

/-- Where places are wider than 1, a number that was rounded stays as it is when 1 is added. -/
theorem rounded_add_one_le {z : ℤ} (hz : 2 ^ 53 ≤ z) (hne : rounded z ≠ z) :
    rounded (rounded z + 1) ≤ rounded z := by
  have hlarge : 2 ^ 53 ≤ rounded z := by
    have hpow : Representable ((2 ^ 53 : ℤ) : ℚ) := .intCast (by norm_num)
    push_cast at hpow
    exact le_rounded hpow (by exact_mod_cast hz)
  have hnear := abs_rounded_sub_le (representable_rounded z) (rounded z + 1)
  have hplace : 1 ≤ lastPlace (rounded z + 1) := one_le_lastPlace (by linarith)
  obtain ⟨j, hj⟩ := exists_rounded_eq_of_ne hz hne
  rw [hj] at hlarge hnear hplace ⊢
  rcases eq_or_lt_of_le hplace with heq | hlt
  · have hodd : (4 : ℚ) * j + 1 = 2 * (2 * j : ℤ) + 1 := by
      push_cast
      ring
    rw [hodd] at heq ⊢
    rw [rounded_odd heq.symm]
    have : (2 * j + 2 * j % 2) / 2 = j := by omega
    rw [this]
  · obtain ⟨j', hj'⟩ := exists_rounded_eq_four_mul hlt
    rw [hj'] at hnear ⊢
    -- Both are multiples of 4, and they are at most 2 apart.
    rw [show (4 : ℚ) * j - (4 * j + 1) = -1 by ring, abs_neg, abs_one] at hnear
    have hle : (4 : ℚ) * j' - (4 * j + 1) ≤ 1 := (abs_le.1 hnear).2
    have hle' : 4 * j' - (4 * j + 1) ≤ 1 := by exact_mod_cast hle
    have : j' ≤ j := by omega
    have : (j' : ℚ) ≤ j := by exact_mod_cast this
    linarith

theorem rounded_width_add_one_pos (hle : l ≤ h) : 1 ≤ rounded (rounded (h - l) + 1) := by
  have hone : Representable 1 := by exact_mod_cast Representable.intCast (n := 1) (by norm_num)
  apply le_rounded hone
  have : 0 ≤ rounded (h - l) := le_rounded .zero (by linarith)
  linarith

/-- A product with a draw is below the exact width of a range of whole numbers, which is one more
than the difference of the bounds. -/
theorem rounded_mul_wholeWidth_lt {m n : ℤ} (hle : m ≤ n) (hr₁ : r ≤ 1 - 1 / 2 ^ 53) :
    rounded (r * rounded (rounded ((n : ℚ) - m) + 1)) < (n : ℚ) - m + 1 := by
  have hone : 1 ≤ rounded (rounded ((n : ℚ) - m) + 1) :=
    rounded_width_add_one_pos (by exact_mod_cast hle)
  have hlt := rounded_mul_lt (representable_rounded _) (lt_of_lt_of_le smallestNormal_lt_one hone) hr₁
  set p := rounded (r * rounded (rounded ((n : ℚ) - m) + 1)) with hp
  have hp_rep : Representable p := representable_rounded _
  rcases lt_or_ge (n - m) (2 ^ 53) with hsmall | hlarge
  · -- Both roundings of the width are exact.
    have hexact₁ : rounded ((n : ℚ) - m) = n - m := by
      rw [← Int.cast_sub]
      exact rounded_of_representable (.intCast (abs_le.2 ⟨by omega, by omega⟩))
    have hexact₂ : rounded ((n : ℚ) - m + 1) = n - m + 1 := by
      rw [← Int.cast_sub, ← Int.cast_one, ← Int.cast_add]
      exact rounded_of_representable (.intCast (abs_le.2 ⟨by omega, by omega⟩))
    rw [hexact₁, hexact₂] at hlt
    exact hlt
  · by_contra hcontra
    have hwidth : rounded ((n : ℚ) - m) ≤ p := rounded_le hp_rep (by linarith)
    by_cases hne : rounded ((n - m : ℤ) : ℚ) = (n - m : ℤ)
    · push_cast at hne
      rw [hne] at hlt
      have := rounded_le hp_rep (not_lt.1 hcontra)
      linarith
    · have := rounded_add_one_le hlarge hne
      push_cast at this
      linarith

theorem le_wholePoint (hl : Representable l) (hle : l ≤ h) (hr : 0 ≤ r) : l ≤ wholePoint l h r := by
  apply le_rounded hl
  have := rounded_width_add_one_pos hle
  have := rounded_mul_nonneg (by linarith : 0 ≤ rounded (rounded (h - l) + 1)) hr
  linarith

/-- The last rounding can lift a point above the greatest whole number of the range and beyond, but
not by 2. -/
theorem wholePoint_lt {m n : ℤ} (hn : Representable n) (hle : m ≤ n) (hr₁ : r ≤ 1 - 1 / 2 ^ 53) :
    wholePoint m n r < n + 2 := by
  have hlt := rounded_mul_wholeWidth_lt hle hr₁
  have hnear := abs_rounded_sub_le hn (m + rounded (r * rounded (rounded ((n : ℚ) - m) + 1)))
  have hpoint := (abs_le.1 hnear).2
  rw [wholePoint]
  rcases abs_cases ((n : ℚ) - (m + rounded (r * rounded (rounded ((n : ℚ) - m) + 1)))) with
    ⟨h, -⟩ | ⟨h, -⟩ <;>
  · rw [h] at hpoint
    linarith

theorem wholePoint_mono {r' : ℚ} (hle : l ≤ h) (hr : r ≤ r') :
    wholePoint l h r ≤ wholePoint l h r' := by
  apply rounded_mono
  have hwidth := rounded_width_add_one_pos hle
  have := rounded_mono (mul_le_mul_of_nonneg_right hr (by linarith))
  linarith

end Number
end QuizBank

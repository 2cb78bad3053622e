import QuizBank.Proofs.Number.Values

/-!
# Arithmetic of doubles

The sum, the difference and the product of two finite doubles have the exact result's `rounded`
value, unless that is too large for a double. The operations work on mantissas of any length with
two residual bits below them, which say enough about the exact number for rounding (`StandsFor`).
-/

namespace QuizBank
namespace Number

open Float.Model (UnpackedFloat Format totalExponent)
open Float.Model.UnpackedFloat

/-! ### Residual bits -/

/-- The exact number has the mantissa as its whole part, the round bit says whether it has another
half, and the sticky bit whether it has any more. -/
def StandsFor (em : ExtendedMantissa) (x : ℚ) : Prop :=
  ∃ rest, x = em.mantissa + (if em.roundBit = true then 1 / 2 else 0) + rest ∧
    0 ≤ rest ∧ rest < 1 / 2 ∧ (em.stickyBit = true ↔ 0 < rest)

theorem standsFor_exact (m : ℕ) : StandsFor (.ofMantissaAndAccuracy m .exact) m :=
  ⟨0, by simp [ExtendedMantissa.ofMantissaAndAccuracy], le_rfl, by norm_num,
    by simp [ExtendedMantissa.ofMantissaAndAccuracy]⟩

namespace StandsFor

variable {em : ExtendedMantissa} {x : ℚ}

theorem floor_eq (h : StandsFor em x) : ⌊x⌋ = em.mantissa := by
  obtain ⟨rest, rfl, hnonneg, hlt, -⟩ := h
  apply Int.floor_eq_iff.2
  push_cast
  constructor <;> split <;> linarith

theorem shiftRightOne (h : StandsFor em x) : StandsFor em.shiftRightOne (x / 2) := by
  obtain ⟨rest, rfl, hnonneg, hlt, hsticky⟩ := h
  have hsplit : (em.mantissa : ℚ) = 2 * (em.mantissa / 2 : ℕ) + (em.mantissa % 2 : ℕ) := by
    exact_mod_cast (Nat.div_add_mod em.mantissa 2).symm
  refine ⟨(if em.roundBit = true then 1 / 4 else 0) + rest / 2, ?_, ?_, ?_, ?_⟩
  · rcases Nat.mod_two_eq_zero_or_one em.mantissa with hbit | hbit <;>
    · rw [hsplit]
      simp only [ExtendedMantissa.shiftRightOne, hbit]
      split <;> norm_num <;> ring
  · split <;> linarith
  · split <;> linarith
  · simp only [ExtendedMantissa.shiftRightOne, Bool.or_eq_true, hsticky]
    split
    · next hround => exact ⟨fun _ => by linarith, fun _ => .inl hround⟩
    · next hround => exact ⟨fun h => by linarith [h.resolve_left hround], fun h => .inr (by linarith)⟩

theorem shiftRight (h : StandsFor em x) (n : ℕ) : StandsFor (em >>> n) (x / 2 ^ n) := by
  show StandsFor (n.repeat ExtendedMantissa.shiftRightOne em) _
  induction n with
  | zero =>
    rw [pow_zero, div_one]
    exact h
  | succ n ih =>
    rw [pow_succ, ← div_div]
    exact ih.shiftRightOne

theorem roundedMantissa (h : StandsFor em x) : (em.roundedMantissa : ℤ) = nearestEven x := by
  have hfloor := h.floor_eq
  have hfract := Int.floor_add_fract x
  rw [hfloor] at hfract
  obtain ⟨rest, hx, hnonneg, hlt, hsticky⟩ := h
  obtain ⟨m, round, sticky⟩ := em
  cases round <;> cases sticky <;>
    simp only [Bool.false_eq_true, if_false, if_true, false_iff, true_iff, not_lt] at hx hsticky
  · -- No residual bit: the number is whole.
    rw [nearestEven_of_lt, hfloor]
    · rfl
    · push_cast at hfract
      linarith
  · rw [nearestEven_of_lt, hfloor]
    · rfl
    · push_cast at hfract
      linarith
  · -- The round bit alone: the number is half way, and the even one of its neighbours is taken.
    rw [nearestEven_of_eq, hfloor]
    · rfl
    · push_cast at hfract
      linarith
  · rw [nearestEven_of_gt, hfloor]
    · rfl
    · push_cast at hfract
      linarith

end StandsFor

/-! ### Rounding a mantissa -/

/-- The exponent that a mantissa and exponent have in canonical form, but for a carry. -/
def targetPlace (m : ℕ) (e : ℤ) : ℤ := max ((m.log2 : ℤ) + e - 52) (-1074)

theorem targetExponent_eq (m : ℕ) (e : ℤ) :
    Format.binary64.targetExponent (totalExponent m e) = targetPlace m e := by
  show max ((m.log2 : ℤ) + 1 + e - 53) (-1074) = max ((m.log2 : ℤ) + e - 52) (-1074)
  congr 1
  ring

theorem shiftToTargetExponent_eq (m : ℕ) (e : ℤ) (acc : Accuracy) :
    shiftToTargetExponent .binary64 m e acc =
      (ExtendedMantissa.ofMantissaAndAccuracy m acc >>> (targetPlace m e - e).toNat,
        e + (targetPlace m e - e).toNat) := by
  rw [← targetExponent_eq]
  rfl

theorem targetPlace_zero {e : ℤ} (he : e ≤ targetPlace 0 e) : targetPlace 0 e = -1074 := by
  have hlog : Nat.log2 0 = 0 := by decide
  rw [targetPlace, hlog] at he ⊢
  omega

/-- The target is the last place of every number with that whole mantissa. Without a mantissa this
needs a place that is small enough. -/
theorem lastPlace_eq_targetPlace {m : ℕ} {e : ℤ} {x : ℚ} (hm : 0 < m ∨ e ≤ targetPlace m e)
    (hpos : 0 < x) (hlow : m * 2 ^ e ≤ x) (hhigh : x < (m + 1) * 2 ^ e) :
    lastPlace x = targetPlace m e := by
  apply lastPlace_eq _ _ (le_max_right _ _) hpos.ne'
  · rw [abs_of_pos hpos]
    have hlog : m + 1 ≤ 2 ^ (m.log2 + 1) := Nat.lt_log2_self
    have hlog' : (m : ℚ) + 1 ≤ 2 ^ (m.log2 + 1) := by exact_mod_cast hlog
    calc x < (m + 1) * 2 ^ e := hhigh
      _ ≤ 2 ^ (m.log2 + 1) * 2 ^ e := mul_le_mul_of_nonneg_right hlog' (zpow_pos_two e).le
      _ = 2 ^ (((m.log2 + 1 : ℕ) : ℤ) + e) := by rw [← zpow_natCast, ← zpow_add_two]
      _ ≤ 2 ^ (53 + targetPlace m e) := zpow_le_zpow_two (by rw [targetPlace]; omega)
      _ = 2 ^ 53 * 2 ^ targetPlace m e := zpow_add_two 53 _
  · by_cases hplace : targetPlace m e = -1074
    · exact .inr hplace
    · left
      have hm' : 0 < m := by
        by_contra hzero
        obtain rfl : m = 0 := by omega
        exact hplace (targetPlace_zero (hm.resolve_left (lt_irrefl 0)))
      have hlog : 2 ^ m.log2 ≤ m := Nat.log2_self_le hm'.ne'
      have hlog' : (2 : ℚ) ^ m.log2 ≤ m := by exact_mod_cast hlog
      rw [abs_of_pos hpos]
      calc 2 ^ 52 * 2 ^ targetPlace m e = 2 ^ (52 + targetPlace m e) := (zpow_add_two 52 _).symm
        _ = 2 ^ m.log2 * 2 ^ e := by
          rw [← zpow_natCast, ← zpow_add_two]
          congr 1
          rw [targetPlace] at hplace ⊢
          omega
        _ ≤ m * 2 ^ e := mul_le_mul_of_nonneg_right hlog' (zpow_pos_two e).le
        _ ≤ x := hlow

theorem lastPlace_mul_zpow {m : ℕ} (hm : 0 < m) (e : ℤ) :
    lastPlace (m * 2 ^ e) = targetPlace m e :=
  lastPlace_eq_targetPlace (.inl hm) (mul_zpow_pos hm e) le_rfl
    (mul_lt_mul_of_pos_right (lt_add_one _) (zpow_pos_two e))

/-- The unpacked double of a mantissa whose residual bits are dropped. -/
def ofShifted (s : Sign) (p : ExtendedMantissa × ℤ) : UnpackedFloat :=
  if h : p.1.mantissa = 0 then .zero s else .finite s p.1.mantissa p.2 (Nat.pos_of_ne_zero h)

theorem isValue_ofShifted {s : Sign} {em : ExtendedMantissa} {e : ℤ} (hm : em.mantissa < 2 ^ 53)
    (he : -1074 ≤ e) (hfull : 2 ^ 52 ≤ em.mantissa ∨ e = -1074) :
    IsValue (ofShifted s (em, e)) (withSign (Binary.isMinus s) (em.mantissa * 2 ^ e)) := by
  rw [ofShifted]
  split
  · next hzero =>
    rw [hzero, Nat.cast_zero, zero_mul, withSign_zero]
    exact isValue_zero s
  · exact ⟨_, rfl, ⟨hm, he, hfull⟩, rfl⟩

/-- A rounded mantissa may have a carry, which the second shift takes away. -/
theorem isValue_shiftToTargetExponent {s : Sign} {n : ℕ} {t : ℤ} (hn : n ≤ 2 ^ 53) (ht : -1074 ≤ t)
    (hfull : 2 ^ 52 ≤ n ∨ t = -1074) :
    IsValue (ofShifted s (shiftToTargetExponent .binary64 n t .exact))
      (withSign (Binary.isMinus s) (n * 2 ^ t)) := by
  rw [shiftToTargetExponent_eq]
  rcases lt_or_eq_of_le hn with hlt | rfl
  · have htarget : (targetPlace n t - t).toNat = 0 := by
      have : n.log2 < 53 := by
        rcases Nat.eq_zero_or_pos n with rfl | hpos
        · decide
        · exact (Nat.log2_lt hpos.ne').2 hlt
      rw [targetPlace]
      omega
    rw [htarget, Nat.cast_zero, add_zero]
    exact isValue_ofShifted hlt ht hfull
  · have htarget : (targetPlace (2 ^ 53) t - t).toNat = 1 := by
      rw [targetPlace, Nat.log2_two_pow]
      omega
    rw [htarget]
    have hvalue : ((2 ^ 53 : ℕ) : ℚ) * 2 ^ t = ((2 ^ 52 : ℕ) : ℚ) * 2 ^ (t + 1) := by
      rw [zpow_add_two]
      push_cast
      ring
    have hshifted : ExtendedMantissa.ofMantissaAndAccuracy (2 ^ 53) .exact >>> 1 =
        ⟨2 ^ 52, false, false⟩ := rfl
    rw [hvalue, hshifted]
    exact isValue_ofShifted (by norm_num) (by omega) (.inl le_rfl)

/-- A number is rounded from its whole mantissa at a place no higher than its last one, and the
accuracy of that mantissa. -/
theorem isValue_roundWithAccuracy {s : Sign} {m : ℕ} {e : ℤ} {acc : Accuracy} {x : ℚ}
    (hx : StandsFor (.ofMantissaAndAccuracy m acc) (x / 2 ^ e)) (he : e ≤ targetPlace m e) :
    IsValue (roundWithAccuracy .binary64 s m e acc) (withSign (Binary.isMinus s) (rounded x)) := by
  have hfloor : ⌊x / 2 ^ e⌋ = m := by
    rw [hx.floor_eq]
    cases acc with
    | exact => rfl
    | inexact o => cases o <;> rfl
  obtain ⟨hlow, hhigh⟩ := Int.floor_eq_iff.1 hfloor
  rw [Int.cast_natCast, le_div_iff₀ (zpow_pos_two e)] at hlow
  rw [Int.cast_natCast, div_lt_iff₀ (zpow_pos_two e)] at hhigh
  -- The first shift makes the target the unit, so that rounding is to the nearest whole number.
  have hshift : e + ((targetPlace m e - e).toNat : ℤ) = targetPlace m e := by omega
  have hrounded := (hx.shiftRight (targetPlace m e - e).toNat).roundedMantissa
  rw [div_div, ← zpow_natCast, ← zpow_add_two, hshift] at hrounded
  show IsValue (ofShifted s (shiftToTargetExponent .binary64
    (shiftToTargetExponent .binary64 m e acc).1.roundedMantissa
    (shiftToTargetExponent .binary64 m e acc).2 .exact)) _
  rw [shiftToTargetExponent_eq m e acc]
  dsimp only
  rw [hshift]
  generalize (ExtendedMantissa.ofMantissaAndAccuracy m acc >>>
    (targetPlace m e - e).toNat).roundedMantissa = n at hrounded
  have hnonneg : 0 ≤ x := le_trans (mul_nonneg (Nat.cast_nonneg m) (zpow_pos_two e).le) hlow
  rcases eq_or_lt_of_le hnonneg with rfl | hpos
  · have hm : m = 0 := by
      by_contra hne
      exact absurd hlow (not_le.2 (mul_zpow_pos (Nat.pos_of_ne_zero hne) e))
    have hn : n = 0 := by
      have h := nearestEven_intCast 0
      rw [Int.cast_zero] at h
      rw [zero_div, h] at hrounded
      exact_mod_cast hrounded
    rw [hm] at he ⊢
    have h := isValue_shiftToTargetExponent (s := s) (n := n) (by omega) (le_max_right _ _)
      (.inr (targetPlace_zero he))
    rw [hn, Nat.cast_zero, zero_mul] at h
    rw [hn, rounded_zero]
    exact h
  · have hplace := lastPlace_eq_targetPlace (.inr he) hpos hlow hhigh
    have hmantissa := abs_mantissa_le x
    rw [hplace, ← hrounded, Nat.abs_cast] at hmantissa
    have hvalue : rounded x = n * 2 ^ targetPlace m e := by
      rw [rounded, hplace, ← hrounded]
      rfl
    rw [hvalue]
    apply isValue_shiftToTargetExponent (by exact_mod_cast hmantissa) (le_max_right _ _)
    by_cases h : lastPlace x = -1074
    · exact .inr (hplace.symm.trans h)
    · have hfull := le_mantissa hpos h
      rw [hplace, ← hrounded] at hfull
      exact .inl (by exact_mod_cast hfull)

/-! ### Sums and products -/

theorem decreaseExponent_value (m : ℕ) (e t : ℤ) :
    ((decreaseExponent m e t).1 : ℚ) * 2 ^ (decreaseExponent m e t).2 = m * 2 ^ e := by
  show ((m <<< (e - t).toNat : ℕ) : ℚ) * 2 ^ (e - ((e - t).toNat : ℤ)) = m * 2 ^ e
  rw [Nat.shiftLeft_eq]
  push_cast
  rw [mul_assoc, ← zpow_natCast, ← zpow_add_two]
  congr 2
  ring

theorem isValue_round {s : Sign} {m : ℕ} (hm : 0 < m) (e : ℤ) :
    IsValue (UnpackedFloat.round .binary64 s m e)
      (withSign (Binary.isMinus s) (rounded (m * 2 ^ e))) := by
  have hvalue := decreaseExponent_value m e (targetPlace m e)
  have hpos : 0 < (decreaseExponent m e (targetPlace m e)).1 := by
    show 0 < m <<< (e - targetPlace m e).toNat
    rw [Nat.shiftLeft_eq]
    positivity
  have hle : (decreaseExponent m e (targetPlace m e)).2 ≤ targetPlace m e := by
    show e - ((e - targetPlace m e).toNat : ℤ) ≤ targetPlace m e
    omega
  -- Shifting changes neither the number nor its last place.
  have htarget := lastPlace_mul_zpow hpos (decreaseExponent m e (targetPlace m e)).2
  rw [hvalue, lastPlace_mul_zpow hm] at htarget
  show IsValue (roundWithAccuracy .binary64 s
    (decreaseExponent m e (Format.binary64.targetExponent (totalExponent m e))).1
    (decreaseExponent m e (Format.binary64.targetExponent (totalExponent m e))).2 .exact) _
  rw [targetExponent_eq, ← hvalue]
  apply isValue_roundWithAccuracy _ (by rwa [← htarget])
  rw [mul_div_assoc, div_self (zpow_pos_two _).ne', mul_one]
  exact standsFor_exact _

theorem isValue_normalize (n e : ℤ) (s : Sign) :
    IsValue (UnpackedFloat.normalize .binary64 n e s) (rounded (n * 2 ^ e)) := by
  rw [UnpackedFloat.normalize]
  rcases lt_trichotomy n 0 with hn | rfl | hn
  · have hcompare : compare n 0 = .lt := compare_lt_iff_lt.2 hn
    have hcast : ((-n).toNat : ℚ) = -n := by
      have h : ((-n).toNat : ℤ) = -n := Int.toNat_of_nonneg (by omega)
      exact_mod_cast congrArg (Int.cast (R := ℚ)) h
    have h := isValue_round (s := .negative) (m := (-n).toNat) (by omega) e
    rw [hcast, neg_mul, rounded_neg] at h
    simp only [hcompare]
    have hsign : withSign (Binary.isMinus .negative) (-rounded (n * 2 ^ e)) = rounded (n * 2 ^ e) :=
      neg_neg _
    rwa [hsign] at h
  · rw [Int.cast_zero, zero_mul, rounded_zero]
    exact isValue_zero s
  · have hcompare : compare n 0 = .gt := compare_gt_iff_gt.2 hn
    have hcast : (n.toNat : ℚ) = n := by
      have h : (n.toNat : ℤ) = n := Int.toNat_of_nonneg (by omega)
      exact_mod_cast congrArg (Int.cast (R := ℚ)) h
    have h := isValue_round (s := .positive) (m := n.toNat) (by omega) e
    rw [hcast] at h
    simp only [hcompare]
    exact h

theorem apply_decreaseExponent (s : Sign) (m : ℕ) {e t : ℤ} (ht : t ≤ e) :
    ((s.apply (decreaseExponent m e t).1 : ℤ) : ℚ) * 2 ^ t =
      withSign (Binary.isMinus s) (m * 2 ^ e) := by
  have hplace : (decreaseExponent m e t).2 = t := by
    show e - ((e - t).toNat : ℤ) = t
    omega
  have hvalue := decreaseExponent_value m e t
  rw [hplace] at hvalue
  rw [← hvalue]
  cases s with
  | negative =>
    show ((-((decreaseExponent m e t).1 : ℤ) : ℤ) : ℚ) * 2 ^ t = -(_ * _)
    push_cast
    ring
  | positive => rfl

theorem withSign_mul (s s' : Sign) (x y : ℚ) :
    withSign (Binary.isMinus (s * s')) (x * y) =
      withSign (Binary.isMinus s) x * withSign (Binary.isMinus s') y := by
  cases s <;> cases s'
  · exact (neg_mul_neg x y).symm
  · exact (neg_mul x y).symm
  · exact (mul_neg x y).symm
  · rfl

/-- A product is rounded from the product of the mantissas, if that has all the bits that rounding
keeps. -/
theorem isValue_mul_finite (s s' : Sign) {m m' : ℕ} {e e' : ℤ} (hm : 0 < m) (hm' : 0 < m')
    (hplace : e + e' ≤ targetPlace (m * m') (e + e')) :
    IsValue (UnpackedFloat.mul .binary64 (.finite s m e hm) (.finite s' m' e' hm'))
      (rounded (withSign (Binary.isMinus s) (m * 2 ^ e) *
        withSign (Binary.isMinus s') (m' * 2 ^ e'))) := by
  have hexact : StandsFor (.ofMantissaAndAccuracy (m * m') .exact)
      (((m * m' : ℕ) : ℚ) * 2 ^ (e + e') / 2 ^ (e + e')) := by
    rw [mul_div_assoc, div_self (zpow_pos_two _).ne', mul_one]
    exact standsFor_exact _
  have h := isValue_roundWithAccuracy (s := s * s') hexact hplace
  have hvalue : withSign (Binary.isMinus (s * s')) (rounded (((m * m' : ℕ) : ℚ) * 2 ^ (e + e'))) =
      rounded (withSign (Binary.isMinus s) (m * 2 ^ e) *
        withSign (Binary.isMinus s') (m' * 2 ^ e')) := by
    rw [← rounded_withSign, zpow_add_two]
    congr 1
    rw [← withSign_mul]
    push_cast
    congr 1
    ring
  rw [hvalue] at h
  exact h

namespace IsValue

variable {u v : UnpackedFloat} {p q : ℚ}

theorem zero_or_finite (h : IsValue u p) :
    (∃ s, u = .zero s ∧ p = 0) ∨
      ∃ s m e hm, u = .finite s m e hm ∧ p = withSign (Binary.isMinus s) (m * 2 ^ e) ∧
        (⟨Binary.isMinus s, m, e⟩ : Binary).Canonical := by
  obtain ⟨b, hu, hb, rfl⟩ := h
  cases u with
  | infinity s => cases hu
  | notANumber => cases hu
  | zero s =>
    cases hu
    exact .inl ⟨s, rfl, by simp [Binary.value]⟩
  | finite s m e hm =>
    cases hu
    exact .inr ⟨s, m, e, hm, rfl, rfl, hb⟩

theorem neg (h : IsValue u p) : IsValue u.neg (-p) := by
  obtain ⟨b, hu, ⟨hm, he, hfull⟩, rfl⟩ := h
  have hvalue (s : Sign) (x : ℚ) :
      withSign (Binary.isMinus (-s)) x = -withSign (Binary.isMinus s) x := by
    cases s with
    | negative => exact (neg_neg x).symm
    | positive => rfl
  cases u with
  | infinity s => cases hu
  | notANumber => cases hu
  | zero s =>
    cases hu
    exact ⟨_, rfl, ⟨hm, he, hfull⟩, hvalue s _⟩
  | finite s m e hpos =>
    cases hu
    exact ⟨_, rfl, ⟨hm, he, hfull⟩, hvalue s _⟩

theorem add (hu : IsValue u p) (hv : IsValue v q) :
    IsValue (UnpackedFloat.add .binary64 u v) (rounded (p + q)) := by
  rcases hu.zero_or_finite with ⟨s, rfl, rfl⟩ | ⟨s, m, e, hm, rfl, rfl, -⟩ <;>
    rcases hv.zero_or_finite with ⟨s', rfl, rfl⟩ | ⟨s', m', e', hm', rfl, rfl, -⟩
  · rw [add_zero, rounded_zero]
    show IsValue (if (s == s') = true then .zero s else .zero .positive) 0
    split <;> exact isValue_zero _
  · rw [zero_add, rounded_of_representable hv.representable]
    exact hv
  · rw [add_zero, rounded_of_representable hu.representable]
    exact hu
  · have h := isValue_normalize (s.apply (decreaseExponent m e (min e e')).1 +
      s'.apply (decreaseExponent m' e' (min e e')).1) (min e e') .positive
    rw [Int.cast_add, add_mul, apply_decreaseExponent s m (min_le_left e e'),
      apply_decreaseExponent s' m' (min_le_right e e')] at h
    exact h

theorem sub (hu : IsValue u p) (hv : IsValue v q) :
    IsValue (UnpackedFloat.sub .binary64 u v) (rounded (p - q)) := by
  rcases hu.zero_or_finite with ⟨s, rfl, rfl⟩ | ⟨s, m, e, hm, rfl, rfl, -⟩ <;>
    rcases hv.zero_or_finite with ⟨s', rfl, rfl⟩ | ⟨s', m', e', hm', rfl, rfl, -⟩
  · rw [sub_zero, rounded_zero]
    show IsValue (if (s == -s') = true then .zero s else .zero .positive) 0
    split <;> exact isValue_zero _
  · rw [zero_sub, rounded_of_representable hv.representable.neg]
    exact hv.neg
  · rw [sub_zero, rounded_of_representable hu.representable]
    exact hu
  · have h := isValue_normalize (s.apply (decreaseExponent m e (min e e')).1 -
      s'.apply (decreaseExponent m' e' (min e e')).1) (min e e') .positive
    rw [Int.cast_sub, sub_mul, apply_decreaseExponent s m (min_le_left e e'),
      apply_decreaseExponent s' m' (min_le_right e e')] at h
    exact h

theorem mul (hu : IsValue u p) (hv : IsValue v q) :
    IsValue (UnpackedFloat.mul .binary64 u v) (rounded (p * q)) := by
  rcases hu.zero_or_finite with ⟨s, rfl, rfl⟩ | ⟨s, m, e, hm, rfl, rfl, hb⟩ <;>
    rcases hv.zero_or_finite with ⟨s', rfl, rfl⟩ | ⟨s', m', e', hm', rfl, rfl, hb'⟩
  · rw [mul_zero, rounded_zero]
    exact isValue_zero _
  · rw [zero_mul, rounded_zero]
    exact isValue_zero _
  · rw [mul_zero, rounded_zero]
    exact isValue_zero _
  · -- The product has at least 53 bits, or both factors are at the smallest place.
    apply isValue_mul_finite
    by_cases hlarge : 2 ^ 52 ≤ m * m'
    · have := (Nat.le_log2 (Nat.mul_pos hm hm').ne').2 hlarge
      rw [targetPlace]
      omega
    · have he : e = -1074 := hb.full.resolve_left (fun h =>
        hlarge (le_trans h (Nat.le_mul_of_pos_right m hm')))
      have he' : e' = -1074 := hb'.full.resolve_left (fun h =>
        hlarge (le_trans h (Nat.le_mul_of_pos_left m' hm)))
      rw [targetPlace]
      omega

end IsValue

/-! ### Quotients -/

/-- The whole part of a quotient, with what the remainder says of the rest. -/
theorem standsFor_div (n : ℕ) {d : ℕ} (hd : 0 < d) :
    StandsFor (.ofMantissaAndAccuracy (n / d) (accuracyOfFraction (n % d) d)) ((n : ℚ) / d) := by
  have hd' : (0 : ℚ) < d := by exact_mod_cast hd
  have hsplit : (n : ℚ) / d = (n / d : ℕ) + (n % d : ℕ) / (d : ℚ) := by
    rw [div_eq_iff hd'.ne', add_mul, div_mul_cancel₀ _ hd'.ne']
    exact_mod_cast (Nat.div_add_mod' n d).symm
  have hlt : ((n % d : ℕ) : ℚ) < d := by exact_mod_cast Nat.mod_lt n hd
  rw [hsplit]
  generalize n % d = r at hlt
  generalize n / d = m
  by_cases hr : r = 0
  · rw [accuracyOfFraction, if_pos hr, hr, Nat.cast_zero, zero_div, add_zero]
    exact standsFor_exact m
  · have hr' : (0 : ℚ) < r := by exact_mod_cast Nat.pos_of_ne_zero hr
    have hpos : 0 < (r : ℚ) / d := div_pos hr' hd'
    have hone : (r : ℚ) / d < 1 := (div_lt_one hd').2 hlt
    rw [accuracyOfFraction, if_neg hr]
    rcases lt_trichotomy (2 * r) d with h | h | h
    · have hhalf : (r : ℚ) / d < 1 / 2 := by
        have : (2 : ℚ) * r < d := by exact_mod_cast h
        rw [div_lt_iff₀ hd']
        linarith
      rw [compare_lt_iff_lt.2 h]
      exact ⟨r / d, by simp [ExtendedMantissa.ofMantissaAndAccuracy], hpos.le, hhalf,
        ⟨fun _ => hpos, fun _ => rfl⟩⟩
    · have hhalf : (r : ℚ) / d = 1 / 2 := by
        have : (2 : ℚ) * r = d := by exact_mod_cast h
        rw [div_eq_iff hd'.ne']
        linarith
      rw [compare_eq_iff_eq.2 h, hhalf]
      exact ⟨0, by simp [ExtendedMantissa.ofMantissaAndAccuracy], le_rfl, by norm_num,
        by simp [ExtendedMantissa.ofMantissaAndAccuracy]⟩
    · have hhalf : 1 / 2 < (r : ℚ) / d := by
        have : (d : ℚ) < 2 * r := by exact_mod_cast h
        rw [lt_div_iff₀ hd']
        linarith
      rw [compare_gt_iff_gt.2 h]
      exact ⟨r / d - 1 / 2, by simp [ExtendedMantissa.ofMantissaAndAccuracy],
        by linarith, by linarith, ⟨fun _ => by linarith, fun _ => rfl⟩⟩

theorem withSign_div (s s' : Sign) (x y : ℚ) :
    withSign (Binary.isMinus (s / s')) (x / y) =
      withSign (Binary.isMinus s) x / withSign (Binary.isMinus s') y := by
  cases s <;> cases s'
  · exact (neg_div_neg_eq x y).symm
  · exact (neg_div y x).symm
  · exact (div_neg x).symm
  · rfl

/-- The dividend is shifted until the whole part of the quotient has all the bits that rounding
keeps. -/
theorem le_targetPlace_div {m m' : ℕ} (hm : 0 < m) (hm' : 0 < m') {d t : ℤ}
    (ht : t ≤ max ((m.log2 : ℤ) - m'.log2 + d - 53) (-1074)) (hd : t ≤ d) :
    t ≤ targetPlace (m * 2 ^ (d - t).toNat / m') t := by
  by_cases hplace : t ≤ -1074
  · exact le_trans hplace (le_max_right _ _)
  · have hfull : 2 ^ 52 ≤ m * 2 ^ (d - t).toNat / m' := by
      rw [Nat.le_div_iff_mul_le hm']
      calc 2 ^ 52 * m' ≤ 2 ^ 52 * 2 ^ (m'.log2 + 1) :=
            Nat.mul_le_mul_left _ (Nat.lt_log2_self (n := m')).le
        _ = 2 ^ (52 + (m'.log2 + 1)) := (pow_add 2 _ _).symm
        _ ≤ 2 ^ (m.log2 + (d - t).toNat) := Nat.pow_le_pow_right (by norm_num) (by omega)
        _ = 2 ^ m.log2 * 2 ^ (d - t).toNat := pow_add 2 _ _
        _ ≤ m * 2 ^ (d - t).toNat := Nat.mul_le_mul_right _ (Nat.log2_self_le hm.ne')
    have := (Nat.le_log2 (by omega)).2 hfull
    rw [targetPlace]
    omega

/-- A quotient is rounded from the mantissas, of any length. -/
theorem isValue_div_finite (s s' : Sign) {m m' : ℕ} (e e' : ℤ) (hm : 0 < m) (hm' : 0 < m') :
    IsValue (UnpackedFloat.div .binary64 (.finite s m e hm) (.finite s' m' e' hm'))
      (rounded (withSign (Binary.isMinus s) (m * 2 ^ e) /
        withSign (Binary.isMinus s') (m' * 2 ^ e'))) := by
  -- The place of the quotient, and the dividend shifted to it.
  obtain ⟨t, ht⟩ : ∃ t, t = min (e - e')
      (Format.binary64.targetExponent (totalExponent m e - totalExponent m' e')) := ⟨_, rfl⟩
  have hle : t ≤ e - e' := by omega
  have htarget : t ≤ max ((m.log2 : ℤ) - m'.log2 + (e - e') - 53) (-1074) := by
    have h : Format.binary64.targetExponent (totalExponent m e - totalExponent m' e') =
        max ((m.log2 : ℤ) + 1 + e - (m'.log2 + 1 + e') - 53) (-1074) := rfl
    rw [h] at ht
    omega
  have hexact : ((m * 2 ^ (e - e' - t).toNat : ℕ) : ℚ) / m' =
      m * 2 ^ e / (m' * 2 ^ e') / 2 ^ t := by
    have hpow : (2 : ℚ) ^ (e - e' - t).toNat * 2 ^ t * 2 ^ e' = 2 ^ e := by
      rw [← zpow_natCast, ← zpow_add_two, ← zpow_add_two]
      congr 1
      omega
    have hm'' : (m' : ℚ) ≠ 0 := by exact_mod_cast hm'.ne'
    rw [← hpow]
    push_cast
    field_simp
  have hstands := standsFor_div (m * 2 ^ (e - e' - t).toNat) hm'
  rw [hexact] at hstands
  have h := isValue_roundWithAccuracy (s := s / s') hstands (le_targetPlace_div hm hm' htarget hle)
  rw [← rounded_withSign, withSign_div] at h
  show IsValue (roundWithAccuracy .binary64 (s / s')
    (divCore .binary64 m e m' e').1 (divCore .binary64 m e m' e').2.1
    (divCore .binary64 m e m' e').2.2) _
  have hcore : divCore .binary64 m e m' e' = (m * 2 ^ (e - e' - t).toNat / m', t,
      accuracyOfFraction (m * 2 ^ (e - e' - t).toNat % m') m') := by
    rw [ht, ← Nat.shiftLeft_eq]
    rfl
  rw [hcore]
  exact h

theorem IsValue.div {u v : UnpackedFloat} {p q : ℚ} (hu : IsValue u p) (hv : IsValue v q)
    (hq : q ≠ 0) : IsValue (UnpackedFloat.div .binary64 u v) (rounded (p / q)) := by
  rcases hv.zero_or_finite with ⟨s', rfl, rfl⟩ | ⟨s', m', e', hm', rfl, rfl, -⟩
  · exact absurd rfl hq
  rcases hu.zero_or_finite with ⟨s, rfl, rfl⟩ | ⟨s, m, e, hm, rfl, rfl, -⟩
  · rw [zero_div, rounded_zero]
    exact isValue_zero _
  · exact isValue_div_finite s s' e e' hm hm'

/-! ### Doubles -/

variable {a b : Float} {p q : ℚ}

theorem value?_neg (ha : value? a = some p) : value? a.neg = some (-p) := by
  have hlt := abs_lt_overflow_of_value? ha
  rw [← abs_neg] at hlt
  exact (value?_pack (isValue_unpack ha).neg).trans (limited_of_lt hlt)

theorem value?_add (ha : value? a = some p) (hb : value? b = some q) :
    value? (a + b) = limited (rounded (p + q)) :=
  value?_pack ((isValue_unpack ha).add (isValue_unpack hb))

theorem value?_sub (ha : value? a = some p) (hb : value? b = some q) :
    value? (a - b) = limited (rounded (p - q)) :=
  value?_pack ((isValue_unpack ha).sub (isValue_unpack hb))

theorem value?_mul (ha : value? a = some p) (hb : value? b = some q) :
    value? (a * b) = limited (rounded (p * q)) :=
  value?_pack ((isValue_unpack ha).mul (isValue_unpack hb))

theorem value?_div (ha : value? a = some p) (hb : value? b = some q) (hq : q ≠ 0) :
    value? (a / b) = limited (rounded (p / q)) :=
  value?_pack ((isValue_unpack ha).div (isValue_unpack hb) hq)

/-- A sum with a double without a value has none. -/
theorem value?_add_of_none (h : value? a = none ∨ value? b = none) : value? (a + b) = none := by
  apply value?_pack_of_none
  show Binary.ofUnpacked? (UnpackedFloat.add .binary64 a.toModel.unpack b.toModel.unpack) = none
  have h' := h.imp value?_eq_none value?_eq_none
  cases hu : a.toModel.unpack with
  | notANumber => rfl
  | infinity s =>
    cases b.toModel.unpack with
    | infinity s' =>
      show Binary.ofUnpacked? (if (s == s') = true then .infinity s else .notANumber) = none
      split <;> rfl
    | notANumber => rfl
    | zero s' => rfl
    | finite s' m e hm => rfl
  | zero s =>
    rw [hu] at h'
    have hv := h'.resolve_left (Option.some_ne_none _)
    cases hb : b.toModel.unpack <;> rw [hb] at hv <;> first | rfl | cases hv
  | finite s m e hm =>
    rw [hu] at h'
    have hv := h'.resolve_left (Option.some_ne_none _)
    cases hb : b.toModel.unpack <;> rw [hb] at hv <;> first | rfl | cases hv

/-- A product with a double without a value has none. -/
theorem value?_mul_of_none (a : Float) (hb : value? b = none) : value? (a * b) = none := by
  have hv := value?_eq_none hb
  apply value?_pack_of_none
  show Binary.ofUnpacked? (UnpackedFloat.mul .binary64 a.toModel.unpack b.toModel.unpack) = none
  cases hb : b.toModel.unpack with
  | zero s => rw [hb] at hv; cases hv
  | finite s m e hm => rw [hb] at hv; cases hv
  | notANumber => cases a.toModel.unpack <;> rfl
  | infinity s => cases a.toModel.unpack <;> rfl

end Number
end QuizBank

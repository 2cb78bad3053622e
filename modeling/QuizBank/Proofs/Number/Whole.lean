import QuizBank.Proofs.Number.Values

/-!
# Whole doubles

`isWhole` holds of the doubles whose value is a whole number, and `floor` gives the greatest whole
number that is not above the value.
-/

namespace QuizBank

open Float.Model (UnpackedFloat Format)
open Float.Model.UnpackedFloat

namespace Binary

open Number

/-! ### Putting a double together -/

/-- The sign that a minus or its absence stands for. -/
def signOf (negative : Bool) : Sign := if negative then .negative else .positive

@[simp] theorem isMinus_signOf (negative : Bool) : isMinus (signOf negative) = negative := by
  cases negative <;> rfl

theorem ofFloat?_ofBits {n : ℕ} {s : Sign} {e : BitVec 11} {m : BitVec 52} {b : Binary}
    (hn : n = (packComponents .binary64 s e m).toNat) (hb : ofComponents? s e m = some b) :
    ofFloat? (Float.ofBits (UInt64.ofNat n)) = some b := by
  have hbits : (UInt64.ofNat n).toBitVec = packComponents .binary64 s e m := by
    rw [hn]
    apply BitVec.eq_of_toNat_eq
    exact Nat.mod_eq_of_lt (packComponents .binary64 s e m).isLt
  obtain ⟨hcanonical, hle⟩ := canonical_of_ofComponents? hb
  show ofFloat? (.ofModel (.pack (.unpack .binary64 (UInt64.ofNat n).toBitVec))) = some b
  rw [hbits, ofFloat?_pack (b := b) _ hcanonical, if_pos hle]
  rw [ofUnpacked?_unpack, hb]

/-- Shifting the mantissa up as far as it goes makes the form canonical. -/
theorem canonical_shifted {negative : Bool} {m : ℕ} {e : ℤ} (hpos : 0 < m) (hm : m < 2 ^ 53)
    (he : -1074 ≤ e) {k : ℕ} (hk : k = min (52 - m.log2) (e + 1074).toNat) :
    (⟨negative, m * 2 ^ k, e - k⟩ : Binary).Canonical := by
  have hlog := (Nat.log2_lt hpos.ne').2 hm
  refine ⟨?_, by show -1074 ≤ e - (k : ℤ); omega, ?_⟩
  · calc m * 2 ^ k < 2 ^ (m.log2 + 1) * 2 ^ k :=
          Nat.mul_lt_mul_of_pos_right Nat.lt_log2_self (Nat.two_pow_pos k)
      _ = 2 ^ (m.log2 + 1 + k) := (pow_add 2 _ _).symm
      _ ≤ 2 ^ 53 := Nat.pow_le_pow_right (by norm_num) (by omega)
  · by_cases hplace : e - (k : ℤ) = -1074
    · exact .inr hplace
    · left
      calc 2 ^ 52 = 2 ^ (m.log2 + k) := by congr 1; omega
        _ = 2 ^ m.log2 * 2 ^ k := pow_add 2 _ _
        _ ≤ m * 2 ^ k := Nat.mul_le_mul_right _ (Nat.log2_self_le hpos.ne')

/-- A double that is put together has the value of the parts, where a double can have it. -/
theorem value?_toFloat {b : Binary} (hm : b.mantissa < 2 ^ 53) (he : -1074 ≤ b.exponent)
    (hlimit : |b.value| < overflow) : value? b.toFloat = some b.value := by
  obtain ⟨negative, m, e⟩ := b
  have hsign : (if negative = true then 2 ^ 63 else 0) =
      if isMinus (signOf negative) = true then 2 ^ 63 else 0 := by rw [isMinus_signOf]
  unfold toFloat
  simp only [Nat.pow_eq]
  rcases Nat.eq_zero_or_pos m with rfl | hpos
  · rw [if_pos rfl, value?, ofFloat?_ofBits (s := signOf negative) (e := 0) (m := 0)
      (by rw [toNat_packComponents, hsign]; rfl) rfl]
    simp [value]
  · rw [if_neg hpos.ne']
    generalize hk : min (52 - m.log2) (e + 1074).toNat = k
    have hcanonical : (⟨isMinus (signOf negative), m * 2 ^ k, e - k⟩ : Binary).Canonical :=
      canonical_shifted hpos hm he hk.symm
    have hvalue : (⟨isMinus (signOf negative), m * 2 ^ k, e - k⟩ : Binary).value =
        (⟨negative, m, e⟩ : Binary).value := by
      simp only [value, isMinus_signOf]
      congr 1
      push_cast
      rw [mul_assoc, ← zpow_natCast, ← zpow_add_two]
      congr 2
      ring
    rw [← hvalue] at hlimit ⊢
    have hle := hcanonical.abs_value_lt_overflow_iff.1 hlimit
    rw [value?, ofFloat?_ofBits _ (ofComponents?_of_canonical hcanonical hle)]
    · rfl
    · have hfield : (if 2 ^ 52 ≤ m * 2 ^ k then (e - k + 1075).toNat else 0) < 2 ^ 11 := by
        have : e - (k : ℤ) ≤ 971 := hle
        split <;> omega
      rw [toNat_packComponents, hsign, BitVec.toNat_ofNat, BitVec.toNat_ofNat,
        Nat.mod_eq_of_lt hfield]

theorem value?_ofWhole (negative : Bool) {n : ℕ} (hn : n < 2 ^ 53) :
    value? (ofWhole negative n) = some (withSign negative n) := by
  have hvalue : (⟨negative, n, 0⟩ : Binary).value = withSign negative n := by
    rw [value, zpow_zero, mul_one]
  have hlimit : |(⟨negative, n, 0⟩ : Binary).value| < overflow := by
    rw [hvalue, abs_withSign]
    exact abs_natCast_lt_overflow hn
  rw [← hvalue]
  exact value?_toFloat hn (by norm_num) hlimit

/-! ### The whole part -/

variable {b : Binary}

/-- From the unit on the mantissa is multiplied by a power of two. -/
theorem mantissa_mul_eq_natCast (he : 0 ≤ b.exponent) :
    (b.mantissa : ℚ) * 2 ^ b.exponent = (b.mantissa * 2 ^ b.exponent.toNat : ℕ) := by
  have hcast : b.exponent = (b.exponent.toNat : ℤ) := by omega
  conv_lhs => rw [hcast, zpow_natCast]
  push_cast
  rfl

/-- Below the unit the mantissa is divided by a power of two. -/
theorem mantissa_mul_eq_div (he : ¬ 0 ≤ b.exponent) :
    (b.mantissa : ℚ) * 2 ^ b.exponent = (b.mantissa : ℤ) / (2 ^ (-b.exponent).toNat : ℕ) := by
  have hneg : b.exponent = -((-b.exponent).toNat : ℤ) := by omega
  conv_lhs => rw [hneg, zpow_neg, zpow_natCast]
  push_cast
  rfl

theorem whole_eq_floor (b : Binary) : (b.whole : ℤ) = ⌊(b.mantissa : ℚ) * 2 ^ b.exponent⌋ := by
  by_cases he : 0 ≤ b.exponent
  · rw [whole, if_pos he, mantissa_mul_eq_natCast he, Int.floor_natCast]
    rfl
  · rw [whole, if_neg he, mantissa_mul_eq_div he, Rat.floor_intCast_div_natCast]
    exact Int.natCast_div _ _

theorem whole_eq_natAbs {n : ℤ} (h : b.value = n) : b.whole = n.natAbs := by
  have hfloor := whole_eq_floor b
  rw [← abs_value, h, ← Int.cast_abs, Int.floor_intCast, Int.abs_eq_natAbs] at hfloor
  exact_mod_cast hfloor

theorem isWhole_iff (b : Binary) : b.isWhole = true ↔ ∃ n : ℤ, b.value = n := by
  have hsign : (∃ n : ℤ, b.value = n) ↔ ∃ n : ℤ, (b.mantissa : ℚ) * 2 ^ b.exponent = n := by
    rw [value]
    cases b.negative with
    | false => rfl
    | true =>
      constructor
      · rintro ⟨n, hn⟩
        exact ⟨-n, by rw [Int.cast_neg, ← hn]; exact (neg_neg _).symm⟩
      · rintro ⟨n, hn⟩
        exact ⟨-n, by rw [Int.cast_neg, ← hn]; rfl⟩
  rw [hsign, isWhole, Bool.or_eq_true, decide_eq_true_iff, decide_eq_true_iff, Nat.pow_eq]
  by_cases he : 0 ≤ b.exponent
  · refine ⟨fun _ => ⟨(b.mantissa * 2 ^ b.exponent.toNat : ℕ), ?_⟩, fun _ => .inl he⟩
    rw [mantissa_mul_eq_natCast he, Int.cast_natCast]
  · have hpos : (0 : ℚ) < (2 ^ (-b.exponent).toNat : ℕ) := by positivity
    rw [or_iff_right he, mantissa_mul_eq_div he]
    constructor
    · intro hmod
      obtain ⟨c, hc⟩ := Nat.dvd_of_mod_eq_zero hmod
      refine ⟨c, ?_⟩
      rw [hc, div_eq_iff hpos.ne']
      push_cast
      ring
    · rintro ⟨n, hn⟩
      rw [div_eq_iff hpos.ne'] at hn
      have hn' : (b.mantissa : ℤ) = n * (2 ^ (-b.exponent).toNat : ℕ) := by exact_mod_cast hn
      apply Nat.mod_eq_zero_of_dvd
      exact Int.natCast_dvd_natCast.1 ⟨n, by rw [hn', mul_comm]⟩

/-- The whole part of a number below the unit leaves room for one more. -/
theorem whole_lt (hb : b.Canonical) (hwhole : b.isWhole ≠ true) : b.whole + 1 < 2 ^ 53 := by
  have he : ¬ 0 ≤ b.exponent := by
    intro he
    exact hwhole (by rw [isWhole, decide_eq_true he, Bool.true_or])
  have hm := hb.mantissa_lt
  have hpow : 2 ^ 1 ≤ 2 ^ (-b.exponent).toNat := Nat.pow_le_pow_right (by norm_num) (by omega)
  have hdiv : b.mantissa / 2 ^ (-b.exponent).toNat ≤ b.mantissa / 2 :=
    Nat.div_le_div_left hpow (by norm_num)
  rw [whole, if_neg he, Nat.pow_eq]
  omega

end Binary

namespace Number

variable {x : Float} {q : ℚ}

theorem isWhole_iff (hx : value? x = some q) : isWhole x = true ↔ ∃ n : ℤ, q = n := by
  obtain ⟨b, hb, rfl⟩ := Option.map_eq_some_iff.1 hx
  rw [isWhole, hb]
  exact b.isWhole_iff

theorem isFinite_of_isWhole (h : isWhole x = true) : x.isFinite = true := by
  rw [isWhole] at h
  split at h
  · next b hb => exact (isFinite_iff x).2 ⟨b.value, by rw [value?, hb, Option.map_some]⟩
  · cases h

theorem toInt_of_value? {n : ℤ} (hx : value? x = some (n : ℚ)) : toInt x = n := by
  obtain ⟨b, hb, hn⟩ := Option.map_eq_some_iff.1 hx
  have hfloor := b.whole_eq_floor
  simp only [toInt, hb]
  rw [Binary.value] at hn
  cases hsign : b.negative with
  | false =>
    have hvalue : (b.mantissa : ℚ) * 2 ^ b.exponent = n := by rwa [hsign] at hn
    rw [hvalue, Int.floor_intCast] at hfloor
    rw [if_neg (by simp), hfloor]
  | true =>
    have hvalue : (b.mantissa : ℚ) * 2 ^ b.exponent = (-n : ℤ) := by
      rw [hsign] at hn
      rw [Int.cast_neg, ← hn]
      exact (neg_neg _).symm
    rw [hvalue, Int.floor_intCast] at hfloor
    rw [if_pos rfl, hfloor, neg_neg]

theorem floor_of_none (hx : value? x = none) : floor x = x := by
  rw [floor, Option.map_eq_none_iff.1 hx]

theorem value?_floor (hx : value? x = some q) : value? (floor x) = some (⌊q⌋ : ℚ) := by
  obtain ⟨b, hb, rfl⟩ := Option.map_eq_some_iff.1 hx
  simp only [floor, hb]
  by_cases hwhole : b.isWhole = true
  · obtain ⟨n, hn⟩ := b.isWhole_iff.1 hwhole
    rw [if_pos hwhole, hx, hn, Int.floor_intCast]
  · have hlt := Binary.whole_lt (Binary.canonical_of_ofFloat? hb).1 hwhole
    have hfloor := b.whole_eq_floor
    rw [if_neg hwhole]
    cases hsign : b.negative with
    | false =>
      rw [if_neg (by simp), Binary.value?_ofWhole false (by omega)]
      have hvalue : b.value = b.mantissa * 2 ^ b.exponent := by rw [Binary.value, hsign]; rfl
      rw [hvalue, ← hfloor]
      rfl
    | true =>
      have hvalue : b.value = -(b.mantissa * 2 ^ b.exponent) := by rw [Binary.value, hsign]; rfl
      have hbelow : (b.whole : ℚ) ≤ b.mantissa * 2 ^ b.exponent := by
        have := Int.floor_le ((b.mantissa : ℚ) * 2 ^ b.exponent)
        rw [← hfloor] at this
        exact_mod_cast this
      have habove : (b.mantissa : ℚ) * 2 ^ b.exponent < b.whole + 1 := by
        have := Int.lt_floor_add_one ((b.mantissa : ℚ) * 2 ^ b.exponent)
        rw [← hfloor] at this
        exact_mod_cast this
      have hne : (b.whole : ℚ) ≠ b.mantissa * 2 ^ b.exponent := by
        intro h
        exact hwhole (b.isWhole_iff.2 ⟨-(b.whole : ℤ), by rw [hvalue, ← h]; push_cast; rfl⟩)
      have hneg : ⌊-((b.mantissa : ℚ) * 2 ^ b.exponent)⌋ = -((b.whole : ℤ) + 1) := by
        have := lt_of_le_of_ne hbelow hne
        apply Int.floor_eq_iff.2
        push_cast
        constructor <;> linarith
      rw [if_pos rfl, Binary.value?_ofWhole true hlt, hvalue, hneg]
      push_cast
      rfl

end Number
end QuizBank

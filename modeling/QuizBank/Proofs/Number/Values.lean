import Mathlib
import QuizBank.Number.Binary
import QuizBank.Proofs.Number.Rounding

/-!
# Values of doubles

A finite double stands for a rational number, its `value?`; the infinities and NaN have none. The
mantissa and exponent that `Binary.ofFloat?` reads from the bits are those of the double's unpacked
form (`ofFloat?_eq_ofUnpacked?`), and packing a `Canonical` mantissa and exponent keeps the value,
unless it is too large for a double (`value?_pack`).
-/

namespace QuizBank

open Float.Model (UnpackedFloat Format)
open Float.Model.UnpackedFloat

namespace Number

/-- The number with this sign and magnitude. -/
def withSign (negative : Bool) (x : ℚ) : ℚ := if negative then -x else x

@[simp] theorem withSign_zero (negative : Bool) : withSign negative 0 = 0 := by
  cases negative <;> simp [withSign]

@[simp] theorem abs_withSign (negative : Bool) (x : ℚ) : |withSign negative x| = |x| := by
  cases negative <;> simp [withSign]

theorem rounded_withSign (negative : Bool) (x : ℚ) :
    rounded (withSign negative x) = withSign negative (rounded x) := by
  cases negative with
  | false => rfl
  | true => exact rounded_neg x

theorem Representable.withSign {x : ℚ} (h : Representable x) (negative : Bool) :
    Representable (withSign negative x) := by
  cases negative with
  | false => exact h
  | true => exact h.neg

theorem mul_zpow_pos {m : ℕ} (hm : 0 < m) (e : ℤ) : (0 : ℚ) < m * 2 ^ e :=
  mul_pos (by exact_mod_cast hm) (zpow_pos_two e)

/-- The least power of two that is too large for a double. -/
def overflow : ℚ := 2 ^ 53 * 2 ^ (971 : ℤ)

/-- The number, unless it is too large for a double. -/
def limited (x : ℚ) : Option ℚ := if |x| < overflow then some x else none

theorem pow_le_overflow : 2 ^ 53 ≤ overflow :=
  le_mul_of_one_le_right (by norm_num) (one_le_zpow₀ (by norm_num) (by norm_num))

theorem abs_natCast_lt_overflow {n : ℕ} (hn : n < 2 ^ 53) : |(n : ℚ)| < overflow := by
  have hlt : (n : ℚ) < 2 ^ 53 := by exact_mod_cast hn
  rw [Nat.abs_cast]
  exact lt_of_lt_of_le hlt pow_le_overflow

/-- A number that a double can have leaves room for 2 more. -/
theorem Representable.add_two_lt_overflow {x : ℚ} (h : Representable x) (hlt : x < overflow) :
    x + 2 < overflow := by
  have hunit : (2 : ℚ) ^ (2 : ℤ) ≤ 2 ^ (971 : ℤ) := zpow_le_zpow_two (by norm_num)
  have hpos := zpow_pos_two 971
  rcases h.eq_mul_zpow (show (-1074 : ℤ) ≤ 971 by norm_num) with ⟨n, rfl⟩ | ⟨-, hsmall⟩
  · rw [overflow] at hlt ⊢
    have hn : (n : ℚ) < 2 ^ 53 := lt_of_mul_lt_mul_right hlt hpos.le
    have hn' : (n : ℚ) + 1 ≤ 2 ^ 53 := by exact_mod_cast hn
    have hle := mul_le_mul_of_nonneg_right hn' hpos.le
    generalize (2 : ℚ) ^ (971 : ℤ) = unit at *
    linarith
  · have hle := (abs_lt.1 hsmall).2
    rw [overflow]
    generalize (2 : ℚ) ^ (971 : ℤ) = unit at *
    linarith

theorem limited_of_lt {x : ℚ} (h : |x| < overflow) : limited x = some x := if_pos h

theorem abs_lt_of_limited {x q : ℚ} (h : limited x = some q) : |x| < overflow ∧ x = q := by
  rw [limited] at h
  split at h
  · next hlt => exact ⟨hlt, Option.some.inj h⟩
  · cases h

end Number

namespace Binary

open Number

/-- The number that the parts of a double stand for. -/
def value (b : Binary) : ℚ := withSign b.negative (b.mantissa * 2 ^ b.exponent)

/-- The exponent is the least that the mantissa and the smallest place allow. -/
structure Canonical (b : Binary) : Prop where
  mantissa_lt : b.mantissa < 2 ^ 53
  le_exponent : -1074 ≤ b.exponent
  full : 2 ^ 52 ≤ b.mantissa ∨ b.exponent = -1074

theorem abs_value (b : Binary) : |b.value| = b.mantissa * 2 ^ b.exponent := by
  rw [value, abs_withSign, abs_of_nonneg (mul_nonneg (Nat.cast_nonneg _) (zpow_pos_two _).le)]

theorem withSign_abs_value (b : Binary) : withSign b.negative |b.value| = b.value := by
  rw [abs_value, value]

namespace Canonical

variable {b : Binary}

theorem representable (h : b.Canonical) : Representable b.value := by
  apply Representable.withSign
  have hm : |(b.mantissa : ℤ)| ≤ 2 ^ 53 := by
    have := h.mantissa_lt
    rw [Nat.abs_cast]
    exact_mod_cast this.le
  exact_mod_cast Representable.mul_zpow hm h.le_exponent

theorem abs_value_lt (h : b.Canonical) : |b.value| < 2 ^ 53 * 2 ^ b.exponent := by
  rw [abs_value]
  exact mul_lt_mul_of_pos_right (by exact_mod_cast h.mantissa_lt) (zpow_pos_two _)

theorem le_abs_value (h : b.Canonical) (hplace : b.exponent ≠ -1074) :
    2 ^ 52 * 2 ^ b.exponent ≤ |b.value| := by
  rw [abs_value]
  exact mul_le_mul_of_nonneg_right (by exact_mod_cast h.full.resolve_right hplace)
    (zpow_pos_two _).le

theorem abs_value_lt_overflow_iff (h : b.Canonical) : |b.value| < overflow ↔ b.exponent ≤ 971 := by
  constructor
  · intro hlt
    by_contra hlarge
    have hle := h.le_abs_value (by omega)
    have hpow : (2 : ℚ) ^ (1 + 971 : ℤ) ≤ 2 ^ b.exponent := zpow_le_zpow_two (by omega)
    rw [zpow_add_two, zpow_one] at hpow
    rw [overflow] at hlt
    linarith
  · intro hle
    refine lt_of_lt_of_le h.abs_value_lt ?_
    exact mul_le_mul_of_nonneg_left (zpow_le_zpow_two hle) (by norm_num)

end Canonical

/-! ### Bits -/

/-- Is the sign a minus? -/
def isMinus : Sign → Bool
  | .negative => true
  | .positive => false

theorem toNat_packComponents (s : Sign) (e : BitVec 11) (m : BitVec 52) :
    (packComponents Format.binary64 s e m).toNat =
      (if isMinus s = true then 2 ^ 63 else 0) + e.toNat * 2 ^ 52 + m.toNat := by
  have he := e.isLt
  have hm := m.isLt
  simp only [packComponents, BitVec.toNat_append]
  rw [← Nat.shiftLeft_add_eq_or_of_lt (by exact hm), ← Nat.shiftLeft_add_eq_or_of_lt (by exact he)]
  cases s with
  | negative =>
    simp [isMinus, Sign.toBitVec, Nat.shiftLeft_eq]
    omega
  | positive => simp [isMinus, Sign.toBitVec, Nat.shiftLeft_eq]

/-- The bits of a double are its three components, one behind the other. -/
theorem packComponents_unpack (v : BitVec Format.binary64.numBits) :
    packComponents .binary64 (.ofBitVec (unpackSign v)) (unpackExponent v) (unpackMantissa v) = v := by
  have hsign (b : BitVec 1) : (Sign.ofBitVec b).toBitVec = b := by
    rcases BitVec.eq_zero_or_eq_one b with rfl | rfl <;> rfl
  simp only [packComponents, hsign, unpackSign, unpackExponent, unpackMantissa, BitVec.extractLsb]
  ext i hi
  grind

@[simp] theorem unpackSign_packComponents {F : Format} (s : Sign) (e : BitVec F.exponentBits)
    (m : BitVec F.mantissaBitsWithoutImplicit) : unpackSign (packComponents F s e m) = s.toBitVec := by
  ext i hi
  obtain rfl : i = 0 := by omega
  simp [unpackSign, packComponents, BitVec.getLsbD_append, BitVec.getElem_append]

@[simp] theorem ofBitVec_toBitVec (s : Sign) : Sign.ofBitVec s.toBitVec = s := by
  cases s <;> rfl

/-- The parts of a double with these components. -/
def ofComponents? (s : Sign) (e : BitVec 11) (m : BitVec 52) : Option Binary :=
  if e.toNat = 2047 then none
  else if e.toNat = 0 then some ⟨isMinus s, m.toNat, -1074⟩
  else some ⟨isMinus s, 2 ^ 52 + m.toNat, (e.toNat : ℤ) - 1075⟩

theorem canonical_of_ofComponents? {s : Sign} {e : BitVec 11} {m : BitVec 52} {b : Binary}
    (h : ofComponents? s e m = some b) : b.Canonical ∧ b.exponent ≤ 971 := by
  have he := e.isLt
  have hm := m.isLt
  rw [ofComponents?] at h
  split at h
  · cases h
  · split at h <;> cases h
    · exact ⟨⟨by show m.toNat < 2 ^ 53; omega, le_rfl, .inr rfl⟩, by norm_num⟩
    · exact ⟨⟨by show 2 ^ 52 + m.toNat < 2 ^ 53; omega,
        by show -1074 ≤ (e.toNat : ℤ) - 1075; omega, .inl (Nat.le_add_right _ _)⟩,
        by show (e.toNat : ℤ) - 1075 ≤ 971; omega⟩

theorem ofFloat?_of_bits {x : Float} {s : Sign} {e : BitVec 11} {m : BitVec 52}
    (hbits : x.toBits.toBitVec = packComponents .binary64 s e m) :
    ofFloat? x = ofComponents? s e m := by
  have he := e.isLt
  have hm := m.isLt
  have hnat : x.toBits.toNat =
      (if isMinus s = true then 2 ^ 63 else 0) + e.toNat * 2 ^ 52 + m.toNat := by
    rw [← toNat_packComponents, ← hbits]
    rfl
  have hfield : x.toBits.toNat / 2 ^ 52 % 2 ^ 11 = e.toNat := by
    rw [hnat]
    split <;> omega
  have hlow : x.toBits.toNat % 2 ^ 52 = m.toNat := by
    rw [hnat]
    split <;> omega
  have hsign : decide (2 ^ 63 ≤ x.toBits.toNat) = isMinus s := by
    rw [hnat]
    cases isMinus s <;> simp <;> omega
  unfold ofFloat? ofComponents?
  simp only [Nat.pow_eq, hfield, hlow, hsign]

theorem canonical_of_ofFloat? {x : Float} {b : Binary} (h : ofFloat? x = some b) :
    b.Canonical ∧ b.exponent ≤ 971 := by
  rw [ofFloat?_of_bits (packComponents_unpack x.toBits.toBitVec).symm] at h
  exact canonical_of_ofComponents? h

/-! ### Unpacked form -/

/-- The parts of an unpacked double; `none` for an infinity and for NaN. -/
def ofUnpacked? : UnpackedFloat → Option Binary
  | .zero s => some ⟨isMinus s, 0, -1074⟩
  | .finite s m e _ => some ⟨isMinus s, m, e⟩
  | .infinity _ => none
  | .notANumber => none

theorem toNat_one_append (m : BitVec 52) : (1#1 ++ m).toNat = 2 ^ 52 + m.toNat := by
  rw [BitVec.toNat_append, ← Nat.shiftLeft_add_eq_or_of_lt m.isLt]
  simp [Nat.shiftLeft_eq]

theorem ofUnpacked?_unpack (s : Sign) (e : BitVec 11) (m : BitVec 52) :
    ofUnpacked? (.unpack .binary64 (packComponents .binary64 s e m)) = ofComponents? s e m := by
  have hones : e.toNat = 2047 ↔ e = -1#11 :=
    ⟨fun h => BitVec.eq_of_toNat_eq h, fun h => by rw [h]; rfl⟩
  have hzero : e.toNat = 0 ↔ e = 0#11 :=
    ⟨fun h => BitVec.eq_of_toNat_eq h, fun h => by rw [h]; rfl⟩
  simp only [UnpackedFloat.unpack, unpackExponent_packComponents, unpackMantissa_packComponents,
    unpackSign_packComponents, ofBitVec_toBitVec, ofComponents?, hones, hzero]
  split
  · split <;> rfl
  · split
    · next he =>
      split
      · next hm =>
        rw [hm]
        rfl
      · simp only [ofUnpacked?, he]
        rfl
    · simp only [ofUnpacked?]
      rw [toNat_one_append]
      rfl

theorem ofFloat?_eq_ofUnpacked? (x : Float) : ofFloat? x = ofUnpacked? x.toModel.unpack := by
  have hbits := packComponents_unpack x.toBits.toBitVec
  rw [ofFloat?_of_bits hbits.symm, ← ofUnpacked?_unpack, hbits]
  rfl

/-- The components of parts in canonical form: the leading bit of a full mantissa is left out, and
the field 0 says that there is none. -/
theorem ofComponents?_of_canonical {s : Sign} {m : ℕ} {e : ℤ}
    (hb : (⟨isMinus s, m, e⟩ : Binary).Canonical) (hle : e ≤ 971) :
    ofComponents? s (BitVec.ofNat 11 (if 2 ^ 52 ≤ m then (e + 1075).toNat else 0))
      (BitVec.ofNat 52 m) = some ⟨isMinus s, m, e⟩ := by
  have hm : m < 2 ^ 53 := hb.mantissa_lt
  have he : -1074 ≤ e := hb.le_exponent
  by_cases hnormal : 2 ^ 52 ≤ m
  · have hfield : (BitVec.ofNat 11 (e + 1075).toNat).toNat = (e + 1075).toNat := by
      rw [BitVec.toNat_ofNat, Nat.mod_eq_of_lt (by omega)]
    have hlow : 2 ^ 52 + (BitVec.ofNat 52 m).toNat = m := by
      rw [BitVec.toNat_ofNat]
      omega
    have hexponent : ((e + 1075).toNat : ℤ) - 1075 = e := by omega
    rw [if_pos hnormal, ofComponents?, hfield, hlow, hexponent, if_neg (by omega),
      if_neg (by omega)]
  · have hplace : e = -1074 := hb.full.resolve_left hnormal
    have hlow : (BitVec.ofNat 52 m).toNat = m := by
      rw [BitVec.toNat_ofNat, Nat.mod_eq_of_lt (by omega)]
    rw [if_neg hnormal, ofComponents?, hlow, hplace]
    rfl

/-- Packing keeps the parts, unless the exponent is too large. -/
theorem ofFloat?_pack {u : UnpackedFloat} {b : Binary} (hu : ofUnpacked? u = some b)
    (hb : b.Canonical) :
    ofFloat? (.ofModel (.pack u)) = if b.exponent ≤ 971 then some b else none := by
  cases u with
  | infinity s => cases hu
  | notANumber => cases hu
  | zero s =>
    cases hu
    rw [ofFloat?_of_bits (s := s) (e := 0) (m := 0) rfl]
    rfl
  | finite s m e hpos =>
    cases hu
    have hbits : (Float.ofModel (.pack (.finite s m e hpos))).toBits.toBitVec =
        UnpackedFloat.pack .binary64 (.finite s m e hpos) := rfl
    have hbias : e + Format.binary64.exponentBias + Format.binary64.mantissaBitsWithoutImplicit =
        e + 1075 := add_assoc e 1023 52
    simp only [UnpackedFloat.pack, hbias] at hbits
    by_cases hle : e ≤ 971
    · have hfits : ¬ 2 ^ Format.binary64.exponentBits ≤ (e + 1075).toNat + 1 := by
        show ¬ 2048 ≤ (e + 1075).toNat + 1
        omega
      have hlog : m.log2 + 1 = Format.binary64.mantissaBits ↔ 2 ^ 52 ≤ m := by
        show m.log2 + 1 = 53 ↔ _
        rw [← Nat.le_log2 hpos.ne']
        have := (Nat.log2_lt hpos.ne').2 hb.mantissa_lt
        omega
      rw [if_neg hfits] at hbits
      simp only [hlog] at hbits
      rw [if_pos hle, ← ofComponents?_of_canonical hb hle]
      apply ofFloat?_of_bits
      rw [hbits]
      split <;> rfl
    · rw [if_pos (by show 2048 ≤ (e + 1075).toNat + 1; omega)] at hbits
      rw [if_neg hle, ofFloat?_of_bits hbits]
      rfl

theorem ofFloat?_pack_of_none {u : UnpackedFloat} (hu : ofUnpacked? u = none) :
    ofFloat? (.ofModel (.pack u)) = none := by
  cases u with
  | infinity s =>
    rw [ofFloat?_of_bits (s := s) (e := -1#_) (m := 0) rfl]
    rfl
  | notANumber =>
    rw [ofFloat?_of_bits (s := .positive) (e := -1#_) (m := 1#_ <<< 51) rfl]
    rfl
  | zero s => cases hu
  | finite s m e hpos => cases hu

end Binary

namespace Number

/-! ### Values -/

/-- The number that a finite double stands for. -/
def value? (x : Float) : Option ℚ := (Binary.ofFloat? x).map Binary.value

/-- The unpacked double is in canonical form and stands for the number. -/
def IsValue (u : UnpackedFloat) (q : ℚ) : Prop :=
  ∃ b, Binary.ofUnpacked? u = some b ∧ b.Canonical ∧ b.value = q

theorem IsValue.representable {u : UnpackedFloat} {q : ℚ} (h : IsValue u q) : Representable q := by
  obtain ⟨b, -, hb, rfl⟩ := h
  exact hb.representable

theorem isValue_zero (s : Sign) : IsValue (.zero s) 0 := by
  refine ⟨_, rfl, ⟨by norm_num, le_rfl, .inr rfl⟩, ?_⟩
  simp [Binary.value]

theorem isValue_unpack {x : Float} {q : ℚ} (h : value? x = some q) :
    IsValue x.toModel.unpack q := by
  obtain ⟨b, hb, hq⟩ := Option.map_eq_some_iff.1 h
  refine ⟨b, ?_, (Binary.canonical_of_ofFloat? hb).1, hq⟩
  rw [← Binary.ofFloat?_eq_ofUnpacked?, hb]

theorem value?_eq_none {x : Float} (h : value? x = none) :
    Binary.ofUnpacked? x.toModel.unpack = none := by
  rw [← Binary.ofFloat?_eq_ofUnpacked?]
  exact Option.map_eq_none_iff.1 h

theorem representable_of_value? {x : Float} {q : ℚ} (h : value? x = some q) : Representable q :=
  (isValue_unpack h).representable

theorem abs_lt_overflow_of_value? {x : Float} {q : ℚ} (h : value? x = some q) : |q| < overflow := by
  obtain ⟨b, hb, hq⟩ := Option.map_eq_some_iff.1 h
  obtain ⟨hcanonical, hle⟩ := Binary.canonical_of_ofFloat? hb
  rw [← hq]
  exact hcanonical.abs_value_lt_overflow_iff.2 hle

theorem isFinite_iff (x : Float) : x.isFinite = true ↔ ∃ q, value? x = some q := by
  show x.toModel.unpack.isFinite = true ↔ _
  rw [value?, Binary.ofFloat?_eq_ofUnpacked?]
  cases x.toModel.unpack <;> simp [UnpackedFloat.isFinite, Binary.ofUnpacked?]

/-- Packing keeps the value, unless it is too large. -/
theorem value?_pack {u : UnpackedFloat} {q : ℚ} (h : IsValue u q) :
    value? (.ofModel (.pack u)) = limited q := by
  obtain ⟨b, hu, hb, rfl⟩ := h
  rw [value?, Binary.ofFloat?_pack hu hb, limited]
  by_cases h : b.exponent ≤ 971
  · rw [if_pos h, if_pos (hb.abs_value_lt_overflow_iff.2 h)]
    rfl
  · rw [if_neg h, if_neg (fun hlt => h (hb.abs_value_lt_overflow_iff.1 hlt))]
    rfl

theorem value?_pack_of_none {u : UnpackedFloat} (hu : Binary.ofUnpacked? u = none) :
    value? (.ofModel (.pack u)) = none := by
  rw [value?, Binary.ofFloat?_pack_of_none hu]
  rfl

end Number
end QuizBank

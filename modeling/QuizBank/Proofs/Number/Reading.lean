import QuizBank.Number.Reader
import QuizBank.Proofs.Json.Numerals
import QuizBank.Text.Classes

/-!
# Numerals are read as the nearest double

A numeral is read part by part, and the double that comes out is the one nearest to what its digits
stand for (`ReadsNearest`). So are the three layouts in which numbers are written: digits, digits with
a point, and digits with an exponent.
-/

namespace QuizBank

open Json (IsDigits IsFraction IsExponent isDigits_toDigits isDigits_zero)

/-! ### Literals -/

namespace Literal

variable {whole fraction exponent s : List Char}

/-- Digits, a fraction and an exponent are read part by part. -/
theorem read_numeral (hwhole : IsDigits whole) (hfraction : IsFraction fraction)
    (hexponent : ∀ c ∈ exponent.head?, c.isDigit = false ∧ c ≠ '.') {e : ℤ}
    (he : readExponent exponent = some e) :
    read (whole ++ (fraction ++ exponent)) = some ⟨whole, fraction.tail, e⟩ := by
  have hhead' : ∀ c ∈ exponent.head?, c.isDigit = false := fun c hc => (hexponent c hc).1
  have hhead : ∀ c ∈ (fraction ++ exponent).head?, c.isDigit = false := by
    cases hfraction with
    | none => exact hhead'
    | digits => simp
  have hnonempty : whole.isEmpty = false := List.isEmpty_eq_false_iff.2 hwhole.ne_nil
  unfold read
  simp only [takeWhile_append_of_stop hwhole.isDigit hhead,
    dropWhile_append_of_stop hwhole.isDigit hhead, hnonempty, Bool.false_and,
    Bool.false_eq_true, if_false]
  cases hfraction with
  | none =>
    have hpoint : ∀ r, exponent ≠ '.' :: r := by
      rintro r rfl
      exact (hexponent '.' rfl).2 rfl
    rw [List.nil_append]
    split
    · next r => exact absurd rfl (hpoint r)
    · simp [he]
  | @digits s hs =>
    simp [takeWhile_append_of_stop hs.isDigit hhead',
      dropWhile_append_of_stop hs.isDigit hhead', he]

theorem readExponent_signed (n : ℤ) :
    readExponent ('e' :: ((if n < 0 then ['-'] else ['+']) ++ Nat.toDigits 10 n.natAbs)) =
      some n := by
  have hdigits := isDigits_toDigits n.natAbs
  have hnonempty : (Nat.toDigits 10 n.natAbs).isEmpty = false :=
    List.isEmpty_eq_false_iff.2 hdigits.ne_nil
  have hall : (Nat.toDigits 10 n.natAbs).all Char.isDigit = true :=
    List.all_eq_true.2 hdigits.isDigit
  by_cases hn : n < 0
  · rw [if_pos hn]
    simp [readExponent, hnonempty, hall, abs_of_neg hn]
  · rw [if_neg hn]
    simp [readExponent, hnonempty, hall, abs_of_nonneg (not_lt.1 hn)]

end Literal

namespace Number

/-! ### Texts that are read as the nearest double -/

/-- The text begins with a digit and holds no blank, and it is read as the double nearest to the
number. -/
structure ReadsNearest (s : List Char) (q : ℚ) : Prop where
  head : ∃ c r, s = c :: r ∧ c.isDigit = true
  notBlank : ∀ c ∈ s, Text.isBlank c = false
  read : ∃ x, readUnsigned s = some x ∧ value? x = limited (rounded q)

theorem toNat_of_isDigit {c : Char} (h : c.isDigit = true) : 48 ≤ c.toNat ∧ c.toNat ≤ 57 := by
  change (decide (48 ≤ c.val) && decide (c.val ≤ 57)) = true at h
  simp only [Bool.and_eq_true, decide_eq_true_eq, UInt32.le_iff_toNat_le] at h
  exact h

theorem isBlank_of_isDigit {c : Char} (h : c.isDigit = true) : Text.isBlank c = false := by
  have hc := toNat_of_isDigit h
  simp only [Text.isBlank, Bool.or_eq_false_iff, Bool.and_eq_false_iff, decide_eq_false_iff_not,
    beq_eq_false_iff_ne]
  omega

theorem readUnsigned_of_isDigit {c : Char} (h : c.isDigit = true) (r : List Char) :
    readUnsigned (c :: r) = (Literal.read (c :: r)).map fun l => l.value.toFloat := by
  have hc := toNat_of_isDigit h
  have hlower : c.toLower = c := by
    rw [Char.toLower, dif_neg]
    simp only [UInt32.le_iff_toNat_le]
    change ¬ (65 ≤ c.toNat ∧ c.toNat ≤ 90)
    omega
  have hword : ∀ d : Char, 57 < d.toNat → c ≠ d := by
    rintro d hd rfl
    omega
  have hi := hword 'i' (by decide)
  have hn := hword 'n' (by decide)
  simp [readUnsigned, hlower, hi, hn]

theorem read_of_isDigit {c : Char} (h : c.isDigit = true) (r : List Char) :
    read (c :: r) = readUnsigned (c :: r) := by
  rw [read]
  · rintro t ht
    cases ht
    cases h
  · rintro t ht
    cases ht
    cases h

/-- The value of a numeral is that of its digits, moved by the exponent and the places behind the
point. -/
theorem readsNearest_numeral {whole fraction exponent : List Char} (hwhole : IsDigits whole)
    (hfraction : IsFraction fraction) (hexponent : IsExponent exponent) {e : ℤ}
    (he : Literal.readExponent exponent = some e) :
    ReadsNearest (whole ++ (fraction ++ exponent))
      (Nat.ofDigitChars 10 (whole ++ fraction.tail) 0 * 10 ^ (e - fraction.tail.length)) := by
  obtain ⟨c, r, rfl, hc⟩ := hwhole.exists_cons
  refine ⟨⟨c, _, rfl, hc⟩, ?_, _, ?_,
    Decimal.value?_toFloat (Literal.value ⟨c :: r, fraction.tail, e⟩)⟩
  · have hdigits : ∀ {s}, IsDigits s → ∀ c ∈ s, Text.isBlank c = false :=
      fun hs c hc => isBlank_of_isDigit (hs.isDigit c hc)
    intro a ha
    rcases List.mem_append.1 ha with ha | ha
    · exact hdigits hwhole a ha
    rcases List.mem_append.1 ha with ha | ha
    · cases hfraction with
      | none => cases ha
      | digits hs =>
        rcases List.mem_cons.1 ha with rfl | ha
        · decide
        · exact hdigits hs a ha
    · cases hexponent with
      | none => cases ha
      | plain hs =>
        rcases List.mem_cons.1 ha with rfl | ha
        · decide
        · exact hdigits hs a ha
      | plus hs | minus hs =>
        rcases List.mem_cons.1 ha with rfl | ha
        · decide
        rcases List.mem_cons.1 ha with rfl | ha
        · decide
        · exact hdigits hs a ha
  · rw [List.cons_append, readUnsigned_of_isDigit hc, ← List.cons_append,
      Literal.read_numeral hwhole hfraction hexponent.head he]
    rfl

/-! ### Layouts -/

theorem readsNearest_toDigits (n : ℕ) : ReadsNearest (Nat.toDigits 10 n) n := by
  have h := readsNearest_numeral (isDigits_toDigits n) .none .none (e := 0) rfl
  simpa using h

theorem readsNearest_positional (d : Decimal) : ReadsNearest (positional d) d.value := by
  have hdigits := isDigits_toDigits d.digits
  unfold positional
  dsimp only
  split
  · next he =>
    -- Zeros fill up to the point.
    have hzeros : IsDigits (Nat.toDigits 10 d.digits ++ List.replicate d.exponent.toNat '0') :=
      hdigits.append fun _ => Json.isDigit_of_mem_zeros
    have h := readsNearest_numeral hzeros .none .none (e := 0) rfl
    have hvalue : ((d.digits * 10 ^ d.exponent.toNat : ℕ) : ℚ) = d.value := by
      rw [Decimal.value, Nat.cast_mul, Nat.cast_pow, ← zpow_natCast, Int.toNat_of_nonneg he]
      rfl
    simpa [Nat.ofDigitChars_append, mul_comm, hvalue] using h
  · next he =>
    split
    · next hwhole =>
      -- Zeros fill up from the point.
      have hzeros := Json.isDigits_zeros_append hdigits
        (-(((Nat.toDigits 10 d.digits).length : ℤ) + d.exponent)).toNat
      have h := readsNearest_numeral isDigits_zero (.digits hzeros) .none (e := 0) rfl
      have hplaces : (0 : ℤ) - ((List.replicate
          (-(((Nat.toDigits 10 d.digits).length : ℤ) + d.exponent)).toNat '0' ++
            Nat.toDigits 10 d.digits).length : ℕ) = d.exponent := by
        rw [List.length_append, List.length_replicate]
        omega
      rw [List.tail_cons, hplaces] at h
      simpa [Nat.ofDigitChars_append, Nat.ofDigitChars_cons, Decimal.value] using h
    · next hwhole =>
      -- The point is between the digits.
      generalize hn : (((Nat.toDigits 10 d.digits).length : ℤ) + d.exponent).toNat = n
      have hbefore : IsDigits ((Nat.toDigits 10 d.digits).take n) :=
        ⟨by simp [hdigits.ne_nil]; omega, fun c hc => hdigits.isDigit c (List.mem_of_mem_take hc)⟩
      have hbehind : IsDigits ((Nat.toDigits 10 d.digits).drop n) :=
        ⟨by simp; omega, fun c hc => hdigits.isDigit c (List.mem_of_mem_drop hc)⟩
      have h := readsNearest_numeral hbefore (.digits hbehind) .none (e := 0) rfl
      have hplaces : (0 : ℤ) - (((Nat.toDigits 10 d.digits).drop n).length : ℕ) = d.exponent := by
        rw [List.length_drop]
        omega
      rw [List.tail_cons, hplaces, List.take_append_drop, Nat.ofDigitChars_ten_toDigits] at h
      simpa [Decimal.value] using h

theorem readsNearest_scientific (d : Decimal) : ReadsNearest (scientific true d) d.value := by
  have hdigits := isDigits_toDigits d.digits
  have hvalue := Nat.ofDigitChars_ten_toDigits (n := d.digits)
  unfold scientific
  dsimp only
  generalize he : ((Nat.toDigits 10 d.digits).length : ℤ) - 1 + d.exponent = e
  obtain ⟨c, r, hcons⟩ := List.exists_cons_of_ne_nil hdigits.ne_nil
  have hc : ∀ a ∈ c :: r, a.isDigit = true := hcons ▸ hdigits.isDigit
  rw [hcons] at hvalue
  change Nat.ofDigitChars 10 ([c] ++ r) 0 = d.digits at hvalue
  simp only [hcons, List.take_succ_cons, List.take_zero, List.drop_succ_cons, List.drop_zero,
    List.append_assoc, if_true]
  have hexponent := Literal.readExponent_signed e
  have hform : IsExponent
      ('e' :: ((if e < 0 then ['-'] else ['+']) ++ Nat.toDigits 10 e.natAbs)) := by
    split
    · exact .minus (isDigits_toDigits _)
    · exact .plus (isDigits_toDigits _)
  have hwhole : IsDigits [c] := ⟨by simp, by simpa using hc c List.mem_cons_self⟩
  have hplaces : e - (r.length : ℕ) = d.exponent := by
    rw [hcons, List.length_cons] at he
    omega
  split
  · next hshort =>
    obtain rfl : r = [] := List.length_eq_zero_iff.1 (by rw [List.length_cons] at hshort; omega)
    have h := readsNearest_numeral hwhole .none hform hexponent
    rwa [List.tail_nil, hplaces, hvalue] at h
  · next hlong =>
    have hfraction : IsDigits r := by
      refine ⟨?_, fun a ha => hc a (List.mem_cons_of_mem _ ha)⟩
      rintro rfl
      exact hlong le_rfl
    have h := readsNearest_numeral hwhole (.digits hfraction) hform hexponent
    rwa [List.tail_cons, hplaces, hvalue] at h

/-! ### The sign -/

theorem read_signed {s : List Char} {q : ℚ} (h : ReadsNearest s q) (hq : |rounded q| < overflow)
    (negative : Bool) : ∃ x, read (signed negative s) = some x ∧
      value? x = some (withSign negative (rounded q)) := by
  obtain ⟨y, hy, hvalue⟩ := h.read
  rw [limited_of_lt hq] at hvalue
  cases negative with
  | true =>
    refine ⟨y.neg, ?_, value?_neg hvalue⟩
    show (readUnsigned s).map Float.neg = _
    rw [hy, Option.map_some]
  | false =>
    refine ⟨y, ?_, hvalue⟩
    obtain ⟨c, r, rfl, hc⟩ := h.head
    exact (read_of_isDigit hc r).trans hy

end Number
end QuizBank

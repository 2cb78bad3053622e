import QuizBank.Expr.Eval
import QuizBank.Proofs.Item.Options
import QuizBank.Proofs.Number.Reading

/-!
# Displayed numbers read back

The text of a finite number is a sign and a magnitude in one of three layouts, and it is read as the
number (`read_display`). So the text of a number says which number it is, and options that are numbers
are told apart by their texts as they are by their values (`display_faithful`).
-/

namespace QuizBank

open Json (IsDigits isDigits_toDigits)

namespace Number

/-- Is there an exponent in the text of a number? -/
def HasExponent (s : List Char) : Prop := ∃ c ∈ s, c = 'e' ∨ c = 'E'

variable {x : Float} {b : Binary}

/-- The text of a number is a sign in front of its magnitude in one of the layouts. -/
theorem display_eq_signed (hx : Binary.ofFloat? x = some b) :
    ∃ negative s q, (display x).toList = signed negative s ∧ ReadsNearest s q ∧
      withSign negative (rounded q) = b.value := by
  have hvalue : value? x = some b.value := by rw [value?, hx, Option.map_some]
  have hdigits : withSign b.negative (rounded (digits .up x b).value) = b.value := by
    have h := Decimal.value?_shortest .up hx
    rw [Decimal.value?_toFloat] at h
    rw [digits, (abs_lt_of_limited h).2, Binary.withSign_abs_value]
  rw [display, hx]
  dsimp only
  split
  · next hzero =>
    refine ⟨false, _, _, rfl, readsNearest_toDigits 0, ?_⟩
    rw [Nat.cast_zero, rounded_zero, Binary.value, hzero, Nat.cast_zero, zero_mul, withSign_zero,
      withSign_zero]
  rw [String.toList_ofList]
  split
  · exact ⟨_, _, _, rfl, readsNearest_scientific _, hdigits⟩
  split
  · next hwhole =>
    refine ⟨_, _, _, rfl, readsNearest_toDigits b.whole, ?_⟩
    obtain ⟨n, hn⟩ := (Binary.isWhole_iff b).1 hwhole
    have hcast : (b.whole : ℚ) = |b.value| := by
      rw [Binary.whole_eq_natAbs hn, hn, Nat.cast_natAbs, Int.cast_abs]
    rw [hcast, rounded_of_representable (representable_of_value? (value?_abs hvalue)),
      Binary.withSign_abs_value]
  · exact ⟨_, _, _, rfl, readsNearest_positional _, hdigits⟩

theorem not_isBlank_of_mem_signed {s : List Char} (h : ∀ c ∈ s, Text.isBlank c = false)
    (negative : Bool) : ∀ c ∈ signed negative s, Text.isBlank c = false := by
  cases negative with
  | true =>
    intro c hc
    rcases List.mem_cons.1 hc with rfl | hc
    · decide
    · exact h c hc
  | false => exact h

/-- The text of a number holds no blank and is read as a double of the same value. -/
theorem read_display {q : ℚ} (hx : value? x = some q) :
    ∃ y, read (display x).toList = some y ∧ value? y = some q ∧
      ∀ c ∈ (display x).toList, Text.isBlank c = false := by
  obtain ⟨b, hb, rfl⟩ := Option.map_eq_some_iff.1 hx
  obtain ⟨negative, s, r, htext, hs, hr⟩ := display_eq_signed hb
  have hlt : |rounded r| < overflow := by
    rw [← abs_withSign negative, hr]
    exact abs_lt_overflow_of_value? hx
  obtain ⟨y, hy, hvalue⟩ := read_signed hs hlt negative
  rw [hr] at hvalue
  rw [htext]
  exact ⟨y, hy, hvalue, not_isBlank_of_mem_signed hs.notBlank negative⟩

/-- A text without blanks is not trimmed. -/
theorem trim_of_not_isBlank {s : List Char} (h : ∀ c ∈ s, Text.isBlank c = false) :
    Text.trim s = s := by
  have hdrop : ∀ {t : List Char}, (∀ c ∈ t, Text.isBlank c = false) →
      t.dropWhile Text.isBlank = t := by
    intro t ht
    rw [List.dropWhile_eq_self_iff]
    intro hpos
    simp [ht _ (List.getElem_mem hpos)]
  rw [Text.trim, hdrop h, hdrop fun c hc => h c (List.mem_reverse.1 hc), List.reverse_reverse]

theorem toNumber_text {s : String} {y : Float} (hblank : ∀ c ∈ s.toList, Text.isBlank c = false)
    (hread : read s.toList = some y) : (Value.text s).toNumber = .ok y := by
  have hne : s.toList.isEmpty = false := by
    rw [List.isEmpty_eq_false_iff]
    intro hnil
    rw [hnil] at hread
    cases hread
  rw [Value.toNumber, trim_of_not_isBlank hblank, hread]
  simp [hne]

/-! ### Which layout -/

theorem value?_zero : value? 0 = some 0 := by
  have hparts : Binary.ofFloat? 0 = some ⟨false, 0, -1074⟩ := by decide +kernel
  rw [value?, hparts, Option.map_some, Binary.value, Nat.cast_zero, zero_mul, withSign_zero]

/-- Where exponents begin at the upper end: a power of ten that is a double. -/
theorem value?_upperLimit : value? 1e21 = some (10 ^ 21) := by
  have hparts : Binary.ofFloat? 1e21 = some ⟨false, 7629394531250000, 17⟩ := by decide +kernel
  rw [value?, hparts, Option.map_some, Option.some_inj]
  show (7629394531250000 : ℕ) * (2 : ℚ) ^ (17 : ℤ) = 10 ^ 21
  norm_num

/-- Where exponents begin at the lower end: near a power of ten, and below every whole number. -/
theorem value?_lowerLimit : ∃ q < 1, value? 1e-6 = some q := by
  have hparts : Binary.ofFloat? 1e-6 = some ⟨false, 4722366482869645, -72⟩ := by decide +kernel
  refine ⟨(4722366482869645 : ℕ) * 2 ^ (-72 : ℤ), by norm_num, ?_⟩
  rw [value?, hparts, Option.map_some]
  rfl

theorem isDigit_or_point_of_mem_positional {d : Decimal} {c : Char} (h : c ∈ positional d) :
    c.isDigit = true ∨ c = '.' := by
  have hdigits := (isDigits_toDigits d.digits).isDigit
  unfold positional at h
  dsimp only at h
  split at h
  · rcases List.mem_append.1 h with h | h
    · exact .inl (hdigits c h)
    · exact .inl (Json.isDigit_of_mem_zeros h)
  split at h
  · rcases List.mem_cons.1 h with rfl | h
    · exact .inl rfl
    rcases List.mem_cons.1 h with rfl | h
    · exact .inr rfl
    rcases List.mem_append.1 h with h | h
    · exact .inl (Json.isDigit_of_mem_zeros h)
    · exact .inl (hdigits c h)
  · rcases List.mem_append.1 h with h | h
    · exact .inl (hdigits c (List.mem_of_mem_take h))
    rcases List.mem_cons.1 h with rfl | h
    · exact .inr rfl
    · exact .inl (hdigits c (List.mem_of_mem_drop h))

theorem hasExponent_signed_iff {s : List Char} (negative : Bool) :
    HasExponent (signed negative s) ↔ HasExponent s := by
  cases negative with
  | true => simp [HasExponent, signed]
  | false => rfl

theorem not_hasExponent {s : List Char} (h : ∀ c ∈ s, c.isDigit = true ∨ c = '.') :
    ¬HasExponent s := by
  rintro ⟨c, hc, rfl | rfl⟩ <;> rcases h _ hc with h | h <;> cases h

theorem hasExponent_scientific (d : Decimal) : HasExponent (scientific true d) := by
  refine ⟨'e', ?_, .inl rfl⟩
  unfold scientific
  simp

/-- Numbers far from 1 have an exponent, and no others. -/
theorem hasExponent_display_iff (hx : Binary.ofFloat? x = some b) :
    HasExponent (display x).toList ↔ b.mantissa ≠ 0 ∧ (1e21 ≤ x.abs ∨ x.abs < 1e-6) := by
  have hdigits : ∀ n, ¬HasExponent (Nat.toDigits 10 n) := fun n =>
    not_hasExponent fun c hc => .inl ((isDigits_toDigits n).isDigit c hc)
  have hlimits : (decide (x.abs ≥ 1e21) || decide (x.abs < 1e-6)) = true ↔
      1e21 ≤ x.abs ∨ x.abs < 1e-6 := by
    rw [Bool.or_eq_true, decide_eq_true_iff, decide_eq_true_iff]
  rw [display, hx]
  dsimp only
  split
  · next hzero => exact iff_of_false (hdigits 0) fun h => h.1 hzero
  next hm =>
  rw [String.toList_ofList, hasExponent_signed_iff]
  split
  · next h => exact iff_of_true (hasExponent_scientific _) ⟨hm, hlimits.1 h⟩
  next h =>
  have hinside : ¬(b.mantissa ≠ 0 ∧ (1e21 ≤ x.abs ∨ x.abs < 1e-6)) :=
    fun hfar => h (hlimits.2 hfar.2)
  split
  · exact iff_of_false (hdigits b.whole) hinside
  · exact iff_of_false (not_hasExponent fun c hc => isDigit_or_point_of_mem_positional hc) hinside

/-- A whole number below the limit is written out in full. -/
theorem display_of_whole {n : ℤ} (hx : value? x = some (n : ℚ)) (hlt : x.abs < 1e21) :
    (display x).toList = signed (decide (n < 0)) (Nat.toDigits 10 n.natAbs) := by
  obtain ⟨b, hb, hvalue⟩ := Option.map_eq_some_iff.1 hx
  have habs := value?_abs hx
  rw [display, hb]
  dsimp only
  split
  · next hzero =>
    have hn : n = 0 := by
      rw [Binary.value, hzero, Nat.cast_zero, zero_mul, withSign_zero] at hvalue
      exact_mod_cast hvalue.symm
    rw [hn]
    rfl
  next hm =>
  have hpos : 0 < (b.mantissa : ℚ) * 2 ^ b.exponent := mul_zpow_pos (Nat.pos_of_ne_zero hm) _
  have hn : n ≠ 0 := by
    rintro rfl
    have := Binary.abs_value b
    rw [hvalue, Int.cast_zero, abs_zero] at this
    exact hpos.ne this
  have hnear : ¬(decide (x.abs ≥ 1e21) || decide (x.abs < 1e-6)) = true := by
    rw [Bool.or_eq_true, decide_eq_true_iff, decide_eq_true_iff]
    rintro (hge | hsmall)
    · have h := (le_iff value?_upperLimit habs).1 hge
      exact absurd ((lt_iff habs value?_upperLimit).1 hlt) (not_lt.2 h)
    · obtain ⟨q, hq, hlow⟩ := value?_lowerLimit
      have h := (lt_iff habs hlow).1 hsmall
      have hone : (1 : ℚ) ≤ |(n : ℚ)| := by exact_mod_cast Int.one_le_abs hn
      linarith
  have hsign : b.negative = decide (n < 0) := by
    rw [← Bool.coe_iff_coe, decide_eq_true_iff, ← Int.cast_lt_zero (R := ℚ), ← hvalue, Binary.value]
    cases b.negative with
    | true => exact iff_of_true rfl (neg_lt_zero.2 hpos)
    | false => exact iff_of_false Bool.false_ne_true (not_lt.2 hpos.le)
  rw [String.toList_ofList, if_neg hnear, if_pos ((Binary.isWhole_iff b).2 ⟨n, hvalue⟩),
    Binary.whole_eq_natAbs hvalue, hsign]

/-! ### Texts and numbers -/

variable {y : Float}

theorem display_eq_zero {q : ℚ} (hx : value? x = some q) (hq : q = 0) : display x = "0" := by
  obtain ⟨b, hb, hvalue⟩ := Option.map_eq_some_iff.1 hx
  have hm : b.mantissa = 0 := by
    by_contra hm
    have habs := Binary.abs_value b
    rw [hvalue, hq, abs_zero] at habs
    exact (mul_zpow_pos (Nat.pos_of_ne_zero hm) b.exponent).ne habs
  rw [display, hb]
  exact if_pos hm

/-- Finite numbers have the same text exactly if they are equal. -/
theorem display_eq_iff (hx : x.isFinite = true) (hy : y.isFinite = true) :
    display x = display y ↔ (x == y) = true := by
  obtain ⟨p, hp⟩ := (isFinite_iff x).1 hx
  obtain ⟨q, hq⟩ := (isFinite_iff y).1 hy
  rw [beq_iff hp hq]
  constructor
  · intro heq
    obtain ⟨x', hread, hvalue, -⟩ := read_display hp
    obtain ⟨y', hread', hvalue', -⟩ := read_display hq
    rw [heq, hread', Option.some_inj] at hread
    rw [hread, hvalue, Option.some_inj] at hvalue'
    exact hvalue'
  · rintro rfl
    by_cases hzero : p = 0
    · rw [display_eq_zero hp hzero, display_eq_zero hq hzero]
    · rw [eq_of_value? hp hq hzero]

end Number

/-- A distractor that is a finite number is left out beside a finite answer exactly if it is equal to
the answer. -/
theorem Generation.distractors_cons_number {x y : Float} {raw : Value} {scope : Scope}
    (hx : x.isFinite = true) (hy : y.isFinite = true)
    (hraw : resolveOption raw scope = .ok (.number y)) (rest : List Value) :
    distractors (Value.number x).display scope (raw :: rest) =
      (distractors (Value.number x).display scope rest).map
        fun kept => if (y == x) = true then kept else .number y :: kept := by
  rw [distractors, hraw]
  dsimp only
  cases distractors (Value.number x).display scope rest with
  | error e => rfl
  | ok kept =>
    show Except.ok (if Number.display y = Number.display x then kept else .number y :: kept) = _
    simp only [Number.display_eq_iff hy hx]
    rfl

namespace Number

/-- **Texts of finite numbers are faithful.** The text of a finite number is read as an equal number,
alone and where an expression coerces it, and only a zero loses its sign. So two finite numbers have
the same text exactly if they are equal, and a numeric distractor is left out beside a numeric answer
exactly if it is equal to it. A whole number below `10 ^ 21` is its digits with a minus sign in front
if it is negative; the texts of the numbers from `10 ^ 21` on and of those below `10 ^ -6` other than
zero, and no others, have an exponent. -/
theorem display_faithful {x : Float} (hx : x.isFinite = true) :
    (∃ y, read (display x).toList = some y ∧ (Value.text (display x)).toNumber = .ok y ∧
      (y == x) = true ∧ ((x == 0) = false → y = x)) ∧
    (∀ y : Float, y.isFinite = true → (display x = display y ↔ (x == y) = true) ∧
      ∀ raw scope rest, Generation.resolveOption raw scope = .ok (.number y) →
        Generation.distractors (Value.number x).display scope (raw :: rest) =
          (Generation.distractors (Value.number x).display scope rest).map
            fun kept => if (y == x) = true then kept else .number y :: kept) ∧
    (∀ n : ℤ, value? x = some (n : ℚ) → x.abs < 1e21 → ∃ digits, IsDigits digits ∧
      Nat.ofDigitChars 10 digits 0 = n.natAbs ∧
      (display x).toList = signed (decide (n < 0)) digits) ∧
    (HasExponent (display x).toList ↔ 1e21 ≤ x.abs ∨ (0 < x.abs ∧ x.abs < 1e-6)) := by
  obtain ⟨q, hq⟩ := (isFinite_iff x).1 hx
  refine ⟨?_, ?_, ?_, ?_⟩
  · obtain ⟨y, hread, hvalue, hblank⟩ := read_display hq
    refine ⟨y, hread, toNumber_text hblank hread, (beq_iff hvalue hq).2 rfl, fun hzero => ?_⟩
    refine eq_of_value? hvalue hq fun heq => ?_
    rw [(beq_iff hq value?_zero).2 heq] at hzero
    cases hzero
  · intro y hy
    exact ⟨display_eq_iff hx hy, fun raw scope rest hraw =>
      Generation.distractors_cons_number hx hy hraw rest⟩
  · intro n hn hlt
    exact ⟨_, isDigits_toDigits n.natAbs, Nat.ofDigitChars_ten_toDigits, display_of_whole hn hlt⟩
  · obtain ⟨b, hb, rfl⟩ := Option.map_eq_some_iff.1 hq
    have habs := value?_abs hq
    have hpos : 0 < x.abs ↔ b.mantissa ≠ 0 := by
      rw [lt_iff value?_zero habs, Binary.abs_value]
      constructor
      · rintro hpos hzero
        rw [hzero, Nat.cast_zero, zero_mul] at hpos
        exact hpos.ne rfl
      · intro hm
        exact mul_zpow_pos (Nat.pos_of_ne_zero hm) _
    have hlarge : 1e21 ≤ x.abs → 0 < x.abs := by
      rw [le_iff value?_upperLimit habs, lt_iff value?_zero habs]
      exact (by norm_num : (0 : ℚ) < 10 ^ 21).trans_le
    rw [hasExponent_display_iff hb, ← hpos]
    constructor
    · rintro ⟨hpos, hlarge | hsmall⟩
      · exact .inl hlarge
      · exact .inr ⟨hpos, hsmall⟩
    · rintro (hl | ⟨hpos, hsmall⟩)
      · exact ⟨hlarge hl, .inl hl⟩
      · exact ⟨hpos, .inr hsmall⟩

theorem display_faithful_power :
    value? (-590295810358705651712) = some ((-590295810358705651712 : ℤ) : ℚ) ∧
      (∃ y, read (display (-590295810358705651712)).toList = some y ∧
        y = -590295810358705651712) ∧
      (display (-590295810358705651712) = display 1e-7 ↔
        ((-590295810358705651712 : Float) == 1e-7) = true) ∧
      Generation.distractors (Value.number (-590295810358705651712)).display .empty
        [.number 1e-7] = .ok [.number 1e-7] ∧
      (∃ digits, Nat.ofDigitChars 10 digits 0 = 590295810358705651712 ∧
        (display (-590295810358705651712)).toList = '-' :: digits) ∧
      ¬HasExponent (display (-590295810358705651712)).toList := by
  have hvalue : value? (-590295810358705651712) = some ((-590295810358705651712 : ℤ) : ℚ) := by
    have hparts : Binary.ofFloat? (-590295810358705651712) = some ⟨true, 2 ^ 52, 17⟩ := by
      decide +kernel
    rw [value?, hparts, Option.map_some, Option.some_inj]
    show -((2 ^ 52 : ℕ) * (2 : ℚ) ^ (17 : ℤ)) = _
    norm_num
  obtain ⟨⟨y, hread, -, -, hy⟩, hequal, hwhole, hexponent⟩ :=
    display_faithful ((isFinite_iff _).2 ⟨_, hvalue⟩)
  obtain ⟨hsame, hdistractors⟩ := hequal 1e-7 (by decide +kernel)
  obtain ⟨digits, -, hdigits, htext⟩ := hwhole _ hvalue (by decide +kernel)
  refine ⟨hvalue, ⟨y, hread, hy (by decide +kernel)⟩, hsame, ?_, ⟨digits, hdigits, htext⟩, ?_⟩
  · rw [hdistractors (.number 1e-7) .empty [] rfl]
    decide +kernel
  · rw [hexponent]
    decide +kernel

end Number
end QuizBank

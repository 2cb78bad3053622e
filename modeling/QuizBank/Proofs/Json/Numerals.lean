import QuizBank.Json.Printer
import QuizBank.Proofs.Json.Splicing
import QuizBank.Proofs.Number.Shortest

/-!
# The texts of numbers

A number is written as a numeral with its sign (`Number.chars_eq`), and the reader takes every
numeral to its end (`scalarPart_signed`). What it makes of the digits is the number's `reread`: the
number itself, a neighbour of it, or nothing if that is out of range. An infinity and NaN are
written, and read, as `null`.
-/

namespace QuizBank
namespace Json

/-! ### Numerals -/

/-- Digits, at least one. -/
structure IsDigits (s : List Char) : Prop where
  ne_nil : s ≠ []
  isDigit : ∀ c ∈ s, c.isDigit = true

/-- A fraction with its point, or nothing. -/
inductive IsFraction : List Char → Prop
  | none : IsFraction []
  | digits {s} : IsDigits s → IsFraction ('.' :: s)

/-- An exponent with its letter, or nothing. -/
inductive IsExponent : List Char → Prop
  | none : IsExponent []
  | plain {s} : IsDigits s → IsExponent ('e' :: s)
  | plus {s} : IsDigits s → IsExponent ('e' :: '+' :: s)
  | minus {s} : IsDigits s → IsExponent ('e' :: '-' :: s)

/-- The text of a number without its sign: digits with no zero in front of others, a fraction, an
exponent. -/
inductive IsNumeral : List Char → Prop
  | parts {whole fraction exponent} : IsDigits whole →
      (whole.head? = some '0' → whole.length = 1) → IsFraction fraction → IsExponent exponent →
      IsNumeral (whole ++ (fraction ++ exponent))

section Numerals

variable {s u : List Char}

theorem IsDigits.exists_cons (hs : IsDigits s) : ∃ c r, s = c :: r ∧ c.isDigit = true := by
  obtain ⟨c, r, rfl⟩ := List.exists_cons_of_ne_nil hs.ne_nil
  exact ⟨c, r, rfl, hs.isDigit c List.mem_cons_self⟩

theorem exponentOf_of_signAt {t : List Char} {negative : Bool} (hs : IsDigits s)
    (ht : signAt t = (negative, s)) : ∃ e, exponentOf t = some (e, []) := by
  have hdigits := takeWhile_append_of_stop hs.isDigit (t := []) (by simp)
  have hrest := dropWhile_append_of_stop hs.isDigit (t := []) (by simp)
  rw [List.append_nil] at hdigits hrest
  have hne : ¬s.isEmpty = true := by
    rw [List.isEmpty_iff]
    exact hs.ne_nil
  unfold exponentOf
  simp only [ht, hdigits, hrest, if_neg hne]
  exact ⟨_, rfl⟩

theorem signAt_digits (hs : IsDigits s) : signAt s = (false, s) := by
  obtain ⟨c, r, rfl, hc⟩ := hs.exists_cons
  rw [signAt]
  · rintro _ heq
    cases heq
    cases hc
  · rintro _ heq
    cases heq
    cases hc

theorem exponentAt_of_isExponent (h : IsExponent s) : ∃ e, exponentAt s = some (e, []) := by
  have hletter : ∀ {t}, (∃ e, exponentOf t = some (e, [])) →
      ∃ e, exponentAt ('e' :: t) = some (e, []) := by
    rintro t ⟨e, he⟩
    rw [exponentAt, if_pos (.inl rfl), he]
    exact ⟨_, rfl⟩
  cases h with
  | none => exact ⟨_, rfl⟩
  | plain hs => exact hletter (exponentOf_of_signAt hs (signAt_digits hs))
  | plus hs => exact hletter (exponentOf_of_signAt hs rfl)
  | minus hs => exact hletter (exponentOf_of_signAt hs rfl)

theorem IsExponent.head (h : IsExponent s) :
    ∀ c ∈ s.head?, c.isDigit = false ∧ c ≠ '.' := by
  cases h with
  | none => simp
  | plain | plus | minus => simp

theorem IsFraction.head_append (hs : IsFraction s) (hu : IsExponent u) :
    ∀ c ∈ (s ++ u).head?, c.isDigit = false := by
  cases hs with
  | none => exact fun c hc => (hu.head c hc).1
  | digits => simp

theorem fractionAt_of_isFraction (hs : IsFraction s) (hu : IsExponent u) :
    ∃ fraction, fractionAt (s ++ u) = (fraction, u) ∧ fraction ≠ some [] := by
  cases hs with
  | none =>
    refine ⟨none, fractionAt_of_ne ?_, by simp⟩
    rintro r rfl
    exact (hu.head '.' rfl).2 rfl
  | @digits s hs =>
    have hhead := fun c hc => (hu.head c hc).1
    refine ⟨some s, ?_, ?_⟩
    · rw [List.cons_append, fractionAt, takeWhile_append_of_stop hs.isDigit hhead,
        dropWhile_append_of_stop hs.isDigit hhead]
    · intro h
      exact hs.ne_nil (Option.some.inj h)

/-- Every numeral is read to its end. -/
theorem unsignedNumber_of_isNumeral (h : IsNumeral s) (negative : Bool) :
    ∃ whole fraction exponent,
      unsignedNumber negative s = some (numberOf negative whole fraction exponent, []) := by
  obtain @⟨whole, fraction, exponent, hwhole, hlead, hfraction, hexponent⟩ := h
  have hhead := hfraction.head_append hexponent
  obtain ⟨digits, hdigits, hne⟩ := fractionAt_of_isFraction hfraction hexponent
  obtain ⟨e, he⟩ := exponentAt_of_isExponent hexponent
  have hstart : ¬(whole.isEmpty || (whole.head? == some '0' && whole.length != 1)) = true := by
    rw [Bool.or_eq_true, Bool.and_eq_true, List.isEmpty_iff, beq_iff_eq, bne_iff_ne]
    rintro (hnil | ⟨hzero, hlong⟩)
    · exact hwhole.ne_nil hnil
    · exact hlong (hlead hzero)
  refine ⟨whole, digits, e, ?_⟩
  unfold unsignedNumber
  simp only [takeWhile_append_of_stop hwhole.isDigit hhead,
    dropWhile_append_of_stop hwhole.isDigit hhead, hdigits, he, if_neg hstart]
  rw [if_neg]
  · rfl
  · rw [beq_iff_eq]
    exact hne

theorem IsNumeral.head (h : IsNumeral s) : ∃ c r, s = c :: r ∧ c.isDigit = true := by
  obtain @⟨whole, fraction, exponent, hwhole, -, -, -⟩ := h
  obtain ⟨c, r, rfl, hc⟩ := hwhole.exists_cons
  exact ⟨c, r ++ (fraction ++ exponent), rfl, hc⟩

theorem scalarPart_signed (h : IsNumeral s) (negative : Bool) :
    ∃ whole fraction exponent, scalarPart (QuizBank.Number.signed negative s) =
      some (numberOf negative whole fraction exponent, []) := by
  cases negative with
  | true =>
    rw [QuizBank.Number.signed, if_pos rfl, scalarPart_number (.inl rfl)]
    exact unsignedNumber_of_isNumeral h true
  | false =>
    obtain ⟨c, r, rfl, hc⟩ := h.head
    have hminus : c ≠ '-' := by
      rintro rfl
      cases hc
    rw [QuizBank.Number.signed, if_neg Bool.false_ne_true, scalarPart_number (.inr hc),
      numberAt_of_ne hminus]
    exact unsignedNumber_of_isNumeral h false

end Numerals

/-! ### The texts of numbers -/

theorem isDigits_toDigits (n : Nat) : IsDigits (Nat.toDigits 10 n) where
  ne_nil := Nat.toDigits_ne_nil
  isDigit := fun _ => Nat.isDigit_of_mem_toDigits (by decide) (by decide)

/-- Only the number zero begins with the digit zero. -/
theorem head_toDigits_ne {n : Nat} (hn : n ≠ 0) : (Nat.toDigits 10 n).head? ≠ some '0' := by
  induction n using Nat.strongRecOn with
  | ind n ih =>
    rw [Nat.toDigits_eq_if (by decide)]
    split
    · next hlt =>
      have hsmall : ∀ k < 10, k ≠ 0 → [Nat.digitChar k].head? ≠ some '0' := by decide
      exact hsmall n hlt hn
    · next hlt =>
      rw [List.head?_append_of_ne_nil _ Nat.toDigits_ne_nil]
      exact ih (n / 10) (by omega) (by omega)

theorem isNumeral_toDigits (n : Nat) : IsNumeral (Nat.toDigits 10 n) := by
  have h : IsNumeral (Nat.toDigits 10 n ++ ([] ++ [])) := by
    refine .parts (isDigits_toDigits n) ?_ .none .none
    intro hzero
    by_cases hn : n = 0
    · rw [hn]
      rfl
    · exact absurd hzero (head_toDigits_ne hn)
  rwa [List.append_nil, List.append_nil] at h

theorem IsDigits.append {s t : List Char} (hs : IsDigits s) (ht : ∀ c ∈ t, c.isDigit = true) :
    IsDigits (s ++ t) where
  ne_nil := by simp [hs.ne_nil]
  isDigit := by
    intro c hc
    exact (List.mem_append.1 hc).elim (hs.isDigit c) (ht c)

theorem isDigit_of_mem_zeros {n : Nat} {c : Char} (hc : c ∈ List.replicate n '0') :
    c.isDigit = true := by
  rw [List.eq_of_mem_replicate hc]
  rfl

theorem isDigits_zeros_append {s : List Char} (hs : IsDigits s) (n : Nat) :
    IsDigits (List.replicate n '0' ++ s) where
  ne_nil := by simp [hs.ne_nil]
  isDigit := by
    intro c hc
    exact (List.mem_append.1 hc).elim isDigit_of_mem_zeros (hs.isDigit c)

theorem isDigits_zero : IsDigits ['0'] where
  ne_nil := List.cons_ne_nil _ _
  isDigit := by simp

section Layout

open QuizBank.Number

variable {d : Decimal}

/-- A decimal without places behind the point is written with a zero there. -/
theorem isNumeral_positional_whole (hd : d.digits ≠ 0) (he : 0 ≤ d.exponent) :
    IsNumeral (positional d ++ ['.', '0']) := by
  have hdigits := isDigits_toDigits d.digits
  have h := IsNumeral.parts (hdigits.append fun _ => isDigit_of_mem_zeros (n := d.exponent.toNat))
    ?_ (.digits isDigits_zero) .none
  · rwa [List.append_nil, ← if_pos (t := Nat.toDigits 10 d.digits ++ _) he] at h
  · rw [List.head?_append_of_ne_nil _ hdigits.ne_nil]
    intro hzero
    exact absurd hzero (head_toDigits_ne hd)

/-- A decimal with places behind the point is a numeral as it stands. -/
theorem isNumeral_positional (he : d.exponent < 0) : IsNumeral (positional d) := by
  have hdigits := isDigits_toDigits d.digits
  unfold positional
  dsimp only
  rw [if_neg (by omega)]
  split
  · next hwhole =>
    have h := IsNumeral.parts isDigits_zero (fun _ => rfl)
      (.digits (isDigits_zeros_append hdigits
        (-(((Nat.toDigits 10 d.digits).length : Int) + d.exponent)).toNat)) .none
    rwa [List.append_nil] at h
  · next hwhole =>
    have hnonzero : d.digits ≠ 0 := by
      intro hzero
      rw [hzero] at hwhole
      have hone : (Nat.toDigits 10 0).length = 1 := rfl
      omega
    generalize hn : (((Nat.toDigits 10 d.digits).length : Int) + d.exponent).toNat = n
    have hpos : 0 < n := by omega
    have hlt : n < (Nat.toDigits 10 d.digits).length := by omega
    have hbefore : IsDigits ((Nat.toDigits 10 d.digits).take n) :=
      ⟨by simp [hdigits.ne_nil, hpos.ne'], fun c hc => hdigits.isDigit c (List.mem_of_mem_take hc)⟩
    have hbehind : IsDigits ((Nat.toDigits 10 d.digits).drop n) :=
      ⟨by simp [hlt], fun c hc => hdigits.isDigit c (List.mem_of_mem_drop hc)⟩
    have h := IsNumeral.parts hbefore ?_ (.digits hbehind) .none
    · rwa [List.append_nil] at h
    · rw [List.head?_take, if_neg hpos.ne']
      intro hzero
      exact absurd hzero (head_toDigits_ne hnonzero)

theorem isNumeral_scientific (plusSign : Bool) (d : Decimal) :
    IsNumeral (scientific plusSign d) := by
  have hdigits := isDigits_toDigits d.digits
  obtain ⟨c, r, hcons⟩ := List.exists_cons_of_ne_nil hdigits.ne_nil
  have hc : ∀ a ∈ c :: r, a.isDigit = true := hcons ▸ hdigits.isDigit
  unfold scientific
  simp only [hcons, List.take_succ_cons, List.take_zero, List.drop_succ_cons, List.drop_zero,
    List.append_assoc]
  have hwhole : IsDigits [c] := ⟨by simp, by simpa using hc c (List.mem_cons_self ..)⟩
  refine .parts hwhole (fun _ => rfl) ?_ ?_
  · split
    · exact .none
    · next hlong =>
      refine .digits ⟨?_, fun a ha => hc a (List.mem_cons_of_mem _ ha)⟩
      rintro rfl
      exact hlong le_rfl
  · have hexponent := isDigits_toDigits
      ((((c :: r).length : Int) - 1 + d.exponent).natAbs)
    split_ifs
    · exact .minus hexponent
    · exact .plus hexponent
    · exact .plain hexponent

/-- A finite double is written as a numeral with its sign. -/
theorem json_eq_signed {x : Float} {b : Binary} (hx : Binary.ofFloat? x = some b) :
    ∃ s, IsNumeral s ∧ (QuizBank.Number.json x).toList = signed b.negative s := by
  unfold QuizBank.Number.json
  simp only [hx, String.toList_ofList]
  split_ifs with hzero hplace hwhole
  · exact ⟨['0', '.', '0'], .parts isDigits_zero (fun _ => rfl) (.digits isDigits_zero) .none, rfl⟩
  · exact ⟨_, isNumeral_scientific true _, rfl⟩
  · exact ⟨_, isNumeral_positional_whole (Decimal.shortest_digits_ne_zero hx hzero) hwhole, rfl⟩
  · exact ⟨_, isNumeral_positional (not_le.1 hwhole), rfl⟩

theorem json_of_not_finite {x : Float} (hx : Binary.ofFloat? x = none) :
    QuizBank.Number.json x = "null" := by
  rw [QuizBank.Number.json, hx]

end Layout

/-- The number has a form in JSON: it is no infinity and not NaN. -/
def Number.IsWritable (n : Number) : Prop := ∀ x, n = .float x → x.isFinite = true

theorem Number.isWritable_natural (k : Nat) : (natural k).IsWritable := fun _ h => by cases h

theorem Number.isWritable_negative (k : Nat) : (negative k).IsWritable := fun _ h => by cases h

theorem Number.isWritable_float_iff {x : Float} : (float x).IsWritable ↔ x.isFinite = true := by
  constructor
  · intro h
    exact h x rfl
  · rintro h y hy
    cases hy
    exact h

/-- A number is written as a numeral with its sign, unless it has no form in JSON. -/
theorem Number.chars_eq (n : Number) :
    (n.IsWritable ∧ ∃ negative s, IsNumeral s ∧ n.chars = QuizBank.Number.signed negative s) ∨
      (¬n.IsWritable ∧ n.chars = "null".toList) := by
  cases n with
  | natural k => exact .inl ⟨isWritable_natural k, false, _, isNumeral_toDigits k, rfl⟩
  | negative k => exact .inl ⟨isWritable_negative k, true, _, isNumeral_toDigits k, rfl⟩
  | float x =>
    have hiff := isWritable_float_iff.trans (QuizBank.Number.isFinite_iff x)
    cases hx : Binary.ofFloat? x with
    | none =>
      refine .inr ⟨?_, congrArg String.toList (json_of_not_finite hx)⟩
      rw [hiff, QuizBank.Number.value?, hx]
      simp
    | some b =>
      refine .inl ⟨hiff.2 ⟨b.value, by rw [QuizBank.Number.value?, hx, Option.map_some]⟩, ?_⟩
      obtain ⟨s, hs, htext⟩ := json_eq_signed hx
      exact ⟨b.negative, s, hs, htext⟩

/-- The text of a number is read to its end: as a number or as nothing that has a value, and as `null`
only if the number has no form in JSON. -/
theorem exists_scalarPart_chars (n : Number) :
    ∃ j, scalarPart n.chars = some (j, []) ∧
      ((n.IsWritable ∧ ((∃ m, j = number m) ∨ j = unrepresentable)) ∨
        (¬n.IsWritable ∧ j = null)) := by
  rcases n.chars_eq with ⟨hwritable, negative, s, hs, hchars⟩ | ⟨hwritable, hchars⟩
  · obtain ⟨whole, fraction, exponent, hpart⟩ := scalarPart_signed hs negative
    rw [hchars]
    exact ⟨_, hpart, .inl ⟨hwritable, numberOf_cases negative whole fraction exponent⟩⟩
  · rw [hchars]
    exact ⟨null, scalarPart_null [], .inr ⟨hwritable, rfl⟩⟩

/-- What the text of a number is read as. -/
def Number.reread (n : Number) : Json := ((scalarPart n.chars).map Prod.fst).getD null

theorem scalarPart_chars (n : Number) : scalarPart n.chars = some (n.reread, []) := by
  obtain ⟨j, hj, -⟩ := exists_scalarPart_chars n
  rw [Number.reread, hj]
  rfl

theorem Number.reread_cases (n : Number) :
    (n.IsWritable ∧ ((∃ m, n.reread = number m) ∨ n.reread = unrepresentable)) ∨
      (¬n.IsWritable ∧ n.reread = null) := by
  obtain ⟨j, hj, hcases⟩ := exists_scalarPart_chars n
  have hreread : n.reread = j := by
    rw [Number.reread, hj]
    rfl
  rwa [hreread]

end Json
end QuizBank

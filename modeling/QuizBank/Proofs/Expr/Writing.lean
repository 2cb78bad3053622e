import QuizBank.Proofs.Expr.Blanks
import QuizBank.Proofs.Expr.SourceSafety

/-!
# Written tokens

`Token.Spells` says how a token is written: a symbol and a name as they are, a text as a literal in
either quotes, a number as a numeral. A token that is written by itself is read back
(`Spells.scan_eq`), and blanks part it from what follows (`scan_append_blanks`). So a list of tokens
that is written with blanks in between is read back token by token (`ofText_of_written`).
-/

namespace QuizBank
namespace Token

open Json (IsDigits IsFraction)
open Number (limited rounded value?)

/-! ### Spellings -/

/-- The text is an exponent, which is this number: a mark in either case, perhaps a sign, and
digits; or nothing. -/
inductive ExponentIs : List Char → ℤ → Prop
  | none : ExponentIs [] 0
  | plain {mark s} : mark = 'e' ∨ mark = 'E' → IsDigits s →
      ExponentIs (mark :: s) (Nat.ofDigitChars 10 s 0)
  | plus {mark s} : mark = 'e' ∨ mark = 'E' → IsDigits s →
      ExponentIs (mark :: '+' :: s) (Nat.ofDigitChars 10 s 0)
  | minus {mark s} : mark = 'e' ∨ mark = 'E' → IsDigits s →
      ExponentIs (mark :: '-' :: s) (-Nat.ofDigitChars 10 s 0)

/-- The text is a numeral, which stands for this number: digits, perhaps a fraction, perhaps an
exponent. -/
inductive NumeralIs : List Char → ℚ → Prop
  | parts {whole fraction exponent e} : IsDigits whole → IsFraction fraction →
      ExponentIs exponent e →
      NumeralIs (whole ++ (fraction ++ exponent))
        (Nat.ofDigitChars 10 (whole ++ fraction.tail) 0 * 10 ^ (e - fraction.tail.length))

/-- The token can be written as the text. -/
inductive Spells : Token → List Char → Prop
  | symbol (s : Symbol) : Spells (symbol s) s.text.toList
  | name {name : String} : isName name.toList = true → Spells (ident name) name.toList
  | text {quote : Char} (t : String) : quote = '"' ∨ quote = apostrophe →
      Spells (text t) (literal quote t).toList
  | number {s q x} : NumeralIs s q → Number.read s = some x → Spells (number x) s

/-- The tokens are written one after the other, each with blanks behind it: at least one, if another
token follows. -/
inductive Written : List Token → List Char → Prop
  | nil : Written [] []
  | cons {token tokens s gap rest} : Spells token s → (∀ c ∈ gap, Text.isBlank c = true) →
      (tokens ≠ [] → gap ≠ []) → Written tokens rest →
      Written (token :: tokens) (s ++ (gap ++ rest))

/-! ### Numerals -/

section Numerals

variable {s exponent : List Char} {e : ℤ} {q : ℚ}

theorem ExponentIs.head (h : ExponentIs exponent e) :
    ∀ c ∈ exponent.head?, isNumberChar c = false := by
  cases h with
  | none => simp
  | plain hmark | plus hmark | minus hmark =>
    rintro _ ⟨⟩
    obtain rfl | rfl := hmark <;> decide

theorem signPart_digits (hs : IsDigits s) : signPart s = ([], s) := by
  obtain ⟨d, rest, rfl, hd⟩ := hs.exists_cons
  rw [signPart]
  · rintro _ heq
    cases heq
    cases hd
  · rintro _ heq
    cases heq
    cases hd

/-- The scanner takes a whole exponent. -/
theorem ExponentIs.exponentPart_eq (h : ExponentIs exponent e) :
    exponentPart exponent = (exponent, []) := by
  -- All that matters are the digits behind the sign.
  have hdigits : ∀ (sign : List Char) {mark digits}, mark = 'e' ∨ mark = 'E' →
      IsDigits digits → signPart (sign ++ digits) = (sign, digits) →
      exponentPart (mark :: (sign ++ digits)) = (mark :: (sign ++ digits), []) := by
    intro sign mark digits hmark hdigits hsign
    have hhead : ((digits.head?.map Char.isDigit).getD false) = true := by
      obtain ⟨d, rest, rfl, hd⟩ := hdigits.exists_cons
      exact hd
    simp only [exponentPart, if_pos hmark, hsign, hhead, if_true,
      List.takeWhile_eq_self_iff.2 hdigits.isDigit, List.dropWhile_eq_nil_iff.2 hdigits.isDigit]
  cases h with
  | none => rfl
  | plain hmark hs => exact hdigits [] hmark hs (signPart_digits hs)
  | plus hmark hs => exact hdigits ['+'] hmark hs rfl
  | minus hmark hs => exact hdigits ['-'] hmark hs rfl

theorem ExponentIs.readExponent_eq (h : ExponentIs exponent e) :
    Literal.readExponent exponent = some e := by
  have hread : ∀ {s : List Char}, IsDigits s → s.isEmpty = false ∧ s.all Char.isDigit = true :=
    fun hs => ⟨List.isEmpty_eq_false_iff.2 hs.ne_nil, List.all_eq_true.2 hs.isDigit⟩
  cases h with
  | none => rfl
  | plain hmark hs =>
    obtain ⟨d, rest, rfl, hd⟩ := hs.exists_cons
    have hminus : d ≠ '-' := by
      rintro rfl
      cases hd
    have hplus : d ≠ '+' := by
      rintro rfl
      cases hd
    simp [Literal.readExponent, hmark, hminus, hplus, hread hs]
  | plus hmark hs => simp [Literal.readExponent, hmark, hread hs]
  | minus hmark hs => simp [Literal.readExponent, hmark, hread hs]

theorem isNumberChar_of_isDigits {s : List Char} (h : IsDigits s) :
    ∀ c ∈ s, isNumberChar c = true := by
  intro c hc
  rw [isNumberChar, h.isDigit c hc, Bool.true_or]

theorem isNumberChar_of_isFraction {s : List Char} (h : IsFraction s) :
    ∀ c ∈ s, isNumberChar c = true := by
  cases h with
  | none => simp
  | digits hs => exact List.forall_mem_cons.2 ⟨rfl, isNumberChar_of_isDigits hs⟩

/-- The scanner takes a whole numeral. -/
theorem NumeralIs.numberPart_eq (h : NumeralIs s q) : numberPart s = (s, []) := by
  obtain @⟨whole, fraction, exponent, e, hwhole, hfraction, hexponent⟩ := h
  have hbody : ∀ c ∈ whole ++ fraction, isNumberChar c = true :=
    List.forall_mem_append.2 ⟨isNumberChar_of_isDigits hwhole, isNumberChar_of_isFraction hfraction⟩
  rw [← List.append_assoc]
  simp only [numberPart, takeWhile_append_of_cut fun _ => hexponent.head,
    dropWhile_append_of_cut fun _ => hexponent.head, List.takeWhile_eq_self_iff.2 hbody,
    List.dropWhile_eq_nil_iff.2 hbody, List.nil_append, hexponent.exponentPart_eq]

theorem NumeralIs.head (h : NumeralIs s q) : ∃ c r, s = c :: r ∧ c.isDigit = true := by
  obtain @⟨whole, fraction, exponent, e, hwhole, -, -⟩ := h
  obtain ⟨c, r, rfl, hc⟩ := hwhole.exists_cons
  exact ⟨c, r ++ (fraction ++ exponent), rfl, hc⟩

/-- A numeral is read as the double nearest to the number that it stands for. -/
theorem NumeralIs.exists_read (h : NumeralIs s q) :
    ∃ x, Number.read s = some x ∧ value? x = limited (rounded q) := by
  obtain ⟨c, r, hs, hc⟩ := h.head
  obtain @⟨whole, fraction, exponent, e, hwhole, hfraction, hexponent⟩ := h
  have hhead : ∀ c ∈ exponent.head?, c.isDigit = false ∧ c ≠ '.' := by
    intro c hc
    simpa [isNumberChar] using hexponent.head c hc
  refine ⟨_, ?_, Decimal.value?_toFloat (Literal.value ⟨whole, fraction.tail, e⟩)⟩
  rw [hs, Number.read_of_isDigit hc, Number.readUnsigned_of_isDigit hc, ← hs,
    Literal.read_numeral hwhole hfraction hhead hexponent.readExponent_eq]
  rfl

end Numerals

/-! ### One token -/

theorem isDigit_of_startsName {c : Char} (h : startsName c = true) :
    c.isDigit = false ∧ c ≠ '.' := by
  refine ⟨?_, ?_⟩
  · rw [Bool.eq_false_iff]
    intro hdigit
    have hc := Number.toNat_of_isDigit hdigit
    simp only [startsName, Text.isLetter, Bool.or_eq_true, beq_iff_eq] at h
    rw [if_pos (by omega)] at h
    obtain (hletter | rfl) | rfl := h
    · have hother := toNat_of_isKeywordChar (c := c) (by rw [isKeywordChar, hletter, Bool.true_or])
      omega
    · cases hdigit
    · cases hdigit
  · rintro rfl
    exact absurd h (by decide)

/-- A token that is written by itself is read as this token. -/
theorem Spells.scan_eq {token : Token} {s : List Char} (h : Spells token s) : scan s = [token] := by
  cases h with
  | symbol s =>
    rw [← scan_nil]
    cases s <;> exact scan_of_symbolPart (by decide) (by decide) (by decide) (by decide) rfl
  | @name name hname =>
    cases hchars : name.toList with
    | nil =>
      rw [hchars] at hname
      cases hname
    | cons c rest =>
      rw [hchars, isName, Bool.and_eq_true, List.all_eq_true] at hname
      obtain ⟨hstart, hrest⟩ := hname
      have hblank := isBlank_of_isNameChar (isNameChar_of_startsName hstart)
      obtain ⟨hdigit, hpoint⟩ := isDigit_of_startsName hstart
      have hnumber : ¬startsNumber c rest = true := by simp [startsNumber, hdigit, hpoint]
      rw [scan_of_startsName (by simp [hblank]) hnumber hstart,
        List.takeWhile_eq_self_iff.2 hrest, List.dropWhile_eq_nil_iff.2 hrest, scan_nil, ← hchars,
        String.ofList_toList]
  | text t hquote => exact ofText_literal hquote t
  | number hs hread =>
    obtain ⟨c, r, rfl, hc⟩ := hs.head
    have hblank : ¬Text.isBlank c = true := by simp [Number.isBlank_of_isDigit hc]
    have hnumber : startsNumber c r = true := by rw [startsNumber, hc, Bool.true_or]
    rw [scan_of_startsNumber hblank hnumber, hs.numberPart_eq, scan_nil, ofNumberPart]
    simp only [hread]

/-- No spelling leaves a text literal open. -/
theorem Spells.closed {token : Token} {s : List Char} (h : Spells token s) :
    invalid .unterminatedText ∉ scan s := by
  rw [h.scan_eq, List.mem_singleton]
  intro heq
  subst heq
  cases h

/-! ### A list of tokens -/

theorem Written.scan_eq {tokens : List Token} {s : List Char} (h : Written tokens s) :
    scan s = tokens := by
  induction h with
  | nil => exact scan_nil
  | @cons token tokens s gap rest hs hgap hsep hrest ih =>
    by_cases hne : gap = []
    · -- Only the last token has nothing behind it.
      have htokens : tokens = [] := by_contra fun htokens => hsep htokens hne
      subst hne htokens
      cases hrest
      rw [List.append_nil, List.append_nil, hs.scan_eq]
    · rw [scan_append_blanks hs.closed hne hgap, hs.scan_eq, ih, List.singleton_append]

/-- **Tokens are read back from how they are written.** Every numeral is read, as the double nearest
to the number that it stands for; and from symbols, names, texts in quotes and numerals with blanks
between them the scanner makes these tokens and no others. -/
theorem ofText_of_written :
    (∀ {s q}, NumeralIs s q → ∃ x, Number.read s = some x ∧ value? x = limited (rounded q)) ∧
      ∀ {tokens : List Token} {source : String}, Written tokens source.toList →
        ofText source = tokens :=
  ⟨fun h => h.exists_read, fun h => h.scan_eq⟩

/-- The spellings stand behind each other with blanks of several kinds. -/
theorem ofText_of_written_mixed :
    ∃ x, NumeralIs "2.5E-3".toList (25 * 10 ^ (-4 : ℤ)) ∧
      value? x = limited (rounded (25 * 10 ^ (-4 : ℤ))) ∧
      Written [ident "x_1", symbol .starStar, text "it's", number x, symbol .notEqEq]
        "x_1 **\t\n'it\\'s' 2.5E-3 !==".toList ∧
      ofText "x_1 **\t\n'it\\'s' 2.5E-3 !==" =
        [ident "x_1", symbol .starStar, text "it's", number x, symbol .notEqEq] := by
  have hdigit : ∀ {d : Char}, d.isDigit = true → IsDigits [d] :=
    fun hd => ⟨List.cons_ne_nil _ _, List.forall_mem_singleton.2 hd⟩
  have hnumeral : NumeralIs "2.5E-3".toList (25 * 10 ^ (-4 : ℤ)) :=
    .parts (hdigit (d := '2') rfl) (.digits (hdigit (d := '5') rfl))
      (.minus (.inr rfl) (hdigit (d := '3') rfl))
  obtain ⟨x, hread, hvalue⟩ := ofText_of_written.1 hnumeral
  have hblank : ∀ {b : Char}, Text.isBlank b = true → ∀ c ∈ [b], Text.isBlank c = true :=
    fun hb => List.forall_mem_singleton.2 hb
  have hlast : Written [symbol .notEqEq] "!==".toList :=
    @Written.cons _ _ _ [] _ (.symbol .notEqEq) (List.forall_mem_nil _) (fun h => absurd rfl h) .nil
  have hwritten : Written [ident "x_1", symbol .starStar, text "it's", number x, symbol .notEqEq]
      "x_1 **\t\n'it\\'s' 2.5E-3 !==".toList :=
    .cons (@Spells.name "x_1" rfl) (hblank (b := ' ') rfl) (fun _ => List.cons_ne_nil _ _) <|
    .cons (.symbol .starStar) (List.forall_mem_cons.2 ⟨rfl, hblank (b := '\n') rfl⟩)
      (fun _ => List.cons_ne_nil '\t' _) <|
    .cons (@Spells.text apostrophe "it's" (.inr rfl)) (hblank (b := ' ') rfl)
      (fun _ => List.cons_ne_nil _ _) <|
    .cons (.number hnumeral hread) (hblank (b := ' ') rfl) (fun _ => List.cons_ne_nil _ _) hlast
  exact ⟨x, hnumeral, hvalue, hwritten, ofText_of_written.2 hwritten⟩

end Token
end QuizBank

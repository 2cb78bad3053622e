import Mathlib
import QuizBank.Expr.Expression
import QuizBank.Proofs.Expr.Parsing
import QuizBank.Proofs.Expr.Scanning

/-!
# The safety check and the source text

The safety check looks at tokens; what it promises is about the text. A forbidden character or a
denied name is a token of its own wherever it stands outside a text literal, because the text can be
cut in front of it; and what stands in a literal is no more than its content.
-/

namespace QuizBank
namespace Token

/-! ### Denied names are tokens -/

/-- Characters that denied names are written with, in any case. -/
def isKeywordChar (c : Char) : Bool := c.isAlpha || c == '_'

theorem isKeywordChar_of_toLower {c : Char} (h : isKeywordChar c.toLower = true) :
    isKeywordChar c = true := by
  unfold Char.toLower at h
  split at h
  · next hc =>
    have hupper : c.isUpper = true := by simpa [Char.isUpper] using hc
    rw [isKeywordChar, Char.isAlpha, hupper, Bool.true_or, Bool.true_or]
  · exact h

/-- Where the characters of denied names stand among all characters. -/
theorem toNat_of_isKeywordChar {c : Char} (h : isKeywordChar c = true) :
    (65 ≤ c.toNat ∧ c.toNat ≤ 90) ∨ (97 ≤ c.toNat ∧ c.toNat ≤ 122) ∨ c.toNat = 95 := by
  simp only [isKeywordChar, Char.isAlpha, Char.isUpper, Char.isLower, Bool.or_eq_true,
    Bool.and_eq_true, decide_eq_true_eq, beq_iff_eq, ge_iff_le, UInt32.le_iff_toNat_le] at h
  change (65 ≤ c.toNat ∧ c.toNat ≤ 90 ∨ 97 ≤ c.toNat ∧ c.toNat ≤ 122) ∨ c = '_' at h
  rcases h with (hupper | hlower) | rfl
  · exact .inl hupper
  · exact .inr (.inl hlower)
  · exact .inr (.inr rfl)

section KeywordChar

variable {c : Char} (h : isKeywordChar c = true)
include h

theorem isBlank_of_isKeywordChar : ¬Text.isBlank c = true := by
  have hc := toNat_of_isKeywordChar h
  simp only [Text.isBlank, Bool.or_eq_true, Bool.and_eq_true, decide_eq_true_eq, beq_iff_eq]
  omega

theorem startsName_of_isKeywordChar : startsName c = true := by
  have hc := toNat_of_isKeywordChar h
  rw [isKeywordChar, Bool.or_eq_true] at h
  rw [startsName, Text.isLetter, if_pos (by omega), Bool.or_eq_true, Bool.or_eq_true]
  exact .inl h

theorem isDigit_of_isKeywordChar : c.isDigit = false := by
  have hc := toNat_of_isKeywordChar h
  rw [Bool.eq_false_iff]
  intro hdigit
  simp only [Char.isDigit, Bool.and_eq_true, decide_eq_true_eq, ge_iff_le,
    UInt32.le_iff_toNat_le] at hdigit
  change 48 ≤ c.toNat ∧ c.toNat ≤ 57 at hdigit
  omega

theorem ne_of_isKeywordChar {d : Char} (hd : isKeywordChar d = false) : c ≠ d := by
  rintro rfl
  rw [h] at hd
  cases hd

theorem startsNumber_of_isKeywordChar (rest : List Char) : ¬startsNumber c rest = true := by
  have hpoint : c ≠ '.' := ne_of_isKeywordChar h (by decide)
  simp [startsNumber, isDigit_of_isKeywordChar h, hpoint]

theorem continues_of_isKeywordChar : continues c = false := by
  have hpoint : c ≠ '.' := ne_of_isKeywordChar h (by decide)
  have hsymbol : c ∉ ['+', '-', '*', '=', '>', '&', '|'] := by
    have hothers : ['+', '-', '*', '=', '>', '&', '|'].all (!isKeywordChar ·) = true := by decide
    intro hmem
    have := List.all_eq_true.1 hothers c hmem
    rw [h] at this
    cases this
  simp only [continues, isNumberChar, isDigit_of_isKeywordChar h, beq_eq_false_iff_ne.2 hpoint,
    Bool.or_false, List.contains_eq_mem, decide_eq_false hsymbol]

end KeywordChar

/-- A denied name is written with its own characters alone, of which it has at least two. -/
theorem isKeywordChar_of_isDenied {w : String} (h : isDenied w = true) :
    2 ≤ w.toList.length ∧ ∀ c ∈ w.toList, isKeywordChar c = true := by
  obtain ⟨denied, hmem, heq⟩ := List.any_eq_true.1 h
  have hdenied : ∀ d ∈ deniedNames,
      2 ≤ (d.toList.map Char.toLower).length ∧
        (d.toList.map Char.toLower).all isKeywordChar = true := by
    decide
  obtain ⟨hlength, hchars⟩ := hdenied denied hmem
  have hlower : denied.toList.map Char.toLower = w.toList.map Char.toLower := beq_iff_eq.1 heq
  rw [hlower] at hlength hchars
  refine ⟨by simpa using hlength, fun c hc => ?_⟩
  exact isKeywordChar_of_toLower (List.all_eq_true.1 hchars _ (List.mem_map_of_mem hc))

/-- No number goes on with an exponent in a denied name: a letter or an underscore stands where the
exponent has its sign or its digits. -/
theorem exponentPart_of_isKeywordChar {c d : Char} (hd : isKeywordChar d = true)
    (rest : List Char) : exponentPart (c :: d :: rest) = ([], c :: d :: rest) := by
  have hsign : signPart (d :: rest) = ([], d :: rest) := by
    unfold signPart
    split
    · next h => exact absurd (List.cons.inj h).1 (ne_of_isKeywordChar hd (by decide))
    · next h => exact absurd (List.cons.inj h).1 (ne_of_isKeywordChar hd (by decide))
    · rfl
  simp [exponentPart, hsign, isDigit_of_isKeywordChar hd]

section Denied

variable {s w q : List Char} (hlength : 2 ≤ w.length) (hw : ∀ c ∈ w, isKeywordChar c = true)
include hlength hw

theorem cut_of_isKeywordChar (hs : ∀ c ∈ s.getLast?, isNameChar c = false) :
    Cut s (w ++ q) := by
  match w, hlength with
  | c :: d :: w, _ =>
    have hc : isKeywordChar c = true := hw c (by simp)
    have hd : isKeywordChar d = true := hw d (by simp)
    refine ⟨?_, ?_, exponentPart_of_isKeywordChar hd _⟩
    · rintro _ ⟨⟩
      exact continues_of_isKeywordChar hc
    · intro e he hname
      rw [hs e (List.singleton_suffix_iff_getLast?_eq_some.1 he)] at hname
      cases hname

theorem scan_of_isKeywordChar (hq : ∀ c ∈ q.head?, isNameChar c = false) :
    scan (w ++ q) = ident (String.ofList w) :: scan q := by
  match w, hlength with
  | c :: w, _ =>
    have hc : isKeywordChar c = true := hw c (by simp)
    have hall : ∀ d ∈ w, isNameChar d = true := fun d hd =>
      isNameChar_of_startsName (startsName_of_isKeywordChar (hw d (List.mem_cons_of_mem c hd)))
    rw [List.cons_append, scan_of_startsName (isBlank_of_isKeywordChar hc)
      (startsNumber_of_isKeywordChar hc _) (startsName_of_isKeywordChar hc),
      takeWhile_append_of_cut fun _ => hq, dropWhile_append_of_cut fun _ => hq,
      List.takeWhile_eq_self_iff.2 hall, List.dropWhile_eq_nil_iff.2 hall, List.nil_append]

end Denied

/-! ### Forbidden characters are tokens -/

/-- The braces, the brackets and the semicolon. -/
def forbiddenChars : List Char := ['\x7b', '\x7d', '[', ']', ';']

section Forbidden

variable {c : Char} (hc : c ∈ forbiddenChars)
include hc

/-- A forbidden character goes on with no other token. -/
theorem not_continues_of_forbidden :
    continues c = false ∧ isNameChar c = false ∧ ¬(c = 'e' ∨ c = 'E') := by
  simp only [forbiddenChars, List.mem_cons, List.not_mem_nil, or_false] at hc
  rcases hc with rfl | rfl | rfl | rfl | rfl <;> decide

/-- A forbidden character begins nothing but a symbol. -/
theorem not_starts_of_forbidden :
    ¬Text.isBlank c = true ∧ (c.isDigit = false ∧ (c == '.') = false) ∧ ¬startsName c = true ∧
      ¬(c = '"' ∨ c = apostrophe) := by
  simp only [forbiddenChars, List.mem_cons, List.not_mem_nil, or_false] at hc
  rcases hc with rfl | rfl | rfl | rfl | rfl <;> decide

theorem cut_of_forbidden (s q : List Char) : Cut s (c :: q) := by
  obtain ⟨hcontinues, hname, hexponent⟩ := not_continues_of_forbidden hc
  refine ⟨?_, ?_, ?_⟩
  · rintro _ ⟨⟩
    exact hcontinues
  · rintro _ _ _ _ ⟨⟩
    exact hname
  · rw [exponentPart, if_neg hexponent]

theorem symbolPart_of_forbidden (q : List Char) :
    ∃ s fault, symbolPart c q = some (s, q) ∧ (symbol s).safetyFault? = some fault := by
  simp only [forbiddenChars, List.mem_cons, List.not_mem_nil, or_false] at hc
  rcases hc with rfl | rfl | rfl | rfl | rfl
  · exact ⟨.lbrace, .braces, rfl, rfl⟩
  · exact ⟨.rbrace, .braces, rfl, rfl⟩
  · exact ⟨.lbracket, .brackets, rfl, rfl⟩
  · exact ⟨.rbracket, .brackets, rfl, rfl⟩
  · exact ⟨.semicolon, .separator, rfl, rfl⟩

/-- A forbidden character is a token by itself, and a fault. -/
theorem scan_of_forbidden (q : List Char) :
    ∃ s fault, scan (c :: q) = symbol s :: scan q ∧ (symbol s).safetyFault? = some fault := by
  obtain ⟨s, fault, hs, hfault⟩ := symbolPart_of_forbidden hc q
  obtain ⟨hblank, ⟨hdigit, hpoint⟩, hname, hquote⟩ := not_starts_of_forbidden hc
  have hnumber : ¬startsNumber c q = true := by simp [startsNumber, hdigit, hpoint]
  exact ⟨s, fault, scan_of_symbolPart hblank hnumber hname hquote hs, hfault⟩

end Forbidden

/-! ### Literals are text -/

/-- The characters of a text in a literal: a backslash stands before the quote and before every
backslash. -/
def escaped (quote : Char) (s : List Char) : List Char :=
  s.flatMap fun c => if c = quote ∨ c = '\\' then ['\\', c] else [c]

/-- A text written as a literal. -/
def literal (quote : Char) (t : String) : String :=
  String.ofList (quote :: (escaped quote t.toList ++ [quote]))

section Literal

variable {quote : Char} (hquote : quote = '"' ∨ quote = apostrophe)
include hquote

theorem textPart_escaped (s rest : List Char) :
    textPart quote (escaped quote s ++ quote :: rest) = some (s, rest) := by
  induction s with
  | nil => exact textPart_quote
  | cons c s ih =>
    have hback : '\\' ≠ quote := by rcases hquote with rfl | rfl <;> decide
    have hself : unescape quote = quote := by rcases hquote with rfl | rfl <;> decide
    rw [escaped, List.flatMap_cons, List.append_assoc, ← escaped]
    by_cases hc : c = quote ∨ c = '\\'
    · have hunescape : unescape c = c := by
        rcases hc with rfl | rfl
        · exact hself
        · decide
      rw [if_pos hc]
      have := textPart_backslash (e := c) hback ih
      rwa [hunescape] at this
    · rw [if_neg hc]
      exact textPart_other (fun h => hc (.inl h)) (fun h => hc (.inr h)) ih

/-- A literal is one token, its text. -/
theorem ofText_literal (t : String) : ofText (literal quote t) = [text t] := by
  have hblank : ¬Text.isBlank quote = true := by rcases hquote with rfl | rfl <;> decide
  have hname : ¬startsName quote = true := by rcases hquote with rfl | rfl <;> decide
  have hnumber : ∀ rest, ¬startsNumber quote rest = true := by
    intro rest
    rcases hquote with rfl | rfl <;> simp [startsNumber, apostrophe]
  rw [ofText, literal, String.toList_ofList,
    scan_of_textPart hblank (hnumber _) hname hquote (textPart_escaped hquote _ []), scan_nil,
    String.ofList_toList]

end Literal

end Token

open Token

/-- The text is refused as unsafe, whatever is in scope. -/
def IsUnsafe (source : String) : Prop :=
  ∃ fault : SafetyFault, ∀ scope,
    evaluate source scope = .error (.unsafeExpression source fault.message)

theorem isUnsafe_of_mem {source : String} {token : Token} {fault : SafetyFault}
    (hmem : token ∈ ofText source) (hfault : token.safetyFault? = some fault) :
    IsUnsafe source := by
  cases hfound : safetyFault? (ofText source) with
  | none =>
    have hnone := List.findSome?_eq_none_iff.1 hfound token hmem
    rw [hfault] at hnone
    cases hnone
  | some first =>
    -- The first fault is reported, which may be one before this token.
    refine ⟨first, fun scope => ?_⟩
    simp only [evaluate, Expression.compile, hfound]

theorem derives_text (t : String) : Grammar.Derives .expr [text t] (.literal (.text t)) := by
  refine .ofOr (.ofOperand (l := .or) ?_)
  refine .ofOperand (l := .and) (.ofOperand (l := .equality) ?_)
  refine .ofOperand (l := .comparison) (.ofOperand (l := .additive) ?_)
  exact .ofOperand (l := .multiplicative) (.ofUnary (.ofPrimary .text))

/-- A literal has its text as its value. -/
theorem evaluate_literal {quote : Char} (hquote : quote = '"' ∨ quote = apostrophe) (t : String)
    (scope : Scope) : evaluate (literal quote t) scope = .ok (.text t) := by
  have hsafe : safetyFault? [text t] = none := rfl
  have htree := Grammar.ofTokens_eq_ok_iff.2 (derives_text t)
  simp only [evaluate, Expression.compile, ofText_literal hquote, hsafe, htree, Expression.eval,
    Expr.eval, Expression.requireFinite]

/-- **Safety of the source text.** Behind a text that leaves no literal open, a forbidden character
is refused wherever it stands, and so is a denied name, in any case of its letters, that is not part
of a longer name; malformed numbers, stray characters and open literals elsewhere do not hide them.
A text in a literal is never refused: the literal has it as its value. -/
theorem evaluate_source_safety :
    (∀ p q : String, invalid .unterminatedText ∉ ofText p →
      (∀ c ∈ forbiddenChars, IsUnsafe (p ++ String.singleton c ++ q)) ∧
      (∀ w, isDenied w = true → (∀ c ∈ p.toList.getLast?, isNameChar c = false) →
        (∀ c ∈ q.toList.head?, isNameChar c = false) → IsUnsafe (p ++ w ++ q))) ∧
    ∀ (quote : Char) (t : String) (scope : Scope), quote = '"' ∨ quote = apostrophe →
      evaluate (literal quote t) scope = .ok (.text t) := by
  refine ⟨fun p q hp => ⟨fun c hc => ?_, fun w hw hpw hwq => ?_⟩, ?_⟩
  · -- The cut is in front of the character, which is a token and a fault.
    obtain ⟨s, fault, hscan, hfault⟩ := scan_of_forbidden hc q.toList
    have htokens : ofText (p ++ String.singleton c ++ q) =
        ofText p ++ symbol s :: scan q.toList := by
      have hcut : Cut p.toList (c :: q.toList) := cut_of_forbidden hc _ _
      have := scan_append hcut hp
      rw [hscan] at this
      simpa [ofText] using this
    refine isUnsafe_of_mem ?_ hfault
    rw [htokens]
    exact List.mem_append_right _ List.mem_cons_self
  · -- The cut is in front of the name, which ends where `q` begins.
    obtain ⟨hlength, hchars⟩ := isKeywordChar_of_isDenied hw
    have hfault : (ident w).safetyFault? = some (.identifier w) := by
      simp [Token.safetyFault?, hw]
    have htokens : ofText (p ++ w ++ q) = ofText p ++ ident w :: scan q.toList := by
      have hcut : Cut p.toList (w.toList ++ q.toList) := cut_of_isKeywordChar hlength hchars hpw
      have := scan_append hcut hp
      rw [scan_of_isKeywordChar hlength hchars hwq, String.ofList_toList] at this
      simpa [ofText] using this
    refine isUnsafe_of_mem ?_ hfault
    rw [htokens]
    exact List.mem_append_right _ List.mem_cons_self
  · exact fun quote t scope hquote => evaluate_literal hquote t scope

/-- A denied name is refused between a malformed number and a literal that is left open, and a brace
is none inside a literal. -/
theorem evaluate_source_safety_examples :
    IsUnsafe "1.2.3 # \x7d'" ∧ IsUnsafe "1.2.3 # EvAl('" ∧
      evaluate "'it\\'s \x7b'" .empty = .ok (.text "it's \x7b") := by
  obtain ⟨hrefused, htext⟩ := evaluate_source_safety
  have hopen : invalid .unterminatedText ∉ ofText "1.2.3 # " := by decide +kernel
  have hlast : ∀ c ∈ "1.2.3 # ".toList.getLast?, isNameChar c = false := by
    rintro _ ⟨⟩
    decide
  have hfirst : ∀ c ∈ "('".toList.head?, isNameChar c = false := by
    rintro _ ⟨⟩
    decide
  refine ⟨?_, ?_, htext apostrophe "it's \x7b" .empty (.inr rfl)⟩
  · exact (hrefused "1.2.3 # " "'" hopen).1 '\x7d' (by decide)
  · exact (hrefused "1.2.3 # " "('" hopen).2 "EvAl" (by decide) hlast hfirst

end QuizBank

import QuizBank.Proofs.Expr.Names
import QuizBank.Proofs.Number.Reading

/-!
# Texts with blanks between them

A blank goes on with no token, so a text can be cut in front of every blank (`cut_of_isBlank`). The
scanner therefore reads two texts with blanks between them one after the other
(`ofText_append_blanks`), unless the first leaves a text literal open, which goes on through blanks.
Such a literal takes all that is left, so its token is the last if there is one
(`getLast?_of_unterminatedText_mem`); no other token ends the scan.
-/

namespace QuizBank
namespace Token

/-! ### A blank is a cut -/

theorem continues_of_isBlank {c : Char} (h : Text.isBlank c = true) : continues c = false := by
  rw [Bool.eq_false_iff]
  intro hcontinues
  rw [continues, Bool.or_eq_true, isNumberChar, Bool.or_eq_true, beq_iff_eq, List.contains_iff_mem]
    at hcontinues
  have hothers : ('.' :: ['+', '-', '*', '=', '>', '&', '|']).all (!Text.isBlank ·) = true := by
    decide
  have hblank : ∀ d ∈ '.' :: ['+', '-', '*', '=', '>', '&', '|'], d ≠ c := by
    rintro d hd rfl
    have := List.all_eq_true.1 hothers d hd
    rw [h] at this
    cases this
  obtain (hdigit | hpoint) | hsymbol := hcontinues
  · rw [Number.isBlank_of_isDigit hdigit] at h
    cases h
  · exact hblank '.' List.mem_cons_self hpoint.symm
  · exact hblank c (List.mem_cons_of_mem _ hsymbol) rfl

/-- A blank goes on with no token. -/
theorem cut_of_isBlank {b : Char} (h : Text.isBlank b = true) (s t : List Char) :
    Cut s (b :: t) := by
  refine ⟨?_, ?_, ?_⟩
  · rintro _ ⟨⟩
    exact continues_of_isBlank h
  · rintro _ _ _ _ ⟨⟩
    rw [Bool.eq_false_iff]
    intro hname
    rw [isBlank_of_isNameChar hname] at h
    cases h
  · rw [exponentPart, if_neg]
    rintro (rfl | rfl) <;> exact absurd h (by decide)

theorem scan_blanks {gap : List Char} (h : ∀ c ∈ gap, Text.isBlank c = true) (s : List Char) :
    scan (gap ++ s) = scan s := by
  induction gap with
  | nil => rfl
  | cons b gap ih =>
    obtain ⟨hb, hgap⟩ := List.forall_mem_cons.1 h
    rw [List.cons_append, scan_of_isBlank hb, ih hgap]

/-- Blanks part what stands in front of them from what stands behind them. -/
theorem scan_append_blanks {s gap : List Char} (hopen : invalid .unterminatedText ∉ scan s)
    (hne : gap ≠ []) (hgap : ∀ c ∈ gap, Text.isBlank c = true) (t : List Char) :
    scan (s ++ (gap ++ t)) = scan s ++ scan t := by
  cases gap with
  | nil => exact absurd rfl hne
  | cons b gap =>
    have hcut : Cut s (b :: gap ++ t) := cut_of_isBlank (hgap b List.mem_cons_self) s (gap ++ t)
    rw [scan_append hcut hopen, scan_blanks hgap]

/-! ### An open literal is the last token -/

/-- What is the last of a list whenever it occurs in it is still so behind another element. -/
theorem getLast?_cons_of_ne {α : Type} {a b : α} {l : List α} (hne : a ≠ b)
    (hlast : b ∈ l → l.getLast? = some b) (h : b ∈ a :: l) : (a :: l).getLast? = some b := by
  have hmem : b ∈ l := (List.mem_cons.1 h).resolve_left hne.symm
  rw [List.getLast?_cons, hlast hmem]
  rfl

/-- A literal that is left open is the last token. The cases are the branches of the scanner; it
goes on behind every token but this one. -/
theorem getLast?_of_unterminatedText_mem {s : List Char}
    (h : invalid .unterminatedText ∈ scan s) :
    (scan s).getLast? = some (invalid .unterminatedText) := by
  fun_induction scan s
  case case1 => cases h
  case case2 ih => exact ih h
  case case3 ih => exact getLast?_cons_of_ne (ofNumberPart_ne (by simp) (by simp) _) ih h
  case case4 ih | case5 ih | case7 ih | case8 ih => exact getLast?_cons_of_ne (by simp) ih h
  case case6 => rfl

/-! ### Two texts -/

/-- **Texts with blanks between them are scanned one by one.** Unless the first text ends in a
literal that is left open, the tokens of both are its tokens and then those of the second, whatever
malformed numbers and stray characters stand in it. -/
theorem ofText_append_blanks {s gap : String}
    (hopen : (ofText s).getLast? ≠ some (invalid .unterminatedText)) (hne : gap ≠ "")
    (hgap : ∀ c ∈ gap.toList, Text.isBlank c = true) (t : String) :
    ofText (s ++ gap ++ t) = ofText s ++ ofText t := by
  have hchars : (s ++ gap ++ t).toList = s.toList ++ (gap.toList ++ t.toList) := by
    rw [String.toList_append, String.toList_append, List.append_assoc]
  have hclosed : invalid .unterminatedText ∉ scan s.toList :=
    fun hmem => hopen (getLast?_of_unterminatedText_mem hmem)
  rw [ofText, hchars]
  exact scan_append_blanks hclosed (mt String.toList_eq_nil_iff.1 hne) hgap t.toList

/-- The first text ends in what could have begun an exponent, the second leaves a literal open. -/
theorem ofText_append_blanks_halves :
    ofText "1.2.3 # 1e" = [invalid (.malformedNumber "1.2.3"), invalid (.unexpectedCharacter '#'),
        number 1, ident "e"] ∧
      ofText "+5 'x" = [symbol .plus, number 5, invalid .unterminatedText] ∧
      ofText ("1.2.3 # 1e" ++ "\t\u3000" ++ "+5 'x") = ofText "1.2.3 # 1e" ++ ofText "+5 'x" := by
  have hfirst : ofText "1.2.3 # 1e" = [invalid (.malformedNumber "1.2.3"),
      invalid (.unexpectedCharacter '#'), number 1, ident "e"] := by
    decide +kernel
  have hopen : (ofText "1.2.3 # 1e").getLast? ≠ some (invalid .unterminatedText) := by
    rw [hfirst]
    decide
  have hgap : ∀ c ∈ "\t\u3000".toList, Text.isBlank c = true :=
    List.forall_mem_cons.2 ⟨by decide, List.forall_mem_singleton.2 (by decide)⟩
  exact ⟨hfirst, by decide +kernel, ofText_append_blanks hopen (by decide) hgap "+5 'x"⟩

/-- Through a literal that is left open the texts are read together. -/
example : ofText ("'a" ++ " " ++ "b'") = [text "a b"] := by decide +kernel

end Token
end QuizBank

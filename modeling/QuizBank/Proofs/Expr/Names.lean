import QuizBank.Proofs.Expr.Scanning

/-!
# Names in a source text

The names that the scanner reads are those that `Token.isName` accepts. None of their characters is
a blank or a brace.
-/

namespace QuizBank

/-! ### Letters, numbers and blanks -/

namespace Text

/-- The blanks that are not in ASCII. -/
def wideBlanks : List Nat :=
  [0x85, 0xa0, 0x1680, 0x2000, 0x2001, 0x2002, 0x2003, 0x2004, 0x2005, 0x2006, 0x2007, 0x2008,
    0x2009, 0x200a, 0x2028, 0x2029, 0x202f, 0x205f, 0x3000]

theorem toNat_of_isBlank {c : Char} (h : isBlank c = true) :
    (9 ≤ c.toNat ∧ c.toNat ≤ 13) ∨ c.toNat = 32 ∨ c.toNat ∈ wideBlanks := by
  simp only [isBlank, Bool.or_eq_true, Bool.and_eq_true, decide_eq_true_eq, beq_iff_eq] at h
  simp only [wideBlanks, List.mem_cons, List.not_mem_nil, or_false]
  omega

theorem toNat_of_isAlphanum {c : Char} (h : c.isAlphanum = true) :
    (48 ≤ c.toNat ∧ c.toNat ≤ 57) ∨ (65 ≤ c.toNat ∧ c.toNat ≤ 90) ∨
      (97 ≤ c.toNat ∧ c.toNat ≤ 122) := by
  change ((decide (65 ≤ c.val ∧ c.val ≤ 90) || decide (97 ≤ c.val) && decide (c.val ≤ 122)) ||
    decide (48 ≤ c.val) && decide (c.val ≤ 57)) = true at h
  simp only [Bool.or_eq_true, Bool.and_eq_true, decide_eq_true_eq, UInt32.le_iff_toNat_le] at h
  change ((65 ≤ c.toNat ∧ c.toNat ≤ 90) ∨ (97 ≤ c.toNat ∧ c.toNat ≤ 122)) ∨
    (48 ≤ c.toNat ∧ c.toNat ≤ 57) at h
  omega

/-- A blank is neither a letter nor a number. -/
theorem isLetterOrNumber_of_isBlank {c : Char} (h : isBlank c = true) :
    isLetterOrNumber c = false := by
  have hwide : ∀ n ∈ wideBlanks, 128 ≤ n ∧
      (Ranges.contain Ranges.alphabetic n || Ranges.contain Ranges.numeric n) = false := by
    decide +kernel
  have hcode := toNat_of_isBlank h
  unfold isLetterOrNumber
  split
  · next hascii =>
    rw [Bool.eq_false_iff]
    intro halnum
    have hother := toNat_of_isAlphanum halnum
    obtain hcode | hcode | hcode := hcode
    · omega
    · omega
    · have := (hwide _ hcode).1
      omega
  · next hascii =>
    obtain hcode | hcode | hcode := hcode
    · omega
    · omega
    · exact (hwide _ hcode).2

end Text

namespace Token

/-! ### Names -/

/-- Is the text a name of the expression language? -/
def isName : List Char → Bool
  | [] => false
  | c :: rest => startsName c && rest.all isNameChar

theorem isBlank_of_isNameChar {c : Char} (h : isNameChar c = true) : Text.isBlank c = false := by
  rw [Bool.eq_false_iff]
  intro hblank
  simp only [isNameChar, Text.isLetterOrNumber_of_isBlank hblank, Bool.false_or, Bool.or_eq_true,
    beq_iff_eq] at h
  obtain rfl | rfl := h <;> exact absurd hblank (by decide)

theorem isNameChar_of_isName {s : List Char} (h : isName s = true) :
    ∀ c ∈ s, isNameChar c = true := by
  cases s with
  | nil => nofun
  | cons c rest =>
    rw [isName, Bool.and_eq_true, List.all_eq_true] at h
    exact List.forall_mem_cons.2 ⟨isNameChar_of_startsName h.1, h.2⟩

theorem isName_takeWhile {c : Char} (h : startsName c = true) (rest : List Char) :
    isName (c :: rest.takeWhile isNameChar) = true := by
  rw [isName, h, Bool.true_and, List.all_takeWhile]

/-- The scanner reads no names but these. The cases are the branches of the scanner; in all but that
of names the token in front is of another kind. -/
theorem isName_of_mem_scan {s : List Char} {name : String} (h : ident name ∈ scan s) :
    isName name.toList = true := by
  fun_induction scan s with
  | case1 => cases h
  | case2 c rest hblank ih => exact ih h
  | case3 c rest hblank hnumber _ ih =>
    have hne : ofNumberPart (numberPart (c :: rest)).1 ≠ ident name :=
      ofNumberPart_ne (by simp) (by simp) _
    exact ih ((List.mem_cons.1 h).resolve_left hne.symm)
  | case4 c rest hblank hnumber hstart _ ih =>
    obtain heq | h := List.mem_cons.1 h
    · cases heq
      rw [String.toList_ofList]
      exact isName_takeWhile hstart rest
    · exact ih h
  | case5 c rest hblank hnumber hstart hquote content after htext _ ih =>
    exact ih ((List.mem_cons.1 h).resolve_left nofun)
  | case6 => cases List.mem_singleton.1 h
  | case7 c rest hblank hnumber hstart hquote s after hsymbol _ ih =>
    exact ih ((List.mem_cons.1 h).resolve_left nofun)
  | case8 c rest hblank hnumber hstart hquote hsymbol ih =>
    exact ih ((List.mem_cons.1 h).resolve_left nofun)

theorem isName_of_ofText {source name : String} (h : ofText source = [ident name]) :
    isName name.toList = true := by
  refine isName_of_mem_scan (s := source.toList) ?_
  rw [← ofText, h]
  exact List.mem_singleton_self _

end Token
end QuizBank

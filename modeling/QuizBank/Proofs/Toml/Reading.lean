import QuizBank.Proofs.Toml.Quoted
import QuizBank.Toml.Reader

/-!
# What the TOML readers find

For the readers of keys, values and statements there are lemmas that say what they find in front of
a text, without the proofs that their results carry: keys without quotes, values in double quotes,
headers and assignments. A text of statements is read statement by statement
(`statementsAt_eq_some_iff`).
-/

namespace QuizBank
namespace Toml

open Json (Finds finds_none finds_some finds_map_iff)

variable {s t u rest : List Char}

/-! ### Keys -/

/-- A key that needs no quotes. -/
def IsBareKey (key : List Char) : Prop := key ≠ [] ∧ key.all isKeyChar = true

instance : DecidablePred IsBareKey := fun key =>
  inferInstanceAs (Decidable (key ≠ [] ∧ key.all isKeyChar = true))

section Keys

variable {key : List Char} (hkey : IsBareKey key)
include hkey

theorem IsBareKey.exists_cons : ∃ c more, key = c :: more ∧ isKeyChar c = true := by
  obtain ⟨c, more, rfl⟩ := List.exists_cons_of_ne_nil hkey.1
  exact ⟨c, more, rfl, List.all_eq_true.1 hkey.2 c List.mem_cons_self⟩

theorem IsBareKey.head?_append_ne {c : Char} (hc : isKeyChar c = false) (s : List Char) :
    (key ++ s).head? ≠ some c := by
  obtain ⟨d, more, rfl, hd⟩ := hkey.exists_cons
  rintro ⟨⟩
  exact Bool.false_ne_true (hc.symm.trans hd)

theorem keyAt_finds (hrest : ∀ c ∈ rest.head?, isKeyChar c = false) :
    Finds (keyAt (key ++ rest)) (String.ofList key) rest := by
  have hall := List.all_eq_true.1 hkey.2
  have hquoted : quotedAt (key ++ rest) = none := by
    rw [quotedAt]
    · intro t ht
      exact hkey.head?_append_ne (c := '"') (by decide) rest (by rw [ht]; rfl)
    · intro t ht
      exact hkey.head?_append_ne (c := '\x27') (by decide) rest (by rw [ht]; rfl)
  have hdrop : (key ++ rest).dropWhile isKeyChar = rest := dropWhile_append_of_stop hall hrest
  have hlength : ((key ++ rest).dropWhile isKeyChar).length < (key ++ rest).length := by
    rw [hdrop, List.length_append]
    exact Nat.lt_add_of_pos_left (List.length_pos_iff.2 hkey.1)
  rw [keyAt, hquoted]
  dsimp only
  rw [dif_pos hlength]
  exact finds_some.2 ⟨congrArg String.ofList (takeWhile_append_of_stop hall hrest), hdrop⟩

/-- A single key is taken with the blanks behind it. -/
theorem pathAt_finds {c : Char} (hc : isKeyChar c = false)
    (hdot : (skipBlanks (c :: rest)).head? ≠ some '.') :
    Finds (pathAt (key ++ c :: rest)) ([], String.ofList key) (skipBlanks (c :: rest)) := by
  have hblanks : skipBlanks (key ++ c :: rest) = key ++ c :: rest := by
    obtain ⟨d, more, rfl, hd⟩ := hkey.exists_cons
    refine List.dropWhile_cons_of_neg ?_
    intro hblank
    obtain rfl | rfl : d = ' ' ∨ d = '\t' := by simpa using hblank
    all_goals cases hd
  have hfinds : Finds (keyAt (skipBlanks (key ++ c :: rest))) (String.ofList key) (c :: rest) := by
    rw [hblanks]
    refine keyAt_finds hkey ?_
    rintro _ ⟨⟩
    exact hc
  obtain ⟨f, hf, hvalue, hfrest⟩ := hfinds
  rw [pathAt, hf]
  dsimp only
  split
  · next u hu =>
    rw [hfrest] at hu
    exact absurd (congrArg List.head? hu) hdot
  · exact finds_some.2 ⟨congrArg (Prod.mk []) hvalue, congrArg skipBlanks hfrest⟩

end Keys

/-! ### Values -/

theorem ungroup_of_not_isDigitOf {base : Nat} {c : Char} (h : Text.isDigitOf base c = false)
    (s : List Char) : ungroup base (c :: s) = none := by
  rw [ungroup.eq_def]
  split <;> simp_all

theorem twoDigits_quote (c : Char) : twoDigits '"' c = none := by
  have hdigit : Text.isDigitOf 10 '"' = false := by decide
  simp [twoDigits, Text.natural?, hdigit]

theorem afterDate?_quote (s : List Char) : afterDate? ('"' :: s) = none := by
  rw [afterDate?.eq_def]
  split
  · next heq =>
    cases heq
    simp only [twoDigits_quote]
  · rfl

theorem afterTime?_quote (s : List Char) : afterTime? ('"' :: s) = none := by
  rw [afterTime?.eq_def]
  split
  · next heq =>
    cases heq
    simp only [twoDigits_quote]
  · rfl

theorem ofWord?_quote (s : List Char) : ofWord? ('"' :: s) = none := by
  have hdigit : Text.isDigitOf 10 '"' = false := by decide
  have hinteger : integer? ('"' :: s) = none := by
    simp [integer?, splitSign, wholeDigits, ungroup_of_not_isDigitOf hdigit]
  have hfloat : float? ('"' :: s) = none := by
    simp [float?, splitSign, wholeDigits, ungroup]
  have hmoment : isMoment ('"' :: s) = false := by
    simp [isMoment, afterDate?_quote, afterTime?_quote]
  simp [ofWord?, hinteger, hfloat, hmoment]

/-- No word starts with a quote. -/
theorem wordAt_quote (s : List Char) : wordAt ('"' :: s) = none := by
  have hword : ('"' :: s).takeWhile isWordChar = '"' :: s.takeWhile isWordChar :=
    List.takeWhile_cons_of_pos (by decide)
  simp only [wordAt, hword, afterDate?_quote, ofWord?_quote]
  simp

theorem valueAt_quote_finds_iff {room : Nat} {value : Toml} (h : skipBlanks s = '"' :: t) :
    Finds (valueAt room s) value rest ↔
      ∃ w, Finds (textAt ('"' :: t)) w rest ∧ value = text w := by
  rw [valueAt]
  split
  · next h' => cases h.symm.trans h'
  · next h' => cases h.symm.trans h'
  · have hword : wordAt (skipBlanks s) = none := by
      rw [h]
      exact wordAt_quote t
    rw [← h]
    cases textAt (skipBlanks s) with
    | none => simp [hword]
    | some f =>
      simp only [finds_some]
      constructor
      · rintro ⟨rfl, rfl⟩
        exact ⟨_, ⟨rfl, rfl⟩, rfl⟩
      · rintro ⟨_, ⟨rfl, rfl⟩, rfl⟩
        exact ⟨rfl, rfl⟩

/-! ### Statements -/

section Statements

variable {key : List Char} (hkey : IsBareKey key)
include hkey

/-- A header opens a table. -/
theorem statementAt_header_finds (rest : List Char) :
    Finds (statementAt ('[' :: (key ++ ']' :: rest))) (.table [] (String.ofList key)) rest := by
  obtain ⟨f, hf, hvalue, hrest⟩ : Finds (pathAt (key ++ ']' :: rest)) ([], String.ofList key)
      (']' :: rest) := pathAt_finds hkey (by decide) (by rintro ⟨⟩)
  rw [statementAt]
  · rw [hf]
    dsimp only
    split
    · next u hu =>
      cases hrest.symm.trans hu
      rw [hvalue]
      exact finds_some.2 ⟨rfl, rfl⟩
    · next hu => exact absurd hrest (hu rest)
  · intro t ht
    exact hkey.head?_append_ne (c := '[') (by decide) (']' :: rest) (by rw [ht]; rfl)

/-- A key with a text in double quotes behind it assigns the text. -/
theorem statementAt_quote_finds_iff {statement : Statement} :
    Finds (statementAt (key ++ ' ' :: '=' :: ' ' :: '"' :: s)) statement rest ↔
      ∃ w, Finds (textAt ('"' :: s)) w rest ∧
        statement = .assign [] (String.ofList key) (text w) := by
  obtain ⟨f, hf, hvalue, hrest⟩ : Finds (pathAt (key ++ ' ' :: '=' :: ' ' :: '"' :: s))
      ([], String.ofList key) ('=' :: ' ' :: '"' :: s) :=
    pathAt_finds hkey (by decide) (by rintro ⟨⟩)
  rw [statementAt]
  · rw [hf]
    dsimp only
    split
    · next u hu =>
      cases hrest.symm.trans hu
      rw [hvalue]
      refine (finds_map_iff (Statement.assign [] (String.ofList key)) _).trans ?_
      have hblank : skipBlanks (' ' :: '"' :: s) = '"' :: s := rfl
      simp only [valueAt_quote_finds_iff hblank]
      constructor
      · rintro ⟨_, ⟨w, hw, rfl⟩, rfl⟩
        exact ⟨w, hw, rfl⟩
      · rintro ⟨w, hw, rfl⟩
        exact ⟨_, ⟨w, hw, rfl⟩, rfl⟩
    · next hu => exact absurd hrest (hu _)
  · intro t ht
    exact hkey.head?_append_ne (c := '[') (by decide) _ (by rw [ht]; rfl)
  · intro t ht
    exact hkey.head?_append_ne (c := '[') (by decide) _ (by rw [ht]; rfl)

end Statements

/-- The first statement is read off, up to the end of its line, and then the others. -/
theorem statementsAt_eq_some_iff {c : Char} {statements : List Statement}
    (h : skipGap false s = some (c :: t)) :
    statementsAt s = some statements ↔
      ∃ statement behind next more, Finds (statementAt (c :: t)) statement behind ∧
        skipLineEnd false behind = some next ∧ statementsAt next = some more ∧
        statements = statement :: more := by
  rw [statementsAt]
  split
  · next h' => cases h.symm.trans h'
  · next h' => cases h.symm.trans h'
  · next h' =>
    cases h.symm.trans h'
    cases hs : statementAt (c :: t) with
    | none => simp
    | some f =>
      dsimp only
      split
      · next hend => simp [hend]
      · next u hend =>
        simp only [finds_some, Option.map_eq_some_iff]
        constructor
        · rintro ⟨more, hmore, rfl⟩
          exact ⟨_, _, u, more, ⟨rfl, rfl⟩, hend, hmore, rfl⟩
        · rintro ⟨_, _, next, more, ⟨rfl, rfl⟩, hnext, hmore, rfl⟩
          cases hend.symm.trans hnext
          exact ⟨more, hmore, rfl⟩

end Toml
end QuizBank

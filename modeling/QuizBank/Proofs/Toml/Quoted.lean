import QuizBank.Proofs.Json.Reading
import QuizBank.Toml.Quoted

/-!
# What stands between double quotes

A text is its own value between double quotes exactly if each of its characters stands for itself
there (`textAt_finds_self_iff`). An escape is longer than the character that it stands for, and
three quotes are not part of a value: so as soon as a reader takes anything but the characters
themselves, the value that it finds is shorter than what it has read.
-/

namespace QuizBank
namespace Toml

open Json (Finds finds_none finds_some finds_map_iff)

variable {s value rest : List Char}

/-- A character that stands for itself between double quotes. -/
def IsVerbatim (c : Char) : Prop := isPlain c = true ∧ c ≠ '"' ∧ c ≠ '\\'

instance : DecidablePred IsVerbatim := fun c =>
  inferInstanceAs (Decidable (isPlain c = true ∧ c ≠ '"' ∧ c ≠ '\\'))

/-! ### One pair of quotes -/

theorem escapedAt_finds_verbatim (h : ∀ c ∈ value, IsVerbatim c) (rest : List Char) :
    Finds (escapedAt (value ++ '"' :: rest)) value rest := by
  induction value with
  | nil =>
    rw [List.nil_append, escapedAt]
    exact finds_some.2 ⟨rfl, rfl⟩
  | cons c value ih =>
    obtain ⟨⟨hplain, hquote, hbackslash⟩, hvalue⟩ := List.forall_mem_cons.1 h
    rw [List.cons_append, escapedAt, if_pos hplain]
    · exact (finds_map_iff (c :: ·) _).2 ⟨value, ih hvalue, rfl⟩
    · exact hquote
    · exact hbackslash

/-- What an escape leaves stands at the end of what it was read from. -/
theorem eq_append_of_escapeAt {e : Found Char s} (h : escapeAt s = some e) :
    ∃ written, s = written ++ e.rest := by
  rw [escapeAt.eq_def] at h
  split at h
  · cases h
  · next c rest =>
    split at h
    · cases h
      exact ⟨[c], rfl⟩
    · next width _ _ =>
      split at h
      · obtain ⟨_, -, rfl⟩ := Option.map_eq_some_iff.1 h
        exact ⟨c :: rest.take width, by simp⟩
      · cases h
    · cases h

/-- What the reader takes up to the quote is the value itself, or the value is shorter. -/
theorem exists_written_of_escapedAt (h : Finds (escapedAt s) value rest) :
    ∃ written, s = written ++ '"' :: rest ∧
      (value = written ∧ (∀ c ∈ written, IsVerbatim c) ∨ value.length < written.length) := by
  fun_induction escapedAt s generalizing value rest with
  | case1 => exact absurd h finds_none.1
  | case2 =>
    obtain ⟨rfl, rfl⟩ := finds_some.1 h
    exact ⟨[], rfl, .inl ⟨rfl, List.forall_mem_nil _⟩⟩
  | case3 s e he _ ih =>
    obtain ⟨value, hvalue, rfl⟩ := (finds_map_iff (e.value :: ·) _).1 h
    obtain ⟨written, hrest, hwritten⟩ := ih hvalue
    obtain ⟨escape, hescape⟩ := eq_append_of_escapeAt he
    refine ⟨'\\' :: (escape ++ written), ?_, .inr ?_⟩
    · rw [hescape, hrest, List.cons_append, List.append_assoc]
    · have hshort := e.shorter
      have hlength := congrArg List.length hescape
      have hle : value.length ≤ written.length := by
        obtain ⟨rfl, -⟩ | hlt := hwritten
        · exact Nat.le_refl _
        · exact Nat.le_of_lt hlt
      simp only [List.length_append, List.length_cons] at hlength ⊢
      omega
  | case4 => exact absurd h finds_none.1
  | case5 c s hquote hbackslash hplain ih =>
    obtain ⟨value, hvalue, rfl⟩ := (finds_map_iff (c :: ·) _).1 h
    obtain ⟨written, rfl, hwritten⟩ := ih hvalue
    refine ⟨c :: written, rfl, ?_⟩
    obtain ⟨rfl, hverbatim⟩ | hlt := hwritten
    · exact .inl ⟨rfl, List.forall_mem_cons.2 ⟨⟨hplain, hquote, hbackslash⟩, hverbatim⟩⟩
    · exact .inr (Nat.succ_lt_succ hlt)
  | case6 => exact absurd h finds_none.1

/-- Only characters that stand for themselves make a text in quotes its own value. -/
theorem isVerbatim_of_escapedAt (h : Finds (escapedAt (value ++ ['"', '\n'])) value rest) :
    ∀ c ∈ value, IsVerbatim c := by
  obtain ⟨written, hs, hwritten⟩ := exists_written_of_escapedAt h
  -- The line end at the end is no quote, so the quote found is not behind that of the value.
  have hrest : rest ≠ [] := by
    rintro rfl
    have hlast := congrArg List.getLast? hs
    simp at hlast
  have hpos := List.length_pos_iff.2 hrest
  have hlength := congrArg List.length hs
  simp only [List.length_append, List.length_cons, List.length_nil] at hlength
  obtain ⟨rfl, hverbatim⟩ | hlt := hwritten
  · exact hverbatim
  · omega

/-! ### Three quotes -/

theorem length_extraQuotes_le (quote : Char) (s : List Char) :
    (extraQuotes quote s).value.length ≤ s.length := by
  fun_cases extraQuotes quote s <;> simp [extraQuotes, *]

/-- The value between three quotes is shorter than its text by the closing quotes, at least. -/
theorem length_add_three_le_of_longEscapedAt (h : Finds (longEscapedAt s) value rest) :
    value.length + 3 ≤ s.length := by
  fun_induction longEscapedAt s generalizing value rest with
  | case1 => exact absurd h finds_none.1
  | case2 s =>
    obtain ⟨rfl, -⟩ := finds_some.1 h
    exact Nat.add_le_add_right (length_extraQuotes_le '"' s) 3
  | case3 s ih =>
    obtain ⟨value, hvalue, rfl⟩ := (finds_map_iff ('\r' :: '\n' :: ·) _).1 h
    exact Nat.add_le_add_right (ih hvalue) 2
  | case4 s _ hle ih =>
    obtain ⟨value, hvalue, rfl⟩ := (finds_map_iff id _).1 h
    exact Nat.le_trans (ih hvalue) (Nat.le_trans hle (Nat.le_succ _))
  | case5 s _ e he _ ih =>
    obtain ⟨value, hvalue, rfl⟩ := (finds_map_iff (e.value :: ·) _).1 h
    have hshort := e.shorter
    have := ih hvalue
    simp only [List.length_cons]
    omega
  | case6 => exact absurd h finds_none.1
  | case7 c s _ _ _ _ ih =>
    obtain ⟨value, hvalue, rfl⟩ := (finds_map_iff (c :: ·) _).1 h
    exact Nat.succ_le_succ (ih hvalue)
  | case8 => exact absurd h finds_none.1

/-! ### Texts -/

theorem textAt_line_finds_iff {w : String} (h : ∀ t, s ≠ '"' :: '"' :: t) :
    Finds (textAt ('"' :: s)) w rest ↔ Finds (escapedAt s) w.toList rest := by
  have hline : textAt ('"' :: s) = withQuotes (by simp) (escapedAt s) := by
    rw [textAt, quotedAt]
    · rintro t heq
      exact h t (List.cons.inj heq).2
    · rintro t heq
      cases heq
  rw [hline]
  refine (finds_map_iff String.ofList _).trans ⟨?_, ?_⟩
  · rintro ⟨value, hvalue, rfl⟩
    rwa [String.toList_ofList]
  · intro hvalue
    exact ⟨w.toList, hvalue, String.ofList_toList.symm⟩

/-- The value between three quotes is far shorter than its text. -/
theorem length_add_three_le_of_textAt {w : String}
    (h : Finds (textAt ('"' :: '"' :: '"' :: s)) w rest) : w.length + 3 ≤ s.length := by
  rw [textAt] at h
  obtain ⟨value, hvalue, rfl⟩ := (finds_map_iff String.ofList _).1 h
  rw [String.length_ofList]
  exact Nat.le_trans (length_add_three_le_of_longEscapedAt hvalue) (length_afterLineEnd_le s)

theorem textAt_finds_verbatim {v : String} (h : ∀ c ∈ v.toList, IsVerbatim c) :
    Finds (textAt ('"' :: (v.toList ++ ['"', '\n']))) v ['\n'] := by
  refine (textAt_line_finds_iff fun t ht => ?_).2 (escapedAt_finds_verbatim h ['\n'])
  cases hv : v.toList with
  | nil =>
    rw [hv] at ht
    cases ht
  | cons c value =>
    rw [hv] at ht h
    exact (List.forall_mem_cons.1 h).1.2.1 (List.cons.inj ht).1

/-- A text in double quotes is read as its own value exactly if each of its characters stands for
itself. -/
theorem textAt_finds_self_iff {v : String} :
    (∃ rest, Finds (textAt ('"' :: (v.toList ++ ['"', '\n']))) v rest) ↔
      ∀ c ∈ v.toList, IsVerbatim c := by
  refine ⟨?_, fun h => ⟨_, textAt_finds_verbatim h⟩⟩
  rintro ⟨rest, h⟩
  by_cases hline : ∀ t, v.toList ++ ['"', '\n'] ≠ '"' :: '"' :: t
  · exact isVerbatim_of_escapedAt ((textAt_line_finds_iff hline).1 h)
  · -- Two more quotes stand in front, so the value would be longer than its text.
    obtain ⟨t, ht⟩ := Classical.not_forall_not.1 hline
    rw [ht] at h
    have hlt := length_add_three_le_of_textAt h
    have hlength := congrArg List.length ht
    simp only [List.length_append, List.length_cons, List.length_nil, String.length_toList]
      at hlength
    omega

end Toml
end QuizBank

import Mathlib.Data.List.Basic
import QuizBank.File.Path

/-!
# Names in paths

A name that stands in a path is a path by itself, with nothing else in it.
-/

namespace QuizBank
namespace Path

theorem pieces_eq_splitOn (s : List Char) : pieces s = s.splitOn '/' := by
  induction s with
  | nil => rfl
  | cons c rest ih =>
    rw [pieces, List.splitOn_cons_eq_if_modifyHead, ← ih]
    by_cases hc : c = '/'
    · simp [hc]
    · cases hpieces : pieces rest with
      | nil => exact absurd (ih.symm.trans hpieces) (List.splitOn_ne_nil _ _)
      | cons piece more => simp [hc]

theorem slash_not_mem_of_mem_pieces {s piece : List Char} (h : piece ∈ pieces s) :
    '/' ∉ piece := by
  induction s generalizing piece with
  | nil => simp_all [pieces]
  | cons c rest ih =>
    rw [pieces] at h
    split at h
    · obtain rfl | h := List.mem_cons.1 h
      · simp
      · exact ih h
    · next hc =>
      split at h
      · next hnil => exact absurd (pieces_eq_splitOn rest ▸ hnil) (List.splitOn_ne_nil _ _)
      · next first more hrest =>
        obtain rfl | h := List.mem_cons.1 h
        · have hfirst : '/' ∉ first := ih (hrest ▸ List.mem_cons_self)
          simp [hfirst, Ne.symm hc]
        · exact ih (hrest ▸ List.mem_cons_of_mem _ h)

theorem pieces_append_slash (s t : List Char) : pieces (s ++ '/' :: t) = pieces s ++ pieces t := by
  simp only [pieces_eq_splitOn, List.splitOn_append_cons_self]

/-- Where no slash stands next to another or at an end, every piece is a name. -/
theorem ofText_of_nil_not_mem_pieces {text : String} (h : [] ∉ pieces text.toList) :
    ofText text = ⟨false, (pieces text.toList).map String.ofList, false, text.utf8ByteSize⟩ := by
  have hhead : text.toList.head? ≠ some '/' := by
    intro hhead
    obtain ⟨rest, hrest⟩ := List.head?_eq_some_iff.1 hhead
    simp [hrest, pieces] at h
  have hlast : text.toList.getLast? ≠ some '/' := by
    intro hlast
    obtain ⟨before, hbefore⟩ := List.getLast?_eq_some_iff.1 hlast
    simp [hbefore, pieces_append_slash, pieces] at h
  have hfilter : (pieces text.toList).filter (!·.isEmpty) = pieces text.toList := by
    refine List.filter_eq_self.2 fun piece hpiece => ?_
    cases piece with
    | nil => exact absurd hpiece h
    | cons c rest => rfl
  simp [ofText, hhead, hlast, hfilter]

/-- A text without a slash is a path of one name. -/
theorem ofText_eq_of_slash_not_mem {name : String} (hname : name ≠ "") (h : '/' ∉ name.toList) :
    ofText name = ⟨false, [name], false, name.utf8ByteSize⟩ := by
  have hpieces : pieces name.toList = [name.toList] := by
    rw [pieces_eq_splitOn, List.splitOn_eq_singleton h]
  have hne : [] ∉ pieces name.toList := by
    rw [hpieces, List.mem_singleton]
    exact fun hnil => hname (String.toList_eq_nil_iff.1 hnil.symm)
  rw [ofText_of_nil_not_mem_pieces hne, hpieces]
  simp

theorem ne_empty_of_mem_segments {text name : String} (h : name ∈ (ofText text).segments) :
    name ≠ "" ∧ '/' ∉ name.toList := by
  obtain ⟨piece, hpiece, rfl⟩ := List.mem_map.1 h
  obtain ⟨hmem, hne⟩ := List.mem_filter.1 hpiece
  refine ⟨?_, ?_⟩
  · intro hempty
    have hnil : piece = [] := by simpa using congrArg String.toList hempty
    simp [hnil] at hne
  · rw [String.toList_ofList]
    exact slash_not_mem_of_mem_pieces hmem

theorem ofText_of_mem_segments {text name : String} (h : name ∈ (ofText text).segments) :
    ofText name = ⟨false, [name], false, name.utf8ByteSize⟩ :=
  ofText_eq_of_slash_not_mem (ne_empty_of_mem_segments h).1 (ne_empty_of_mem_segments h).2

theorem join_ofText {text name : String} (base : Path) (h : name ∈ (ofText text).segments) :
    base.join (ofText name) = ⟨base.absolute, base.segments ++ [name], false,
      base.sizeInFront + name.utf8ByteSize⟩ := by
  rw [ofText_of_mem_segments h]
  rfl

end Path
end QuizBank

import Mathlib.Data.List.Nodup
import QuizBank.Config.Check
import QuizBank.Proofs.Bank.Agreement

/-!
# The seeds of an entry

A seed is a base and a suffix with nothing between them. The bases of one entry are all equally
long, also those of an entry without an id, whose letters come round again after 26 seeds. So a seed
can be parted in one way only (`Entry.seedBase_append_inj`), and two seeds of an entry are equal
only if their suffixes are. The check of the suffixes refuses exactly the lists with which some
entry would be tried with a seed twice, or with none at all
(`checkSuffixes_eq_ok_iff_nodup_seeds`).
-/

namespace QuizBank

/-! ### What the check of the suffixes lets through -/

namespace Config

variable {suffixes earlier : List String}

theorem firstRepeated_eq_none_iff :
    firstRepeated earlier suffixes = none ↔ suffixes.Nodup ∧ ∀ s ∈ suffixes, s ∉ earlier := by
  induction suffixes generalizing earlier with
  | nil => exact iff_of_true rfl ⟨List.nodup_nil, List.forall_mem_nil _⟩
  | cons s rest ih =>
    rw [firstRepeated, List.nodup_cons, List.forall_mem_cons]
    by_cases hs : s ∈ earlier
    · simp [hs]
    · have hnew : earlier.contains s = false := by simpa using hs
      rw [hnew, if_neg Bool.false_ne_true, ih]
      simp only [List.mem_append, List.mem_singleton, not_or]
      constructor
      · rintro ⟨hrest, hothers⟩
        exact ⟨⟨fun hmem => (hothers s hmem).2 rfl, hrest⟩, hs, fun t ht => (hothers t ht).1⟩
      · rintro ⟨⟨hfirst, hrest⟩, -, hothers⟩
        exact ⟨hrest, fun t ht => ⟨hothers t ht, fun heq => hfirst (heq ▸ ht)⟩⟩

/-- There is a suffix, and none stands there twice. -/
theorem checkSuffixes_eq_ok_iff :
    checkSuffixes suffixes = .ok () ↔ suffixes ≠ [] ∧ suffixes.Nodup := by
  have hrepeated : firstRepeated [] suffixes = none ↔ suffixes.Nodup := by
    simp [firstRepeated_eq_none_iff]
  rw [checkSuffixes, ← hrepeated]
  cases suffixes with
  | nil => simp
  | cons s rest => cases firstRepeated [] (s :: rest) <;> simp [invalid]

end Config

/-! ### A seed tells its suffix -/

namespace Bank
namespace Entry

variable {id : Option String} {suffixes : List String} {i j : Nat} {s t : String}

/-- The bases of an entry are equally long. -/
theorem length_seedBase (id : Option String) (i j : Nat) :
    (seedBase id i).toList.length = (seedBase id j).toList.length := by
  cases id with
  | some id => rfl
  | none => simp [seedBase]

/-- A seed is parted in one way only. -/
theorem seedBase_append_inj :
    seedBase id i ++ s = seedBase id j ++ t ↔ seedBase id i = seedBase id j ∧ s = t := by
  constructor
  · intro h
    have hchars : (seedBase id i).toList ++ s.toList = (seedBase id j).toList ++ t.toList := by
      simpa using congrArg String.toList h
    obtain ⟨hbase, hsuffix⟩ := List.append_inj hchars (length_seedBase id i j)
    exact ⟨String.toList_inj.1 hbase, String.toList_inj.1 hsuffix⟩
  · rintro ⟨hbase, rfl⟩
    rw [hbase]

/-- Without a suffix that is there twice no seed is. -/
theorem nodup_seeds (id : Option String) (h : suffixes.Nodup) : (seeds id suffixes).Nodup := by
  rw [List.nodup_iff_injective_get] at h ⊢
  rintro ⟨i, hi⟩ ⟨j, hj⟩ heq
  rw [length_seeds] at hi hj
  have hseed : seedBase id i ++ suffixes[i] = seedBase id j ++ suffixes[j] := by
    simpa [seeds] using heq
  have hsuffix : suffixes.get ⟨i, hi⟩ = suffixes.get ⟨j, hj⟩ := (seedBase_append_inj.1 hseed).2
  simpa using h hsuffix

/-- Suffixes pass the check exactly if there is one at least and every entry, with an id or without,
has as many different seeds as there are suffixes. -/
theorem checkSuffixes_eq_ok_iff_nodup_seeds : Config.checkSuffixes suffixes = .ok () ↔
    suffixes ≠ [] ∧ ∀ e : Entry, (seeds e.id suffixes).Nodup ∧
      (seeds e.id suffixes).length = suffixes.length := by
  rw [Config.checkSuffixes_eq_ok_iff]
  refine and_congr_right fun _ => ⟨fun h e => ⟨nodup_seeds e.id h, length_seeds e.id suffixes⟩, ?_⟩
  intro h
  -- The seeds of an entry whose id is the empty text are the suffixes themselves.
  have hsuffixes : seeds (some "") suffixes = suffixes := by simp [seeds_of_id]
  rw [← hsuffixes]
  exact (h { id := some "" }).1

/-- The letter of the first seed comes again with the 27th. -/
example : seedBase none 26 = seedBase none 0 := by decide

end Entry
end Bank
end QuizBank

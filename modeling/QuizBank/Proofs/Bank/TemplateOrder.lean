import QuizBank.Bank.Generation
import QuizBank.Proofs.Json.Stability
import QuizBank.Proofs.OrderedMap

/-!
# The order of a kept template

A bank keeps the template of an entry as a document, and a document has its members sorted. So the
template that is read from it later has its parameters and its derived values sorted by name, and is
otherwise the template that is read from the text directly.
-/

namespace QuizBank

open Json

/-! ### Sorted maps -/

namespace OrderedMap

variable {α : Type}

/-- The map with its keys sorted. -/
def sorted (m : OrderedMap α) : OrderedMap α :=
  ⟨sortMembers m.entries, (sorted_sortMembers m.entries).nodup⟩

theorem sorted_eq_self_iff {m : OrderedMap α} : m.sorted = m ↔ m.keys.Pairwise (· < ·) := by
  show m.sorted = m ↔ Sorted m.entries
  rw [← sortMembers_eq_self_iff]
  constructor
  · intro h
    exact congrArg entries h
  · exact fun h => eq_of_entries h

theorem sortMembers_insertEntry (key : String) (value : α) {l : List (String × α)}
    (h : (l.map Prod.fst).Nodup) :
    sortMembers (insertEntry key value l) = insertMember key value (sortMembers l) := by
  induction l with
  | nil => rfl
  | cons e rest ih =>
    obtain ⟨k, v⟩ := e
    obtain ⟨hk, hrest⟩ := List.nodup_cons.1 h
    rw [insertEntry, sortMembers_cons _ _ hk]
    split
    · next heq =>
      subst heq
      exact (sortMembers_cons (k, value) rest hk).trans (insertMember_insertMember k v value _).symm
    · next hne =>
      have hk' : k ∉ (insertEntry key value rest).map Prod.fst := by
        rw [map_fst_insertEntry]
        split
        · exact hk
        · simpa [hne] using hk
      rw [sortMembers_cons _ _ hk', ih hrest, insertMember_comm hne]

/-- Sorting the members before they make a map sorts the map. -/
theorem ofList_sortMembers (l : List (String × α)) :
    ofList (sortMembers l) = (ofList l).sorted := by
  apply eq_of_entries
  rw [entries_ofList (sorted_sortMembers l).nodup]
  induction l using List.reverseRecOn with
  | nil => rfl
  | append_singleton l e ih =>
    -- Both sides take their members one by one; a repeated name overwrites in both.
    have hlast : ofList (l ++ [e]) = (ofList l).insert e.1 e.2 := insertAll_append _ _ _
    rw [sortMembers_append_singleton, ih, hlast]
    exact (sortMembers_insertEntry e.1 e.2 (ofList l).nodup).symm

end OrderedMap

/-! ### Parameters -/

theorem Value.stable_ofJson : Stable Value.ofJson id :=
  .of_scalar (fun _ _ h => by cases h) (fun _ _ h => by cases h)

namespace ParamSpec

theorem isAssignment : IsAssignment fields assign id where
  other := by
    intro s f j hf
    unfold assign
    split
    · exact absurd (by decide) hf
    · exact absurd (by decide) hf
    · exact absurd (by decide) hf
    · exact absurd (by decide) hf
    · rfl
  swap := by
    intro s s₁ s₂ f g a b hf hg hne h₁ h₂
    simp only [fields, List.mem_cons, List.not_mem_nil, or_false] at hf hg
    rcases hf with rfl | rfl | rfl | rfl <;> rcases hg with rfl | rfl | rfl | rfl
    all_goals first
      | exact absurd rfl hne
      | obtain ⟨x, hx, hset⟩ := bind_eq_ok_iff.1 h₁
        obtain ⟨y, hy, hset'⟩ := bind_eq_ok_iff.1 h₂
        cases hset
        cases hset'
        exact ⟨_, bind_eq_ok_iff.2 ⟨y, hy, rfl⟩, bind_eq_ok_iff.2 ⟨x, hx, rfl⟩⟩
  kept := by
    intro room s s' f j j' hf hkept h
    simp only [fields, List.mem_cons, List.not_mem_nil, or_false] at hf
    rcases hf with rfl | rfl | rfl | rfl
    · exact Value.stable_ofJson.readItems.readOptional.bind hkept (fun _ => rfl) h
    · exact Stable.readNumber.readOptional.bind hkept (fun _ => rfl) h
    · exact Stable.readNumber.readOptional.bind hkept (fun _ => rfl) h
    · exact Value.stable_ofJson.readItems.bind hkept (fun _ => rfl) h

theorem stable_ofJson : Stable ofJson id := isAssignment.readRecord rfl

end ParamSpec

namespace Template

/-- The template with its parameters and its derived values sorted by name. -/
def sorted (t : Template) : Template :=
  { t with params := t.params.sorted, derived := t.derived.sorted }

theorem isAssignment : IsAssignment fields assign sorted where
  other := by
    intro t f j hf
    unfold assign
    split
    all_goals first
      | exact absurd (by decide) hf
      | rfl
  swap := by
    intro t t₁ t₂ f g a b hf hg hne h₁ h₂
    simp only [fields, List.mem_cons, List.not_mem_nil, or_false] at hf hg
    rcases hf with rfl | rfl | rfl | rfl | rfl | rfl | rfl <;>
      rcases hg with rfl | rfl | rfl | rfl | rfl | rfl | rfl
    all_goals first
      | exact absurd rfl hne
      | obtain ⟨x, hx, hset⟩ := bind_eq_ok_iff.1 h₁
        obtain ⟨y, hy, hset'⟩ := bind_eq_ok_iff.1 h₂
        cases hset
        cases hset'
        exact ⟨_, bind_eq_ok_iff.2 ⟨y, hy, rfl⟩, bind_eq_ok_iff.2 ⟨x, hx, rfl⟩⟩
  kept := by
    intro room t t' f j j' hf hkept h
    simp only [fields, List.mem_cons, List.not_mem_nil, or_false] at hf
    rcases hf with rfl | rfl | rfl | rfl | rfl | rfl | rfl
    · exact Stable.readText.readOptional.bind hkept (fun _ => rfl) h
    · exact Stable.readText.bind hkept (fun _ => rfl) h
    · exact ParamSpec.stable_ofJson.readOptional.readMembers.bind hkept
        (fun entries => by rw [OrderedMap.ofList_sortMembers]; rfl) h
    · exact Stable.readText.readMembers.bind hkept
        (fun entries => by rw [OrderedMap.ofList_sortMembers]; rfl) h
    · exact Stable.readText.readItems.bind hkept (fun _ => rfl) h
    · exact Value.stable_ofJson.readOptional.bind hkept (fun _ => rfl) h
    · exact Value.stable_ofJson.readItems.bind hkept (fun _ => rfl) h

/-- A kept template is read with its parameters and its derived values sorted. -/
theorem stable_ofJson : Stable ofJson sorted := isAssignment.readRecord rfl

/-- Sorting changes nothing exactly if the names were declared in order. -/
theorem sorted_eq_self_iff {t : Template} :
    t.sorted = t ↔ t.params.keys.Pairwise (· < ·) ∧ t.derived.keys.Pairwise (· < ·) := by
  rw [← OrderedMap.sorted_eq_self_iff, ← OrderedMap.sorted_eq_self_iff]
  constructor
  · intro h
    exact ⟨congrArg params h, congrArg derived h⟩
  · rintro ⟨hparams, hderived⟩
    rw [sorted, hparams, hderived]

end Template

/-! ### Entries -/

namespace Bank.Entry

theorem template_of_assign (e e' : Entry) (field : String) (j : Json)
    (hne : field ≠ "template") (h : assign e field j = .ok e') : e'.template = e.template := by
  unfold assign at h
  split at h
  · obtain ⟨id, -, hset⟩ := bind_eq_ok_iff.1 h
    cases hset
    rfl
  · exact absurd rfl hne
  · cases h
    rfl

/-- The template of an entry is the document that its member of that name was kept as. -/
theorem template_of_ofJson {e : Entry} {ms : List (String × Json)} {j : Json}
    (hmem : ("template", j) ∈ ms) (h : ofJson (.object ms) = .ok e) :
    j.readOptional readDocument = .ok e.template := by
  obtain ⟨_, hno, hall⟩ := bind_eq_ok_iff.1 h
  obtain ⟨e₁, e₂, hassign, heq⟩ := exists_assign_of_assignAll template_of_assign (by decide)
    (refuseRepeated_eq_ok_iff.1 hno) hmem hall
  obtain ⟨document, hdocument, hset⟩ := bind_eq_ok_iff.1 hassign
  cases hset
  rw [heq]
  exact hdocument

theorem readDocument_eq_ok_iff {j document : Json} :
    readDocument j = .ok document ↔ j.canonical? templateRoom = some document := by
  unfold readDocument
  split
  · next h => simp [h]
  · next h => simp [h]

/-- A template that can be read directly is read from an entry with its parameters and its derived
values sorted. -/
theorem readTemplate_eq_sorted {e : Entry} {ms members : List (String × Json)} {t : Template}
    (hdirect : Template.ofJson (.object members) = .ok t)
    (hmem : ("template", .object members) ∈ ms) (h : ofJson (.object ms) = .ok e) :
    e.readTemplate = .ok (some t.sorted) := by
  obtain ⟨document, hdocument, hsome⟩ := bind_eq_ok_iff.1 (template_of_ofJson hmem h)
  have hkept := readDocument_eq_ok_iff.1 hdocument
  have htemplate : e.template = some document := (Except.ok.inj hsome).symm
  rw [readTemplate, htemplate]
  exact bind_eq_ok_iff.2 ⟨t.sorted, Template.stable_ofJson _ _ _ _ hkept hdirect, rfl⟩

/-- An entry with nothing but a template can be read exactly if the template can be kept. -/
theorem exists_ofJson_iff {members : List (String × Json)} :
    (∃ e, ofJson (.object [("template", .object members)]) = .ok e) ↔
      IsRepresentable (.object members) ∧ nesting (.object members) ≤ templateRoom := by
  rw [← isSome_canonical?_iff, Option.isSome_iff_exists]
  constructor
  · rintro ⟨e, h⟩
    obtain ⟨document, hdocument, -⟩ := bind_eq_ok_iff.1 (template_of_ofJson List.mem_cons_self h)
    exact ⟨document, readDocument_eq_ok_iff.1 hdocument⟩
  · rintro ⟨document, hkept⟩
    have hassign : assign {} "template" (.object members) = .ok ⟨none, some document⟩ :=
      bind_eq_ok_iff.2 ⟨some document,
        bind_eq_ok_iff.2 ⟨document, readDocument_eq_ok_iff.2 hkept, rfl⟩, rfl⟩
    exact ⟨_, bind_eq_ok_iff.2 ⟨(), rfl,
      assignAll_cons_iff.2 ⟨_, hassign, assignAll_nil_iff.2 rfl⟩⟩⟩

end Bank.Entry
end QuizBank

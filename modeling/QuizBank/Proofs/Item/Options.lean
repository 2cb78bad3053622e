import Mathlib.Data.List.Forall2
import QuizBank.Proofs.Item.Acceptance

/-!
# The answer, the distractors and the stem of an item

Three scopes meet here. The answer and the stem see the parameters and the derived values, and these
are what the item itself keeps. Distractors see the answer too, under a name of its own that hides a
parameter or a derived value of the same name. All texts of an item can therefore be worked out again
from the item.
-/

namespace QuizBank

namespace Item

/-- The names in the scope of an item are those of its parameters and derived values. -/
theorem mem_keys_scope {item : Item} {name : String} :
    name ∈ item.scope.keys ↔ name ∈ item.params.keys ∨ name ∈ item.derived.keys :=
  OrderedMap.mem_keys_insertAll

end Item

namespace Generation

/-- The scope of the distractors: that of the item, with the answer under its own name. -/
def optionScope (item : Item) : Scope := item.scope.insert answerVariable item.answer

/-- In the scope of the distractors one name stands for the answer, and every other name for what it
stands for in the item. -/
theorem get?_optionScope (item : Item) (name : String) :
    (optionScope item).get? name =
      if name = answerVariable then some item.answer else item.scope.get? name := by
  split
  · next h =>
    rw [h]
    exact OrderedMap.get?_insert_self _ _ _
  · next h => exact OrderedMap.get?_insert_of_ne h _ _

/-- The distractors are worked out one by one; those that read like the answer are left out and the
others keep their order. -/
theorem distractors_eq_ok_iff {answerText : String} {scope : Scope} {raws kept : List Value} :
    distractors answerText scope raws = .ok kept ↔
      ∃ resolved, List.Forall₂ (fun raw v => resolveOption raw scope = .ok v) raws resolved ∧
        kept = resolved.filter fun v => v.display ≠ answerText := by
  induction raws generalizing kept with
  | nil =>
    constructor
    · intro h
      cases h
      exact ⟨[], .nil, rfl⟩
    · rintro ⟨resolved, hall, rfl⟩
      cases hall
      rfl
  | cons raw rest ih =>
    rw [distractors]
    constructor
    · intro h
      split at h
      · cases h
      next v hv =>
      split at h
      · cases h
      next vs hvs =>
      cases h
      obtain ⟨resolved, hall, rfl⟩ := ih.1 hvs
      refine ⟨v :: resolved, .cons hv hall, ?_⟩
      rw [List.filter_cons]
      by_cases hdisplay : v.display = answerText <;> simp [hdisplay]
    · rintro ⟨resolved, hall, rfl⟩
      cases hall with
      | @cons _ v _ resolved hv hall =>
        rw [hv, ih.2 ⟨resolved, hall, rfl⟩, List.filter_cons]
        by_cases hdisplay : v.display = answerText <;> simp [hdisplay]

/-- **What an item shows.** The answer is the template's answer, worked out in the scope of the item.
The distractors are those of the template in their order, worked out in this scope with the answer
added, less exactly those that read like the answer. The stem is rendered in the scope of the item,
where the name of the answer stands for something only if a parameter or a derived value has it. -/
theorem options_of_generate {t : Template} {seed : String} {item : Item}
    (h : generate t seed = .ok item) :
    (∃ answer, t.answer = some answer ∧ resolveOption answer item.scope = .ok item.answer) ∧
      (∃ resolved,
        List.Forall₂ (fun raw v => resolveOption raw (optionScope item) = .ok v)
          t.distractors resolved ∧
        item.distractors = resolved.filter fun v => v.display ≠ item.answer.display) ∧
      (∀ name, (optionScope item).get? name =
        if name = "ans" then some item.answer else item.scope.get? name) ∧
      item.stem = Rendering.render t.stem item.scope ∧
      ((item.scope.get? "ans").isSome = true ↔
        "ans" ∈ t.params.keys ∨ "ans" ∈ t.derived.keys) := by
  obtain ⟨answer, s₁, s₂, hanswer, hdraw, ha⟩ := accepts_of_generate h
  refine ⟨⟨answer, hanswer, ha.answer_eq⟩, distractors_eq_ok_iff.1 ha.distractors_eq,
    get?_optionScope item, ha.stem_eq, ?_⟩
  have hparams : item.params.keys = t.params.keys := keys_of_drawParams hdraw t.params.nodup
  have hderived : item.derived.keys = t.derived.keys := ha.derivation.map_fst
  rw [OrderedMap.isSome_get?_iff, Item.mem_keys_scope, hparams, hderived]

/-- A template with a parameter that has the name of the answer. -/
def sharedName : Template where
  stem := "\x7b\x7bans\x7d\x7d"
  params := .ofList [("ans", some { values := some [.text "p"] })]
  answer := some (.text "ans + 'q'")
  distractors := [.text "ans", .text "ans + ans", .text "pq", .text "r"]

/-- The item that `sharedName` has for every seed: for the distractors `ans` is the answer, for the stem
the parameter. -/
def sharedNameItem : Item where
  stem := "p"
  params := .ofList [("ans", .text "p")]
  derived := .empty
  answer := .text "pq"
  distractors := [.text "pqpq", .text "r"]

theorem options_of_generate_sharedName :
    generate sharedName "s" = .ok sharedNameItem ∧
      resolveOption (.text "ans + 'q'") sharedNameItem.scope = .ok sharedNameItem.answer ∧
      (∃ resolved,
        List.Forall₂ (fun raw v => resolveOption raw (optionScope sharedNameItem) = .ok v)
          sharedName.distractors resolved ∧
        [.text "pqpq", .text "r"] = resolved.filter fun v => v.display ≠ "pq") ∧
      (optionScope sharedNameItem).get? "ans" = some (.text "pq") ∧
      sharedNameItem.stem = Rendering.render sharedName.stem sharedNameItem.scope ∧
      (sharedNameItem.scope.get? "ans").isSome = true := by
  have h : generate sharedName "s" = .ok sharedNameItem := by decide +kernel
  obtain ⟨⟨answer, hanswer, hresolved⟩, hdistractors, hscope, hstem, hname⟩ :=
    options_of_generate h
  cases hanswer
  exact ⟨h, hresolved, hdistractors, hscope "ans", hstem, hname.2 (.inl (by decide))⟩

end Generation
end QuizBank

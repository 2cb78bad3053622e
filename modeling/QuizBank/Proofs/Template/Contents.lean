import QuizBank.Template
import QuizBank.Proofs.OrderedMap
import QuizBank.Proofs.Json.Stability

/-!
# What a template holds

When two templates are equal, which compares their numbers as numbers; and the numbers that a
template names, which are its literal values and the bounds of its ranges.
-/

namespace QuizBank

open Json

/-! ### Equality -/

/-- Are both there and equal, or both missing? -/
def equalsOption {α : Type} (eq : α → α → Bool) : Option α → Option α → Bool
  | some a, some b => eq a b
  | none, none => true
  | _, _ => false

theorem equalsOption_beq {α : Type} [BEq α] (o o' : Option α) :
    equalsOption (· == ·) o o' = (o == o') := by
  cases o <;> cases o' <;> rfl

/-- Equality of rules, field by field. -/
def ParamSpec.equals (s s' : ParamSpec) : Bool :=
  equalsOption (fun vs ws => vs.isEqv ws Value.equals) s.values s'.values &&
    equalsOption (· == ·) s.min s'.min && equalsOption (· == ·) s.max s'.max &&
    s.exclude.isEqv s'.exclude Value.equals

/-- Equality of templates, field by field. The order of parameters and of derived values counts. -/
def Template.equals (t t' : Template) : Bool :=
  t.id == t'.id && t.stem == t'.stem &&
    t.params.equals (equalsOption ParamSpec.equals) t'.params &&
    t.derived.equals (· == ·) t'.derived && t.constraints == t'.constraints &&
    equalsOption Value.equals t.answer t'.answer &&
    t.distractors.isEqv t'.distractors Value.equals

namespace OrderedMap

variable {α : Type} {eq : α → α → Bool}

theorem equals_iff {m n : OrderedMap α} :
    m.equals eq n = true ↔ Memberwise (fun a b => eq a b = true) m.entries n.entries := by
  rw [equals, size, size]
  generalize m.entries = l
  generalize n.entries = l'
  induction l generalizing l' with
  | nil => cases l' <;> simp [Memberwise]
  | cons e rest ih =>
    cases l' with
    | nil => simp [Memberwise]
    | cons e' rest' =>
      refine Iff.trans ?_ List.forall₂_cons.symm
      rw [show List.Forall₂ _ rest rest' ↔ _ from (ih rest').symm]
      simp only [List.length_cons, List.zip_cons_cons, List.all_cons, Bool.and_eq_true,
        beq_iff_eq, Nat.add_right_cancel_iff]
      tauto

end OrderedMap

/-! ### The numbers of a template -/

/-- The values that a rule names. -/
def ParamSpec.literals (s : ParamSpec) : List Value := s.values.getD [] ++ s.exclude

/-- The bounds that a rule names. -/
def ParamSpec.bounds (s : ParamSpec) : List Float := s.min.toList ++ s.max.toList

theorem ParamSpec.mem_literals {s : ParamSpec} {v : Value} :
    v ∈ s.literals ↔ (∃ vs, s.values = some vs ∧ v ∈ vs) ∨ v ∈ s.exclude := by
  rw [literals, List.mem_append]
  cases s.values <;> simp

theorem ParamSpec.mem_bounds {s : ParamSpec} {x : Float} :
    x ∈ s.bounds ↔ s.min = some x ∨ s.max = some x := by
  rw [bounds, List.mem_append, Option.mem_toList, Option.mem_toList]

namespace Template

/-- The rules of the parameters that have one. -/
def specs (t : Template) : List ParamSpec := t.params.entries.filterMap Prod.snd

/-- The values that a template names: in its rules, as its answer and as its distractors. -/
def literals (t : Template) : List Value :=
  t.specs.flatMap ParamSpec.literals ++ (t.answer.toList ++ t.distractors)

/-- The bounds that a template names. -/
def bounds (t : Template) : List Float := t.specs.flatMap ParamSpec.bounds

variable {t : Template}

theorem mem_specs {s : ParamSpec} : s ∈ t.specs ↔ ∃ name, (name, some s) ∈ t.params.entries := by
  rw [specs, List.mem_filterMap]
  constructor
  · rintro ⟨⟨name, spec⟩, hmem, rfl⟩
    exact ⟨name, hmem⟩
  · rintro ⟨name, hmem⟩
    exact ⟨(name, some s), hmem, rfl⟩

theorem mem_literals {v : Value} :
    v ∈ t.literals ↔ (∃ s ∈ t.specs, v ∈ s.literals) ∨ t.answer = some v ∨ v ∈ t.distractors := by
  rw [literals, List.mem_append, List.mem_append, List.mem_flatMap, Option.mem_toList]

theorem mem_bounds {x : Float} : x ∈ t.bounds ↔ ∃ s ∈ t.specs, x ∈ s.bounds := List.mem_flatMap

end Template

end QuizBank

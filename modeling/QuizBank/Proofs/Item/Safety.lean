import QuizBank.Proofs.Item.Constraints

/-!
# Unsafe sources

Four stages of an attempt evaluate texts of the template, and they treat a refused one differently:
a derived value or a constraint only rejects the attempt, an answer or a distractor ends the
generation. Either way there is no item. An accepted item has a value for every text that is
evaluated (`Accepts.evaluates`), and a text that the safety check refuses has none in any scope. Of
the errors, only that of a refused option comes out as such.
-/

namespace QuizBank

/-- The text of an answer or a distractor, if it is one that is evaluated. -/
def Value.source? : Value → Option String
  | .text source => if Generation.looksLikeExpression source then some source else none
  | _ => none

namespace Template

/-- The texts among the answer and the distractors that look like expressions. -/
def optionSources (t : Template) : List String :=
  (t.answer.toList ++ t.distractors).filterMap Value.source?

/-- All texts of the template that an attempt evaluates. -/
def sources (t : Template) : List String :=
  t.derived.entries.map Prod.snd ++ t.constraints ++ t.optionSources

end Template

theorem Value.source?_eq_some_iff {raw : Value} {source : String} :
    raw.source? = some source ↔
      raw = .text source ∧ Generation.looksLikeExpression source = true := by
  cases raw with
  | text s =>
    simp only [Value.source?, Option.ite_none_right_eq_some, Option.some.injEq, Value.text.injEq]
    constructor
    · rintro ⟨h, rfl⟩
      exact ⟨rfl, h⟩
    · rintro ⟨rfl, h⟩
      exact ⟨h, rfl⟩
  | _ => simp [Value.source?]

namespace Generation

variable {t : Template} {answer : Value} {seed : String} {item : Item}

theorem mem_optionSources_iff (hanswer : t.answer = some answer) {source : String} :
    source ∈ t.optionSources ↔ (.text source = answer ∨ .text source ∈ t.distractors) ∧
      looksLikeExpression source = true := by
  rw [Template.optionSources, hanswer, List.mem_filterMap]
  simp only [Value.source?_eq_some_iff, Option.toList_some, List.singleton_append, List.mem_cons]
  constructor
  · rintro ⟨_, hraw, rfl, hlooks⟩
    exact ⟨hraw, hlooks⟩
  · rintro ⟨hraw, hlooks⟩
    exact ⟨_, hraw, rfl, hlooks⟩

theorem Derivation.evaluates {scope : Scope} {definitions : List (String × String)}
    {values : List (String × Value)} (h : Derivation scope definitions values) :
    ∀ d ∈ definitions, ∃ scope v, evaluate d.2 scope = .ok v := by
  induction h with
  | nil => nofun
  | cons hv _ ih => exact List.forall_mem_cons.2 ⟨⟨_, _, hv⟩, ih⟩

/-- Every text of its template has a value in some scope of an accepted attempt. -/
theorem Accepts.evaluates {params : OrderedMap Value} (h : Accepts t answer params item)
    (hanswer : t.answer = some answer) :
    ∀ source ∈ t.sources, ∃ scope v, evaluate source scope = .ok v := by
  intro source hmem
  rw [Template.sources, List.mem_append, List.mem_append] at hmem
  obtain (hderived | hconstraint) | hoption := hmem
  · obtain ⟨d, hd, rfl⟩ := List.mem_map.1 hderived
    exact h.derivation.evaluates d hd
  · obtain ⟨v, hv, -⟩ := unmet?_eq_none_iff.1 (h.met source hconstraint)
    exact ⟨_, v, hv⟩
  · obtain ⟨hraw, hlooks⟩ := (mem_optionSources_iff hanswer).1 hoption
    obtain ⟨scope, v, hv⟩ := h.exists_resolveOption hraw
    rw [resolveOption_of_looksLikeExpression scope hlooks] at hv
    exact ⟨scope, v, hv⟩

/-- **An unsafe template has no item.** Whatever the seed, if the safety check refuses a derived
expression, a constraint, or an answer or a distractor that looks like an expression, then no item
comes out. An unsafe expression is reported only if it is an answer or a distractor that looks like
an expression and is refused, with the fault that the check finds. -/
theorem generate_of_unsafe_source (t : Template) (seed : String) :
    (∀ source ∈ t.sources, (safetyFault? (Token.ofText source)).isSome = true →
      ∀ item, generate t seed ≠ .ok item) ∧
    ∀ expression reason, generate t seed = .error (.unsafeExpression expression reason) →
      expression ∈ t.optionSources ∧
        ∃ fault, safetyFault? (Token.ofText expression) = some fault ∧ reason = fault.message := by
  refine ⟨?_, ?_⟩
  · intro source hmem hrefused item hitem
    obtain ⟨answer, _, _, hanswer, -, ha⟩ := accepts_of_generate hitem
    obtain ⟨scope, v, hv⟩ := ha.evaluates hanswer source hmem
    rw [safetyFault?_of_evaluate hv] at hrefused
    cases hrefused
  · intro expression reason h
    cases hanswer : t.answer with
    | none =>
      rw [generate, hanswer] at h
      cases h
    | some answer =>
      obtain ⟨_, _, _, -, hok⟩ | ⟨e, hrefused, herror⟩ | ⟨-, herror⟩ := generate_cases seed hanswer
      · rw [hok] at h
        cases h
      · rw [herror] at h
        cases h
        obtain ⟨_, _, _, -, -, he⟩ | ⟨source, fault, hraw, hlooks, hfault, he⟩ := hrefused
        · cases he
        · cases he
          exact ⟨(mem_optionSources_iff hanswer).2 ⟨hraw, hlooks⟩, fault, hfault, rfl⟩
      · rw [herror] at h
        cases h

/-- A template with an unsafe constraint behind one that is met half of the time. -/
def unsafeConstraint : Template :=
  twoDraws.constrain ["word == 'q'", "n; 1"]

/-- A template with an unsafe distractor. -/
def unsafeDistractor : Template where
  stem := "boom"
  answer := some (.text "1")
  distractors := [.text "window.alert(ans)"]

theorem generate_of_unsafe_source_examples :
    (∀ item, generate unsafeConstraint "1" ≠ .ok item) ∧
      generate unsafeDistractor "unsafe" = .error
        (.unsafeExpression "window.alert(ans)" "identifier 'window' is not allowed") ∧
      "window.alert(ans)" ∈ unsafeDistractor.optionSources := by
  have herror : generate unsafeDistractor "unsafe" = .error
      (.unsafeExpression "window.alert(ans)" "identifier 'window' is not allowed") := by
    decide +kernel
  refine ⟨?_, herror, ((generate_of_unsafe_source _ _).2 _ _ herror).1⟩
  exact (generate_of_unsafe_source _ "1").1 "n; 1" (by decide) (by decide +kernel)

end Generation
end QuizBank

import QuizBank.Proofs.Item.Failures

/-!
# The wording of a template

The stem and the id of a template are words for its readers. An attempt looks at the stem only after
it has accepted everything else, and at the id never; a generation names the id in its errors. So two
templates with different words make the same attempts on the same stream: attempts of the same number
end alike, with items that differ only in their stems (`attempt_reword`), and the two generations end
alike, with errors that differ only in the name of the template (`attempts_reword`).
-/

namespace QuizBank

/-- The template with another id and another stem. -/
def Template.reword (t : Template) (id : Option String) (stem : String) : Template :=
  { t with id, stem }

/-- The item with another stem, rendered with its own values. -/
def Item.restem (item : Item) (stem : String) : Item :=
  { item with stem := Rendering.render stem item.scope }

/-- The attempt with another stem for the item, if there is one. -/
def Attempt.restem (stem : String) : Attempt → Attempt
  | accepted item => accepted (item.restem stem)
  | rejected reason => rejected reason
  | failed e => failed e

/-- The error with another name for the template, if it names one. All else stays. -/
def Error.relabel (label : String) : Error → Error
  | invalidTemplate _ reason => invalidTemplate label reason
  | unsatisfiable _ seed attempts lastFailure => unsatisfiable label seed attempts lastFailure
  | e => e

theorem Error.kind_relabel (label : String) (e : Error) : (e.relabel label).kind = e.kind := by
  cases e <;> rfl

namespace Generation

/-- The result of a generation with another stem for the item and another name for the template. -/
def reworded (stem label : String) : Except Error Item → Except Error Item
  | .ok item => .ok (item.restem stem)
  | .error e => .error (e.relabel label)

variable {t : Template} {answer : Value} {id : Option String} {stem : String}

/-! ### One attempt -/

theorem restem_ofOptionError (what : String) (e : Error) :
    (ofOptionError what e).restem stem = ofOptionError what e := by
  rw [ofOptionError]
  split
  · rfl
  · rfl

theorem restem_ofParamError (e : Error) : (ofParamError e).restem stem = ofParamError e := by
  cases e <;> rfl

/-- Behind its draws an attempt needs the stem only for the item that it accepts. -/
theorem complete_reword (params : OrderedMap Value) :
    complete (t.reword id stem) answer params = (complete t answer params).restem stem := by
  simp only [complete, Template.reword]
  cases hderive : derive t.derived.entries params .empty with
  | error reason => rfl
  | ok result =>
    obtain ⟨scope, derived⟩ := result
    dsimp only
    cases t.constraints.findSome? (unmet? scope) with
    | some reason => rfl
    | none =>
      dsimp only
      cases resolveOption answer scope with
      | error e => exact (restem_ofOptionError _ _).symm
      | ok a =>
        dsimp only
        cases distractors a.display (scope.insert answerVariable a) t.distractors with
        | error e => exact (restem_ofOptionError _ _).symm
        | ok options =>
          obtain ⟨-, rfl⟩ := derivation_of_derive hderive
          rfl

/-- **An attempt does not depend on the wording.** It takes the same draws and ends in the same way;
if it accepts an item, this has the other stem. -/
theorem attempt_reword (s : Draws) :
    attempt (t.reword id stem) answer s =
      ((attempt t answer s).1.restem stem, (attempt t answer s).2) := by
  have hparams : (t.reword id stem).params = t.params := rfl
  rw [attempt, attempt, hparams]
  cases drawParams t.params.entries .empty s with
  | mk result s' =>
    cases result with
    | ok params =>
      dsimp only
      rw [complete_reword]
    | error e =>
      dsimp only
      rw [restem_ofParamError]

/-! ### All attempts -/

/-- What fails an attempt does not name the template. -/
theorem relabel_of_attempt {s s' : Draws} {e : Error} (h : attempt t answer s = (.failed e, s'))
    (label : String) : e.relabel label = e := by
  obtain ⟨name, spec, fault, -, -, rfl⟩ | ⟨source, fault, -, -, -, rfl⟩ := attempt_eq_failed h
  · rfl
  · rfl

/-- The run with the other wording goes through the same attempts: at each of them both stop, with
the same item but for its stem or with the same error, or both go on from the same place with the
same reason. -/
theorem attempts_reword (seed : String) (n : Nat) (lastFailure : Option String) (s : Draws) :
    attempts (t.reword id stem) answer seed n lastFailure s =
      reworded stem (t.reword id stem).label (attempts t answer seed n lastFailure s) := by
  induction n generalizing lastFailure s with
  | zero => rfl
  | succ n ih =>
    rw [attempts, attempts, attempt_reword]
    cases hattempt : attempt t answer s with
    | mk result s' =>
      cases result with
      | accepted item => rfl
      | rejected reason => exact ih (some reason) s'
      | failed e =>
        show Except.error e = Except.error (e.relabel _)
        rw [relabel_of_attempt hattempt]

theorem generate_reword_eq (t : Template) (id : Option String) (stem seed : String) :
    generate (t.reword id stem) seed =
      reworded stem (t.reword id stem).label (generate t seed) := by
  have hanswer : (t.reword id stem).answer = t.answer := rfl
  rw [generate, generate, hanswer]
  cases t.answer with
  | none => rfl
  | some answer => exact attempts_reword seed maxAttempts none (.ofSeed seed)

/-- **Other words change nothing else.** Let two templates differ only in stem and id. For every
seed both have an item, with the same parameters, derived values, answer and distractors, and with
their own stems rendered in the same scope; or both have an error, of the same kind and with the
same fields, except that each names its own template where an error names one. -/
theorem generate_reword (t : Template) (id : Option String) (stem seed : String) :
    (∃ item item', generate t seed = .ok item ∧ generate (t.reword id stem) seed = .ok item' ∧
        item'.params = item.params ∧ item'.derived = item.derived ∧
        item'.answer = item.answer ∧ item'.distractors = item.distractors ∧
        item'.stem = Rendering.render stem item.scope) ∨
      ∃ e e', generate t seed = .error e ∧ generate (t.reword id stem) seed = .error e' ∧
        e'.kind = e.kind ∧ e' = e.relabel (t.reword id stem).label := by
  have heq := generate_reword_eq t id stem seed
  cases hgenerate : generate t seed with
  | ok item =>
    left
    rw [hgenerate] at heq
    exact ⟨item, item.restem stem, rfl, heq, rfl, rfl, rfl, rfl, rfl⟩
  | error e =>
    right
    rw [hgenerate] at heq
    exact ⟨e, e.relabel _, rfl, heq, e.kind_relabel _, rfl⟩

end Generation
end QuizBank

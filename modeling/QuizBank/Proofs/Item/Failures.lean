import QuizBank.Proofs.Item.Attempts

/-!
# How a generation fails

Errors arise in every stage of an attempt, and most of them only reject the attempt. Here each stage
says which errors it can raise, and an attempt which of them it lets through: a parameter without a
rule, and an answer or a distractor that the safety check refuses. A generation adds two of its own,
for a missing answer and for attempts that were all rejected.
-/

namespace QuizBank

theorem Expression.eq_of_requireFinite {v w : Value} (h : requireFinite v = .ok w) : w = v := by
  cases v with
  | number x =>
    rw [requireFinite] at h
    split at h
    · cases h
      rfl
    · cases h
  | bool b =>
    cases h
    rfl
  | text s =>
    cases h
    rfl

/-- The value of a source is that of its tree, if it is finite. -/
theorem evaluate_eq_ok_iff {source : String} {scope : Scope} {v : Value} :
    evaluate source scope = .ok v ↔ ∃ e, Expression.compile source = .ok e ∧
      e.tree.eval scope = .ok v ∧ Expression.requireFinite v = .ok v := by
  rw [evaluate]
  cases Expression.compile source with
  | error error => simp
  | ok e =>
    simp only [Except.ok.injEq, exists_eq_left']
    rw [Expression.eval]
    cases e.tree.eval scope with
    | error fault => simp
    | ok u =>
      constructor
      · intro h
        cases hfinite : Expression.requireFinite u with
        | error fault =>
          simp only [hfinite] at h
          cases h
        | ok w =>
          simp only [hfinite] at h
          cases h
          cases Expression.eq_of_requireFinite hfinite
          exact ⟨rfl, hfinite⟩
      · rintro ⟨hu, hfinite⟩
        cases hu
        simp only [hfinite]

/-- Evaluation raises two kinds of errors, both naming the source. -/
theorem evaluate_eq_error {source : String} {scope : Scope} {e : Error}
    (h : evaluate source scope = .error e) :
    (∃ fault, safetyFault? (Token.ofText source) = some fault ∧
      e = .unsafeExpression source fault.message) ∨
    ∃ message, e = .evaluation source message := by
  rw [evaluate, Expression.compile] at h
  cases hfault : safetyFault? (Token.ofText source) with
  | some fault =>
    simp only [hfault] at h
    cases h
    exact .inl ⟨fault, rfl, rfl⟩
  | none =>
    refine .inr ?_
    simp only [hfault] at h
    cases htree : Expr.ofTokens (Token.ofText source) with
    | error fault =>
      simp only [htree] at h
      cases h
      exact ⟨_, rfl⟩
    | ok tree =>
      simp only [htree, Expression.eval] at h
      split at h
      · cases h
        exact ⟨_, rfl⟩
      · split at h
        · cases h
          exact ⟨_, rfl⟩
        · cases h

namespace Generation

/-! ### The stages -/

theorem sample_eq_error {name : String} {spec : Option ParamSpec} {s s' : Draws} {e : Error}
    (h : Sampling.sample name spec s = (.error e, s')) :
    (∃ fault, ParamSpec.resolve spec = .error fault ∧ e = .invalidParamSpec name fault.message) ∨
      e = .samplingExhausted name Sampling.maxTries := by
  have hrange {candidate : Float → Float} {excluded : List Value}
      (h : Sampling.fromRange name candidate excluded s = (.error e, s')) :
      e = .samplingExhausted name Sampling.maxTries := by
    rw [Sampling.fromRange] at h
    split at h
    · cases h
    · cases h
      rfl
  rw [Sampling.sample] at h
  split at h
  · next fault hfault =>
    cases h
    exact .inl ⟨fault, hfault, rfl⟩
  · cases h
  · exact .inr (hrange h)
  · exact .inr (hrange h)

theorem drawParams_eq_error {specs : List (String × Option ParamSpec)} {drawn : OrderedMap Value}
    {s s' : Draws} {e : Error} (h : drawParams specs drawn s = (.error e, s')) :
    ∃ name spec s₁, (name, spec) ∈ specs ∧ Sampling.sample name spec s₁ = (.error e, s') := by
  obtain ⟨earlier, name, spec, later, values, s₁, rfl, -, hsample⟩ := drawParams_eq_error_iff.1 h
  exact ⟨name, spec, s₁, by simp, hsample⟩

/-- Only what makes a rule can be drawn. -/
theorem Drawn.exists_resolve {specs : List (String × Option ParamSpec)}
    {values : List (String × Value)} {s s' : Draws} (h : Drawn specs s values s') :
    ∀ e ∈ specs, ∃ rule, ParamSpec.resolve e.2 = .ok rule := by
  induction h with
  | nil => exact List.forall_mem_nil _
  | cons hsample _ ih => exact List.forall_mem_cons.2 ⟨Sampling.resolve_of_sample hsample, ih⟩

/-- Only a text that looks like an expression can fail as an option, and it fails as it does by
itself. -/
theorem resolveOption_eq_error {raw : Value} {scope : Scope} {e : Error}
    (h : resolveOption raw scope = .error e) :
    ∃ source, raw = .text source ∧ looksLikeExpression source = true ∧
      evaluate source scope = .error e := by
  cases raw with
  | bool b => cases h
  | number n => cases h
  | text source =>
    rw [resolveOption] at h
    split at h
    · next hlooks => exact ⟨source, rfl, hlooks, h⟩
    · cases h

theorem distractors_eq_error {answerText : String} {scope : Scope} {raws : List Value} {e : Error}
    (h : distractors answerText scope raws = .error e) :
    ∃ raw ∈ raws, resolveOption raw scope = .error e := by
  induction raws with
  | nil => cases h
  | cons raw rest ih =>
    rw [distractors] at h
    split at h
    · next e₁ hraw =>
      cases h
      exact ⟨raw, List.mem_cons_self, hraw⟩
    · split at h
      · next e₁ hrest =>
        cases h
        obtain ⟨raw', hmem, hraw'⟩ := ih hrest
        exact ⟨raw', List.mem_cons_of_mem _ hmem, hraw'⟩
      · cases h

theorem ofOptionError_eq_failed {what : String} {e e' : Error}
    (h : ofOptionError what e = .failed e') : e.isAttemptLocal = false ∧ e' = e := by
  rw [ofOptionError] at h
  split at h
  · cases h
  · next hlocal =>
    cases h
    exact ⟨Bool.eq_false_iff.2 hlocal, rfl⟩

theorem ofParamError_eq_failed {e e' : Error} (h : ofParamError e = .failed e') :
    e' = e ∧ ∃ param reason, e = .invalidParamSpec param reason := by
  cases e <;> cases h
  exact ⟨rfl, _, _, rfl⟩

/-! ### An attempt -/

/-- An answer or a distractor of the template looks like an expression and is refused by the safety
check with this error. -/
def RefusesOption (t : Template) (answer : Value) (e : Error) : Prop :=
  ∃ source fault, (.text source = answer ∨ .text source ∈ t.distractors) ∧
    looksLikeExpression source = true ∧ safetyFault? (Token.ofText source) = some fault ∧
    e = .unsafeExpression source fault.message

/-- A parameter of the template has a specification that makes no rule, which gives this error. -/
def RefusesParam (t : Template) (e : Error) : Prop :=
  ∃ name spec fault, (name, spec) ∈ t.params.entries ∧ ParamSpec.resolve spec = .error fault ∧
    e = .invalidParamSpec name fault.message

theorem refusesOption_of_resolveOption {t : Template} {answer raw : Value} {scope : Scope}
    {what : String} {e e' : Error} (hraw : raw = answer ∨ raw ∈ t.distractors)
    (h : resolveOption raw scope = .error e) (hfailed : ofOptionError what e = .failed e') :
    RefusesOption t answer e' := by
  obtain ⟨hlocal, rfl⟩ := ofOptionError_eq_failed hfailed
  obtain ⟨source, rfl, hlooks, heval⟩ := resolveOption_eq_error h
  obtain ⟨fault, hfault, rfl⟩ | ⟨message, rfl⟩ := evaluate_eq_error heval
  · exact ⟨source, fault, hraw, hlooks, hfault, rfl⟩
  · cases hlocal

/-- Behind its draws an attempt lets only refused options through. -/
theorem complete_eq_failed {t : Template} {answer : Value} {params : OrderedMap Value} {e : Error}
    (h : complete t answer params = .failed e) : RefusesOption t answer e := by
  rw [complete] at h
  split at h
  · cases h
  split at h
  · cases h
  split at h
  · next e₁ hanswer => exact refusesOption_of_resolveOption (.inl rfl) hanswer h
  split at h
  · next e₁ hdistractors =>
    obtain ⟨raw, hmem, hraw⟩ := distractors_eq_error hdistractors
    exact refusesOption_of_resolveOption (.inr hmem) hraw h
  · cases h

theorem attempt_eq_failed {t : Template} {answer : Value} {s s' : Draws} {e : Error}
    (h : attempt t answer s = (.failed e, s')) : RefusesParam t e ∨ RefusesOption t answer e := by
  rw [attempt] at h
  split at h
  · next params s₁ hdraw =>
    injection h with hcomplete
    exact .inr (complete_eq_failed hcomplete)
  · next e₁ s₁ hdraw =>
    injection h with hparam
    obtain ⟨rfl, param, reason, rfl⟩ := ofParamError_eq_failed hparam
    obtain ⟨name, spec, s₂, hmem, hsample⟩ := drawParams_eq_error hdraw
    obtain ⟨fault, hfault, he⟩ | he := sample_eq_error hsample
    · exact .inl ⟨name, spec, fault, hmem, hfault, he⟩
    · cases he

/-! ### A generation -/

/-- A generation ends with what one of its attempts gives, or with all attempts rejected. -/
theorem generate_eq_result {t : Template} {answer : Value} (seed : String)
    (hanswer : t.answer = some answer) :
    (∃ k < maxAttempts, (outcome t answer (Draws.numbers seed) k).result? =
      some (generate t seed)) ∨
    ((∀ k < maxAttempts, (outcome t answer (Draws.numbers seed) k).result? = none) ∧
      generate t seed = .error (.unsatisfiable t.label seed maxAttempts
        (outcome t answer (Draws.numbers seed) (maxAttempts - 1)).reason?)) := by
  rw [generate_eq_findSome hanswer]
  cases hfound : (List.range maxAttempts).findSome?
      fun i => (outcome t answer (Draws.numbers seed) i).result? with
  | none =>
    refine .inr ⟨?_, rfl⟩
    intro k hk
    exact List.findSome?_eq_none_iff.1 hfound k (List.mem_range.2 hk)
  | some r =>
    obtain ⟨k, hmem, hr⟩ := List.exists_of_findSome?_eq_some hfound
    exact .inl ⟨k, List.mem_range.1 hmem, hr⟩

/-- A generation ends in one of three ways: with the item of an attempt, with an error that an
attempt lets through, or with all attempts rejected. -/
theorem generate_cases {t : Template} {answer : Value} (seed : String)
    (hanswer : t.answer = some answer) :
    (∃ k < maxAttempts, ∃ item, outcome t answer (Draws.numbers seed) k = .accepted item ∧
      generate t seed = .ok item) ∨
    (∃ e, (RefusesParam t e ∨ RefusesOption t answer e) ∧ generate t seed = .error e) ∨
    ((∀ k < maxAttempts, (outcome t answer (Draws.numbers seed) k).result? = none) ∧
      generate t seed = .error (.unsatisfiable t.label seed maxAttempts
        (outcome t answer (Draws.numbers seed) (maxAttempts - 1)).reason?)) := by
  obtain ⟨k, hk, hr⟩ | hrejected := generate_eq_result seed hanswer
  · cases hout : outcome t answer (Draws.numbers seed) k with
    | accepted item =>
      rw [hout] at hr
      exact .inl ⟨k, hk, item, hout, (Option.some.inj hr).symm⟩
    | rejected reason =>
      rw [hout] at hr
      cases hr
    | failed e =>
      rw [hout] at hr
      exact .inr (.inl ⟨e, attempt_eq_failed (Prod.ext hout rfl), (Option.some.inj hr).symm⟩)
  · exact .inr (.inr hrejected)

theorem kind_of_refused {t : Template} {answer : Value} {e : Error}
    (h : RefusesParam t e ∨ RefusesOption t answer e) :
    e.kind = "InvalidParamSpec" ∨ e.kind = "UnsafeExpression" := by
  obtain ⟨_, _, _, -, -, rfl⟩ | ⟨_, _, -, -, -, rfl⟩ := h
  · exact .inl rfl
  · exact .inr rfl

/-- The errors that a generation can end with. -/
theorem kind_of_generate {t : Template} {seed : String} {e : Error}
    (h : generate t seed = .error e) :
    e.kind ∈ ["InvalidTemplate", "InvalidParamSpec", "UnsafeExpression", "Unsatisfiable"] := by
  cases hanswer : t.answer with
  | none =>
    rw [generate, hanswer] at h
    cases h
    exact List.mem_cons_self
  | some answer =>
    obtain ⟨_, _, item, -, hok⟩ | ⟨e', hrefused, herror⟩ | ⟨-, herror⟩ :=
      generate_cases seed hanswer
    · rw [hok] at h
      cases h
    · rw [herror] at h
      cases h
      obtain hkind | hkind := kind_of_refused hrefused <;> simp [hkind]
    · rw [herror] at h
      cases h
      simp [Error.kind]

theorem generate_eq_invalidTemplate_iff {t : Template} {seed : String} :
    (∃ label reason, generate t seed = .error (.invalidTemplate label reason)) ↔
      t.answer = none := by
  constructor
  · rintro ⟨label, reason, h⟩
    cases hanswer : t.answer with
    | none => rfl
    | some answer =>
      obtain ⟨_, _, item, -, hok⟩ | ⟨e, hrefused, herror⟩ | ⟨-, herror⟩ :=
        generate_cases seed hanswer
      · rw [hok] at h
        cases h
      · rw [herror] at h
        cases h
        obtain hkind | hkind := kind_of_refused hrefused <;> simp [Error.kind] at hkind
      · rw [herror] at h
        cases h
  · intro hanswer
    exact ⟨t.label, "missing answer", by rw [generate, hanswer]⟩

theorem generate_eq_unsatisfiable_iff {t : Template} {answer : Value} {seed label seed' : String}
    {n : Nat} {lastFailure : Option String} (hanswer : t.answer = some answer) :
    generate t seed = .error (.unsatisfiable label seed' n lastFailure) ↔
      (∀ k < maxAttempts, (outcome t answer (Draws.numbers seed) k).result? = none) ∧
        label = t.label ∧ seed' = seed ∧ n = maxAttempts ∧
        lastFailure = (outcome t answer (Draws.numbers seed) (maxAttempts - 1)).reason? := by
  constructor
  · intro h
    obtain ⟨_, _, item, -, hok⟩ | ⟨e, hrefused, herror⟩ | ⟨hall, herror⟩ :=
      generate_cases seed hanswer
    · rw [hok] at h
      cases h
    · rw [herror] at h
      cases h
      obtain hkind | hkind := kind_of_refused hrefused <;> simp [Error.kind] at hkind
    · rw [herror] at h
      cases h
      exact ⟨hall, rfl, rfl, rfl, rfl⟩
  · rintro ⟨hall, rfl, rfl, rfl, rfl⟩
    exact generate_of_all_rejected hanswer hall

/-- **What a generation ends with.** An item, or an error of one of four kinds; errors of evaluation
and exhausted ranges never come out. A missing answer gives an invalid template, and nothing else
does. A generation is unsatisfiable exactly when all of 250 attempts on its stream are rejected, and
it then names the template, the seed, the number of attempts and the reason of the last one. -/
theorem result_of_generate (t : Template) (seed : String) :
    (∀ e, generate t seed = .error e →
      e.kind ∈ ["InvalidTemplate", "InvalidParamSpec", "UnsafeExpression", "Unsatisfiable"]) ∧
    ((∃ label reason, generate t seed = .error (.invalidTemplate label reason)) ↔
      t.answer = none) ∧
    ∀ label seed' n lastFailure,
      generate t seed = .error (.unsatisfiable label seed' n lastFailure) ↔
        ∃ answer, t.answer = some answer ∧
          (∀ k < 250, ∃ reason, outcome t answer (Draws.numbers seed) k = .rejected reason) ∧
          label = t.label ∧ seed' = seed ∧ n = 250 ∧
          ∃ reason, outcome t answer (Draws.numbers seed) 249 = .rejected reason ∧
            lastFailure = some reason := by
  refine ⟨fun e => kind_of_generate, generate_eq_invalidTemplate_iff, ?_⟩
  intro label seed' n lastFailure
  constructor
  · intro h
    cases hanswer : t.answer with
    | none =>
      rw [generate, hanswer] at h
      cases h
    | some answer =>
      obtain ⟨hall, hlabel, hseed, hn, hlast⟩ := (generate_eq_unsatisfiable_iff hanswer).1 h
      obtain ⟨reason, hreason⟩ := Attempt.result?_eq_none_iff.1 (hall 249 (by decide))
      refine ⟨answer, rfl, ?_, hlabel, hseed, hn, reason, hreason, ?_⟩
      · intro k hk
        exact Attempt.result?_eq_none_iff.1 (hall k hk)
      · rw [hlast]
        show (outcome t answer (Draws.numbers seed) 249).reason? = some reason
        rw [hreason]
        rfl
  · rintro ⟨answer, hanswer, hall, hlabel, hseed, hn, reason, hreason, hlast⟩
    refine (generate_eq_unsatisfiable_iff hanswer).2 ⟨?_, hlabel, hseed, hn, ?_⟩
    · intro k hk
      exact Attempt.result?_eq_none_iff.2 (hall k hk)
    · rw [hlast]
      show some reason = (outcome t answer (Draws.numbers seed) 249).reason?
      rw [hreason]
      rfl

/-- A template that no draws satisfy. -/
def hopeless : Template where
  id := some "hopeless"
  constraints := ["1 == 2"]
  answer := some (.number 1)

theorem result_of_generate_hopeless :
    (generate {} "s" = .error (.invalidTemplate "<anonymous>" "missing answer") ∧
      (Error.invalidTemplate "<anonymous>" "missing answer").kind ∈
        ["InvalidTemplate", "InvalidParamSpec", "UnsafeExpression", "Unsatisfiable"]) ∧
    generate hopeless "s" = .error (.unsatisfiable "hopeless" "s" 250
      (some "constraint '1 == 2' was not satisfied")) := by
  have hrejected : complete hopeless (.number 1) .empty =
      .rejected "constraint '1 == 2' was not satisfied" := by decide +kernel
  refine ⟨⟨rfl, (result_of_generate {} "s").1 _ rfl⟩, ?_⟩
  refine ((result_of_generate hopeless "s").2.2 _ _ _ _).2 ?_
  exact ⟨.number 1, rfl, fun k _ => ⟨_, hrejected⟩, rfl, rfl, rfl, _, hrejected, rfl⟩

end Generation
end QuizBank

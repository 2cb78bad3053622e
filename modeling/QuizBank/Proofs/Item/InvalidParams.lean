import QuizBank.Proofs.Item.Failures

/-!
# Parameters without a rule

A specification that makes no rule is not noticed before its parameter is drawn. An attempt comes to
the first of these parameters (`FirstFault`) unless one before it gives up (`GivesUp`): then the
attempt is rejected, and the next one begins further on in the stream. So each attempt either ends
the generation with the error of this parameter or is rejected, and nothing else can happen
(`attempt_of_drawn`, `attempt_of_givesUp`).
-/

namespace QuizBank
namespace Generation

variable {t : Template} {answer : Value} {name : String} {fault : SpecFault}
variable {before : List (String × Option ParamSpec)} {s s' : Draws}

/-- The parameter `name` is the first whose specification makes no rule, for this fault; the
parameters in front of it are `before`. -/
structure FirstFault (t : Template) (before : List (String × Option ParamSpec)) (name : String)
    (fault : SpecFault) : Prop where
  resolved : ∀ e ∈ before, ∃ rule, ParamSpec.resolve e.2 = .ok rule
  faulty : ∃ spec after, t.params.entries = before ++ (name, spec) :: after ∧
    ParamSpec.resolve spec = .error fault

/-- Drawn from this stream, one of the parameters excludes the numbers of all draws that it may
take; those in front of it have values. -/
def GivesUp (specs : List (String × Option ParamSpec)) (s : Draws) : Prop :=
  ∃ earlier name spec later values s₁ s₂, specs = earlier ++ (name, spec) :: later ∧
    Drawn earlier s values s₁ ∧
    Sampling.sample name spec s₁ = (.error (.samplingExhausted name 400), s₂)

theorem isOk_resolve_iff {spec : Option ParamSpec} :
    (ParamSpec.resolve spec).isOk = true ↔ ∃ rule, ParamSpec.resolve spec = .ok rule := by
  cases ParamSpec.resolve spec <;> simp [Except.isOk, Except.toBool]

/-- Among specifications of which one makes no rule there is a first one. -/
theorem exists_firstFault (h : ∃ e ∈ t.params.entries, ∃ f, ParamSpec.resolve e.2 = .error f) :
    ∃ before name fault, FirstFault t before name fault := by
  have hsome : (t.params.entries.find? fun e => !(ParamSpec.resolve e.2).isOk).isSome = true := by
    obtain ⟨e, he, f, hf⟩ := h
    rw [List.find?_isSome]
    exact ⟨e, he, by rw [hf]; rfl⟩
  obtain ⟨⟨name, spec⟩, hfound⟩ := Option.isSome_iff_exists.1 hsome
  obtain ⟨hfaulty, before, after, hentries, hbefore⟩ := List.find?_eq_some_iff_append.1 hfound
  cases hfault : ParamSpec.resolve spec with
  | ok rule =>
    rw [hfault] at hfaulty
    cases hfaulty
  | error fault =>
    refine ⟨before, name, fault, ?_, spec, after, hentries, hfault⟩
    intro e he
    have hok := hbefore e he
    rw [Bool.not_not] at hok
    exact isOk_resolve_iff.1 hok

/-! ### One attempt -/

/-- Parameters that all make a rule have values, or one of them gives up. -/
theorem drawn_or_givesUp (hresolved : ∀ e ∈ before, ∃ rule, ParamSpec.resolve e.2 = .ok rule)
    (s : Draws) : (∃ values s₁, Drawn before s values s₁) ∨ GivesUp before s := by
  cases hdraw : drawParams before .empty s with
  | mk result s₁ =>
    cases result with
    | ok params =>
      obtain ⟨values, hd, -⟩ := drawParams_eq_ok_iff.1 hdraw
      exact .inl ⟨values, s₁, hd⟩
    | error e =>
      obtain ⟨earlier, name, spec, later, values, s₂, rfl, hd, hsample⟩ :=
        drawParams_eq_error_iff.1 hdraw
      obtain ⟨rule, hrule⟩ := hresolved (name, spec) (by simp)
      obtain ⟨fault, hfault, -⟩ | rfl := sample_eq_error hsample
      · rw [hrule] at hfault
        cases hfault
      · exact .inr ⟨earlier, name, spec, later, values, s₂, s₁, rfl, hd, hsample⟩

/-- An attempt that comes to the parameter fails with its error. -/
theorem attempt_of_drawn (h : FirstFault t before name fault) {values : List (String × Value)}
    {s₁ : Draws} (hd : Drawn before s values s₁) :
    attempt t answer s = (.failed (.invalidParamSpec name fault.message), s₁) := by
  obtain ⟨-, spec, after, hentries, hfault⟩ := h
  have hsample : Sampling.sample name spec s₁ =
      (.error (.invalidParamSpec name fault.message), s₁) := by
    rw [Sampling.sample, hfault]
  have hdraw : drawParams t.params.entries .empty s =
      (.error (.invalidParamSpec name fault.message), s₁) :=
    drawParams_eq_error_iff.2 ⟨before, name, spec, after, values, s₁, hentries, hd, hsample⟩
  rw [attempt, hdraw]
  rfl

/-- An attempt in which a parameter in front of it gives up is rejected. -/
theorem attempt_of_givesUp (h : FirstFault t before name fault) (hup : GivesUp before s) :
    ∃ name' s₂, attempt t answer s =
      (.rejected (Error.samplingExhausted name' 400).message, s₂) := by
  obtain ⟨-, spec, after, hentries, -⟩ := h
  obtain ⟨earlier, name', spec', later, values, s₁, s₂, rfl, hd, hsample⟩ := hup
  have hdraw : drawParams t.params.entries .empty s =
      (.error (.samplingExhausted name' 400), s₂) := by
    apply drawParams_eq_error_iff.2
    refine ⟨earlier, name', spec', later ++ (name, spec) :: after, values, s₁, ?_, hd, hsample⟩
    rw [hentries, List.append_assoc]
    rfl
  refine ⟨name', s₂, ?_⟩
  rw [attempt, hdraw]
  rfl

/-- Parameters of one draw each do not give up. -/
theorem not_givesUp_of_takesOneDraw (hspecs : ∀ e ∈ before, ParamSpec.TakesOneDraw e.2) :
    ¬GivesUp before s := by
  rintro ⟨earlier, name, spec, later, values, s₁, s₂, hsplit, hd, hsample⟩
  obtain ⟨drawn, hok, -⟩ := drawParams_of_takesOneDraw hspecs .empty s.sequence s.taken
  have herror : drawParams before .empty s = (.error (.samplingExhausted name 400), s₂) :=
    drawParams_eq_error_iff.2 ⟨earlier, name, spec, later, values, s₁, hsplit, hd, hsample⟩
  have heq := hok.symm.trans herror
  cases heq

/-! ### A generation -/

/-- Where the attempt with this number begins in the stream of the seed. -/
def placeOf (t : Template) (answer : Value) (seed : String) (k : Nat) : Draws :=
  ⟨Draws.numbers seed, offset t answer (Draws.numbers seed) k⟩

theorem outcome_of_drawn (h : FirstFault t before name fault) {seed : String} {k : Nat}
    {values : List (String × Value)} {s₁ : Draws}
    (hd : Drawn before (placeOf t answer seed k) values s₁) :
    outcome t answer (Draws.numbers seed) k = .failed (.invalidParamSpec name fault.message) := by
  have hattempt := attempt_at_offset t answer (Draws.numbers seed) k
  have hfailed : attempt t answer (placeOf t answer seed k) =
      (.failed (.invalidParamSpec name fault.message), s₁) := attempt_of_drawn h hd
  exact (Prod.ext_iff.1 (hattempt.symm.trans hfailed)).1

theorem outcome_of_givesUp (h : FirstFault t before name fault) {seed : String} {k : Nat}
    (hup : GivesUp before (placeOf t answer seed k)) :
    ∃ reason, outcome t answer (Draws.numbers seed) k = .rejected reason := by
  have hattempt := attempt_at_offset t answer (Draws.numbers seed) k
  obtain ⟨name', s₂, hrejected⟩ : ∃ name' s₂, attempt t answer (placeOf t answer seed k) =
      (.rejected (Error.samplingExhausted name' 400).message, s₂) := attempt_of_givesUp h hup
  exact ⟨_, (Prod.ext_iff.1 (hattempt.symm.trans hrejected)).1⟩

/-- A generation that fails with an invalid specification does so in one of its attempts. -/
theorem exists_attempt_of_invalidParamSpec {seed reason : String}
    (h : generate t seed = .error (.invalidParamSpec name reason)) :
    ∃ answer s s', t.answer = some answer ∧
      attempt t answer s = (.failed (.invalidParamSpec name reason), s') := by
  cases hanswer : t.answer with
  | none =>
    rw [generate, hanswer] at h
    cases h
  | some answer =>
    obtain ⟨k, -, hr⟩ | ⟨-, hunsatisfiable⟩ := generate_eq_result seed hanswer
    · rw [h] at hr
      have hattempt := attempt_at_offset t answer (Draws.numbers seed) k
      cases hout : outcome t answer (Draws.numbers seed) k with
      | accepted item =>
        rw [hout] at hr
        cases hr
      | rejected why =>
        rw [hout] at hr
        cases hr
      | failed e =>
        rw [hout] at hr hattempt
        cases hr
        exact ⟨answer, _, _, rfl, hattempt⟩
    · rw [h] at hunsatisfiable
      cases hunsatisfiable

/-- An attempt fails with an invalid specification only at the first parameter that has one. -/
theorem firstFault_of_attempt {reason : String}
    (h : attempt t answer s = (.failed (.invalidParamSpec name reason), s')) :
    ∃ before fault, FirstFault t before name fault ∧ reason = fault.message := by
  rw [attempt] at h
  split at h
  · next params s₁ hdraw =>
    obtain ⟨hcomplete, -⟩ := Prod.ext_iff.1 h
    obtain ⟨source, fault, -, -, -, he⟩ := complete_eq_failed hcomplete
    cases he
  · next e s₁ hdraw =>
    obtain ⟨hparam, -⟩ := Prod.ext_iff.1 h
    obtain ⟨rfl, -⟩ := ofParamError_eq_failed hparam
    obtain ⟨before, name', spec, after, values, s₂, hentries, hd, hsample⟩ :=
      drawParams_eq_error_iff.1 hdraw
    obtain ⟨fault, hfault, he⟩ | he := sample_eq_error hsample
    · cases he
      exact ⟨before, fault, ⟨hd.exists_resolve, spec, after, hentries, hfault⟩, rfl⟩
    · cases he

/-- A generation of a template with an invalid specification ends with the error of the first one,
or it is unsatisfiable, and a parameter in front of that one gives up in every attempt. -/
theorem generate_firstFault_cases (hanswer : t.answer = some answer)
    (h : FirstFault t before name fault) (seed : String) :
    generate t seed = .error (.invalidParamSpec name fault.message) ∨
      (∃ lastFailure, generate t seed = .error (.unsatisfiable t.label seed 250 lastFailure)) ∧
        ∀ k < 250, GivesUp before (placeOf t answer seed k) := by
  obtain ⟨k, -, hr⟩ | ⟨hall, hunsatisfiable⟩ := generate_eq_result seed hanswer
  · left
    rcases drawn_or_givesUp h.resolved (placeOf t answer seed k) with ⟨values, s₁, hd⟩ | hup
    · rw [outcome_of_drawn h hd] at hr
      exact (Option.some.inj hr).symm
    · obtain ⟨reason, hreason⟩ := outcome_of_givesUp h hup
      rw [hreason] at hr
      cases hr
  · refine .inr ⟨⟨_, hunsatisfiable⟩, ?_⟩
    intro k hk
    rcases drawn_or_givesUp h.resolved (placeOf t answer seed k) with ⟨values, s₁, hd⟩ | hup
    · have hnone := hall k hk
      rw [outcome_of_drawn h hd] at hnone
      cases hnone
    · exact hup

/-- **An invalid specification shows.** A template of which some specification makes no rule has a
first such parameter. If it has an answer then a generation ends with the error of this parameter,
or is unsatisfiable. It is unsatisfiable exactly if in each of 250 attempts a parameter in front of
that one gives up, which parameters of one draw never do. No other template ends with the error of
an invalid specification. -/
theorem generate_of_firstFault (t : Template) (seed : String) :
    ((∃ e ∈ t.params.entries, ∃ f, ParamSpec.resolve e.2 = .error f) →
      ∃ before name fault, FirstFault t before name fault) ∧
    (∀ answer before name fault, t.answer = some answer → FirstFault t before name fault →
      (generate t seed = .error (.invalidParamSpec name fault.message) ∨
        ∃ lastFailure, generate t seed = .error (.unsatisfiable t.label seed 250 lastFailure)) ∧
      ((∃ lastFailure, generate t seed = .error (.unsatisfiable t.label seed 250 lastFailure)) ↔
        ∀ k < 250, GivesUp before (placeOf t answer seed k)) ∧
      ((∀ e ∈ before, ParamSpec.TakesOneDraw e.2) →
        generate t seed = .error (.invalidParamSpec name fault.message))) ∧
    ∀ name reason, generate t seed = .error (.invalidParamSpec name reason) →
      ∃ before fault, FirstFault t before name fault ∧ reason = fault.message := by
  refine ⟨exists_firstFault, ?_, ?_⟩
  · intro answer before name fault hanswer h
    have hcases := generate_firstFault_cases hanswer h seed
    refine ⟨hcases.imp_right And.left, ?_, ?_⟩
    · constructor
      · rintro ⟨lastFailure, hunsatisfiable⟩
        rcases hcases with herror | ⟨-, hup⟩
        · rw [hunsatisfiable] at herror
          cases herror
        · exact hup
      · intro hup
        refine ⟨_, generate_of_all_rejected hanswer ?_⟩
        intro k hk
        exact Attempt.result?_eq_none_iff.2 (outcome_of_givesUp h (hup k hk))
    · intro hone
      rcases hcases with herror | ⟨-, hup⟩
      · exact herror
      · exact absurd (hup 0 (by decide)) (not_givesUp_of_takesOneDraw hone)
  · intro name reason herror
    obtain ⟨answer, s, s', -, hattempt⟩ := exists_attempt_of_invalidParamSpec herror
    exact firstFault_of_attempt hattempt

/-- A template with a choice, a range that ends before it begins, and no specification at all. -/
def twoFaults : Template where
  params := .ofList [("word", some { values := some [.text "p", .text "q"] }),
    ("n", some { min := some 2, max := some 1 }), ("m", none)]
  answer := some (.text "word")

theorem generate_of_firstFault_twoFaults :
    generate twoFaults "s" = .error (.invalidParamSpec "n" "`min` is greater than `max`") ∧
      ¬∀ k < 250, GivesUp [("word", some { values := some [.text "p", .text "q"] })]
        (placeOf twoFaults (.text "word") "s" k) := by
  have hone : ∀ e ∈ [("word", some { values := some [Value.text "p", .text "q"] })],
      ParamSpec.TakesOneDraw e.2 := by
    intro e he
    rw [List.mem_singleton.1 he]
    exact ⟨⟨_, rfl⟩, _, rfl, .inl rfl⟩
  have hcrossed : ParamSpec.resolve (some { min := some 2, max := some 1 }) = .error .crossed := by
    decide +kernel
  have hfirst : FirstFault twoFaults [("word", some { values := some [.text "p", .text "q"] })] "n"
      .crossed :=
    ⟨fun e he => (hone e he).1, _, _, rfl, hcrossed⟩
  obtain ⟨-, hshows, -⟩ := generate_of_firstFault twoFaults "s"
  obtain ⟨-, hunsatisfiable, herror⟩ := hshows _ _ _ _ rfl hfirst
  refine ⟨herror hone, ?_⟩
  intro hup
  obtain ⟨lastFailure, h⟩ := hunsatisfiable.2 hup
  rw [herror hone] at h
  cases h

end Generation
end QuizBank

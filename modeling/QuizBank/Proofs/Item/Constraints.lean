import Mathlib.Data.Nat.Find
import QuizBank.Proofs.Item.Failures
import QuizBank.Proofs.Item.Options

/-!
# Constraints only filter

A constraint takes no draw and gives nothing to an item: all it can do is reject an attempt. So a
template with more constraints makes its attempts at the same places of the stream, and each of them
ends as it did before or is rejected (`outcome_constrain_cases`). What then remains is that no
attempt that was filtered out before could have ended the generation: the errors that do are those
of the template, and a template with an item has none of them (`not_refused_of_generate`). Lists of
the same constraints reject the same attempts, whatever the order of the constraints
(`result?_outcome_constrain`).
-/

namespace QuizBank

/-- The template with other constraints. -/
def Template.constrain (t : Template) (constraints : List String) : Template :=
  { t with constraints }

namespace Generation

variable {t : Template} {answer : Value} {seed : String} {item : Item} {k : Nat}

/-! ### The first attempt that is not rejected -/

/-- The attempts before number `k` are rejected, and attempt `k` accepts the item. -/
structure AcceptsAt (t : Template) (answer : Value) (seed : String) (k : Nat) (item : Item) :
    Prop where
  rejected : ∀ j < k, ∃ reason, outcome t answer (Draws.numbers seed) j = .rejected reason
  accepted : outcome t answer (Draws.numbers seed) k = .accepted item

theorem AcceptsAt.generate (h : AcceptsAt t answer seed k item) (hanswer : t.answer = some answer)
    (hk : k < maxAttempts) : generate t seed = .ok item := by
  refine generate_of_settled hanswer hk ?_ (by rw [h.accepted]; rfl)
  intro j hj
  exact Attempt.result?_eq_none_iff.2 (h.rejected j hj)

/-- Where some attempt is not rejected there is a first one. -/
theorem exists_first_settled {d : Nat → Float} {n : Nat}
    (h : (outcome t answer d n).result? ≠ none) :
    ∃ k ≤ n, (∀ j < k, ∃ reason, outcome t answer d j = .rejected reason) ∧
      (outcome t answer d k).result? ≠ none := by
  have hsome : ∃ k, (outcome t answer d k).result?.isSome = true :=
    ⟨n, Option.isSome_iff_ne_none.2 h⟩
  refine ⟨Nat.find hsome, Nat.find_min' hsome (Option.isSome_iff_ne_none.2 h), ?_, ?_⟩
  · intro j hj
    have hnone := Nat.find_min hsome hj
    exact Attempt.result?_eq_none_iff.1 (by simpa using hnone)
  · exact Option.isSome_iff_ne_none.1 (Nat.find_spec hsome)

/-- An item comes from the first attempt that is not rejected. -/
theorem exists_acceptsAt (hanswer : t.answer = some answer) (h : generate t seed = .ok item) :
    ∃ k < maxAttempts, AcceptsAt t answer seed k item := by
  obtain ⟨n, hn, item', haccepted, -⟩ | ⟨e, -, herror⟩ | ⟨-, herror⟩ := generate_cases seed hanswer
  · obtain ⟨k, hkn, hrejected, hsettled⟩ :=
      @exists_first_settled t answer (Draws.numbers seed) n (by rw [haccepted]; nofun)
    have hk : k < maxAttempts := Nat.lt_of_le_of_lt hkn hn
    obtain ⟨r, hr⟩ := Option.ne_none_iff_exists'.1 hsettled
    have hnone : ∀ j < k, (outcome t answer (Draws.numbers seed) j).result? = none := by
      intro j hj
      exact Attempt.result?_eq_none_iff.2 (hrejected j hj)
    -- The generation gives what this attempt gives, and that is the item.
    rw [generate_of_settled hanswer hk hnone hr] at h
    refine ⟨k, hk, hrejected, ?_⟩
    cases hout : outcome t answer (Draws.numbers seed) k with
    | accepted item'' =>
      rw [hout] at hr
      cases hr
      cases h
      rfl
    | rejected reason =>
      rw [hout] at hr
      cases hr
    | failed e =>
      rw [hout] at hr
      cases hr
      cases h
  · rw [herror] at h
    cases h
  · rw [herror] at h
    cases h

/-! ### Errors of a template -/

theorem resolve_of_drawParams {specs : List (String × Option ParamSpec)}
    {drawn params : OrderedMap Value} {s s' : Draws}
    (h : drawParams specs drawn s = (.ok params, s')) :
    ∀ e ∈ specs, ∃ rule, ParamSpec.resolve e.2 = .ok rule := by
  obtain ⟨values, hd, -⟩ := drawParams_eq_ok_iff.1 h
  exact hd.exists_resolve

/-- A source that has a value is none that the safety check refuses. -/
theorem safetyFault?_of_evaluate {source : String} {scope : Scope} {v : Value}
    (h : evaluate source scope = .ok v) : safetyFault? (Token.ofText source) = none := by
  cases hfault : safetyFault? (Token.ofText source) with
  | none => rfl
  | some fault =>
    rw [evaluate, Expression.compile, hfault] at h
    cases h

/-- An option that looks like an expression has the value of this expression. -/
theorem resolveOption_of_looksLikeExpression {source : String} (scope : Scope)
    (hlooks : looksLikeExpression source = true) :
    resolveOption (.text source) scope = evaluate source scope := by
  rw [resolveOption, if_pos hlooks]

theorem resolveOption_of_distractors {answerText : String} {scope : Scope} {raws kept : List Value}
    (h : distractors answerText scope raws = .ok kept) {raw : Value} (hmem : raw ∈ raws) :
    ∃ v, resolveOption raw scope = .ok v := by
  obtain ⟨resolved, hall, -⟩ := distractors_eq_ok_iff.1 h
  clear h
  induction hall with
  | nil => cases hmem
  | cons hv _ ih =>
    obtain rfl | hmem := List.mem_cons.1 hmem
    · exact ⟨_, hv⟩
    · exact ih hmem

/-- Every option of its template was worked out in an accepted attempt. -/
theorem Accepts.exists_resolveOption {params : OrderedMap Value} (h : Accepts t answer params item)
    {raw : Value} (hraw : raw = answer ∨ raw ∈ t.distractors) :
    ∃ scope v, resolveOption raw scope = .ok v := by
  obtain rfl | hmem := hraw
  · exact ⟨_, _, h.answer_eq⟩
  · exact ⟨_, resolveOption_of_distractors h.distractors_eq hmem⟩

theorem Accepts.not_refusesOption {params : OrderedMap Value} (h : Accepts t answer params item)
    (e : Error) : ¬ RefusesOption t answer e := by
  rintro ⟨source, fault, hoption, hlooks, hfault, -⟩
  obtain ⟨scope, v, hresolved⟩ := h.exists_resolveOption hoption
  rw [resolveOption_of_looksLikeExpression scope hlooks] at hresolved
  rw [safetyFault?_of_evaluate hresolved] at hfault
  cases hfault

/-- A template that has an item for some seed has no error that would end a generation, whatever
the seed. -/
theorem not_refused_of_generate (hanswer : t.answer = some answer) (h : generate t seed = .ok item)
    (e : Error) : ¬(RefusesParam t e ∨ RefusesOption t answer e) := by
  obtain ⟨answer', s₁, s₂, hanswer', hdraw, ha⟩ := accepts_of_generate h
  rw [hanswer] at hanswer'
  cases hanswer'
  rintro (⟨name, spec, fault, hmem, hfault, -⟩ | hoption)
  · obtain ⟨rule, hrule⟩ := resolve_of_drawParams hdraw _ hmem
    rw [hrule] at hfault
    cases hfault
  · exact ha.not_refusesOption e hoption

/-! ### More constraints -/

section Constrain

variable {constraints : List String}

/-- Behind its draws an attempt with more constraints ends as before, or one of them rejects it. -/
theorem complete_constrain_cases (hsub : t.constraints ⊆ constraints)
    (params : OrderedMap Value) :
    complete (t.constrain constraints) answer params = complete t answer params ∨
      ∃ reason, complete (t.constrain constraints) answer params = .rejected reason := by
  simp only [complete, Template.constrain]
  cases derive t.derived.entries params .empty with
  | error reason => exact .inl rfl
  | ok result =>
    obtain ⟨scope, derived⟩ := result
    cases hmet : constraints.findSome? (unmet? scope) with
    | some reason => exact .inr ⟨reason, by simp only [hmet]⟩
    | none =>
      -- The constraints of the template are among those that are met.
      have hfewer : t.constraints.findSome? (unmet? scope) = none := by
        rw [List.findSome?_eq_none_iff] at hmet ⊢
        intro c hc
        exact hmet c (hsub hc)
      left
      simp only [hmet, hfewer]

/-- If all constraints are met in the scope of an item, the attempt still accepts it. -/
theorem complete_constrain_accepted {params : OrderedMap Value}
    (h : complete t answer params = .accepted item)
    (hmet : ∀ c ∈ constraints, unmet? item.scope c = none) :
    complete (t.constrain constraints) answer params = .accepted item := by
  have ha := complete_eq_accepted_iff.1 h
  exact complete_eq_accepted_iff.2 { ha with met := hmet }

/-- Constraints take no draw. -/
theorem attempt_constrain (s : Draws) :
    attempt (t.constrain constraints) answer s =
      match drawParams t.params.entries .empty s with
      | (.ok params, s) => (complete (t.constrain constraints) answer params, s)
      | (.error e, s) => (ofParamError e, s) := rfl

theorem attempt_constrain_snd (s : Draws) :
    (attempt (t.constrain constraints) answer s).2 = (attempt t answer s).2 := by
  rw [attempt_constrain, attempt]
  cases drawParams t.params.entries .empty s with
  | mk result s' => cases result <;> rfl

theorem offset_constrain (d : Nat → Float) (k : Nat) :
    offset (t.constrain constraints) answer d k = offset t answer d k := by
  induction k with
  | zero => rfl
  | succ k ih => rw [offset, offset, ih, attempt_constrain_snd]

/-- An attempt with more constraints ends as the attempt of the same number, or is rejected. -/
theorem outcome_constrain_cases (hsub : t.constraints ⊆ constraints) (d : Nat → Float) (k : Nat) :
    outcome (t.constrain constraints) answer d k = outcome t answer d k ∨
      ∃ reason, outcome (t.constrain constraints) answer d k = .rejected reason := by
  rw [outcome, outcome, offset_constrain, attempt_constrain, attempt]
  cases drawParams t.params.entries .empty (.start (Draws.behind d (offset t answer d k))) with
  | mk result s =>
    cases result with
    | error e => exact .inl rfl
    | ok params => exact complete_constrain_cases hsub params

theorem outcome_constrain_accepted {d : Nat → Float}
    (h : outcome t answer d k = .accepted item)
    (hmet : ∀ c ∈ constraints, unmet? item.scope c = none) :
    outcome (t.constrain constraints) answer d k = .accepted item := by
  rw [outcome, attempt] at h
  rw [outcome, offset_constrain, attempt_constrain]
  cases hdraw : drawParams t.params.entries .empty
      (.start (Draws.behind d (offset t answer d k))) with
  | mk result s =>
    rw [hdraw] at h
    cases result with
    | error e => cases e <;> cases h
    | ok params => exact complete_constrain_accepted h hmet

/-- An accepted item stays the item of its seed as long as it meets all constraints. -/
theorem AcceptsAt.constrain (h : AcceptsAt t answer seed k item)
    (hsub : t.constraints ⊆ constraints) (hmet : ∀ c ∈ constraints, unmet? item.scope c = none) :
    AcceptsAt (t.constrain constraints) answer seed k item := by
  refine ⟨?_, outcome_constrain_accepted h.accepted hmet⟩
  intro j hj
  obtain ⟨reason, hreason⟩ := h.rejected j hj
  obtain heq | hrejected := outcome_constrain_cases hsub (Draws.numbers seed) j
  · exact ⟨reason, heq.trans hreason⟩
  · exact hrejected

/-- With fewer constraints the same attempt or an earlier one is accepted. -/
theorem AcceptsAt.exists_of_constrain (hanswer : t.answer = some answer)
    (hsub : t.constraints ⊆ constraints) (hk : k < maxAttempts)
    (h : AcceptsAt (t.constrain constraints) answer seed k item) :
    ∃ k' ≤ k, ∃ item', AcceptsAt t answer seed k' item' := by
  have hsettled : (outcome t answer (Draws.numbers seed) k).result? ≠ none := by
    obtain heq | ⟨reason, hreason⟩ := outcome_constrain_cases hsub (Draws.numbers seed) k
    · rw [← heq, h.accepted]
      nofun
    · rw [h.accepted] at hreason
      cases hreason
  obtain ⟨k', hle, hrejected, hfirst⟩ := exists_first_settled hsettled
  cases hout : outcome t answer (Draws.numbers seed) k' with
  | accepted item' => exact ⟨k', hle, item', hrejected, hout⟩
  | rejected reason => exact absurd (by rw [hout]; rfl) hfirst
  | failed e =>
    -- The error would be one of the template with more constraints, and that has an item.
    have hrefused := attempt_eq_failed (Prod.ext hout rfl)
    have hitem := AcceptsAt.generate (t := t.constrain constraints) h hanswer hk
    exact absurd hrefused (not_refused_of_generate (t := t.constrain constraints) hanswer hitem e)

end Constrain

/-! ### One constraint more -/

/-- **Constraints only filter.** Let a constraint be put anywhere among those of a template. An item
that meets it stays the item of its seed. Conversely, if the longer list has an item, the shorter
one has an item too, accepted by the same attempt or an earlier one. -/
theorem generate_constrain_filters {t : Template} {before after : List String}
    (hconstraints : t.constraints = before ++ after) (c seed : String) :
    (∀ item v, generate t seed = .ok item → evaluate c item.scope = .ok v → v.truthy = true →
      generate (t.constrain (before ++ c :: after)) seed = .ok item) ∧
    ∀ item, generate (t.constrain (before ++ c :: after)) seed = .ok item →
      ∃ answer k k' item', t.answer = some answer ∧ k' ≤ k ∧ k < 250 ∧
        AcceptsAt (t.constrain (before ++ c :: after)) answer seed k item ∧
        AcceptsAt t answer seed k' item' ∧ generate t seed = .ok item' := by
  have hsub : t.constraints ⊆ before ++ c :: after := by
    rw [hconstraints]
    intro c' hc'
    simp only [List.mem_append, List.mem_cons] at hc' ⊢
    exact hc'.imp_right .inr
  refine ⟨?_, ?_⟩
  · intro item v hitem hv htruthy
    obtain ⟨answer, _, _, hanswer, -, ha⟩ := accepts_of_generate hitem
    obtain ⟨k, hk, haccepts⟩ := exists_acceptsAt hanswer hitem
    refine (haccepts.constrain hsub ?_).generate hanswer hk
    intro c' hc'
    simp only [List.mem_append, List.mem_cons] at hc'
    obtain hbefore | rfl | hafter := hc'
    · exact ha.met c' (by rw [hconstraints]; exact List.mem_append_left _ hbefore)
    · exact unmet?_eq_none_iff.2 ⟨v, hv, htruthy⟩
    · exact ha.met c' (by rw [hconstraints]; exact List.mem_append_right _ hafter)
  · intro item hitem
    obtain ⟨answer, _, _, hanswer, -, -⟩ := accepts_of_generate hitem
    obtain ⟨k, hk, haccepts⟩ := exists_acceptsAt hanswer hitem
    obtain ⟨k', hle, item', haccepts'⟩ :=
      AcceptsAt.exists_of_constrain (t := t) hanswer hsub hk haccepts
    exact ⟨answer, k, k', item', hanswer, hle, hk, haccepts, haccepts',
      haccepts'.generate hanswer (Nat.lt_of_le_of_lt hle hk)⟩

/-- A constraint that the item of `twoDraws` meets changes nothing; the item of `twoDraws` without
its constraint is another one, and there is one. -/
theorem generate_constrain_filters_twoDraws :
    generate (twoDraws.constrain ["word == 'q'", "n > 2"]) "1" = .ok thirdAttempt ∧
      ∃ k k' item, k' ≤ k ∧ AcceptsAt twoDraws (.text "n") "1" k thirdAttempt ∧
        AcceptsAt (twoDraws.constrain []) (.text "n") "1" k' item ∧ item ≠ thirdAttempt := by
  have hitem : generate twoDraws "1" = .ok thirdAttempt := by decide +kernel
  have hmet : evaluate "n > 2" thirdAttempt.scope = .ok (.bool true) := by decide +kernel
  refine ⟨(@generate_constrain_filters twoDraws ["word == 'q'"] [] rfl "n > 2" "1").1 _ _ hitem
    hmet rfl, ?_⟩
  obtain ⟨answer, k, k', item, hanswer, hle, -, haccepts, haccepts', hgenerate⟩ :=
    (@generate_constrain_filters (twoDraws.constrain []) [] [] rfl "word == 'q'" "1").2 _ hitem
  cases hanswer
  refine ⟨k, k', item, hle, haccepts, haccepts', ?_⟩
  rintro rfl
  have hother : generate (twoDraws.constrain []) "1" ≠ .ok thirdAttempt := by decide +kernel
  exact hother hgenerate

/-! ### The list as a set -/

section SameSet

variable {constraints : List String} (hsame : ∀ c, c ∈ constraints ↔ c ∈ t.constraints)
include hsame

/-- Lists of the same constraints let the same attempts through, with the same items and errors. A
rejection may have another reason, for it names the first constraint that is not met. -/
theorem result?_outcome_constrain (d : Nat → Float) (k : Nat) :
    (outcome (t.constrain constraints) answer d k).result? = (outcome t answer d k).result? := by
  have hmore : t.constraints ⊆ constraints := fun c => (hsame c).2
  have hfewer : constraints ⊆ t.constraints := fun c => (hsame c).1
  obtain heq | ⟨reason, hreason⟩ := @outcome_constrain_cases t answer _ hmore d k
  · rw [heq]
  -- The template itself has, of the constraints of the other one, no more than these.
  obtain heq | ⟨reason', hreason'⟩ :=
    @outcome_constrain_cases (t.constrain constraints) answer t.constraints hfewer d k
  · exact congrArg Attempt.result? heq.symm
  · have hreason' : outcome t answer d k = .rejected reason' := hreason'
    rw [hreason, hreason']
    rfl

theorem generate_constrain_of_rejected (hanswer : t.answer = some answer)
    (hrejected : ∀ k < maxAttempts, (outcome t answer (Draws.numbers seed) k).result? = none) :
    ∃ reason, generate (t.constrain constraints) seed =
      .error (.unsatisfiable t.label seed maxAttempts (some reason)) := by
  have hrejected' : ∀ k < maxAttempts,
      (outcome (t.constrain constraints) answer (Draws.numbers seed) k).result? = none := by
    intro k hk
    rw [result?_outcome_constrain hsame, hrejected k hk]
  have hlast : maxAttempts - 1 < maxAttempts := by decide
  obtain ⟨reason, hreason⟩ := Attempt.result?_eq_none_iff.1 (hrejected' _ hlast)
  refine ⟨reason, ?_⟩
  rw [generate_of_all_rejected (t := t.constrain constraints) hanswer hrejected', hreason]
  rfl

end SameSet

/-- **Constraints count as a set.** Let two templates differ only in their constraints, and let both
have the same ones, in any order and with any repetition. For every seed they have the same item or
the same error; only if both are unsatisfiable, the reasons of their last attempts may differ. -/
theorem generate_constrain_set {t : Template} {constraints : List String}
    (hsame : ∀ c, c ∈ constraints ↔ c ∈ t.constraints) (seed : String) :
    generate (t.constrain constraints) seed = generate t seed ∨
      ∃ reason reason',
        generate t seed = .error (.unsatisfiable t.label seed 250 (some reason)) ∧
        generate (t.constrain constraints) seed =
          .error (.unsatisfiable t.label seed 250 (some reason')) := by
  cases hanswer : t.answer with
  | none =>
    left
    rw [generate, generate, hanswer, Template.constrain, hanswer]
    rfl
  | some answer =>
    by_cases hrejected : ∀ k < maxAttempts,
        (outcome t answer (Draws.numbers seed) k).result? = none
    · right
      obtain ⟨reason, hreason⟩ :=
        generate_constrain_of_rejected (fun c => Iff.rfl) hanswer hrejected
      obtain ⟨reason', hreason'⟩ := generate_constrain_of_rejected hsame hanswer hrejected
      exact ⟨reason, reason', hreason, hreason'⟩
    · left
      push Not at hrejected
      obtain ⟨n, hn, hsettled⟩ := hrejected
      obtain ⟨k, hkn, hbefore, hfirst⟩ := exists_first_settled hsettled
      have hk : k < maxAttempts := Nat.lt_of_le_of_lt hkn hn
      have hnone : ∀ j < k, (outcome t answer (Draws.numbers seed) j).result? = none :=
        fun j hj => Attempt.result?_eq_none_iff.2 (hbefore j hj)
      obtain ⟨r, hr⟩ := Option.ne_none_iff_exists'.1 hfirst
      -- With either list this attempt is the first that is not rejected, and it gives the same.
      rw [generate_of_settled hanswer hk hnone hr]
      refine generate_of_settled (t := t.constrain constraints) hanswer hk ?_ ?_
      · intro j hj
        rw [result?_outcome_constrain hsame, hnone j hj]
      · rw [result?_outcome_constrain hsame, hr]

/-- In another order and with a repetition the constraints of `twoDraws` still give its item. -/
theorem generate_constrain_set_twoDraws :
    (∀ c, c ∈ ["n > 2", "word == 'q'", "n > 2"] ↔ c ∈ ["word == 'q'", "n > 2"]) ∧
      generate (twoDraws.constrain ["word == 'q'", "n > 2"]) "1" = .ok thirdAttempt ∧
      generate (twoDraws.constrain ["n > 2", "word == 'q'", "n > 2"]) "1" = .ok thirdAttempt := by
  have hsame : ∀ c, c ∈ ["n > 2", "word == 'q'", "n > 2"] ↔ c ∈ ["word == 'q'", "n > 2"] := by
    intro c
    simp only [List.mem_cons, List.not_mem_nil, or_false]
    tauto
  have hitem : generate (twoDraws.constrain ["word == 'q'", "n > 2"]) "1" = .ok thirdAttempt := by
    decide +kernel
  refine ⟨hsame, hitem, ?_⟩
  obtain heq | ⟨_, _, herror, -⟩ :=
    @generate_constrain_set (twoDraws.constrain ["word == 'q'", "n > 2"]) _ hsame "1"
  · exact heq.trans hitem
  · rw [hitem] at herror
    cases herror

end Generation
end QuizBank

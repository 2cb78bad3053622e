import QuizBank.Proofs.Item.Acceptance
import QuizBank.Proofs.Item.Drawing

/-!
# One stream for all attempts

A generation makes its attempts on one stream: each begins where the one before it stopped. So the
attempts can be numbered, each with the place of the stream at which it begins (`offset`) and the way
it ends there (`outcome`), and a generation gives what the first attempt gives that is not rejected.
Where every parameter takes one draw, the attempts stand at equal distances.
-/

namespace QuizBank

namespace Attempt

/-- What a generation gives whose last attempt ends in this way; nothing if it has to go on. -/
def result? : Attempt → Option (Except Error Item)
  | accepted item => some (.ok item)
  | rejected _ => none
  | failed e => some (.error e)

/-- The reason of a rejection. -/
def reason? : Attempt → Option String
  | rejected reason => some reason
  | _ => none

theorem result?_eq_none_iff {a : Attempt} : a.result? = none ↔ ∃ reason, a = .rejected reason := by
  cases a <;> simp [result?]

end Attempt

namespace Generation

/-! ### Attempts by number -/

theorem attempt_inOrder (t : Template) (answer : Value) : Draws.InOrder (attempt t answer) := by
  have h := (drawParams_inOrder t.params.entries .empty).map fun
    | .ok params => complete t answer params
    | .error e => ofParamError e
  refine h.congr ?_
  intro s
  rw [attempt]
  cases drawParams t.params.entries .empty s with
  | mk result s => cases result <;> rfl

section Numbered

variable (t : Template) (answer : Value) (d : Nat → Float)

/-- The place at which an attempt begins: behind the draws of all attempts before it. -/
def offset : Nat → Nat
  | 0 => 0
  | k + 1 => offset k + (attempt t answer (.start (Draws.behind d (offset k)))).2.taken

/-- How an attempt ends on the numbers from its place on. -/
def outcome (k : Nat) : Attempt :=
  (attempt t answer (.start (Draws.behind d (offset t answer d k)))).1

theorem attempt_at_offset (k : Nat) :
    attempt t answer ⟨d, offset t answer d k⟩ =
      (outcome t answer d k, ⟨d, offset t answer d (k + 1)⟩) :=
  attempt_inOrder t answer d (offset t answer d k)

/-- The attempts from one number on give what the first of them gives that is not rejected, or the
reason of the last of them. -/
theorem attempts_at_offset (seed : String) (n k : Nat) (lastFailure : Option String) :
    attempts t answer seed (n + 1) lastFailure ⟨d, offset t answer d k⟩ =
      ((List.range' k (n + 1)).findSome? fun i => (outcome t answer d i).result?).getD
        (.error (.unsatisfiable t.label seed maxAttempts (outcome t answer d (k + n)).reason?)) := by
  induction n generalizing k lastFailure with
  | zero =>
    rw [attempts, attempt_at_offset, List.range'_succ, List.findSome?_cons]
    rw [List.range'_zero, List.findSome?_nil, Nat.add_zero]
    cases outcome t answer d k <;> rfl
  | succ n ih =>
    rw [attempts, attempt_at_offset, List.range'_succ, List.findSome?_cons]
    cases outcome t answer d k with
    | accepted item => rfl
    | failed e => rfl
    | rejected reason =>
      show attempts t answer seed (n + 1) (some reason) ⟨d, offset t answer d (k + 1)⟩ = _
      rw [ih, Nat.add_assoc, Nat.add_comm 1]
      rfl

end Numbered

variable {t : Template} {answer : Value} {seed : String}

/-- A generation in terms of its attempts. -/
theorem generate_eq_findSome (hanswer : t.answer = some answer) :
    generate t seed =
      ((List.range maxAttempts).findSome? fun i =>
          (outcome t answer (Draws.numbers seed) i).result?).getD
        (.error (.unsatisfiable t.label seed maxAttempts
          (outcome t answer (Draws.numbers seed) (maxAttempts - 1)).reason?)) := by
  rw [generate, hanswer, List.range_eq_range']
  have h := attempts_at_offset t answer (Draws.numbers seed) seed 249 0 none
  rw [Nat.zero_add] at h
  exact h

theorem generate_of_settled (hanswer : t.answer = some answer) {k : Nat} (hk : k < maxAttempts)
    (hrejected : ∀ j < k, (outcome t answer (Draws.numbers seed) j).result? = none)
    {r : Except Error Item} (hr : (outcome t answer (Draws.numbers seed) k).result? = some r) :
    generate t seed = r := by
  have hfound : (List.range maxAttempts).findSome?
      (fun i => (outcome t answer (Draws.numbers seed) i).result?) = some r := by
    refine List.findSome?_eq_some_iff.2 ?_
    refine ⟨List.range k, k, List.range' (k + 1) (maxAttempts - (k + 1)), ?_, hr, ?_⟩
    · rw [← List.range'_succ, List.range_eq_range', List.range_eq_range']
      have hsplit := List.range'_append_1 (s := 0) (m := k) (n := maxAttempts - (k + 1) + 1)
      have hcount : k + (maxAttempts - (k + 1) + 1) = maxAttempts := by omega
      rw [Nat.zero_add, hcount] at hsplit
      exact hsplit.symm
    · intro j hj
      exact hrejected j (List.mem_range.1 hj)
  rw [generate_eq_findSome hanswer, hfound]
  rfl

theorem generate_of_all_rejected (hanswer : t.answer = some answer)
    (hrejected : ∀ k < maxAttempts, (outcome t answer (Draws.numbers seed) k).result? = none) :
    generate t seed = .error (.unsatisfiable t.label seed maxAttempts
      (outcome t answer (Draws.numbers seed) (maxAttempts - 1)).reason?) := by
  have hnone : (List.range maxAttempts).findSome?
      (fun i => (outcome t answer (Draws.numbers seed) i).result?) = none :=
    List.findSome?_eq_none_iff.2 fun k hk => hrejected k (List.mem_range.1 hk)
  rw [generate_eq_findSome hanswer, hnone]
  rfl

/-! ### Attempts of equal length -/

/-- The draws of the parameters are all that an attempt takes. -/
theorem attempt_of_drawParams {s s' : Draws} {params : OrderedMap Value}
    (h : drawParams t.params.entries .empty s = (.ok params, s')) :
    attempt t answer s = (complete t answer params, s') := by
  rw [attempt, h]

section OneDraw

variable (d : Nat → Float) (hspecs : ∀ e ∈ t.params.entries, ParamSpec.TakesOneDraw e.2)
include hspecs

theorem offset_of_takesOneDraw (k : Nat) : offset t answer d k = k * t.params.size := by
  induction k with
  | zero => rw [offset, Nat.zero_mul]
  | succ k ih =>
    obtain ⟨values, hdraw, -⟩ :=
      drawParams_of_takesOneDraw hspecs .empty (Draws.behind d (offset t answer d k)) 0
    rw [offset, Draws.start, attempt_of_drawParams hdraw, ih]
    show k * t.params.size + (0 + t.params.size) = _
    rw [Nat.zero_add, Nat.succ_mul]

/-- The parameters of an accepted attempt are made from its draws, one by one. -/
theorem params_of_takesOneDraw {k : Nat} {item : Item}
    (hitem : outcome t answer d k = .accepted item) {i : Nat} {name : String}
    {spec : Option ParamSpec} {rule : Rule} (hi : t.params.entries[i]? = some (name, spec))
    (hrule : ParamSpec.resolve spec = .ok rule) :
    item.params.entries[i]? = some (name, rule.value (d (k * t.params.size + i))) := by
  obtain ⟨values, hdraw, hnames, hvalues⟩ :=
    drawParams_of_takesOneDraw hspecs .empty (Draws.behind d (offset t answer d k)) 0
  have hcomplete : complete t answer (OrderedMap.ofList values) = .accepted item := by
    rw [outcome, Draws.start, attempt_of_drawParams hdraw] at hitem
    exact hitem
  have hparams := (complete_eq_accepted_iff.1 hcomplete).params_eq
  have hentries : (OrderedMap.ofList values).entries = values :=
    OrderedMap.entries_ofList (hnames ▸ t.params.nodup)
  rw [hparams, hentries, hvalues i name spec rule hi hrule, Draws.behind,
    offset_of_takesOneDraw d hspecs, Nat.zero_add]

end OneDraw

/-! ### The stream of a generation -/

/-- **One stream for the whole generation.** With the attempts numbered along the numbers of the
seed, each beginning where the one before it stopped, a generation gives what the first of 250
attempts gives that is not rejected, and is unsatisfiable if all are. If each of `m` parameters
takes one draw, attempt `k` begins at place `k * m`, and the parameter at place `i` of an item that
it accepts is made from the number at place `k * m + i`. -/
theorem generate_one_stream (hanswer : t.answer = some answer) :
    (∀ k < 250,
      (∀ j < k, ∃ reason, outcome t answer (Draws.numbers seed) j = .rejected reason) →
      (∀ item, outcome t answer (Draws.numbers seed) k = .accepted item →
        generate t seed = .ok item) ∧
      ∀ e, outcome t answer (Draws.numbers seed) k = .failed e → generate t seed = .error e) ∧
    ((∀ k < 250, ∃ reason, outcome t answer (Draws.numbers seed) k = .rejected reason) →
      ∃ lastFailure, generate t seed = .error (.unsatisfiable t.label seed 250 lastFailure)) ∧
    ((∀ e ∈ t.params.entries, ParamSpec.TakesOneDraw e.2) →
      (∀ k, offset t answer (Draws.numbers seed) k = k * t.params.size) ∧
      ∀ k item, outcome t answer (Draws.numbers seed) k = .accepted item →
        ∀ (i : Nat) name spec, t.params.entries[i]? = some (name, spec) →
          ∃ rule, ParamSpec.resolve spec = .ok rule ∧ item.params.entries[i]? =
            some (name, rule.value (Draws.numbers seed (k * t.params.size + i)))) := by
  refine ⟨?_, ?_, ?_⟩
  · intro k hk hrejected
    have hnone : ∀ j < k, (outcome t answer (Draws.numbers seed) j).result? = none := by
      intro j hj
      exact Attempt.result?_eq_none_iff.2 (hrejected j hj)
    refine ⟨?_, ?_⟩
    · intro item hitem
      exact generate_of_settled hanswer hk hnone (by rw [hitem]; rfl)
    · intro e he
      exact generate_of_settled hanswer hk hnone (by rw [he]; rfl)
  · intro hrejected
    refine ⟨_, generate_of_all_rejected hanswer ?_⟩
    intro k hk
    exact Attempt.result?_eq_none_iff.2 (hrejected k hk)
  · intro hspecs
    refine ⟨offset_of_takesOneDraw _ hspecs, ?_⟩
    intro k item hitem i name spec hi
    obtain ⟨rule, hrule⟩ := (hspecs _ (List.mem_of_getElem? hi)).1
    exact ⟨rule, hrule, params_of_takesOneDraw _ hspecs hitem hi hrule⟩

/-- A template of two draws an attempt, of which the constraint rejects half. -/
def twoDraws : Template where
  stem := "\x7b\x7bn\x7d\x7d"
  params := .ofList [("word", some { values := some [.text "p", .text "q"] }),
    ("n", some { min := some 1, max := some 6 })]
  constraints := ["word == 'q'"]
  answer := some (.text "n")

/-- The item of `twoDraws` that the third attempt accepts. -/
def thirdAttempt : Item where
  stem := "3"
  params := .ofList [("word", .text "q"), ("n", .number 3)]
  derived := .empty
  answer := .number 3
  distractors := []

theorem generate_one_stream_third :
    generate twoDraws "1" = .ok thirdAttempt ∧
      offset twoDraws (.text "n") (Draws.numbers "1") 2 = 4 ∧
      ∃ rule, ParamSpec.resolve (some { min := some 1, max := some 6 }) = .ok rule ∧
        thirdAttempt.params.entries[1]? = some ("n", rule.value (Draws.numbers "1" 5)) := by
  have hrange : ParamSpec.resolve (some { min := some 1, max := some 6 }) =
      .ok (.whole 1 6) := by decide +kernel
  have hspecs : ∀ e ∈ twoDraws.params.entries, ParamSpec.TakesOneDraw e.2 := by
    intro e he
    have he : e ∈ [("word", some { values := some [.text "p", .text "q"] }),
        ("n", some { min := some 1, max := some 6 })] := he
    obtain rfl | rfl := by simpa using he
    · exact ⟨⟨_, rfl⟩, _, rfl, .inl rfl⟩
    · exact ⟨⟨_, hrange⟩, _, rfl, .inr rfl⟩
  have hrejected : ∀ j < 2, ∃ reason,
      outcome twoDraws (.text "n") (Draws.numbers "1") j = .rejected reason := by
    intro j hj
    refine ⟨"constraint 'word == 'q'' was not satisfied", ?_⟩
    obtain rfl | rfl : j = 0 ∨ j = 1 := by omega
    · decide +kernel
    · decide +kernel
  have hitem : outcome twoDraws (.text "n") (Draws.numbers "1") 2 = .accepted thirdAttempt := by
    decide +kernel
  obtain ⟨hsettled, -, hone⟩ := @generate_one_stream twoDraws (.text "n") "1" rfl
  obtain ⟨hoffset, hparams⟩ := hone hspecs
  exact ⟨(hsettled 2 (by decide) hrejected).1 _ hitem, hoffset 2,
    hparams 2 _ hitem 1 "n" _ rfl⟩

end Generation
end QuizBank

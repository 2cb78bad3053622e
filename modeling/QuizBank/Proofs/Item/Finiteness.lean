import QuizBank.Proofs.Item.Constraints
import QuizBank.Proofs.Item.RangeBounds
import QuizBank.Proofs.Json.Writing
import QuizBank.Proofs.Template.Contents

/-!
# Finite numbers

A number comes into an item from a literal of the template, from an expression, through a variable,
or from a range. Literals are finite where the template's are, expressions refuse other results, and
variables have their numbers from elsewhere. A range looks at its bounds and not at its width: where
the width is too large for a double, its number is not finite (`ParamSpec.TooWide`), and the text of
the item has `null` in its place. There is no other way for that to happen.
-/

namespace QuizBank

open Json

/-- The value is no infinity and not NaN. -/
def Value.IsFinite (v : Value) : Prop := ∀ x, v = .number x → x.isFinite = true

theorem Value.isFinite_number_iff {x : Float} :
    (Value.number x).IsFinite ↔ x.isFinite = true := by
  constructor
  · intro h
    exact h x rfl
  · rintro h y hy
    cases hy
    exact h

instance : (v : Value) → Decidable v.IsFinite
  | .bool _ => isTrue fun _ h => by cases h
  | .text _ => isTrue fun _ h => by cases h
  | .number x => decidable_of_iff (x.isFinite = true) Value.isFinite_number_iff.symm

/-- The rule is a range with a width that is too large for a double. -/
def ParamSpec.TooWide (s : ParamSpec) : Prop :=
  s.values = none ∧ ∃ lo hi, s.bounds? = some (lo, hi) ∧ (hi - lo).isFinite = false

instance (s : ParamSpec) : Decidable s.TooWide :=
  decidable_of_iff (s.values = none ∧ s.bounds?.any (fun b => !(b.2 - b.1).isFinite) = true) (by
    rw [ParamSpec.TooWide, Option.any_eq_true]
    simp)

/-- All values of an item: of its parameters, derived, answer, distractors. -/
def Item.values (item : Item) : List Value :=
  item.params.entries.map Prod.snd ++
    (item.derived.entries.map Prod.snd ++ item.answer :: item.distractors)

/-! ### Parameters -/

namespace Sampling

/-- A range gives finite numbers exactly if its width is a double. -/
theorem isFinite_candidate_iff {lo hi r : Float} {l h : ℚ} (hs : Spans lo hi l h)
    (hr : Draws.IsDraw r) : (candidate lo hi r).isFinite = true ↔ (hi - lo).isFinite = true := by
  constructor
  · intro hcandidate
    cases hwidth : (hi - lo).isFinite with
    | true => rfl
    | false =>
      rw [candidate_of_not_finite hwidth] at hcandidate
      cases hcandidate
  · intro hwidth
    obtain ⟨q, hq, hnonneg, hle⟩ := Draws.bounds_of_isDraw hr
    exact (Number.isFinite_iff _).2 ⟨_, hs.value?_candidate hwidth hq hnonneg hle⟩

/-- A value that is chosen is one of the list. -/
theorem sample_of_values {name : String} {p : ParamSpec} {values : List Value} {s s' : Draws}
    {v : Value} (hvalues : p.values = some values) (h : sample name (some p) s = (.ok v, s')) :
    v ∈ values := by
  cases values with
  | nil =>
    have hresolve : ParamSpec.resolve (some p) = .error .emptyValues := by
      simp only [ParamSpec.resolve, hvalues]
    rw [sample, hresolve] at h
    cases h
  | cons w ws =>
    have hresolve : ParamSpec.resolve (some p) = .ok (.choice (w :: ws) (by simp)) := by
      simp only [ParamSpec.resolve, hvalues]
    rw [sample, hresolve] at h
    cases h
    exact List.get_mem _ _

/-- A parameter that was drawn has a specification. -/
theorem spec_of_sample {name : String} {spec : Option ParamSpec} {s s' : Draws} {v : Value}
    (h : sample name spec s = (.ok v, s')) : ∃ p, spec = some p := by
  cases spec with
  | none => cases h
  | some p => exact ⟨p, rfl⟩

/-- A parameter that was drawn is finite unless its rule is too wide a range. -/
theorem isFinite_sample_iff {name : String} {p : ParamSpec} {s s' : Draws} {v : Value}
    (h : sample name (some p) s = (.ok v, s')) (hproper : s.Proper)
    (hliterals : ∀ w ∈ p.literals, w.IsFinite) : v.IsFinite ↔ ¬p.TooWide := by
  obtain ⟨rule, hrule⟩ := resolve_of_sample h
  cases hvalues : p.values with
  | some values =>
    have hmem := ParamSpec.mem_literals.2 (.inl ⟨values, hvalues, sample_of_values hvalues h⟩)
    refine iff_of_true (hliterals v hmem) ?_
    rintro ⟨hnone, -⟩
    cases hvalues.symm.trans hnone
  | none =>
    cases hbounds : p.bounds? with
    | none =>
      simp only [ParamSpec.resolve, hvalues, hbounds] at hrule
      cases hrule
    | some bounds =>
      obtain ⟨lo, hi⟩ := bounds
      obtain ⟨⟨l, u, hs⟩, hsample⟩ := sample_of_bounds hvalues hbounds hrule
      rw [hsample] at h
      obtain ⟨n, rfl, -⟩ := fromRange_eq_ok h
      rw [Value.isFinite_number_iff, isFinite_candidate_iff hs (hproper n)]
      constructor
      · rintro hwidth ⟨-, lo', hi', hbounds', hwide⟩
        cases hbounds.symm.trans hbounds'
        rw [hwidth] at hwide
        cases hwide
      · intro hnarrow
        rw [← Bool.not_eq_false]
        intro hwide
        exact hnarrow ⟨hvalues, lo, hi, hbounds, hwide⟩

end Sampling

/-- What a function takes from a stream does not change the numbers of the stream. -/
theorem Draws.InOrder.proper {α : Type} {f : Draws → α × Draws} (hf : InOrder f) {s : Draws}
    (hs : s.Proper) : (f s).2.Proper := by
  have h := hf s.sequence s.taken
  intro n
  show IsDraw ((f ⟨s.sequence, s.taken⟩).2.sequence n)
  rw [h]
  exact hs n

theorem Draws.Proper.behind {s : Draws} (hs : s.Proper) (n : Nat) :
    (start (Draws.behind s.sequence n)).Proper := fun i => hs (n + i)

namespace Generation

/-- The parameters that were drawn have rules, and are finite exactly if no rule is too wide. -/
theorem forall_isFinite_of_drawn {specs : List (String × Option ParamSpec)}
    {values : List (String × Value)} {s s' : Draws} (h : Drawn specs s values s')
    (hproper : s.Proper)
    (hliterals : ∀ p ∈ specs.filterMap Prod.snd, ∀ w ∈ p.literals, w.IsFinite) :
    (∀ e ∈ values, e.2.IsFinite) ↔ ∀ p ∈ specs.filterMap Prod.snd, ¬p.TooWide := by
  induction h with
  | nil => exact iff_of_true (List.forall_mem_nil _) (List.forall_mem_nil _)
  | @cons name spec v rest values s s₁ s₂ hv _ ih =>
    have hproper₁ : s₁.Proper := by
      have hafter := (Sampling.sample_inOrder name spec).proper hproper
      rwa [hv] at hafter
    obtain ⟨p, rfl⟩ := Sampling.spec_of_sample hv
    have hspecs : ((name, some p) :: rest).filterMap Prod.snd = p :: rest.filterMap Prod.snd := rfl
    rw [hspecs, List.forall_mem_cons] at hliterals
    rw [hspecs, List.forall_mem_cons, List.forall_mem_cons,
      Sampling.isFinite_sample_iff hv hproper hliterals.1, ih hproper₁ hliterals.2]

/-- An item was drawn from a stream of proper numbers. -/
theorem exists_proper_of_generate {t : Template} {seed : String} {item : Item}
    (h : generate t seed = .ok item) :
    ∃ answer s₁ s₂, t.answer = some answer ∧ s₁.Proper ∧
      drawParams t.params.entries .empty s₁ = (.ok item.params, s₂) ∧
      Accepts t answer item.params item := by
  obtain ⟨answer, -, -, hanswer, -, -⟩ := accepts_of_generate h
  obtain ⟨k, -, hk⟩ := exists_acceptsAt hanswer h
  -- The attempt begins where those before it have left the stream of the seed.
  obtain ⟨hdraw, haccepts⟩ := accepts_of_attempt (Prod.ext hk.accepted rfl)
  exact ⟨answer, _, _, hanswer, (Draws.proper_ofSeed seed).behind _, hdraw, haccepts⟩

end Generation

/-! ### Expressions and variables -/

theorem isFinite_of_requireFinite {v w : Value} (h : Expression.requireFinite v = .ok w) :
    w.IsFinite := by
  cases v with
  | number x =>
    rw [Expression.requireFinite] at h
    split at h
    · next hx =>
      cases h
      exact Value.isFinite_number_iff.2 hx
    · cases h
  | bool b =>
    cases h
    exact fun _ hx => by cases hx
  | text s =>
    cases h
    exact fun _ hx => by cases hx

/-- An expression has no value that is not finite, whatever it sees. -/
theorem isFinite_of_evaluate {source : String} {scope : Scope} {v : Value}
    (h : evaluate source scope = .ok v) : v.IsFinite := by
  obtain ⟨e, -, -, hfinite⟩ := evaluate_eq_ok_iff.1 h
  exact isFinite_of_requireFinite hfinite

/-- All values of the variables are finite. -/
def AllFinite (m : Scope) : Prop := ∀ e ∈ m.entries, e.2.IsFinite

namespace AllFinite

variable {m : Scope}

theorem insert (h : AllFinite m) {name : String} {v : Value} (hv : v.IsFinite) :
    AllFinite (m.insert name v) := by
  intro e he
  rcases OrderedMap.eq_or_mem_of_mem_insertEntry he with rfl | he
  · exact hv
  · exact h e he

theorem insertAll (h : AllFinite m) {l : List (String × Value)} (hl : ∀ e ∈ l, e.2.IsFinite) :
    AllFinite (m.insertAll l) := by
  induction l generalizing m with
  | nil => exact h
  | cons e rest ih =>
    rw [List.forall_mem_cons] at hl
    exact ih (h.insert hl.1) hl.2

theorem get? (h : AllFinite m) {name : String} {v : Value} (hv : m.get? name = some v) :
    v.IsFinite := by
  obtain ⟨e, he, rfl⟩ := Option.map_eq_some_iff.1 hv
  exact h e (List.mem_of_find?_eq_some he)

end AllFinite

namespace Generation

theorem isFinite_of_resolveOption {raw v : Value} {scope : Scope} (hraw : raw.IsFinite)
    (hscope : AllFinite scope) (h : resolveOption raw scope = .ok v) : v.IsFinite := by
  cases raw with
  | bool b =>
    cases h
    exact hraw
  | number x =>
    cases h
    exact hraw
  | text source =>
    rw [resolveOption] at h
    split at h
    · exact isFinite_of_evaluate h
    · cases h
      cases hget : scope.get? source with
      | none => exact hraw
      | some w => exact hscope.get? hget

theorem isFinite_of_derivation {scope : Scope} {definitions : List (String × String)}
    {values : List (String × Value)} (h : Derivation scope definitions values) :
    ∀ e ∈ values, e.2.IsFinite := by
  induction h with
  | nil => exact List.forall_mem_nil _
  | cons hv _ ih => exact List.forall_mem_cons.2 ⟨isFinite_of_evaluate hv, ih⟩

theorem isFinite_of_distractors {answerText : String} {scope : Scope} {raws kept : List Value}
    (hraws : ∀ v ∈ raws, v.IsFinite) (hscope : AllFinite scope)
    (h : distractors answerText scope raws = .ok kept) : ∀ v ∈ kept, v.IsFinite := by
  obtain ⟨resolved, hall, rfl⟩ := distractors_eq_ok_iff.1 h
  have hresolved : ∀ v ∈ resolved, v.IsFinite := by
    clear h
    induction hall with
    | nil => exact List.forall_mem_nil _
    | cons hv _ ih =>
      rw [List.forall_mem_cons] at hraws
      exact List.forall_mem_cons.2 ⟨isFinite_of_resolveOption hraws.1 hscope hv, ih hraws.2⟩
  intro v hv
  exact hresolved v (List.mem_of_mem_filter hv)

end Generation

theorem Item.mem_values {item : Item} {v : Value} :
    v ∈ item.values ↔ (∃ e ∈ item.params.entries, e.2 = v) ∨ (∃ e ∈ item.derived.entries, e.2 = v) ∨
      v = item.answer ∨ v ∈ item.distractors := by
  rw [values, List.mem_append, List.mem_append, List.mem_map, List.mem_map, List.mem_cons]

namespace Generation

/-- What an item holds is finite if its parameters are. -/
theorem isFinite_of_accepts {t : Template} {answer : Value} {item : Item}
    (hanswer : answer.IsFinite) (hdistractors : ∀ v ∈ t.distractors, v.IsFinite)
    (h : Accepts t answer item.params item) (hparams : AllFinite item.params) :
    ∀ v ∈ item.values, v.IsFinite := by
  have hderived := isFinite_of_derivation h.derivation
  have hscope : AllFinite item.scope := hparams.insertAll hderived
  have hfinite := isFinite_of_resolveOption hanswer hscope h.answer_eq
  have hoptions := isFinite_of_distractors hdistractors (hscope.insert hfinite) h.distractors_eq
  intro v hv
  rcases Item.mem_values.1 hv with ⟨e, he, rfl⟩ | ⟨e, he, rfl⟩ | rfl | hv
  · exact hparams e he
  · exact hderived e he
  · exact hfinite
  · exact hoptions v hv

end Generation

namespace Json

/-! ### Texts with null -/

/-- Somewhere in the tree there is a `null`. -/
inductive HoldsNull : Json → Prop
  | here : HoldsNull .null
  | item {items j} : j ∈ items → HoldsNull j → HoldsNull (.array items)
  | member {members m} : m ∈ members → HoldsNull m.2 → HoldsNull (.object members)

theorem holdsNull_array_iff {items : List Json} :
    (array items).HoldsNull ↔ ∃ j ∈ items, j.HoldsNull := by
  constructor
  · rintro ⟨⟩
    exact ⟨_, ‹_›, ‹_›⟩
  · rintro ⟨j, hj, hnull⟩
    exact .item hj hnull

theorem holdsNull_object_iff {members : List (String × Json)} :
    (object members).HoldsNull ↔ ∃ m ∈ members, m.2.HoldsNull := by
  constructor
  · rintro ⟨⟩
    exact ⟨_, ‹_›, ‹_›⟩
  · rintro ⟨m, hm, hnull⟩
    exact .member hm hnull

/-- The text of a number holds `null` exactly if the number has no form in JSON. -/
theorem holdsNull_reread_number_iff {n : Number} :
    (number n).reread.HoldsNull ↔ ¬n.IsWritable := by
  rw [reread]
  rcases n.reread_cases with ⟨hwritable, ⟨m, hm⟩ | hm⟩ | ⟨hwritable, hm⟩
  · rw [hm]
    exact iff_of_false (fun h => by cases h) (not_not_intro hwritable)
  · rw [hm]
    exact iff_of_false (fun h => by cases h) (not_not_intro hwritable)
  · rw [hm]
    exact iff_of_true .here hwritable

end Json

namespace Value

/-- The text of a value holds `null` exactly if the value is not finite. -/
theorem holdsNull_reread_iff (v : Value) : v.toJson.reread.HoldsNull ↔ ¬v.IsFinite := by
  cases v with
  | bool b => exact iff_of_false (fun h => by cases h) (not_not_intro fun _ h => by cases h)
  | text s => exact iff_of_false (fun h => by cases h) (not_not_intro fun _ h => by cases h)
  | number x =>
    rw [toJson, numberToJson, isFinite_number_iff]
    split
    · next hwhole =>
      rw [Bool.and_eq_true] at hwhole
      have hfinite := QuizBank.Number.isFinite_of_isWhole hwhole.1
      -- A whole number is written as an integer, of either sign.
      split
      · rw [holdsNull_reread_number_iff]
        exact iff_of_false (not_not_intro (Number.isWritable_natural _)) (not_not_intro hfinite)
      · rw [holdsNull_reread_number_iff]
        exact iff_of_false (not_not_intro (Number.isWritable_negative _)) (not_not_intro hfinite)
    · rw [holdsNull_reread_number_iff, Number.isWritable_float_iff]

theorem holdsNull_reread_list_iff {vs : List Value} :
    (listToJson vs).reread.HoldsNull ↔ ∃ v ∈ vs, ¬v.IsFinite := by
  rw [listToJson, reread, rereadItems_eq_map, holdsNull_array_iff, List.map_map]
  simp only [List.mem_map, Function.comp_apply, exists_exists_and_eq_and, holdsNull_reread_iff]

end Value

namespace Item

theorem holdsNull_reread_values_iff {m : OrderedMap Value} :
    (valuesToJson m).reread.HoldsNull ↔ ∃ e ∈ m.entries, ¬e.2.IsFinite := by
  rw [valuesToJson, reread, rereadMembers_eq_map, holdsNull_object_iff, List.map_map]
  simp only [List.mem_map, Function.comp_apply, exists_exists_and_eq_and,
    Value.holdsNull_reread_iff]

/-- The text of an item holds `null` exactly if one of its values is not finite. -/
theorem holdsNull_reread_toJson_iff (item : Item) :
    item.toJson.reread.HoldsNull ↔ ∃ v ∈ item.values, ¬v.IsFinite := by
  have htext : ¬(Json.text item.stem).reread.HoldsNull := fun h => by cases h
  rw [toJson, reread, rereadMembers_eq_map, holdsNull_object_iff]
  simp only [List.map_cons, List.map_nil, List.exists_mem_cons_iff, List.not_mem_nil, false_and,
    exists_false, or_false, htext, false_or, holdsNull_reread_values_iff,
    Value.holdsNull_reread_iff, Value.holdsNull_reread_list_iff]
  simp only [values, List.mem_append, List.mem_cons, List.mem_map, or_and_right, exists_or,
    exists_eq_left, exists_exists_and_eq_and]

end Item

namespace Generation

/-- **Where an item gets a number that is not finite.** The derived values are always finite. If the
literals of the template are finite, all numbers of the item are, except if the template has a range
that is too wide for a double; the text of the item then, and only then, holds `null`. The bounds
need no condition, since a range with other bounds gives no item. -/
theorem finite_of_generate_iff {t : Template} {seed : String} {item : Item}
    (hliterals : ∀ v ∈ t.literals, v.IsFinite) (h : generate t seed = .ok item) :
    (∀ e ∈ item.derived.entries, e.2.IsFinite) ∧
      ((∀ v ∈ item.values, v.IsFinite) ↔ ∀ s ∈ t.specs, ¬s.TooWide) ∧
      ∃ j, parse? item.toJson.compact = some j ∧ (j.HoldsNull ↔ ∃ s ∈ t.specs, s.TooWide) := by
  obtain ⟨answer, s₁, s₂, hanswer, hproper, hdraw, haccepts⟩ := exists_proper_of_generate h
  obtain ⟨values, hdrawn, hvalues⟩ := drawn_of_drawParams hdraw t.params.nodup
  have hparams : AllFinite item.params ↔ ∀ s ∈ t.specs, ¬s.TooWide := by
    rw [AllFinite, hvalues]
    exact forall_isFinite_of_drawn hdrawn hproper
      fun p hp w hw => hliterals w (Template.mem_literals.2 (.inl ⟨p, hp, hw⟩))
  have hfinite : (∀ v ∈ item.values, v.IsFinite) ↔ ∀ s ∈ t.specs, ¬s.TooWide := by
    rw [← hparams]
    constructor
    · intro hitem e he
      exact hitem e.2 (Item.mem_values.2 (.inl ⟨e, he, rfl⟩))
    · exact isFinite_of_accepts (hliterals answer (Template.mem_literals.2 (.inr (.inl hanswer))))
        (fun v hv => hliterals v (Template.mem_literals.2 (.inr (.inr hv)))) haccepts
  refine ⟨isFinite_of_derivation haccepts.derivation, hfinite, _, parse?_compact _, ?_⟩
  rw [Item.holdsNull_reread_toJson_iff, ← not_iff_not]
  simp only [not_exists, not_and, not_not]
  exact hfinite

/-- A template with numbers from everywhere. -/
def everywhere : Template where
  params := .ofList [("n", some { min := some (-1e308), max := some 0.5 }),
    ("c", some { values := some [.number 0.25] })]
  derived := .ofList [("d", "c * 2")]
  answer := some (.text "d")
  distractors := [.text "n / 1e300", .text "c", .number 7]

theorem finite_of_generate_iff_everywhere :
    (∀ v ∈ everywhere.literals, v.IsFinite) ∧
      ∃ item, generate everywhere "s" = .ok item ∧ (∀ v ∈ item.values, v.IsFinite) ∧
        ∃ j, parse? item.toJson.compact = some j ∧ ¬j.HoldsNull := by
  have hliterals : ∀ v ∈ everywhere.literals, v.IsFinite := by decide +kernel
  have hnarrow : ∀ s ∈ everywhere.specs, ¬s.TooWide := by decide +kernel
  have hok : (generate everywhere "s").isOk = true := by decide +kernel
  cases hitem : generate everywhere "s" with
  | error e =>
    rw [hitem] at hok
    cases hok
  | ok item =>
    obtain ⟨-, hfinite, j, hj, hnull⟩ := finite_of_generate_iff hliterals hitem
    refine ⟨hliterals, item, rfl, hfinite.2 hnarrow, j, hj, ?_⟩
    rw [hnull]
    rintro ⟨s, hs, hwide⟩
    exact hnarrow s hs hwide

/-- A range whose bounds are doubles and whose width is not. -/
def overflowing : Template where
  params := .ofList [("x", some { min := some (-1.7e308), max := some 1.7e308 })]
  answer := some (.text "x")

/-- Its number is infinite, and so is the answer that names it. -/
theorem not_finite_overflowing :
    ¬ ∀ (t : Template) (seed : String) (item : Item), (∀ v ∈ t.literals, v.IsFinite) →
      (∀ x ∈ t.bounds, x.isFinite = true) → generate t seed = .ok item →
      (∀ v ∈ item.values, v.IsFinite) ∧
        ∃ j, parse? item.toJson.compact = some j ∧ ¬j.HoldsNull := by
  intro hclaim
  have hliterals : ∀ v ∈ overflowing.literals, v.IsFinite := by decide +kernel
  have hbounds : ∀ x ∈ overflowing.bounds, x.isFinite = true := by decide +kernel
  have hitem : generate overflowing "s" =
      .ok ⟨"", .ofList [("x", .number (1 / 0))], .empty, .number (1 / 0), []⟩ := by
    decide +kernel
  have hanswer := (hclaim overflowing "s" _ hliterals hbounds hitem).1 (.number (1 / 0))
    (Item.mem_values.2 (.inr (.inr (.inl rfl))))
  exact absurd hanswer (by decide +kernel)

end Generation
end QuizBank

import Mathlib.Control.Monad.Basic
import QuizBank.Item.Generation
import QuizBank.Proofs.OrderedMap

/-!
# What an accepted item satisfies

An attempt works with a scope that grows from stage to stage, and an item rebuilds its scope from
its parameters and derived values. Here both are shown to be one scope, so that every stage of an
accepted attempt can be read off the item alone:

* `Derivation` is the relation behind `Generation.derive`: one value for each definition, each
  evaluated with the values before it in scope.
* `Accepts` says of an item what its attempt checked and computed, in terms of `Item.scope`, and
  `complete_eq_accepted_iff` that an attempt accepts exactly the items for which it holds.
* Of a whole generation then the same holds, whichever attempt it was that succeeded.
-/

namespace QuizBank
namespace Generation

/-! ### Derived values -/

/-- The definitions `name := source` take these values one after the other, each with the values
before it in scope. -/
inductive Derivation : Scope → List (String × String) → List (String × Value) → Prop
  | nil {scope} : Derivation scope [] []
  | cons {scope name source v rest values} :
      evaluate source scope = .ok v → Derivation (scope.insert name v) rest values →
      Derivation scope ((name, source) :: rest) ((name, v) :: values)

/-- A derivation that succeeds adds its values to the scope and to the values before it. -/
theorem derive_eq_ok_iff {definitions : List (String × String)} {scope scope' : Scope}
    {before derived : OrderedMap Value} :
    derive definitions scope before = .ok (scope', derived) ↔
      ∃ values, Derivation scope definitions values ∧
        scope' = scope.insertAll values ∧ derived = before.insertAll values := by
  induction definitions generalizing scope before with
  | nil =>
    constructor
    · intro h
      cases h
      exact ⟨[], .nil, rfl, rfl⟩
    · rintro ⟨values, hd, rfl, rfl⟩
      cases hd
      rfl
  | cons d rest ih =>
    obtain ⟨name, source⟩ := d
    rw [derive]
    constructor
    · intro h
      split at h
      · next v hv =>
        obtain ⟨values, hd, hs, hb⟩ := ih.1 h
        exact ⟨(name, v) :: values, .cons hv hd, hs, hb⟩
      · cases h
    · rintro ⟨values, hd, hs, hb⟩
      cases hd with
      | cons hv hd =>
        rw [hv]
        exact ih.2 ⟨_, hd, hs, hb⟩

namespace Derivation

variable {scope : Scope} {definitions : List (String × String)} {values : List (String × Value)}

theorem map_fst (h : Derivation scope definitions values) :
    values.map Prod.fst = definitions.map Prod.fst := by
  induction h with
  | nil => rfl
  | cons _ _ ih => rw [List.map_cons, List.map_cons, ih]

/-- The value at a place is that of the definition at this place, in the scope with all values
before it. -/
theorem value_at (h : Derivation scope definitions values) {i : Nat} {name source : String}
    (hi : definitions[i]? = some (name, source)) :
    ∃ v, values[i]? = some (name, v) ∧
      evaluate source (scope.insertAll (values.take i)) = .ok v := by
  induction h generalizing i with
  | nil => cases hi
  | @cons scope name' source' v rest values hv _ ih =>
    cases i with
    | zero =>
      cases hi
      exact ⟨v, rfl, hv⟩
    | succ i =>
      obtain ⟨w, hw, he⟩ := ih hi
      exact ⟨w, hw, he⟩

end Derivation

/-- The names of a template's definitions are distinct, so the derived values come out as they went
into the scope. -/
theorem derivation_of_derive {t : Template} {params derived : OrderedMap Value} {scope : Scope}
    (h : derive t.derived.entries params .empty = .ok (scope, derived)) :
    Derivation params t.derived.entries derived.entries ∧
      scope = params.insertAll derived.entries := by
  obtain ⟨values, hd, rfl, rfl⟩ := derive_eq_ok_iff.1 h
  have hvalues : (OrderedMap.empty.insertAll values).entries = values :=
    OrderedMap.entries_ofList (hd.map_fst ▸ t.derived.nodup)
  rw [hvalues]
  exact ⟨hd, rfl⟩

/-! ### Parameters -/

/-- The specifications give these values one after the other, each from the stream that the values
before it left. -/
inductive Drawn : List (String × Option ParamSpec) → Draws → List (String × Value) → Draws → Prop
  | nil {s} : Drawn [] s [] s
  | cons {name spec v rest values s s₁ s₂} :
      Sampling.sample name spec s = (.ok v, s₁) → Drawn rest s₁ values s₂ →
      Drawn ((name, spec) :: rest) s ((name, v) :: values) s₂

/-- Parameters that can all be drawn are added to those before them. -/
theorem drawParams_eq_ok_iff {specs : List (String × Option ParamSpec)}
    {drawn params : OrderedMap Value} {s s' : Draws} :
    drawParams specs drawn s = (.ok params, s') ↔
      ∃ values, Drawn specs s values s' ∧ params = drawn.insertAll values := by
  induction specs generalizing drawn s with
  | nil =>
    constructor
    · intro h
      cases h
      exact ⟨[], .nil, rfl⟩
    · rintro ⟨values, hd, rfl⟩
      cases hd
      rfl
  | cons e rest ih =>
    obtain ⟨name, spec⟩ := e
    rw [drawParams]
    constructor
    · intro h
      split at h
      · next v s₁ hv =>
        obtain ⟨values, hd, hparams⟩ := ih.1 h
        exact ⟨(name, v) :: values, .cons hv hd, hparams⟩
      · cases h
    · rintro ⟨values, hd, hparams⟩
      cases hd with
      | cons hv hd =>
        rw [hv]
        exact ih.2 ⟨_, hd, hparams⟩

/-- Parameters fail with the error of the first that cannot be drawn, from the stream that those
before it left. -/
theorem drawParams_eq_error_iff {specs : List (String × Option ParamSpec)}
    {drawn : OrderedMap Value} {s s' : Draws} {e : Error} :
    drawParams specs drawn s = (.error e, s') ↔
      ∃ earlier name spec later values s₁, specs = earlier ++ (name, spec) :: later ∧
        Drawn earlier s values s₁ ∧ Sampling.sample name spec s₁ = (.error e, s') := by
  induction specs generalizing drawn s with
  | nil =>
    constructor
    · intro h
      cases h
    · rintro ⟨earlier, name, spec, later, values, s₁, hsplit, -⟩
      simp at hsplit
  | cons head rest ih =>
    obtain ⟨name, spec⟩ := head
    rw [drawParams]
    constructor
    · intro h
      split at h
      · next v s₁ hv =>
        obtain ⟨earlier, name', spec', later, values, s₂, rfl, hd, hsample⟩ := ih.1 h
        exact ⟨_, name', spec', later, _, s₂, List.cons_append.symm, .cons hv hd, hsample⟩
      · next e₁ s₁ hv =>
        cases h
        exact ⟨[], name, spec, rest, [], s, rfl, .nil, hv⟩
    · rintro ⟨earlier, name', spec', later, values, s₁, hsplit, hd, hsample⟩
      cases hd with
      | nil =>
        cases hsplit
        rw [hsample]
      | cons hv hd =>
        cases hsplit
        rw [hv]
        exact ih.2 ⟨_, _, _, _, _, _, rfl, hd, hsample⟩

theorem Drawn.map_fst {specs : List (String × Option ParamSpec)} {values : List (String × Value)}
    {s s' : Draws} (h : Drawn specs s values s') :
    values.map Prod.fst = specs.map Prod.fst := by
  induction h with
  | nil => rfl
  | cons _ _ ih => rw [List.map_cons, List.map_cons, ih]

/-- Names that are new and distinct come with their values as these were drawn. -/
theorem drawn_of_drawParams {specs : List (String × Option ParamSpec)}
    {drawn params : OrderedMap Value} {s s' : Draws}
    (h : drawParams specs drawn s = (.ok params, s'))
    (hnew : (drawn.keys ++ specs.map Prod.fst).Nodup) :
    ∃ values, Drawn specs s values s' ∧ params.entries = drawn.entries ++ values := by
  obtain ⟨values, hd, rfl⟩ := drawParams_eq_ok_iff.1 h
  exact ⟨values, hd, OrderedMap.entries_insertAll (hd.map_fst.symm ▸ hnew)⟩

/-- Parameters that are drawn have the names of their specifications, in order. -/
theorem keys_of_drawParams {specs : List (String × Option ParamSpec)}
    {drawn params : OrderedMap Value} {s s' : Draws}
    (h : drawParams specs drawn s = (.ok params, s'))
    (hnew : (drawn.keys ++ specs.map Prod.fst).Nodup) :
    params.keys = drawn.keys ++ specs.map Prod.fst := by
  obtain ⟨values, hd, hentries⟩ := drawn_of_drawParams h hnew
  rw [OrderedMap.keys, hentries, List.map_append, hd.map_fst]
  rfl

/-! ### Constraints -/

theorem unmet?_eq_none_iff {scope : Scope} {constraint : String} :
    unmet? scope constraint = none ↔
      ∃ v, evaluate constraint scope = .ok v ∧ v.truthy = true := by
  rw [unmet?]
  split
  · next v hv => simp [hv]
  · next e he => simp [he]

/-! ### An attempt -/

/-- What an attempt with the given parameters checked and computed before it accepted an item, told
in terms of the item. -/
structure Accepts (t : Template) (answer : Value) (params : OrderedMap Value) (item : Item) :
    Prop where
  params_eq : item.params = params
  derivation : Derivation item.params t.derived.entries item.derived.entries
  met : ∀ c ∈ t.constraints, unmet? item.scope c = none
  answer_eq : resolveOption answer item.scope = .ok item.answer
  distractors_eq : distractors item.answer.display (item.scope.insert answerVariable item.answer)
    t.distractors = .ok item.distractors
  stem_eq : item.stem = Rendering.render t.stem item.scope

/-- An attempt accepts an item exactly when every one of its stages succeeds with what the item
holds. -/
theorem complete_eq_accepted_iff {t : Template} {answer : Value} {params : OrderedMap Value}
    {item : Item} : complete t answer params = .accepted item ↔ Accepts t answer params item := by
  constructor
  · intro h
    rw [complete] at h
    split at h
    · cases h
    next scope derived hderive =>
    obtain ⟨hd, rfl⟩ := derivation_of_derive hderive
    split at h
    · cases h
    next hmet =>
    split at h
    · rw [ofOptionError] at h
      split at h <;> cases h
    next a ha =>
    split at h
    · rw [ofOptionError] at h
      split at h <;> cases h
    next options hoptions =>
    cases h
    exact {
      params_eq := rfl
      derivation := hd
      met := List.findSome?_eq_none_iff.1 hmet
      answer_eq := ha
      distractors_eq := hoptions
      stem_eq := rfl }
  · intro h
    obtain ⟨stem, params', derived, a, options⟩ := item
    obtain rfl : params' = params := h.params_eq
    have hderive : derive t.derived.entries params' .empty =
        .ok (Item.scope ⟨stem, params', derived, a, options⟩, derived) :=
      derive_eq_ok_iff.2 ⟨derived.entries, h.derivation, rfl,
        OrderedMap.eq_of_entries (OrderedMap.entries_ofList derived.nodup).symm⟩
    have hstem : stem = Rendering.render t.stem (params'.insertAll derived.entries) := h.stem_eq
    subst hstem
    rw [complete, hderive]
    simp only [List.findSome?_eq_none_iff.2 h.met, h.answer_eq, h.distractors_eq]
    rfl

/-! ### A generation -/

/-- An item comes from some attempt, after any number of rejected ones. -/
theorem exists_attempt_of_attempts {t : Template} {answer : Value} {seed : String} {n : Nat}
    {lastFailure : Option String} {s : Draws} {item : Item}
    (h : attempts t answer seed n lastFailure s = .ok item) :
    ∃ s₁ s₂, attempt t answer s₁ = (.accepted item, s₂) := by
  induction n generalizing lastFailure s with
  | zero => cases h
  | succ n ih =>
    rw [attempts] at h
    split at h
    · next item' s₂ hattempt =>
      cases h
      exact ⟨s, s₂, hattempt⟩
    · cases h
    · exact ih h

/-- An accepted attempt drew its parameters, and its item has what it takes. -/
theorem accepts_of_attempt {t : Template} {answer : Value} {s₁ s₂ : Draws} {item : Item}
    (h : attempt t answer s₁ = (.accepted item, s₂)) :
    drawParams t.params.entries .empty s₁ = (.ok item.params, s₂) ∧
      Accepts t answer item.params item := by
  rw [attempt] at h
  split at h
  · next params s hdraw =>
    injection h with hcomplete hs
    have ha := complete_eq_accepted_iff.1 hcomplete
    obtain rfl := ha.params_eq
    exact ⟨hs ▸ hdraw, ha⟩
  · next e s _ =>
    injection h with hcomplete
    cases e <;> cases hcomplete

theorem accepts_of_generate {t : Template} {seed : String} {item : Item}
    (h : generate t seed = .ok item) :
    ∃ answer s₁ s₂, t.answer = some answer ∧
      drawParams t.params.entries .empty s₁ = (.ok item.params, s₂) ∧
      Accepts t answer item.params item := by
  rw [generate] at h
  split at h
  · cases h
  · next answer hanswer =>
    obtain ⟨s₁, s₂, hattempt⟩ := exists_attempt_of_attempts h
    obtain ⟨hdraw, ha⟩ := accepts_of_attempt hattempt
    exact ⟨answer, s₁, s₂, hanswer, hdraw, ha⟩

/-- **An item is consistent with its template.** Its parameters and derived values have the names
of the template in the order of their declaration, each derived value is that of its expression with
the parameters and the derived values before it in scope, and every constraint holds in the scope of
the finished item. -/
theorem consistent_of_generate {t : Template} {seed : String} {item : Item}
    (h : generate t seed = .ok item) :
    item.params.keys = t.params.keys ∧
      item.derived.keys = t.derived.keys ∧
      (∀ (i : Nat) (name source : String), t.derived.entries[i]? = some (name, source) →
        ∃ v, item.derived.entries[i]? = some (name, v) ∧
          evaluate source (item.params.insertAll (item.derived.entries.take i)) = .ok v) ∧
      ∀ c ∈ t.constraints, ∃ v, evaluate c item.scope = .ok v ∧ v.truthy = true := by
  obtain ⟨answer, s₁, s₂, -, hdraw, ha⟩ := accepts_of_generate h
  refine ⟨?_, ha.derivation.map_fst, fun i name source hi => ha.derivation.value_at hi, ?_⟩
  · exact keys_of_drawParams hdraw t.params.nodup
  · exact fun c hc => unmet?_eq_none_iff.1 (ha.met c hc)

/-- A template in which a derived value hides the parameter that it was derived from. -/
def shadowing : Template where
  stem := "\x7b\x7bx\x7d\x7d"
  params := .ofList [("x", some { values := some [.text "p"] })]
  derived := .ofList [("y", "x + 'q'"), ("x", "y + x")]
  constraints := ["x == 'pqp'"]
  answer := some (.text "y")

/-- The item that `shadowing` has for every seed. -/
def shadowed : Item where
  stem := "pqp"
  params := .ofList [("x", .text "p")]
  derived := .ofList [("y", .text "pq"), ("x", .text "pqp")]
  answer := .text "pq"
  distractors := []

theorem consistent_of_generate_shadowing :
    generate shadowing "s" = .ok shadowed ∧
      shadowed.params.keys = shadowing.params.keys ∧
      shadowed.derived.keys = shadowing.derived.keys ∧
      (∃ v, shadowed.derived.entries[1]? = some ("x", v) ∧
        evaluate "y + x" (shadowed.params.insertAll (shadowed.derived.entries.take 1)) = .ok v) ∧
      ∃ v, evaluate "x == 'pqp'" shadowed.scope = .ok v ∧ v.truthy = true := by
  have h : generate shadowing "s" = .ok shadowed := by decide +kernel
  obtain ⟨hparams, hderived, hvalues, hmet⟩ := consistent_of_generate h
  exact ⟨h, hparams, hderived, hvalues 1 "x" "y + x" (by decide), hmet _ (by decide)⟩

end Generation
end QuizBank

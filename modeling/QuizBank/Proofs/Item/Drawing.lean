import QuizBank.Item.Generation
import QuizBank.Proofs.OrderedMap
import QuizBank.Proofs.Random.Draws

/-!
# How parameters are drawn

Parameters are drawn in the order of their declaration from one stream. A choice takes one draw, and
so does a range that excludes nothing; where all parameters are of these kinds, each of them has the
value that its rule makes of the draw at its own place.
-/

namespace QuizBank

/-- The value that a rule makes of a draw. -/
def Rule.value : Rule → Float → Value
  | .choice values nonempty, r => Sampling.pick values nonempty r
  | .whole min max, r => .number (Sampling.wholeCandidate min max r)
  | .real min max, r => .number (Sampling.realCandidate min max r)

/-- The specification makes a rule, and is a list of values or a range that excludes nothing. -/
def ParamSpec.TakesOneDraw (spec : Option ParamSpec) : Prop :=
  (∃ rule, ParamSpec.resolve spec = .ok rule) ∧
    ∃ s, spec = some s ∧ (s.values.isSome = true ∨ s.exclude = [])

namespace Sampling

/-! ### Order -/

theorem firstAllowed_inOrder (candidate : Float → Float) (excluded : List Value) (tries : Nat) :
    Draws.InOrder (firstAllowed candidate excluded tries) := by
  induction tries with
  | zero => exact .pure none
  | succ tries ih =>
    refine Draws.InOrder.next.bind (g := fun r s =>
      if isExcluded excluded (candidate r) then firstAllowed candidate excluded tries s
      else (some (candidate r), s)) ?_
    intro r
    cases isExcluded excluded (candidate r) with
    | true => exact ih
    | false => exact .pure _

/-- What a range gives: its number, or that no candidate was allowed. -/
def ofAllowed (name : String) : Option Float → Except Error Value
  | some x => .ok (.number x)
  | none => .error (.samplingExhausted name maxTries)

theorem fromRange_inOrder (name : String) (candidate : Float → Float) (excluded : List Value) :
    Draws.InOrder (fromRange name candidate excluded) := by
  have h := (firstAllowed_inOrder candidate excluded maxTries).map (ofAllowed name)
  refine h.congr ?_
  intro s
  rw [fromRange]
  cases firstAllowed candidate excluded maxTries s with
  | mk found s => cases found <;> rfl

theorem sample_inOrder (name : String) (spec : Option ParamSpec) :
    Draws.InOrder (sample name spec) := by
  unfold sample
  cases ParamSpec.resolve spec with
  | error fault => exact .pure _
  | ok rule =>
    cases rule with
    | choice values nonempty =>
      exact Draws.InOrder.next.map (β := Except Error Value) fun r => .ok (pick values nonempty r)
    | whole min max => exact fromRange_inOrder name _ _
    | real min max => exact fromRange_inOrder name _ _

/-- A value is only drawn by a rule. -/
theorem resolve_of_sample {name : String} {spec : Option ParamSpec} {s s' : Draws} {v : Value}
    (h : sample name spec s = (.ok v, s')) : ∃ rule, ParamSpec.resolve spec = .ok rule := by
  cases hrule : ParamSpec.resolve spec with
  | ok rule => exact ⟨rule, rfl⟩
  | error fault =>
    rw [sample, hrule] at h
    cases h

/-! ### One draw -/

/-- A range that excludes nothing gives its first candidate. -/
theorem fromRange_nil (name : String) (candidate : Float → Float) (s : Draws) :
    fromRange name candidate [] s = (.ok (.number (candidate s.next.1)), s.next.2) := rfl

theorem resolve_eq_choice {spec : ParamSpec} {rule : Rule}
    (hrule : ParamSpec.resolve (some spec) = .ok rule) (hvalues : spec.values.isSome = true) :
    ∃ values nonempty, rule = .choice values nonempty := by
  obtain ⟨values, hvalues⟩ := Option.isSome_iff_exists.1 hvalues
  simp only [ParamSpec.resolve, hvalues] at hrule
  cases values with
  | nil => cases hrule
  | cons v vs =>
    cases hrule
    exact ⟨_, _, rfl⟩

theorem sample_of_takesOneDraw {name : String} {spec : Option ParamSpec} {rule : Rule}
    (hspec : ParamSpec.TakesOneDraw spec) (hrule : ParamSpec.resolve spec = .ok rule)
    (s : Draws) : sample name spec s = (.ok (rule.value s.next.1), s.next.2) := by
  obtain ⟨-, p, rfl, hone⟩ := hspec
  -- A specification with values makes a choice, so a range comes with nothing to exclude.
  have hexclude (hrange : ∀ values nonempty, rule ≠ .choice values nonempty) :
      p.exclude = [] := by
    refine hone.resolve_left ?_
    intro hvalues
    obtain ⟨values, nonempty, h⟩ := resolve_eq_choice hrule hvalues
    exact hrange values nonempty h
  rw [sample, hrule]
  cases rule with
  | choice values nonempty => rfl
  | whole min max =>
    show fromRange name _ p.exclude s = _
    rw [hexclude (by simp), fromRange_nil]
    rfl
  | real min max =>
    show fromRange name _ p.exclude s = _
    rw [hexclude (by simp), fromRange_nil]
    rfl

end Sampling

namespace Generation

/-! ### All parameters -/

/-- What comes after a parameter: the others, or the error of this one. -/
def drawRest (rest : List (String × Option ParamSpec)) (drawn : OrderedMap Value) (name : String) :
    Except Error Value → Draws → Except Error (OrderedMap Value) × Draws
  | .ok v, s => drawParams rest (drawn.insert name v) s
  | .error e, s => (.error e, s)

theorem drawParams_inOrder (specs : List (String × Option ParamSpec)) (drawn : OrderedMap Value) :
    Draws.InOrder (drawParams specs drawn) := by
  induction specs generalizing drawn with
  | nil => exact .pure _
  | cons e rest ih =>
    obtain ⟨name, spec⟩ := e
    have hrest : ∀ result, Draws.InOrder (drawRest rest drawn name result) := by
      intro result
      cases result with
      | ok v => exact ih _
      | error e => exact .pure _
    have h := (Sampling.sample_inOrder name spec).bind hrest
    refine h.congr ?_
    intro s
    rw [drawParams]
    cases Sampling.sample name spec s with
    | mk result s => cases result <;> rfl

/-- Parameters of one draw each are all drawn, and each has the value that its rule makes of the
draw at its place. -/
theorem drawParams_of_takesOneDraw {specs : List (String × Option ParamSpec)}
    (hspecs : ∀ e ∈ specs, ParamSpec.TakesOneDraw e.2) (drawn : OrderedMap Value)
    (d : Nat → Float) (n : Nat) :
    ∃ values, drawParams specs drawn ⟨d, n⟩ =
        (.ok (drawn.insertAll values), ⟨d, n + specs.length⟩) ∧
      values.map Prod.fst = specs.map Prod.fst ∧
      ∀ (i : Nat) name spec rule, specs[i]? = some (name, spec) →
        ParamSpec.resolve spec = .ok rule → values[i]? = some (name, rule.value (d (n + i))) := by
  induction specs generalizing drawn n with
  | nil => exact ⟨[], rfl, rfl, by intro i name spec rule hi; cases hi⟩
  | cons e rest ih =>
    obtain ⟨name, spec⟩ := e
    have hspec : ParamSpec.TakesOneDraw spec := hspecs (name, spec) List.mem_cons_self
    obtain ⟨rule, hrule⟩ := hspec.1
    obtain ⟨values, hdraw, hnames, hvalues⟩ := ih
      (fun e he => hspecs e (List.mem_cons_of_mem _ he)) (drawn.insert name (rule.value (d n))) (n + 1)
    refine ⟨(name, rule.value (d n)) :: values, ?_, ?_, ?_⟩
    · rw [drawParams, Sampling.sample_of_takesOneDraw hspec hrule]
      show drawParams rest (drawn.insert name (rule.value (d n))) ⟨d, n + 1⟩ = _
      rw [hdraw, List.length_cons, Nat.add_assoc, Nat.add_comm 1]
      rfl
    · rw [List.map_cons, List.map_cons, hnames]
    · intro i name' spec' rule' hi hrule'
      cases i with
      | zero =>
        cases hi
        rw [hrule] at hrule'
        cases hrule'
        rfl
      | succ i =>
        have h := hvalues i name' spec' rule' hi hrule'
        rw [Nat.add_assoc, Nat.add_comm 1] at h
        exact h

end Generation
end QuizBank

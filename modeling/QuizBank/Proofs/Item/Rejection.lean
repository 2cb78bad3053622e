import QuizBank.Proofs.Item.RangeBounds

/-!
# What drawing a parameter takes

A parameter is drawn from a stream that all later parameters and attempts go on with, so the number
of draws counts as much as the value. A specification that makes no rule takes none, and a choice
takes one. A range takes the draws up to and including the first whose number is not excluded
(`FirstAllowed`), or gives up behind the last of its tries. `firstAllowed_of_first` and
`firstAllowed_of_all_excluded` say this of the loop, each by induction on the tries that are left.
-/

namespace QuizBank

/-- The draw at a distance from the place of the stream. -/
def Draws.ahead (s : Draws) (i : Nat) : Float := s.sequence (s.taken + i)

theorem Draws.ahead_succ (s : Draws) (i : Nat) : s.ahead (i + 1) = s.next.2.ahead i := by
  show s.sequence (s.taken + (i + 1)) = s.sequence (s.taken + 1 + i)
  rw [Nat.add_assoc, Nat.add_comm 1]

theorem Draws.skip_succ (s : Draws) (n : Nat) : s.skip (n + 1) = s.next.2.skip n := by
  show (⟨s.sequence, s.taken + (n + 1)⟩ : Draws) = ⟨s.sequence, s.taken + 1 + n⟩
  rw [Nat.add_assoc, Nat.add_comm 1]

namespace ParamSpec

/-- The specification is a range: it has no values, and its bounds are finite and in order. -/
structure IsRange (p : ParamSpec) (lo hi : Float) : Prop where
  values : p.values = none
  bounds : p.bounds? = some (lo, hi)
  finite_lo : lo.isFinite = true
  finite_hi : hi.isFinite = true
  ordered : lo ≤ hi

/-- The number equals one of the excluded values. -/
def Excludes (p : ParamSpec) (x : Float) : Prop := ∃ v ∈ p.exclude, v.equals (.number x) = true

theorem isExcluded_iff {p : ParamSpec} {x : Float} :
    Sampling.isExcluded p.exclude x = true ↔ p.Excludes x := List.any_eq_true

/-- A range makes a rule. -/
theorem IsRange.exists_resolve {p : ParamSpec} {lo hi : Float} (h : p.IsRange lo hi) :
    ∃ rule, resolve (some p) = .ok rule := by
  obtain ⟨l, hl⟩ := (Number.isFinite_iff lo).1 h.finite_lo
  obtain ⟨u, hu⟩ := (Number.isFinite_iff hi).1 h.finite_hi
  have hordered : ¬lo > hi := by
    intro hcrossed
    have hle := (Number.le_iff hl hu).1 h.ordered
    exact absurd ((Number.lt_iff hu hl).1 hcrossed) (not_lt.2 hle)
  simp only [resolve, h.values, h.bounds, h.finite_lo, h.finite_hi, if_neg hordered]
  cases Number.isWhole lo && Number.isWhole hi with
  | true => exact ⟨_, rfl⟩
  | false => exact ⟨_, rfl⟩

/-- A specification makes no rule, or it is a choice among some values, or a range. -/
theorem resolve_cases (spec : Option ParamSpec) :
    (∃ fault, resolve spec = .error fault) ∨
      (∃ p values, spec = some p ∧ p.values = some values ∧ values ≠ []) ∨
        ∃ p lo hi, spec = some p ∧ p.IsRange lo hi := by
  cases hrule : resolve spec with
  | error fault => exact .inl ⟨fault, rfl⟩
  | ok rule =>
    right
    cases spec with
    | none => cases hrule
    | some p =>
      cases hvalues : p.values with
      | some values =>
        refine .inl ⟨p, values, rfl, hvalues, ?_⟩
        rintro rfl
        simp [resolve, hvalues] at hrule
      | none =>
        cases hbounds : p.bounds? with
        | none => simp [resolve, hvalues, hbounds] at hrule
        | some bounds =>
          obtain ⟨⟨l, u, hs⟩, -⟩ := Sampling.sample_of_bounds hvalues hbounds hrule
          refine .inr ⟨p, bounds.1, bounds.2, rfl, hvalues, hbounds, ?_, ?_, ?_⟩
          · exact (Number.isFinite_iff _).2 ⟨l, hs.value_lo⟩
          · exact (Number.isFinite_iff _).2 ⟨u, hs.value_hi⟩
          · exact (Number.le_iff hs.value_lo hs.value_hi).2 hs.le

end ParamSpec

namespace Sampling

variable {name : String} {p : ParamSpec} {lo hi : Float} {s s' : Draws}

/-! ### The loop -/

section Loop

variable {f : Float → Float} {excluded : List Value} {tries j : Nat}

theorem firstAllowed_of_excluded (h : isExcluded excluded (f (s.ahead 0)) = true) :
    firstAllowed f excluded (tries + 1) s = firstAllowed f excluded tries s.next.2 := by
  show (if isExcluded excluded (f (s.ahead 0)) = true then _ else _) = _
  rw [if_pos h]
  rfl

theorem firstAllowed_of_allowed (h : isExcluded excluded (f (s.ahead 0)) = false) :
    firstAllowed f excluded (tries + 1) s = (some (f (s.ahead 0)), s.skip 1) := by
  show (if isExcluded excluded (f (s.ahead 0)) = true then _ else _) = _
  rw [h]
  rfl

/-- The loop stops behind the first number that is not excluded. -/
theorem firstAllowed_of_first (hj : j < tries)
    (hbefore : ∀ i < j, isExcluded excluded (f (s.ahead i)) = true)
    (hallowed : isExcluded excluded (f (s.ahead j)) = false) :
    firstAllowed f excluded tries s = (some (f (s.ahead j)), s.skip (j + 1)) := by
  induction tries generalizing s j with
  | zero => cases hj
  | succ tries ih =>
    cases j with
    | zero => exact firstAllowed_of_allowed hallowed
    | succ j =>
      rw [firstAllowed_of_excluded (hbefore 0 (Nat.succ_pos j)), s.ahead_succ, s.skip_succ]
      apply ih (Nat.lt_of_succ_lt_succ hj)
      · intro i hi
        rw [← s.ahead_succ]
        exact hbefore (i + 1) (Nat.succ_lt_succ hi)
      · rw [← s.ahead_succ]
        exact hallowed

/-- Where all numbers are excluded the loop takes every draw that it may take. -/
theorem firstAllowed_of_all_excluded
    (h : ∀ i < tries, isExcluded excluded (f (s.ahead i)) = true) :
    firstAllowed f excluded tries s = (none, s.skip tries) := by
  induction tries generalizing s with
  | zero => rfl
  | succ tries ih =>
    rw [firstAllowed_of_excluded (h 0 (Nat.succ_pos tries)), s.skip_succ]
    apply ih
    intro i hi
    rw [← s.ahead_succ]
    exact h (i + 1) (Nat.succ_lt_succ hi)

end Loop

/-! ### One parameter -/

/-- Number `j` of the draws is the first whose number the range does not exclude. -/
structure FirstAllowed (p : ParamSpec) (lo hi : Float) (s : Draws) (j : Nat) : Prop where
  excluded : ∀ i < j, p.Excludes (candidate lo hi (s.ahead i))
  allowed : ¬p.Excludes (candidate lo hi (s.ahead j))

theorem sample_of_isRange (h : p.IsRange lo hi) :
    sample name (some p) s = fromRange name (candidate lo hi) p.exclude s := by
  obtain ⟨rule, hrule⟩ := h.exists_resolve
  rw [(sample_of_bounds h.values h.bounds hrule).2]

/-- A range gives the first number that is not excluded, and takes the draws up to it. -/
theorem sample_of_firstAllowed (h : p.IsRange lo hi) {j : Nat} (hj : j < maxTries)
    (hfirst : FirstAllowed p lo hi s j) :
    sample name (some p) s = (.ok (.number (candidate lo hi (s.ahead j))), s.skip (j + 1)) := by
  have hloop : firstAllowed (candidate lo hi) p.exclude maxTries s =
      (some (candidate lo hi (s.ahead j)), s.skip (j + 1)) := by
    apply firstAllowed_of_first hj
    · intro i hi
      exact ParamSpec.isExcluded_iff.2 (hfirst.excluded i hi)
    · rw [← Bool.not_eq_true, ParamSpec.isExcluded_iff]
      exact hfirst.allowed
  rw [sample_of_isRange h, fromRange, hloop]

/-- A range whose numbers are all excluded gives up, and has taken as many draws as it may. -/
theorem sample_of_all_excluded (h : p.IsRange lo hi)
    (hall : ∀ i < maxTries, p.Excludes (candidate lo hi (s.ahead i))) :
    sample name (some p) s = (.error (.samplingExhausted name maxTries), s.skip maxTries) := by
  have hloop : firstAllowed (candidate lo hi) p.exclude maxTries s = (none, s.skip maxTries) := by
    apply firstAllowed_of_all_excluded
    intro i hi
    exact ParamSpec.isExcluded_iff.2 (hall i hi)
  rw [sample_of_isRange h, fromRange, hloop]

/-- No value that a range gives is excluded. -/
theorem equals_of_sample (h : p.IsRange lo hi) {v : Value}
    (hsample : sample name (some p) s = (.ok v, s')) : ∀ w ∈ p.exclude, w.equals v = false := by
  rw [sample_of_isRange h] at hsample
  obtain ⟨n, rfl, hallowed⟩ := fromRange_eq_ok hsample
  intro w hw
  have hnot := List.any_eq_false.1 hallowed w hw
  simpa using hnot

/-- A choice takes one draw, and gives the value at the place that the draw stands for. -/
theorem sample_of_choice {values : List Value} (hvalues : p.values = some values)
    (hne : values ≠ []) :
    ∃ v, values[min (Number.toNat (Number.floor (s.ahead 0 * Float.ofNat values.length)))
        (values.length - 1)]? = some v ∧
      sample name (some p) s = (.ok v, s.skip 1) := by
  have hrule : ParamSpec.resolve (some p) = .ok (.choice values hne) := by
    cases values with
    | nil => exact absurd rfl hne
    | cons v vs => simp only [ParamSpec.resolve, hvalues]
  have hlength := List.length_pos_iff.2 hne
  refine ⟨pick values hne (s.ahead 0), ?_, ?_⟩
  · rw [List.getElem?_eq_getElem (by omega)]
    rfl
  · rw [sample, hrule]
    rfl

/-- A draw that is too large stands for the last value. -/
example : pick [.text "p", .text "q"] (List.cons_ne_nil _ _) (1 / 0) = .text "q" := by
  decide +kernel

/-- **What drawing a parameter gives and takes.** A specification that makes no rule gives an error
and takes no draw. A choice takes one draw, which selects a value. A range takes the draws up to and
including the first whose number it does not exclude, and gives this number; if it excludes those of
400 draws it takes these and gives up. It never gives an excluded value. Every specification is of
one of these kinds. -/
theorem sample_takes (name : String) (spec : Option ParamSpec) (s : Draws) :
    (∀ fault, ParamSpec.resolve spec = .error fault →
      sample name spec s = (.error (.invalidParamSpec name fault.message), s)) ∧
    (∀ p values, spec = some p → p.values = some values → values ≠ [] →
      ∃ v, values[min (Number.toNat (Number.floor (s.ahead 0 * Float.ofNat values.length)))
          (values.length - 1)]? = some v ∧
        sample name spec s = (.ok v, s.skip 1)) ∧
    (∀ p lo hi, spec = some p → p.IsRange lo hi →
      (∀ j < 400, FirstAllowed p lo hi s j →
        sample name spec s = (.ok (.number (candidate lo hi (s.ahead j))), s.skip (j + 1))) ∧
      ((∀ i < 400, p.Excludes (candidate lo hi (s.ahead i))) →
        sample name spec s = (.error (.samplingExhausted name 400), s.skip 400)) ∧
      ∀ v s', sample name spec s = (.ok v, s') → ∀ w ∈ p.exclude, w.equals v = false) ∧
    ((∃ fault, ParamSpec.resolve spec = .error fault) ∨
      (∃ p values, spec = some p ∧ p.values = some values ∧ values ≠ []) ∨
        ∃ p lo hi, spec = some p ∧ p.IsRange lo hi) := by
  refine ⟨?_, ?_, ?_, ParamSpec.resolve_cases spec⟩
  · intro fault hfault
    rw [sample, hfault]
  · rintro p values rfl hvalues hne
    exact sample_of_choice hvalues hne
  · rintro p lo hi rfl hrange
    refine ⟨?_, ?_, ?_⟩
    · intro j hj hfirst
      exact sample_of_firstAllowed hrange hj hfirst
    · intro hall
      exact sample_of_all_excluded hrange hall
    · intro v s' hsample
      exact equals_of_sample hrange hsample

/-- A range of three numbers without the first two of them. The text is none of its numbers. -/
def onlyThree : ParamSpec :=
  { min := some 1, max := some 3, exclude := [.number 2, .text "3", .number 1] }

/-- Draws that stand for the numbers of `onlyThree` from the least to the greatest. -/
def rising : Nat → Float
  | 0 => 0
  | 1 => 0.5
  | _ => 0.9

theorem sample_takes_onlyThree :
    sample "n" none (.start rising) =
        (.error (.invalidParamSpec "n" "spec is missing"), .start rising) ∧
      sample "w" (some { values := some [.text "p", .text "q"] }) ⟨rising, 2⟩ =
        (.ok (.text "q"), ⟨rising, 3⟩) ∧
      sample "n" (some onlyThree) (.start rising) = (.ok (.number 3), ⟨rising, 3⟩) ∧
      sample "n" (some onlyThree) (.start fun _ => 0.5) =
        (.error (.samplingExhausted "n" 400), ⟨fun _ => 0.5, 400⟩) ∧
      (onlyThree.exclude.any fun w => w.equals (.number 3)) = false := by
  have hrange : onlyThree.IsRange 1 3 := by
    refine ⟨rfl, rfl, ?_, ?_, ?_⟩ <;> decide +kernel
  have hexcludes : ∀ x, isExcluded onlyThree.exclude x = true → onlyThree.Excludes x :=
    fun x => ParamSpec.isExcluded_iff.1
  have hthree : candidate 1 3 ((Draws.start rising).ahead 2) = 3 := by decide +kernel
  have hfirst : FirstAllowed onlyThree 1 3 (.start rising) 2 := by
    refine ⟨?_, ?_⟩
    · intro i hi
      apply hexcludes
      obtain rfl | rfl : i = 0 ∨ i = 1 := by omega
      · decide +kernel
      · decide +kernel
    · rw [hthree, ← ParamSpec.isExcluded_iff]
      decide +kernel
  obtain ⟨-, -, hgives, -⟩ := sample_takes "n" (some onlyThree) (.start rising)
  obtain ⟨hvalue, -, hallowed⟩ := hgives onlyThree 1 3 rfl hrange
  have hsample := hvalue 2 (by decide) hfirst
  rw [hthree] at hsample
  refine ⟨(sample_takes "n" none (.start rising)).1 .missing rfl, ?_, hsample, ?_, ?_⟩
  · obtain ⟨v, hv, hchoice⟩ := (sample_takes "w" (some { values := some [.text "p", .text "q"] })
      ⟨rising, 2⟩).2.1 _ [.text "p", .text "q"] rfl rfl (List.cons_ne_nil _ _)
    have hindex : min (Number.toNat (Number.floor
        ((⟨rising, 2⟩ : Draws).ahead 0 * Float.ofNat [Value.text "p", .text "q"].length)))
          ([Value.text "p", .text "q"].length - 1) = 1 := by decide +kernel
    rw [hindex] at hv
    cases hv
    exact hchoice
  · obtain ⟨-, -, hgivesUp, -⟩ := sample_takes "n" (some onlyThree) (.start fun _ => 0.5)
    apply (hgivesUp onlyThree 1 3 rfl hrange).2.1
    intro i hi
    show onlyThree.Excludes (candidate 1 3 0.5)
    apply hexcludes
    decide +kernel
  · rw [List.any_eq_false]
    intro w hw
    simp [hallowed _ _ hsample w hw]

end Sampling
end QuizBank

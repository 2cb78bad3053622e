import QuizBank.Template.Json
import QuizBank.Proofs.Json.Writing
import QuizBank.Proofs.Template.Contents

/-!
# Templates read from their own texts

A template that is written as JSON is read back from its text, equal to what it was, with its
parameters and its derived values in their order. The one condition is on its numbers: each must be
read back from its own text, which a number can fail to be, since the reader is not exact.
-/

namespace QuizBank

open Json

namespace Json

/-! ### Numbers that are read back -/

/-- The text of the tree is read as a number that equals `x`. -/
def ReadsAs (j : Json) (x : Float) : Prop :=
  ∃ y, (parse? j.compact).bind number? = some y ∧ (y == x) = true

theorem readsAs_iff {j : Json} {x : Float} :
    j.ReadsAs x ↔ ∃ y, j.reread.number? = some y ∧ (y == x) = true := by
  rw [ReadsAs, parse?_compact, Option.bind_some]

theorem ReadsAs.reread {j : Json} {x : Float} (h : j.ReadsAs x) :
    ∃ n, j.reread = number n ∧ (n.toFloat == x) = true := by
  obtain ⟨y, hy, heq⟩ := readsAs_iff.1 h
  cases hj : j.reread with
  | number n =>
    rw [hj] at hy
    cases hy
    exact ⟨n, rfl, heq⟩
  | _ =>
    rw [hj] at hy
    cases hy

instance (j : Json) (x : Float) : Decidable (j.ReadsAs x) :=
  decidable_of_iff (j.reread.number?.any (· == x) = true)
    ((Option.any_eq_true _ _).trans readsAs_iff.symm)

end Json

/-- A value that is a number is read as that number from its own text. -/
def Value.ReadsBack (v : Value) : Prop := ∀ x, v = .number x → v.toJson.ReadsAs x

instance : (v : Value) → Decidable v.ReadsBack
  | .bool _ => isTrue fun _ h => by cases h
  | .text _ => isTrue fun _ h => by cases h
  | .number x => decidable_of_iff ((Value.number x).toJson.ReadsAs x) (by simp [Value.ReadsBack])

namespace Json

/-! ### Readers of what was written -/

/-- Of the tree, written and read again, the reader makes something that equals `a`. -/
def Recovers {α : Type} (eq : α → α → Bool) (read : Json → Except ShapeError α) (j : Json)
    (a : α) : Prop := ∃ a', read j.reread = .ok a' ∧ eq a' a = true

namespace Recovers

variable {α : Type} {eq : α → α → Bool} {read : Json → Except ShapeError α} {write : α → Json}

theorem text (s : String) : Recovers (· == ·) readText (.text s) s :=
  ⟨s, rfl, beq_self_eq_true s⟩

theorem items {as : List α} (h : ∀ a ∈ as, Recovers eq read (write a) a) :
    Recovers (fun bs as => bs.isEqv as eq) (readItems read) (.array (as.map write)) as := by
  show ∃ bs, readItems read (reread (.array (as.map write))) = .ok bs ∧ _
  rw [reread, rereadItems_eq_map]
  show ∃ bs, ((as.map write).map reread).mapM read = .ok bs ∧ _
  induction as with
  | nil => exact ⟨[], rfl, rfl⟩
  | cons a as ih =>
    obtain ⟨b, hb, heq⟩ := h a (List.mem_cons_self ..)
    obtain ⟨bs, hbs, heqs⟩ := ih fun a ha => h a (List.mem_cons_of_mem _ ha)
    refine ⟨b :: bs, ?_, ?_⟩
    · rw [mapM_eq_ok_iff] at hbs ⊢
      exact .cons hb hbs
    · show (eq b a && bs.isEqv as eq) = true
      rw [heq, Bool.true_and]
      exact heqs

theorem optional (hnull : ∀ a, read .null ≠ .ok a) {o : Option α}
    (h : ∀ a ∈ o, Recovers eq read (write a) a) :
    Recovers (equalsOption eq) (readOptional read) ((o.map write).getD .null) o := by
  cases o with
  | none => exact ⟨none, rfl, rfl⟩
  | some a =>
    obtain ⟨b, hb, heq⟩ := h a rfl
    have hne : (write a).reread ≠ null := by
      intro hreread
      rw [hreread] at hb
      exact hnull b hb
    refine ⟨some b, ?_, heq⟩
    show readOptional read (write a).reread = .ok (some b)
    rw [readOptional_of_ne_null hne, hb]
    rfl

theorem members {l : List (String × α)} (h : ∀ e ∈ l, Recovers eq read (write e.2) e.2) :
    ∃ l', readMembers read (reread (.object (l.map fun e => (e.1, write e.2)))) = .ok l' ∧
      Memberwise (fun b a => eq b a = true) l' l := by
  rw [reread, rereadMembers_eq_map]
  induction l with
  | nil => exact ⟨[], rfl, .nil⟩
  | cons e l ih =>
    obtain ⟨b, hb, heq⟩ := h e (List.mem_cons_self ..)
    obtain ⟨l', hl', hall⟩ := ih fun e he => h e (List.mem_cons_of_mem _ he)
    refine ⟨(e.1, b) :: l', ?_, .cons ⟨rfl, heq⟩ hall⟩
    rw [readMembers_object_iff] at hl' ⊢
    exact .cons ⟨rfl, hb⟩ hl'

/-- A map is read with its keys in their order. -/
theorem map {m : OrderedMap α} (h : ∀ e ∈ m.entries, Recovers eq read (write e.2) e.2) :
    ∃ l, readMembers read (reread (.object (m.entries.map fun e => (e.1, write e.2)))) = .ok l ∧
      (OrderedMap.ofList l).equals eq m = true ∧ (OrderedMap.ofList l).keys = m.keys := by
  obtain ⟨l, hl, hall⟩ := members h
  have hentries : (OrderedMap.ofList l).entries = l := by
    apply OrderedMap.entries_ofList
    rw [hall.keys_eq]
    exact m.nodup
  refine ⟨l, hl, ?_, ?_⟩
  · rw [OrderedMap.equals_iff, hentries]
    exact hall
  · rw [OrderedMap.keys, hentries]
    exact hall.keys_eq

end Recovers

/-! ### Records -/

section Record

variable {ρ α : Type} (assign : ρ → String → Json → Except ShapeError ρ)
  {eq : α → α → Bool} {read : Json → Except ShapeError α} {write : α → Json}

/-- The member of a field that is written only if there is something. -/
def optionalMember (field : String) (write : α → Json) (o : Option α) : List (String × Json) :=
  (o.map fun a => (field, write a)).toList

theorem names_optionalMember (field : String) (o : Option α) :
    ((optionalMember field write o).map Prod.fst).Sublist [field] := by
  cases o with
  | none => exact List.nil_sublist _
  | some a => exact List.Sublist.refl _

theorem rereadMembers_append (ms ms' : List (String × Json)) :
    rereadMembers (ms ++ ms') = rereadMembers ms ++ rereadMembers ms' := by
  rw [rereadMembers_eq_map, rereadMembers_eq_map, rereadMembers_eq_map, List.map_append]

/-- A field that is written is read. -/
theorem exists_assignAll_member (field : String) (set : ρ → α → ρ)
    (hassign : ∀ r j, assign r field j = read j >>= fun a => pure (set r a)) {j : Json} {a : α}
    (h : Recovers eq read j a) :
    ∃ a', eq a' a = true ∧ ∀ r, assignAll assign r (rereadMembers [(field, j)]) = .ok (set r a') := by
  obtain ⟨a', ha', heq⟩ := h
  refine ⟨a', heq, ?_⟩
  intro r
  refine assignAll_cons_iff.2 ⟨set r a', ?_, assignAll_nil_iff.2 rfl⟩
  show assign r field j.reread = _
  rw [hassign, ha']
  rfl

/-- A field that is not written keeps its default. -/
theorem exists_assignAll_optionalMember (field : String) (set : ρ → Option α → ρ)
    (hassign : ∀ r j, assign r field j = readOptional read j >>= fun o => pure (set r o))
    (hnull : ∀ a, read .null ≠ .ok a) {o : Option α}
    (h : ∀ a ∈ o, Recovers eq read (write a) a) :
    ∃ o', equalsOption eq o' o = true ∧ ∀ r, set r none = r →
      assignAll assign r (rereadMembers (optionalMember field write o)) = .ok (set r o') := by
  cases o with
  | none =>
    refine ⟨none, rfl, ?_⟩
    intro r hr
    exact assignAll_nil_iff.2 hr.symm
  | some a =>
    obtain ⟨o', heq, ho'⟩ := exists_assignAll_member assign field set hassign (Recovers.optional hnull h)
    exact ⟨o', heq, fun r _ => ho' r⟩

theorem noRepeats_of_nodup {fields : List String} {ms : List (String × Json)}
    (h : (ms.map Prod.fst).Nodup) : NoRepeats fields ms :=
  fun f _ => List.nodup_iff_count.1 h f

theorem names_rereadMembers (ms : List (String × Json)) :
    (rereadMembers ms).map Prod.fst = ms.map Prod.fst := by
  rw [rereadMembers_eq_map, List.map_map]
  rfl

/-- A record is read from an object without repeated names by filling its fields. -/
theorem readRecord_reread {assign : ρ → String → Json → Except ShapeError ρ} {shape : Shape}
    {fields : List String} {needed : Nat} {start r : ρ} {ms : List (String × Json)}
    (hnodup : (ms.map Prod.fst).Nodup)
    (h : assignAll assign start (rereadMembers ms) = .ok r) :
    readRecord shape fields needed start assign (reread (.object ms)) = .ok r := by
  rw [← names_rereadMembers] at hnodup
  exact bind_eq_ok_iff.2 ⟨(), refuseRepeated_eq_ok_iff.2 (noRepeats_of_nodup hnodup), h⟩

end Record

end Json

/-! ### Rules and templates -/

namespace Value

/-- A value is read back, unless it is a number that is not. -/
theorem recovers {v : Value} (h : v.ReadsBack) :
    Recovers Value.equals Value.ofJson v.toJson v := by
  cases v with
  | bool b => exact ⟨bool b, rfl, beq_self_eq_true b⟩
  | text s => exact ⟨text s, rfl, beq_self_eq_true s⟩
  | number x =>
    obtain ⟨n, hn, heq⟩ := (h x rfl).reread
    exact ⟨number n.toFloat, by rw [hn]; rfl, heq⟩

theorem recovers_list {vs : List Value}
    (h : ∀ v ∈ vs, v.ReadsBack) :
    Recovers (fun ws vs => ws.isEqv vs Value.equals) (readItems Value.ofJson)
      (Value.listToJson vs) vs :=
  Recovers.items fun v hv => recovers (h v hv)

end Value

namespace ParamSpec

/-- The JSON form of a rule that may be missing. -/
def optionalToJson (o : Option ParamSpec) : Json := (o.map toJson).getD .null

/-- The member of the values that are excluded, unless there are none. -/
def excludeMember (s : ParamSpec) : List (String × Json) :=
  if s.exclude.isEmpty then [] else [("exclude", Value.listToJson s.exclude)]

theorem toJson_eq (s : ParamSpec) :
    s.toJson = .object (optionalMember "values" Value.listToJson s.values ++
      optionalMember "min" (fun x => .number (.float x)) s.min ++
      optionalMember "max" (fun x => .number (.float x)) s.max ++ excludeMember s) := rfl

theorem names_excludeMember (s : ParamSpec) :
    ((excludeMember s).map Prod.fst).Sublist ["exclude"] := by
  rw [excludeMember]
  split
  · exact List.nil_sublist _
  · exact List.Sublist.refl _

theorem exists_assignAll_excludeMember {s : ParamSpec}
    (h : ∀ v ∈ s.exclude, v.ReadsBack) :
    ∃ vs, vs.isEqv s.exclude Value.equals = true ∧ ∀ r : ParamSpec, r.exclude = [] →
      assignAll assign r (rereadMembers (excludeMember s)) = .ok { r with exclude := vs } := by
  rw [excludeMember]
  split
  · next hempty =>
    rw [List.isEmpty_iff.1 hempty]
    refine ⟨[], rfl, ?_⟩
    rintro ⟨values, min, max, exclude⟩ rfl
    exact assignAll_nil_iff.2 rfl
  · obtain ⟨vs, heq, hset⟩ := exists_assignAll_member assign "exclude"
      (fun r vs => { r with exclude := vs }) (fun _ _ => rfl) (Value.recovers_list h)
    exact ⟨vs, heq, fun r _ => hset r⟩

/-- A rule is read back if its numbers are. -/
theorem recovers {s : ParamSpec}
    (hliterals : ∀ v ∈ s.literals, v.ReadsBack)
    (hbounds : ∀ x ∈ s.bounds, (Json.number (.float x)).ReadsAs x) :
    Recovers ParamSpec.equals ParamSpec.ofJson s.toJson s := by
  have hbound : ∀ x ∈ s.bounds, Recovers (· == ·) readNumber (.number (.float x)) x := by
    intro x hx
    obtain ⟨n, hn, heq⟩ := (hbounds x hx).reread
    exact ⟨n.toFloat, by rw [hn]; rfl, heq⟩
  obtain ⟨values, hvalues, setValues⟩ := exists_assignAll_optionalMember assign "values"
    (fun r o => { r with values := o }) (fun _ _ => rfl) (fun _ h => by cases h)
    fun vs hvs => Value.recovers_list fun v hv => hliterals v (mem_literals.2 (.inl ⟨vs, hvs, hv⟩))
  obtain ⟨min, hmin, setMin⟩ := exists_assignAll_optionalMember assign "min"
    (fun r o => { r with min := o }) (fun _ _ => rfl) (fun _ h => by cases h)
    fun x hx => hbound x (mem_bounds.2 (.inl hx))
  obtain ⟨max, hmax, setMax⟩ := exists_assignAll_optionalMember assign "max"
    (fun r o => { r with max := o }) (fun _ _ => rfl) (fun _ h => by cases h)
    fun x hx => hbound x (mem_bounds.2 (.inr hx))
  obtain ⟨exclude, hexclude, setExclude⟩ := exists_assignAll_excludeMember
    fun v hv => hliterals v (mem_literals.2 (.inr hv))
  refine ⟨⟨values, min, max, exclude⟩, ?_, ?_⟩
  · rw [toJson_eq]
    refine readRecord_reread ?_ ?_
    · -- The names are some of the fields, in their order.
      simp only [List.map_append]
      refine List.Nodup.sublist ?_ (show fields.Nodup by decide)
      exact (((names_optionalMember "values" _).append (names_optionalMember "min" _)).append
        (names_optionalMember "max" _)).append (names_excludeMember s)
    · simp only [rereadMembers_append]
      exact assignAll_append_iff.2 ⟨_, assignAll_append_iff.2 ⟨_, assignAll_append_iff.2
        ⟨_, setValues {} rfl, setMin _ rfl⟩, setMax _ rfl⟩, setExclude _ rfl⟩
  · simp only [ParamSpec.equals, Bool.and_eq_true]
    exact ⟨⟨⟨hvalues, hmin⟩, hmax⟩, hexclude⟩

end ParamSpec

namespace Template

/-- The members of a template behind its id. -/
def fixedMembers (t : Template) : List (String × Json) :=
  [("stem", .text t.stem),
    ("params", .object (t.params.entries.map fun e => (e.1, ParamSpec.optionalToJson e.2))),
    ("derived", .object (t.derived.entries.map fun e => (e.1, .text e.2))),
    ("constraints", .array (t.constraints.map .text)),
    ("answer", (t.answer.map Value.toJson).getD .null),
    ("distractors", Value.listToJson t.distractors)]

theorem toJson_eq (t : Template) :
    t.toJson = .object (optionalMember "id" .text t.id ++ t.fixedMembers) := rfl

/-- **A template is read back from its own text**, equal to what it was and with its parameters and
its derived values in their order, if each of its numbers is read back from its own text. -/
theorem ofJson_toJson_compact (t : Template)
    (hliterals : ∀ v ∈ t.literals, v.ReadsBack)
    (hbounds : ∀ x ∈ t.bounds, (Json.number (.float x)).ReadsAs x) :
    ∃ j t', parse? t.toJson.compact = some j ∧ ofJson j = .ok t' ∧ t'.equals t = true ∧
      t'.params.keys = t.params.keys ∧ t'.derived.keys = t.derived.keys := by
  have hspecs : ∀ e ∈ t.params.entries, Recovers (equalsOption ParamSpec.equals)
      (readOptional ParamSpec.ofJson) (ParamSpec.optionalToJson e.2) e.2 := by
    intro e he
    apply Recovers.optional (fun _ h => by cases h)
    intro s hs
    have hmem : s ∈ t.specs := mem_specs.2 ⟨e.1, hs ▸ he⟩
    exact ParamSpec.recovers (fun v hv => hliterals v (mem_literals.2 (.inl ⟨s, hmem, hv⟩)))
      fun x hx => hbounds x (mem_bounds.2 ⟨s, hmem, hx⟩)
  obtain ⟨params, hparams, hparamsEq, hparamsKeys⟩ := Recovers.map hspecs
  obtain ⟨derived, hderived, hderivedEq, hderivedKeys⟩ :=
    Recovers.map (m := t.derived) fun e _ => Recovers.text e.2
  obtain ⟨id, hid, setId⟩ := exists_assignAll_optionalMember assign "id"
    (fun r o => { r with id := o }) (fun _ _ => rfl) (fun _ h => by cases h)
    fun s (_ : s ∈ t.id) => Recovers.text s
  obtain ⟨constraints, hconstraints, hconstraintsEq⟩ :=
    Recovers.items fun s (_ : s ∈ t.constraints) => Recovers.text s
  obtain ⟨answer, hanswer, hanswerEq⟩ := Recovers.optional (fun _ h => by cases h)
    fun v hv => Value.recovers (hliterals v (mem_literals.2 (.inr (.inl hv))))
  obtain ⟨distractors, hdistractors, hdistractorsEq⟩ :=
    Value.recovers_list fun v hv => hliterals v (mem_literals.2 (.inr (.inr hv)))
  refine ⟨_, ⟨id, t.stem, .ofList params, .ofList derived, constraints, answer, distractors⟩,
    parse?_compact _, ?_, ?_, hparamsKeys, hderivedKeys⟩
  · rw [toJson_eq]
    refine readRecord_reread ?_ ?_
    · rw [List.map_append]
      refine List.Nodup.sublist ?_ (show fields.Nodup by decide)
      exact (names_optionalMember "id" _).append (List.Sublist.refl _)
    · rw [rereadMembers_append]
      exact assignAll_append_iff.2 ⟨_, setId {} rfl,
        assignAll_cons_iff.2 ⟨_, bind_eq_ok_iff.2 ⟨t.stem, rfl, rfl⟩,
        assignAll_cons_iff.2 ⟨_, bind_eq_ok_iff.2 ⟨params, hparams, rfl⟩,
        assignAll_cons_iff.2 ⟨_, bind_eq_ok_iff.2 ⟨derived, hderived, rfl⟩,
        assignAll_cons_iff.2 ⟨_, bind_eq_ok_iff.2 ⟨constraints, hconstraints, rfl⟩,
        assignAll_cons_iff.2 ⟨_, bind_eq_ok_iff.2 ⟨answer, hanswer, rfl⟩,
        assignAll_cons_iff.2 ⟨_, bind_eq_ok_iff.2 ⟨distractors, hdistractors, rfl⟩,
        assignAll_nil_iff.2 rfl⟩⟩⟩⟩⟩⟩⟩
  · have hidEq : (id == t.id) = true := by
      rw [← equalsOption_beq]
      exact hid
    have hconstraintsBeq : (constraints == t.constraints) = true := by
      show constraints.beq t.constraints = true
      rw [List.beq_eq_isEqv]
      exact hconstraintsEq
    simp only [Template.equals, Bool.and_eq_true]
    exact ⟨⟨⟨⟨⟨⟨hidEq, beq_self_eq_true _⟩, hparamsEq⟩, hderivedEq⟩, hconstraintsBeq⟩, hanswerEq⟩,
      hdistractorsEq⟩

/-- A template with keys out of order, rules that are missing, empty or without bounds, characters
that are escaped, and numbers of every form. -/
def unsettled : Template where
  stem := "\"\x7b\x7bx\x7d\x7d\" \\ \x01\n\u2028é"
  params := .ofList [("x", some { min := some (-0.5), max := some 1e21, exclude := [.number 2.5] }),
    ("c", none), ("b", some {}), ("a", some { values := some [] }),
    ("d", some { values := some [.number (-0.0), .number (-3), .text "", .bool false] })]
  derived := .ofList [("q", "x + 1"), ("p", "q")]
  distractors := [.number 9007199254740991, .number 1e-7]

/-- All its numbers are read back, so it is. The negative zero among them is read as zero. -/
theorem ofJson_toJson_compact_unsettled :
    (∀ v ∈ unsettled.literals, v.ReadsBack) ∧
      (∀ x ∈ unsettled.bounds, (Json.number (.float x)).ReadsAs x) ∧
      ∃ j t', parse? unsettled.toJson.compact = some j ∧ ofJson j = .ok t' ∧
        t'.equals unsettled = true ∧ t'.params.keys = unsettled.params.keys ∧
        t'.derived.keys = unsettled.derived.keys := by
  have hliterals : ∀ v ∈ unsettled.literals, v.ReadsBack := by decide +kernel
  have hbounds : ∀ x ∈ unsettled.bounds, (Json.number (.float x)).ReadsAs x := by decide +kernel
  exact ⟨hliterals, hbounds, ofJson_toJson_compact unsettled hliterals hbounds⟩

end Template
end QuizBank

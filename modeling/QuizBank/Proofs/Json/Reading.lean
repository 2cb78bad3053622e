import QuizBank.Json.Reader

/-!
# What the JSON readers find

The results of the readers without the proofs that they carry: `Finds` says that a reader finds a
value and leaves a text. For each reader of a tree there are lemmas, `…_finds_iff`, that say when it
finds what. Nothing behind these lemmas unfolds a reader of trees.
-/

namespace QuizBank
namespace Json

/-- The reader finds a value and leaves the text `rest`. -/
def Finds {α : Type} {s : List Char} (found : Option (Found α s)) (value : α)
    (rest : List Char) : Prop := ∃ f, found = some f ∧ f.value = value ∧ f.rest = rest

section Lemmas

variable {α β : Type} {s t rest : List Char} {value : α}

theorem Finds.shorter {found : Option (Found α s)} (h : Finds found value rest) :
    rest.length < s.length := by
  obtain ⟨f, -, -, rfl⟩ := h
  exact f.shorter

/-- A reader finds one value only. -/
theorem Finds.unique {found : Option (Found α s)} {value' : α} {rest' : List Char}
    (h : Finds found value rest) (h' : Finds found value' rest') :
    value = value' ∧ rest = rest' := by
  obtain ⟨f, rfl, rfl, rfl⟩ := h
  obtain ⟨_, ⟨⟩, rfl, rfl⟩ := h'
  exact ⟨rfl, rfl⟩

@[simp] theorem finds_none : Finds (none : Option (Found α s)) value rest ↔ False := by
  simp [Finds]

@[simp] theorem finds_some {f : Found α s} :
    Finds (some f) value rest ↔ f.value = value ∧ f.rest = rest := by
  simp [Finds]

theorem finds_map_iff {found : Option (Found α s)} {v : β} (g : α → β)
    (h : ∀ f : Found α s, f.rest.length < t.length) :
    Finds (found.map fun f => (⟨g f.value, f.rest, h f⟩ : Found β t)) v rest ↔
      ∃ a, Finds found a rest ∧ v = g a := by
  cases found with
  | none => simp
  | some f =>
    constructor
    · rintro ⟨_, hf, rfl, rfl⟩
      cases hf
      exact ⟨f.value, finds_some.2 ⟨rfl, rfl⟩, rfl⟩
    · rintro ⟨a, ha, rfl⟩
      obtain ⟨rfl, rfl⟩ := finds_some.1 ha
      exact ⟨_, rfl, rfl, rfl⟩

end Lemmas

theorem textAt_finds_iff {s rest : List Char} {value : Option String} :
    Finds (textAt s) value rest ↔
      ∃ ps, pieces s = some (ps, rest) ∧ value = (assemble ps).map String.ofList := by
  rw [textAt]
  split
  · next ps r h =>
    constructor
    · intro hf
      obtain ⟨rfl, rfl⟩ := finds_some.1 hf
      exact ⟨ps, h, rfl⟩
    · rintro ⟨ps', h', rfl⟩
      rw [h] at h'
      cases h'
      exact finds_some.2 ⟨rfl, rfl⟩
  · next h => simp [h]

theorem scalarAt_finds_iff {s rest : List Char} {j : Json} :
    Finds (scalarAt s) j rest ↔ scalarPart s = some (j, rest) ∧ rest.length < s.length := by
  rw [scalarAt]
  split
  · next value r h =>
    split
    · next hlt =>
      constructor
      · intro hf
        obtain ⟨rfl, rfl⟩ := finds_some.1 hf
        exact ⟨h, hlt⟩
      · rintro ⟨h', -⟩
        rw [h] at h'
        cases h'
        exact finds_some.2 ⟨rfl, rfl⟩
    · next hlt =>
      refine iff_of_false finds_none.1 ?_
      rintro ⟨h', hlt'⟩
      rw [h] at h'
      cases h'
      exact hlt hlt'
  · next h => simp [h]

/-! ### Values -/

/-- The tree of a text literal. -/
def ofText : Option String → Json
  | some value => text value
  | none => unrepresentable

section Values

variable {s t rest : List Char} {j : Json}

theorem valueAt_nil (h : skipBlanks s = []) : valueAt s = none := by
  rw [valueAt]
  split
  · rfl
  all_goals simp_all

theorem valueAt_quote_finds_iff (h : skipBlanks s = '"' :: t) :
    Finds (valueAt s) j rest ↔ ∃ value, Finds (textAt t) value rest ∧ j = ofText value := by
  rw [valueAt]
  split
  case h_2 t' h' =>
    cases h.symm.trans h'
    exact finds_map_iff ofText _
  all_goals simp_all

theorem valueAt_bracket_finds_iff (h : skipBlanks s = '[' :: t) :
    Finds (valueAt s) j rest ↔
      (skipBlanks t = ']' :: rest ∧ j = array []) ∨
        ((∀ u, skipBlanks t ≠ ']' :: u) ∧
          ∃ items, Finds (itemsAt t) items rest ∧ j = array items) := by
  rw [valueAt]
  split
  case h_3 t' h' =>
    cases h.symm.trans h'
    dsimp only
    split
    · next u hu => simp [hu, eq_comm, and_comm]
    · next hu =>
      rw [finds_map_iff array _]
      grind
  all_goals simp_all

theorem valueAt_brace_finds_iff (h : skipBlanks s = '\x7b' :: t) :
    Finds (valueAt s) j rest ↔
      (skipBlanks t = '\x7d' :: rest ∧ j = object []) ∨
        ((∀ u, skipBlanks t ≠ '\x7d' :: u) ∧
          ∃ members, Finds (membersAt t) members rest ∧ j = objectOf members) := by
  rw [valueAt]
  split
  case h_4 t' h' =>
    cases h.symm.trans h'
    dsimp only
    split
    · next u hu => simp [hu, eq_comm, and_comm]
    · next hu =>
      rw [finds_map_iff objectOf _]
      grind
  all_goals simp_all

theorem valueAt_scalar_finds_iff {c : Char} (h : skipBlanks s = c :: t)
    (hc : c ≠ '"' ∧ c ≠ '[' ∧ c ≠ '\x7b') :
    Finds (valueAt s) j rest ↔ Finds (scalarAt (c :: t)) j rest := by
  rw [valueAt]
  split
  case h_5 c' t' _ _ _ h' =>
    cases h.symm.trans h'
    exact (finds_map_iff id _).trans (by simp)
  all_goals grind

theorem itemsAt_finds_iff {items : List Json} :
    Finds (itemsAt s) items rest ↔
      ∃ item r, Finds (valueAt s) item r ∧
        ((∃ t more, skipBlanks r = ',' :: t ∧ Finds (itemsAt t) more rest ∧
            items = item :: more) ∨
          (skipBlanks r = ']' :: rest ∧ items = [item])) := by
  rw [itemsAt]
  split
  · next h => simp [h]
  next f hf =>
  simp only [hf, finds_some]
  split
  · next t ht =>
    rw [finds_map_iff (f.value :: ·) _]
    grind
  · next t ht => grind [finds_some]
  · next h₁ h₂ => grind [finds_none]

theorem membersAt_finds_iff {members : List (Option String × Json)} :
    Finds (membersAt s) members rest ↔
      ∃ t name r u value r₂, skipBlanks s = '"' :: t ∧ Finds (textAt t) name r ∧
        skipBlanks r = ':' :: u ∧ Finds (valueAt u) value r₂ ∧
        ((∃ v more, skipBlanks r₂ = ',' :: v ∧ Finds (membersAt v) more rest ∧
            members = (name, value) :: more) ∨
          (skipBlanks r₂ = '\x7d' :: rest ∧ members = [(name, value)])) := by
  rw [membersAt]
  split
  next t ht =>
    dsimp only
    split
    · next hname => grind [finds_none]
    next name hname =>
    split
    next u hu =>
      split
      · next hf => grind [finds_none, finds_some]
      next f hf =>
      split
      · next v hv =>
        rw [finds_map_iff ((name.value, f.value) :: ·) _]
        grind [finds_some]
      · next v hv => grind [finds_some]
      · next h₁ h₂ => grind [finds_none, finds_some]
    · grind [finds_none, finds_some]
  · grind [finds_none, finds_some]

end Values

end Json
end QuizBank

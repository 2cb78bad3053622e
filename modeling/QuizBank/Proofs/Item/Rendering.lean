import Mathlib.Logic.ExistsUnique
import QuizBank.Proofs.Item.Placeholders

/-!
# One pass over the stem

What a placeholder is can be said without a reader: double braces, blanks, a name, blanks and double
braces (`Placeholder.Spells`). A stem without one is rendered as it is, and one with a placeholder
is parted at the leftmost of them (`Leftmost`): the text in front is copied, the placeholder gives
way to its value or stays, and rendering goes on behind it. A value that reads like a placeholder
is so not filled in a second time.
-/

namespace QuizBank

namespace Rendering

namespace Placeholder

/-- The text is a placeholder of the name. -/
inductive Spells : List Char → List Char → Prop
  | intro {before name after : List Char} :
      (∀ c ∈ before, Text.isBlank c = true) → isName name = true →
      (∀ c ∈ after, Text.isBlank c = true) →
      Spells name ('\x7b' :: '\x7b' :: (before ++ name ++ after ++ ['\x7d', '\x7d']))

/-- What is read is a placeholder, and it stands at the front. -/
theorem spells_of_read? {s : List Char} {p : Placeholder} (h : read? s = some p) :
    Spells p.name p.chars ∧ s = p.chars ++ p.rest := by
  unfold read? at h
  split at h
  · next s =>
    dsimp only at h
    split at h
    · next c t ht =>
      split at h
      · next hstart =>
        split at h
        · next rest hrest =>
          cases h
          have hblank : ∀ l : List Char, ∀ d ∈ l.takeWhile Text.isBlank, Text.isBlank d = true :=
            fun l => List.all_eq_true.1 List.all_takeWhile
          have hname : isName (c :: t.takeWhile Text.isWord) = true := by
            rw [isName, hstart, Bool.true_and, List.all_takeWhile]
          refine ⟨.intro (hblank s) hname (hblank _), ?_⟩
          have hs : s = s.takeWhile Text.isBlank ++ c :: t := by
            rw [← ht, List.takeWhile_append_dropWhile]
          have hend : t.dropWhile Text.isWord =
              (t.dropWhile Text.isWord).takeWhile Text.isBlank ++ '\x7d' :: '\x7d' :: rest := by
            rw [← hrest, List.takeWhile_append_dropWhile]
          have htail : c :: t = c :: t.takeWhile Text.isWord ++
              ((t.dropWhile Text.isWord).takeWhile Text.isBlank ++ '\x7d' :: '\x7d' :: rest) := by
            rw [← hend, List.cons_append, List.takeWhile_append_dropWhile]
          calc '\x7b' :: '\x7b' :: s
              = '\x7b' :: '\x7b' :: (s.takeWhile Text.isBlank ++ (c :: t.takeWhile Text.isWord ++
                  ((t.dropWhile Text.isWord).takeWhile Text.isBlank ++
                    '\x7d' :: '\x7d' :: rest))) := by rw [← htail, ← hs]
            _ = _ := by simp [chars]
        · cases h
      · cases h
    · cases h
  · cases h

/-- A placeholder at the front is read, whatever text comes behind it. -/
theorem Spells.exists_read? {name text : List Char} (h : Spells name text) (s : List Char) :
    ∃ p, read? (text ++ s) = some p ∧ p.name = name ∧ p.chars = text ∧ p.rest = s := by
  cases h with
  | intro hbefore hname hafter =>
    exact ⟨_, read?_of_parts hbefore hname hafter s, rfl, rfl, rfl⟩

theorem read?_eq_none_iff {s : List Char} :
    read? s = none ↔ ∀ name text rest, Spells name text → s ≠ text ++ rest := by
  constructor
  · rintro hnone name text rest hspells rfl
    obtain ⟨p, hp, -⟩ := hspells.exists_read? rest
    rw [hnone] at hp
    nomatch hp
  · intro h
    rw [Option.eq_none_iff_forall_ne_some]
    intro p hp
    obtain ⟨hspells, hs⟩ := spells_of_read? hp
    exact h p.name p.chars p.rest hspells hs

end Placeholder

/-! ### The leftmost placeholder -/

/-- The text is parted at its leftmost placeholder: no placeholder starts in front of it. -/
structure Leftmost (s front name text behind : List Char) : Prop where
  spells : Placeholder.Spells name text
  parts : s = front ++ (text ++ behind)
  least : ∀ {front' name' text' behind' : List Char}, Placeholder.Spells name' text' →
    s = front' ++ (text' ++ behind') → front.length ≤ front'.length

/-- Does a placeholder stand somewhere in the text? -/
def Occurs (s : List Char) : Prop :=
  ∃ front name text behind, Placeholder.Spells name text ∧ s = front ++ (text ++ behind)

theorem Leftmost.of_read? {s : List Char} {p : Placeholder} (h : Placeholder.read? s = some p) :
    Leftmost s [] p.name p.chars p.rest := by
  obtain ⟨hspells, hs⟩ := Placeholder.spells_of_read? h
  exact ⟨hspells, hs, fun _ _ => Nat.zero_le _⟩

theorem occurs_cons_iff {c : Char} {s : List Char} (h : Placeholder.read? (c :: s) = none) :
    Occurs (c :: s) ↔ Occurs s := by
  constructor
  · rintro ⟨front, name, text, behind, hspells, hs⟩
    cases front with
    | nil => exact absurd hs (Placeholder.read?_eq_none_iff.1 h name text behind hspells)
    | cons d front =>
      rw [List.cons_append, List.cons.injEq] at hs
      exact ⟨front, name, text, behind, hspells, hs.2⟩
  · rintro ⟨front, name, text, behind, hspells, rfl⟩
    exact ⟨c :: front, name, text, behind, hspells, rfl⟩

section Cons

variable {c : Char} {s front name text behind : List Char}

theorem Leftmost.cons (h : Leftmost s front name text behind)
    (hread : Placeholder.read? (c :: s) = none) :
    Leftmost (c :: s) (c :: front) name text behind := by
  refine ⟨h.spells, by rw [h.parts, List.cons_append], ?_⟩
  intro front' name' text' behind' hspells hs
  cases front' with
  | nil => exact absurd hs (Placeholder.read?_eq_none_iff.1 hread name' text' behind' hspells)
  | cons d front' =>
    rw [List.cons_append, List.cons.injEq] at hs
    exact Nat.succ_le_succ (h.least hspells hs.2)

theorem Leftmost.tail (h : Leftmost (c :: s) (c :: front) name text behind) :
    Leftmost s front name text behind := by
  obtain ⟨hspells, hs, hleast⟩ := h
  rw [List.cons_append, List.cons.injEq] at hs
  refine ⟨hspells, hs.2, ?_⟩
  rintro front' name' text' behind' hspells' rfl
  have hlength : (c :: front).length ≤ (c :: front').length := hleast hspells' rfl
  exact Nat.le_of_succ_le_succ hlength

/-- Nothing is read where the leftmost placeholder is still to come. -/
theorem Leftmost.read?_eq_none (h : Leftmost s (c :: front) name text behind) :
    Placeholder.read? s = none := by
  rw [Placeholder.read?_eq_none_iff]
  intro name' text' rest hspells hs
  have hlength : (c :: front).length ≤ ([] : List Char).length := h.least hspells hs
  exact absurd hlength (Nat.not_succ_le_zero _)

end Cons

/-- A text with a placeholder has a leftmost one. -/
theorem Occurs.exists_leftmost {s : List Char} (h : Occurs s) :
    ∃ front name text behind, Leftmost s front name text behind := by
  induction s with
  | nil =>
    obtain ⟨front, name, text, behind, hspells, hs⟩ := h
    cases hspells
    simp at hs
  | cons c s ih =>
    cases hread : Placeholder.read? (c :: s) with
    | some p => exact ⟨_, _, _, _, .of_read? hread⟩
    | none =>
      obtain ⟨front, name, text, behind, hleft⟩ := ih ((occurs_cons_iff hread).1 h)
      exact ⟨_, _, _, _, hleft.cons hread⟩

/-- There is one way only to part a text at its leftmost placeholder. -/
theorem Leftmost.unique {s front name text behind front' name' text' behind' : List Char}
    (h : Leftmost s front name text behind) (h' : Leftmost s front' name' text' behind') :
    front = front' ∧ name = name' ∧ text = text' ∧ behind = behind' := by
  have hlength : front.length = front'.length :=
    Nat.le_antisymm (h.least h'.spells h'.parts) (h'.least h.spells h.parts)
  obtain ⟨rfl, hrest⟩ := List.append_inj (h.parts.symm.trans h'.parts) hlength
  -- Both are what is read behind the front.
  obtain ⟨p, hp, rfl, rfl, rfl⟩ := h.spells.exists_read? behind
  obtain ⟨p', hp', rfl, rfl, rfl⟩ := h'.spells.exists_read? behind'
  rw [hrest, hp'] at hp
  cases hp
  exact ⟨rfl, rfl, rfl, rfl⟩

/-! ### Rendering -/

/-- What stands in place of a placeholder of the name: the value, or else the placeholder itself. -/
def filling (scope : Scope) (name placeholder : String) : String :=
  match scope.get? name with
  | some v => v.display
  | none => placeholder

variable {scope : Scope}

theorem Placeholder.fill_eq (p : Placeholder) :
    p.fill scope = (filling scope (String.ofList p.name) (String.ofList p.chars)).toList := by
  rw [fill, filling]
  cases scope.get? (String.ofList p.name) with
  | some v => rfl
  | none => exact String.toList_ofList.symm

theorem renderChars_of_not_occurs {s : List Char} (h : ¬ Occurs s) : renderChars scope s = s := by
  induction s with
  | nil => exact renderChars_nil
  | cons c s ih =>
    have hread : Placeholder.read? (c :: s) = none := by
      rw [Placeholder.read?_eq_none_iff]
      intro name text rest hspells hs
      exact h ⟨[], name, text, rest, hspells, hs⟩
    rw [renderChars_of_read?_eq_none hread, ih (mt (occurs_cons_iff hread).2 h)]

/-- The text in front of the leftmost placeholder is copied and the text behind it is rendered. The
induction is on the text in front, at no character of which a placeholder is read. -/
theorem Leftmost.renderChars_eq {s front name text behind : List Char}
    (h : Leftmost s front name text behind) :
    renderChars scope s = front ++
      ((filling scope (String.ofList name) (String.ofList text)).toList ++
        renderChars scope behind) := by
  induction front generalizing s with
  | nil =>
    obtain ⟨p, hp, rfl, rfl, rfl⟩ := h.spells.exists_read? behind
    rw [h.parts, List.nil_append, renderChars_of_read? hp, Placeholder.fill_eq, List.nil_append]
  | cons c front ih =>
    have hread := h.read?_eq_none
    obtain rfl := h.parts
    rw [List.cons_append] at h hread ⊢
    rw [renderChars_of_read?_eq_none hread, ih h.tail, List.cons_append]

/-- Where no name has a value every stem is rendered as it is. -/
theorem renderChars_of_forall_get?_eq_none (h : ∀ name, scope.get? name = none) (s : List Char) :
    renderChars scope s = s := by
  fun_induction renderChars scope s with
  | case1 s p hp ih =>
    obtain ⟨-, hs⟩ := Placeholder.spells_of_read? hp
    rw [ih, Placeholder.fill, h, ← hs]
  | case2 => rfl
  | case3 c rest hread ih => rw [ih]

/-- A stem parted at a placeholder: the text in front, the name, the placeholder and the text
behind. -/
structure Parting where
  front : String
  name : String
  placeholder : String
  behind : String

/-- The stem is parted at its leftmost placeholder. -/
def Parting.IsLeftmost (p : Parting) (stem : String) : Prop :=
  Leftmost stem.toList p.front.toList p.name.toList p.placeholder.toList p.behind.toList

theorem Parting.existsUnique_isLeftmost {stem : String} (h : Occurs stem.toList) :
    ∃! p : Parting, p.IsLeftmost stem := by
  obtain ⟨front, name, text, behind, hleft⟩ := h.exists_leftmost
  refine ⟨⟨.ofList front, .ofList name, .ofList text, .ofList behind⟩, ?_, ?_⟩
  · show Leftmost _ _ _ _ _
    simpa only [String.toList_ofList] using hleft
  · intro p hp
    obtain ⟨rfl, rfl, rfl, rfl⟩ := hleft.unique hp
    simp only [String.ofList_toList]

theorem Parting.IsLeftmost.render_eq {p : Parting} {stem : String} (h : p.IsLeftmost stem) :
    render stem scope =
      p.front ++ filling scope p.name p.placeholder ++ render p.behind scope := by
  have hchars := @Leftmost.renderChars_eq scope _ _ _ _ _ h
  rw [String.ofList_toList, String.ofList_toList] at hchars
  rw [render, hchars, String.ofList_append, String.ofList_append, String.ofList_toList,
    String.ofList_toList, String.append_assoc, render]

/-- **Rendering is one pass from left to right.** A stem without a placeholder is rendered as it is.
Any other stem is parted, in one way only, at its leftmost placeholder: it is rendered to the text
in front, the value of the name or the placeholder itself if the name has none, and the text behind,
rendered. Where no name has a value nothing is changed. -/
theorem render_leftmost (stem : String) (scope : Scope) :
    (¬ Occurs stem.toList → render stem scope = stem) ∧
    (Occurs stem.toList → ∃! p : Parting, p.IsLeftmost stem) ∧
    (∀ p : Parting, p.IsLeftmost stem → render stem scope =
      p.front ++ filling scope p.name p.placeholder ++ render p.behind scope) ∧
    render stem .empty = stem := by
  refine ⟨fun h => ?_, Parting.existsUnique_isLeftmost, fun p h => h.render_eq, ?_⟩
  · rw [render, renderChars_of_not_occurs h, String.ofList_toList]
  · rw [render, renderChars_of_forall_get?_eq_none (fun _ => rfl), String.ofList_toList]

theorem Occurs.mem {s : List Char} (h : Occurs s) : '\x7b' ∈ s := by
  obtain ⟨front, name, text, behind, hspells, rfl⟩ := h
  cases hspells
  simp

/-- A variable whose value reads like a placeholder of its own. -/
def selfReferring : Scope := .ofList [("x", .text "\x7b\x7bx\x7d\x7d")]

/-- Three braces in a row, and a name without a value. -/
theorem render_leftmost_braces :
    ¬ Occurs "6 \x7d\x7d".toList ∧ render "6 \x7d\x7d" selfReferring = "6 \x7d\x7d" ∧
      Parting.IsLeftmost ⟨"\x7b", "x", "\x7b\x7bx\x7d\x7d", " \x7b\x7b y \x7d\x7d"⟩
        "\x7b\x7b\x7bx\x7d\x7d \x7b\x7b y \x7d\x7d" ∧
      render "\x7b\x7b\x7bx\x7d\x7d \x7b\x7b y \x7d\x7d" selfReferring =
        "\x7b" ++ filling selfReferring "x" "\x7b\x7bx\x7d\x7d" ++
          render " \x7b\x7b y \x7d\x7d" selfReferring ∧
      filling selfReferring "x" "\x7b\x7bx\x7d\x7d" = "\x7b\x7bx\x7d\x7d" := by
  have hnone : ¬ Occurs "6 \x7d\x7d".toList := mt Occurs.mem (by decide +kernel)
  have hleft : Parting.IsLeftmost ⟨"\x7b", "x", "\x7b\x7bx\x7d\x7d", " \x7b\x7b y \x7d\x7d"⟩
      "\x7b\x7b\x7bx\x7d\x7d \x7b\x7b y \x7d\x7d" := by
    have h := Leftmost.of_read? (s := "\x7b\x7bx\x7d\x7d \x7b\x7b y \x7d\x7d".toList)
      (p := ⟨[], ['x'], [], " \x7b\x7b y \x7d\x7d".toList⟩) rfl
    exact h.cons rfl
  exact ⟨hnone, (render_leftmost _ selfReferring).1 hnone, hleft,
    (render_leftmost _ selfReferring).2.2.1 _ hleft, by decide +kernel⟩

end Rendering
end QuizBank

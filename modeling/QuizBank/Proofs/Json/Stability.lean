import Mathlib.Data.List.Forall2
import QuizBank.Json.Shape
import QuizBank.Proofs.Json.Canonical

/-!
# Reading what was kept

A document that is kept is read like the tree that it was made from. Readers of scalars and of items
see no difference; a reader of members sees them sorted (`Stable.readMembers`). A record is read
member by member, and the order of its fields does not matter (`IsAssignment.readRecord`).
-/

namespace QuizBank
namespace Json

/-- The reader reads a kept document as it reads the tree, up to a change of what it read. -/
def Stable {α : Type} (read : Json → Except ShapeError α) (norm : α → α) : Prop :=
  ∀ room j j' a, canonical? room j = some j' → read j = .ok a → read j' = .ok (norm a)

/-! ### Sequences of results -/

section Results

variable {α β ε : Type}

theorem bind_eq_ok_iff {x : Except ε α} {f : α → Except ε β} {b : β} :
    x >>= f = .ok b ↔ ∃ a, x = .ok a ∧ f a = .ok b := by
  cases x with
  | error e => simp [bind, Except.bind]
  | ok a => simp [bind, Except.bind]

theorem mapM_eq_ok_iff {f : α → Except ε β} {l : List α} {l' : List β} :
    l.mapM f = .ok l' ↔ List.Forall₂ (fun a b => f a = .ok b) l l' := by
  induction l generalizing l' with
  | nil => cases l' <;> simp [pure, Except.pure]
  | cons a rest ih =>
    simp only [List.mapM_cons, bind_eq_ok_iff, ih, List.forall₂_cons_left_iff]
    constructor
    · rintro ⟨b, hb, bs, hbs, h⟩
      cases h
      exact ⟨b, bs, hb, hbs, rfl⟩
    · rintro ⟨b, bs, hb, hbs, rfl⟩
      exact ⟨b, hb, bs, hbs, rfl⟩

end Results

/-! ### Members one by one -/

/-- The lists have the same names in the same order, with values that are related. -/
def Memberwise {α β : Type} (R : α → β → Prop) : List (String × α) → List (String × β) → Prop :=
  List.Forall₂ fun m m' => m.1 = m'.1 ∧ R m.2 m'.2

namespace Memberwise

variable {α β : Type} {R : α → β → Prop} {l : List (String × α)} {l' : List (String × β)}

theorem nil_left_iff : Memberwise R [] l' ↔ l' = [] := List.forall₂_nil_left_iff

theorem cons_left_iff {name : String} {a : α} :
    Memberwise R ((name, a) :: l) l' ↔
      ∃ b rest, R a b ∧ Memberwise R l rest ∧ l' = (name, b) :: rest := by
  constructor
  · intro h
    obtain ⟨⟨name', b⟩, rest, ⟨rfl, hab⟩, hrest, rfl⟩ := List.forall₂_cons_left_iff.1 h
    exact ⟨b, rest, hab, hrest, rfl⟩
  · rintro ⟨b, rest, hab, hrest, rfl⟩
    exact .cons ⟨rfl, hab⟩ hrest

theorem keys_eq (h : Memberwise R l l') : l.map Prod.fst = l'.map Prod.fst := by
  induction h with
  | nil => rfl
  | cons hm _ ih => rw [List.map_cons, List.map_cons, hm.1, ih]

theorem insertMember (h : Memberwise R l l') (name : String) {a : α} {b : β} (hab : R a b) :
    Memberwise R (insertMember name a l) (insertMember name b l') := by
  induction h with
  | nil => exact .cons ⟨rfl, hab⟩ .nil
  | @cons m m' rest rest' hm hrest ih =>
    obtain ⟨k, v⟩ := m
    obtain ⟨k', v'⟩ := m'
    obtain ⟨rfl, hv⟩ := hm
    rw [Json.insertMember, Json.insertMember]
    split
    · exact .cons ⟨rfl, hab⟩ hrest
    · split
      · exact .cons ⟨rfl, hab⟩ (.cons ⟨rfl, hv⟩ hrest)
      · exact .cons ⟨rfl, hv⟩ ih

theorem sortMembers (h : Memberwise R l l') :
    Memberwise R (sortMembers l) (sortMembers l') := by
  -- Both lists are sorted by insertion, step by step alike.
  refine List.rel_foldl ?_ List.Forall₂.nil h
  rintro sorted sorted' hsorted ⟨k, a⟩ ⟨k', b⟩ ⟨rfl, hab⟩
  exact Memberwise.insertMember hsorted k hab

/-- Items that are related make related members of a list of names. -/
theorem zip (names : List String) {items : List α} {items' : List β}
    (h : List.Forall₂ R items items') : Memberwise R (names.zip items) (names.zip items') := by
  induction h generalizing names with
  | nil =>
    rw [List.zip_nil_right, List.zip_nil_right]
    exact .nil
  | cons hab _ ih =>
    cases names with
    | nil => exact .nil
    | cons name names => exact .cons ⟨rfl, hab⟩ (ih names)

end Memberwise

/-! ### Kept items and members -/

theorem canonicalItems?_eq_some_iff {room : Nat} {items items' : List Json} :
    canonicalItems? room items = some items' ↔
      List.Forall₂ (fun j j' => canonical? room j = some j') items items' := by
  induction items generalizing items' with
  | nil => simp [canonicalItems?, eq_comm]
  | cons item rest ih =>
    rw [canonicalItems?, List.forall₂_cons_left_iff]
    simp only [← ih]
    cases canonical? room item <;> cases canonicalItems? room rest <;> simp [eq_comm]

theorem canonicalMembers?_eq_some_iff {room : Nat} {ms ms' : List (String × Json)} :
    canonicalMembers? room ms = some ms' ↔
      Memberwise (fun j j' => canonical? room j = some j') ms ms' := by
  induction ms generalizing ms' with
  | nil => simp [canonicalMembers?, Memberwise.nil_left_iff, eq_comm]
  | cons m rest ih =>
    rw [canonicalMembers?, Memberwise.cons_left_iff]
    simp only [← ih]
    cases canonical? room m.2 <;> cases canonicalMembers? room rest <;> simp [eq_comm]

theorem canonical?_array_eq_some {room : Nat} {items : List Json} {j' : Json}
    (h : canonical? room (array items) = some j') :
    ∃ room' items', j' = array items' ∧
      List.Forall₂ (fun j j' => canonical? room' j = some j') items items' := by
  cases room with
  | zero => simp [canonical?] at h
  | succ room =>
    rw [canonical?, Option.map_eq_some_iff] at h
    obtain ⟨items', hitems, rfl⟩ := h
    exact ⟨room, items', rfl, canonicalItems?_eq_some_iff.1 hitems⟩

theorem canonical?_object_eq_some {room : Nat} {ms : List (String × Json)} {j' : Json}
    (h : canonical? room (object ms) = some j') :
    ∃ room' ms', j' = object (sortMembers ms') ∧
      Memberwise (fun j j' => canonical? room' j = some j') ms ms' := by
  cases room with
  | zero => simp [canonical?] at h
  | succ room =>
    rw [canonical?, Option.map_eq_some_iff] at h
    obtain ⟨ms', hms, rfl⟩ := h
    exact ⟨room, ms', rfl, canonicalMembers?_eq_some_iff.1 hms⟩

theorem eq_null_of_canonical? {room : Nat} {j : Json} (h : canonical? room j = some null) :
    j = null := by
  cases j with
  | null => rfl
  | array items =>
    obtain ⟨_, _, hnull, -⟩ := canonical?_array_eq_some h
    cases hnull
  | object ms =>
    obtain ⟨_, _, hnull, -⟩ := canonical?_object_eq_some h
    cases hnull
  | _ => simp [canonical?] at h

/-! ### Readers of scalars, items and members -/

theorem readOptional_of_ne_null {α : Type} {read : Json → Except ShapeError α} {j : Json}
    (h : j ≠ null) : readOptional read j = read j >>= fun a => pure (some a) := by
  cases j with
  | null => exact absurd rfl h
  | _ => rfl

theorem readMembers_object_iff {α : Type} {read : Json → Except ShapeError α}
    {ms : List (String × Json)} {entries : List (String × α)} :
    readMembers read (object ms) = .ok entries ↔
      Memberwise (fun j a => read j = .ok a) ms entries := by
  rw [readMembers, mapM_eq_ok_iff, Memberwise]
  refine iff_of_eq (congrArg (List.Forall₂ · ms entries) ?_)
  funext m entry
  rw [bind_eq_ok_iff, eq_iff_iff]
  constructor
  · rintro ⟨a, ha, h⟩
    cases h
    exact ⟨rfl, ha⟩
  · rintro ⟨hname, ha⟩
    exact ⟨entry.2, ha, congrArg (fun name => Except.ok (name, entry.2)) hname⟩

namespace Stable

variable {α : Type} {read : Json → Except ShapeError α}

/-- A reader that accepts neither arrays nor objects reads what is kept unchanged. -/
theorem of_scalar (harray : ∀ items a, read (array items) ≠ .ok a)
    (hobject : ∀ ms a, read (object ms) ≠ .ok a) : Stable read id := by
  intro room j j' a hkept hread
  cases j with
  | array items => exact absurd hread (harray items a)
  | object ms => exact absurd hread (hobject ms a)
  | unrepresentable => simp [canonical?] at hkept
  | _ =>
    simp only [canonical?, Option.some.injEq] at hkept
    exact hkept ▸ hread

theorem readText : Stable readText id :=
  of_scalar (fun _ _ h => by cases h) (fun _ _ h => by cases h)

theorem readNumber : Stable readNumber id :=
  of_scalar (fun _ _ h => by cases h) (fun _ _ h => by cases h)

theorem readOptional (h : Stable read id) : Stable (readOptional read) id := by
  intro room j j' a hkept hread
  -- Only `null` is kept as `null`, so the reader takes the same branch.
  by_cases hj : j = null
  · subst hj
    cases hkept
    exact hread
  · have hj' : j' ≠ null := by
      rintro rfl
      exact hj (eq_null_of_canonical? hkept)
    rw [readOptional_of_ne_null hj, bind_eq_ok_iff] at hread
    obtain ⟨b, hb, hsome⟩ := hread
    rw [readOptional_of_ne_null hj', bind_eq_ok_iff]
    exact ⟨b, h room j j' b hkept hb, hsome⟩

theorem readItems (h : Stable read id) : Stable (readItems read) id := by
  intro room j j' as hkept hread
  cases j with
  | array items =>
    obtain ⟨room', items', rfl, hitems⟩ := canonical?_array_eq_some hkept
    have hread' : List.Forall₂ (fun j a => read j = .ok a) items as := mapM_eq_ok_iff.1 hread
    refine mapM_eq_ok_iff.2 ?_
    clear hkept hread
    induction hitems generalizing as with
    | nil =>
      cases hread'
      exact .nil
    | cons hitem _ ih =>
      cases hread' with
      | cons ha has => exact .cons (h _ _ _ _ hitem ha) (ih _ has)
  | _ => cases hread

theorem readMembers (h : Stable read id) : Stable (readMembers read) sortMembers := by
  intro room j j' entries hkept hread
  cases j with
  | object ms =>
    obtain ⟨room', ms', rfl, hms⟩ := canonical?_object_eq_some hkept
    refine readMembers_object_iff.2 (Memberwise.sortMembers ?_)
    have hread' := readMembers_object_iff.1 hread
    clear hkept hread
    induction hms generalizing entries with
    | nil =>
      cases hread'
      exact .nil
    | cons hm _ ih =>
      cases hread' with
      | cons ha has => exact .cons ⟨hm.1.symm.trans ha.1, h _ _ _ _ hm.2 ha.2⟩ (ih _ has)
  | _ => cases hread

/-- What is done with a kept value after it was read. -/
theorem bind {ρ : Type} {norm : α → α} {norm' : ρ → ρ} (h : Stable read norm) {room : Nat}
    {j j' : Json} (hkept : canonical? room j = some j') {set set' : α → ρ} {r : ρ}
    (hset : ∀ a, set' (norm a) = norm' (set a))
    (hread : (read j >>= fun a => pure (set a)) = .ok r) :
    (read j' >>= fun a => pure (set' a)) = .ok (norm' r) := by
  obtain ⟨a, ha, hr⟩ := bind_eq_ok_iff.1 hread
  cases hr
  exact bind_eq_ok_iff.2 ⟨norm a, h room j j' a hkept ha, congrArg Except.ok (hset a)⟩

end Stable

/-! ### Readers of records -/

section Record

variable {ρ : Type} {fields : List String} {assign : ρ → String → Json → Except ShapeError ρ}

/-- Gives the fields their values, one member after the other. -/
def assignAll (assign : ρ → String → Json → Except ShapeError ρ) (r : ρ)
    (members : List (String × Json)) : Except ShapeError ρ :=
  members.foldlM (fun r m => assign r m.1 m.2) r

theorem assignAll_nil_iff {r r' : ρ} : assignAll assign r [] = .ok r' ↔ r = r' := by
  simp [assignAll, pure, Except.pure]

theorem assignAll_cons_iff {r r' : ρ} {m : String × Json} {ms : List (String × Json)} :
    assignAll assign r (m :: ms) = .ok r' ↔
      ∃ r₁, assign r m.1 m.2 = .ok r₁ ∧ assignAll assign r₁ ms = .ok r' := by
  rw [assignAll, List.foldlM_cons, bind_eq_ok_iff]
  rfl

theorem assignAll_append_iff {r r' : ρ} {ms ms' : List (String × Json)} :
    assignAll assign r (ms ++ ms') = .ok r' ↔
      ∃ r₁, assignAll assign r ms = .ok r₁ ∧ assignAll assign r₁ ms' = .ok r' := by
  rw [assignAll, List.foldlM_append, bind_eq_ok_iff]
  rfl

/-- No field is given twice. -/
def NoRepeats (fields : List String) (members : List (String × Json)) : Prop :=
  ∀ f ∈ fields, (members.map Prod.fst).count f ≤ 1

theorem refuseRepeated_eq_ok_iff {ms : List (String × Json)} :
    refuseRepeated fields ms = .ok () ↔ NoRepeats fields ms := by
  have hcount : ∀ f : String, (ms.filter fun m => m.1 == f).length = (ms.map Prod.fst).count f := by
    intro f
    rw [List.count_eq_countP, List.countP_map, List.countP_eq_length_filter]
    rfl
  rw [refuseRepeated]
  split
  · next f h =>
    have hf : f ∈ fields := List.mem_of_find?_eq_some h
    have hmany := List.find?_some h
    simp only [hcount, decide_eq_true_eq] at hmany
    constructor
    · intro herror
      cases herror
    · intro hno
      exact absurd (hno f hf) (Nat.not_le.2 hmany)
  · next h =>
    refine iff_of_true rfl fun f hf => ?_
    have := List.find?_eq_none.1 h f hf
    simp only [hcount, decide_eq_true_eq] at this
    exact Nat.not_lt.1 this

section Field

variable {α : Type} {π : ρ → α} {field : String}

/-- What only one field can change stays as it is where this field is missing. -/
theorem eq_of_assignAll
    (hkeep : ∀ r r' f j, f ≠ field → assign r f j = .ok r' → π r' = π r)
    {ms : List (String × Json)} (hne : field ∉ ms.map Prod.fst) {r r' : ρ}
    (h : assignAll assign r ms = .ok r') : π r' = π r := by
  induction ms generalizing r with
  | nil => rw [assignAll_nil_iff.1 h]
  | cons m rest ih =>
    obtain ⟨r₁, hfirst, hrest⟩ := assignAll_cons_iff.1 h
    have hm : m.1 ≠ field := fun heq => hne (heq ▸ List.mem_cons_self)
    rw [ih (fun hmem => hne (List.mem_cons_of_mem _ hmem)) hrest, hkeep _ _ _ _ hm hfirst]

/-- What only one field can change is what the one member of this field made of it. -/
theorem exists_assign_of_assignAll
    (hkeep : ∀ r r' f j, f ≠ field → assign r f j = .ok r' → π r' = π r)
    (hfield : field ∈ fields) {ms : List (String × Json)} (hno : NoRepeats fields ms) {j : Json}
    (hmem : (field, j) ∈ ms) {r r' : ρ} (h : assignAll assign r ms = .ok r') :
    ∃ r₁ r₂, assign r₁ field j = .ok r₂ ∧ π r' = π r₂ := by
  have hcount := hno field hfield
  obtain ⟨before, after, rfl⟩ := List.append_of_mem hmem
  have hafter : field ∉ after.map Prod.fst := by
    intro hmem'
    have := List.count_pos_iff.2 hmem'
    rw [List.map_append, List.count_append, List.map_cons, List.count_cons_self] at hcount
    omega
  obtain ⟨r₁, -, hrest⟩ := assignAll_append_iff.1 h
  obtain ⟨r₂, hassign, hlast⟩ := assignAll_cons_iff.1 hrest
  exact ⟨r₁, r₂, hassign, eq_of_assignAll hkeep hafter hlast⟩

/-- What may be missing, and only one field can give, is there exactly if a member gives it. -/
theorem eq_some_iff_of_assignAll {π : ρ → Option α} {read : Json → Except ShapeError (Option α)}
    (hkeep : ∀ r r' f j, f ≠ field → assign r f j = .ok r' → π r' = π r)
    (hset : ∀ r r' j, assign r field j = .ok r' → read j = .ok (π r'))
    (hfield : field ∈ fields) {ms : List (String × Json)} (hno : NoRepeats fields ms) {r r' : ρ}
    (hstart : π r = none) (h : assignAll assign r ms = .ok r') {a : α} :
    π r' = some a ↔ ∃ j, (field, j) ∈ ms ∧ read j = .ok (some a) := by
  have hread : ∀ j, (field, j) ∈ ms → read j = .ok (π r') := by
    intro j hmem
    obtain ⟨r₁, r₂, hassign, heq⟩ := exists_assign_of_assignAll hkeep hfield hno hmem h
    rw [heq]
    exact hset _ _ _ hassign
  constructor
  · intro hsome
    by_cases hmem : field ∈ ms.map Prod.fst
    · obtain ⟨⟨_, j⟩, hj, rfl⟩ := List.mem_map.1 hmem
      exact ⟨j, hj, by rw [hread j hj, hsome]⟩
    · rw [eq_of_assignAll hkeep hmem h, hstart] at hsome
      cases hsome
  · rintro ⟨j, hmem, hj⟩
    rw [hread j hmem] at hj
    exact Except.ok.inj hj

end Field

/-- A record is filled field by field: other members change nothing, different fields can be filled
in either order, and a kept value is as good as the value. -/
structure IsAssignment (fields : List String) (assign : ρ → String → Json → Except ShapeError ρ)
    (norm : ρ → ρ) : Prop where
  other : ∀ {r f j}, f ∉ fields → assign r f j = .ok r
  swap : ∀ {r r₁ r₂ f g a b}, f ∈ fields → g ∈ fields → f ≠ g → assign r f a = .ok r₁ →
    assign r₁ g b = .ok r₂ → ∃ r₁', assign r g b = .ok r₁' ∧ assign r₁' f a = .ok r₂
  kept : ∀ {room r r' f j j'}, f ∈ fields → canonical? room j = some j' →
    assign r f j = .ok r' → assign (norm r) f j' = .ok (norm r')

namespace IsAssignment

variable {norm : ρ → ρ} (h : IsAssignment fields assign norm)
include h

theorem assignAll_kept {room : Nat} {ms ms' : List (String × Json)}
    (hms : Memberwise (fun j j' => canonical? room j = some j') ms ms') {r r' : ρ}
    (hall : assignAll assign r ms = .ok r') : assignAll assign (norm r) ms' = .ok (norm r') := by
  induction hms generalizing r with
  | nil =>
    cases assignAll_nil_iff.1 hall
    rfl
  | @cons m m' _ _ hm _ ih =>
    obtain ⟨r₁, hfirst, hrest⟩ := assignAll_cons_iff.1 hall
    refine assignAll_cons_iff.2 ⟨norm r₁, ?_, ih hrest⟩
    rw [← hm.1]
    by_cases hf : m.1 ∈ fields
    · exact h.kept hf hm.2 hfirst
    · rw [h.other hf] at hfirst
      cases hfirst
      exact h.other hf

/-- A member moves from the end to the front, if it does not pass its own field. -/
theorem assignAll_move {ms : List (String × Json)} {m : String × Json} {r r' : ρ}
    (hm : m.1 ∈ fields → m.1 ∉ ms.map Prod.fst)
    (hall : assignAll assign r (ms ++ [m]) = .ok r') : assignAll assign r (m :: ms) = .ok r' := by
  induction ms generalizing r with
  | nil => exact hall
  | cons m' rest ih =>
    obtain ⟨r₁, hfirst, hrest⟩ := assignAll_cons_iff.1 hall
    have hmoved := ih (fun hf hrest' => hm hf (List.mem_cons_of_mem _ hrest')) hrest
    obtain ⟨r₂, hsecond, hrest'⟩ := assignAll_cons_iff.1 hmoved
    -- Of two fields the names differ, and other members change nothing.
    by_cases hf : m.1 ∈ fields
    · by_cases hf' : m'.1 ∈ fields
      · have hne : m'.1 ≠ m.1 := fun heq => hm hf (heq ▸ List.mem_cons_self)
        obtain ⟨r₁', h₁, h₂⟩ := h.swap hf' hf hne hfirst hsecond
        exact assignAll_cons_iff.2 ⟨r₁', h₁, assignAll_cons_iff.2 ⟨r₂, h₂, hrest'⟩⟩
      · rw [h.other hf'] at hfirst
        cases hfirst
        exact assignAll_cons_iff.2
          ⟨r₂, hsecond, assignAll_cons_iff.2 ⟨r₂, h.other hf', hrest'⟩⟩
    · rw [h.other hf] at hsecond
      cases hsecond
      exact assignAll_cons_iff.2 ⟨r, h.other hf, assignAll_cons_iff.2 ⟨r₁, hfirst, hrest'⟩⟩

theorem assignAll_insertMember {ms : List (String × Json)} {m : String × Json} {r r' : ρ}
    (hm : m.1 ∈ fields → m.1 ∉ ms.map Prod.fst)
    (hall : assignAll assign r (ms ++ [m]) = .ok r') :
    assignAll assign r (insertMember m.1 m.2 ms) = .ok r' := by
  induction ms generalizing r with
  | nil => exact hall
  | cons m' rest ih =>
    rw [insertMember]
    split
    · next heq =>
      -- The member that gives way is of no field, so it had changed nothing.
      have hother : m.1 ∉ fields := fun hf => hm hf (heq ▸ List.mem_cons_self)
      obtain ⟨r₁, hfirst, hrest⟩ := assignAll_cons_iff.1 hall
      obtain ⟨r₂, hrest', hlast⟩ := assignAll_append_iff.1 hrest
      obtain ⟨r₃, hlast', hnil⟩ := assignAll_cons_iff.1 hlast
      rw [h.other (heq ▸ hother)] at hfirst
      rw [h.other hother] at hlast'
      cases hfirst
      cases hlast'
      cases assignAll_nil_iff.1 hnil
      exact assignAll_cons_iff.2 ⟨r, h.other hother, hrest'⟩
    · split
      · exact h.assignAll_move hm hall
      · obtain ⟨r₁, hfirst, hrest⟩ := assignAll_cons_iff.1 hall
        have hm' : m.1 ∈ fields → m.1 ∉ rest.map Prod.fst :=
          fun hf hrest => hm hf (List.mem_cons_of_mem _ hrest)
        exact assignAll_cons_iff.2 ⟨r₁, hfirst, ih hm' hrest⟩

theorem assignAll_sortMembers {ms : List (String × Json)} (hno : NoRepeats fields ms) {r r' : ρ}
    (hall : assignAll assign r ms = .ok r') : assignAll assign r (sortMembers ms) = .ok r' := by
  induction ms using List.reverseRecOn generalizing r' with
  | nil => exact hall
  | append_singleton ms m ih =>
    have hcount : ∀ f ∈ fields, (ms.map Prod.fst).count f + [m.1].count f ≤ 1 := by
      intro f hf
      have := hno f hf
      rwa [List.map_append, List.count_append] at this
    obtain ⟨r₁, hinit, hlast⟩ := assignAll_append_iff.1 hall
    have hsorted := ih (fun f hf => Nat.le_trans (Nat.le_add_right _ _) (hcount f hf)) hinit
    rw [sortMembers_append_singleton]
    -- The last field goes to its place; no field of its name stands in the way.
    refine h.assignAll_insertMember ?_ (assignAll_append_iff.2 ⟨r₁, hsorted, hlast⟩)
    intro hf hmem
    have hpos := List.count_pos_iff.2 (mem_keys_sortMembers.1 hmem)
    have := hcount m.1 hf
    rw [List.count_singleton_self] at this
    omega

theorem readRecord {shape : Shape} {needed : Nat} {start : ρ} (hstart : norm start = start) :
    Stable (readRecord shape fields needed start assign) norm := by
  intro room j j' r hkept hread
  cases j with
  | array items =>
    obtain ⟨room', items', rfl, hitems⟩ := canonical?_array_eq_some hkept
    obtain ⟨r', hall, hlength⟩ := bind_eq_ok_iff.1 hread
    have hall' := h.assignAll_kept (Memberwise.zip fields hitems) hall
    rw [hstart] at hall'
    -- The checks of the length see the same length.
    refine bind_eq_ok_iff.2 ⟨norm r', hall', ?_⟩
    rw [← hitems.length_eq]
    by_cases hfew : items.length < needed
    · rw [if_pos hfew] at hlength
      cases hlength
    · by_cases hmany : fields.length < items.length
      · rw [if_neg hfew, if_pos hmany] at hlength
        cases hlength
      · rw [if_neg hfew, if_neg hmany] at hlength ⊢
        cases hlength
        rfl
  | object ms =>
    obtain ⟨room', ms', rfl, hms⟩ := canonical?_object_eq_some hkept
    obtain ⟨_, hno, hall⟩ := bind_eq_ok_iff.1 hread
    -- The check for repeated fields sees the names; sorted, none of them is repeated.
    have hno' : NoRepeats fields ms' := by
      intro f hf
      rw [← hms.keys_eq]
      exact refuseRepeated_eq_ok_iff.1 hno f hf
    have hsorted : NoRepeats fields (sortMembers ms') :=
      fun f _ => List.nodup_iff_count.1 (sorted_sortMembers ms').nodup f
    have hall' := h.assignAll_kept hms hall
    rw [hstart] at hall'
    exact bind_eq_ok_iff.2
      ⟨(), refuseRepeated_eq_ok_iff.2 hsorted, h.assignAll_sortMembers hno' hall'⟩
  | _ => cases hread

end IsAssignment

end Record

end Json
end QuizBank

import Mathlib.Data.List.Induction
import Mathlib.Data.String.Basic
import QuizBank.Json.Basic

/-!
# Documents that are kept

What becomes of a tree that is kept for later. Its members are sorted, so their order survives only
if they were sorted before (`sortMembers_eq_self_iff`). It can be kept exactly if every part of it
has a value and its nesting is within bounds (`isSome_canonical?_iff`).
-/

namespace QuizBank
namespace Json

/-! ### Sorted members -/

section Members

variable {α : Type}

/-- The names of the members increase. -/
def Sorted (members : List (String × α)) : Prop := (members.map Prod.fst).Pairwise (· < ·)

theorem Sorted.nodup {l : List (String × α)} (h : Sorted l) : (l.map Prod.fst).Nodup :=
  h.imp fun hlt => ne_of_lt hlt

theorem mem_keys_insertMember {name n : String} {value : α} {l : List (String × α)} :
    n ∈ (insertMember name value l).map Prod.fst ↔ n = name ∨ n ∈ l.map Prod.fst := by
  induction l with
  | nil => simp [insertMember]
  | cons m rest ih =>
    obtain ⟨k, v⟩ := m
    rw [insertMember]
    split
    · next h => simp [h]
    · split
      · simp
      · rw [List.map_cons, List.mem_cons, ih, List.map_cons, List.mem_cons]
        exact or_left_comm

theorem Sorted.insertMember {name : String} {value : α} {l : List (String × α)} (h : Sorted l) :
    Sorted (insertMember name value l) := by
  induction l with
  | nil => simp [Json.insertMember, Sorted]
  | cons m rest ih =>
    obtain ⟨k, v⟩ := m
    obtain ⟨hhead, hrest⟩ := List.pairwise_cons.1 h
    rw [Json.insertMember]
    -- The new member replaces the first one, stands before it, or goes further down.
    split
    · next heq => exact List.pairwise_cons.2 ⟨heq ▸ hhead, hrest⟩
    · next hne =>
      split
      · next hlt =>
        refine List.pairwise_cons.2 ⟨fun n hn => ?_, h⟩
        rcases List.mem_cons.1 hn with rfl | hn
        · exact hlt
        · exact lt_trans hlt (hhead n hn)
      · next hnlt =>
        refine List.pairwise_cons.2 ⟨fun n hn => ?_, ih hrest⟩
        rcases mem_keys_insertMember.1 hn with rfl | hn
        · exact lt_of_le_of_ne (not_lt.1 hnlt) (Ne.symm hne)
        · exact hhead n hn

theorem insertMember_of_forall_lt {name : String} {value : α} {l : List (String × α)}
    (h : ∀ n ∈ l.map Prod.fst, n < name) : insertMember name value l = l ++ [(name, value)] := by
  induction l with
  | nil => rfl
  | cons m rest ih =>
    obtain ⟨k, v⟩ := m
    have hk : k < name := h k List.mem_cons_self
    have hrest := ih fun n hn => h n (List.mem_cons_of_mem k hn)
    rw [insertMember, if_neg (ne_of_gt hk), if_neg (lt_asymm hk), hrest, List.cons_append]

/-- Of two members of a name the later one counts. -/
theorem insertMember_insertMember (name : String) (v w : α) (l : List (String × α)) :
    insertMember name w (insertMember name v l) = insertMember name w l := by
  induction l with
  | nil => simp [insertMember]
  | cons m rest ih => grind [insertMember]

/-- Members of different names can be put in their places in either order. -/
theorem insertMember_comm {k n : String} (hne : k ≠ n) (v w : α) (l : List (String × α)) :
    insertMember k v (insertMember n w l) = insertMember n w (insertMember k v l) := by
  induction l with
  | nil => grind [insertMember]
  | cons m rest ih => grind [insertMember]

theorem sortMembers_append_singleton (l : List (String × α)) (m : String × α) :
    sortMembers (l ++ [m]) = insertMember m.1 m.2 (sortMembers l) := by
  rw [sortMembers, List.foldl_append]
  rfl

theorem sortMembers_cons (m : String × α) (l : List (String × α))
    (h : m.1 ∉ l.map Prod.fst) : sortMembers (m :: l) = insertMember m.1 m.2 (sortMembers l) := by
  induction l using List.reverseRecOn with
  | nil => rfl
  | append_singleton l m' ih =>
    simp only [List.map_append, List.mem_append, not_or] at h
    -- The first member passes all others, one after the other.
    have hne : m'.1 ≠ m.1 := fun heq => h.2 (by simp [heq])
    rw [← List.cons_append, sortMembers_append_singleton, ih h.1, sortMembers_append_singleton,
      insertMember_comm hne]

theorem sorted_sortMembers (l : List (String × α)) : Sorted (sortMembers l) := by
  induction l using List.reverseRecOn with
  | nil => exact List.Pairwise.nil
  | append_singleton l m ih =>
    rw [sortMembers_append_singleton]
    exact ih.insertMember

theorem mem_keys_sortMembers {n : String} {l : List (String × α)} :
    n ∈ (sortMembers l).map Prod.fst ↔ n ∈ l.map Prod.fst := by
  induction l using List.reverseRecOn with
  | nil => rfl
  | append_singleton l m ih =>
    rw [sortMembers_append_singleton, mem_keys_insertMember, ih, List.map_append, List.mem_append]
    simp [or_comm]

/-- Members keep their order if they are sorted already, and only then. -/
theorem sortMembers_eq_self_iff {l : List (String × α)} : sortMembers l = l ↔ Sorted l := by
  constructor
  · intro h
    exact h ▸ sorted_sortMembers l
  · intro h
    induction l using List.reverseRecOn with
    | nil => rfl
    | append_singleton l m ih =>
      rw [Sorted, List.map_append, List.pairwise_append] at h
      obtain ⟨hl, -, hlt⟩ := h
      rw [sortMembers_append_singleton, ih hl,
        insertMember_of_forall_lt fun n hn => hlt n hn m.1 (by simp)]

end Members

/-! ### What can be kept -/

mutual

/-- How many arrays and objects stand inside each other, at most. -/
def nesting : Json → Nat
  | array items => nestingOfItems items + 1
  | object members => nestingOfMembers members + 1
  | _ => 0

/-- The greatest nesting of an item. -/
def nestingOfItems : List Json → Nat
  | [] => 0
  | item :: rest => max (nesting item) (nestingOfItems rest)

/-- The greatest nesting of the value of a member. -/
def nestingOfMembers : List (String × Json) → Nat
  | [] => 0
  | (_, value) :: rest => max (nesting value) (nestingOfMembers rest)

end

mutual

/-- Every part of the tree has a value. -/
def IsRepresentable : Json → Prop
  | array items => ItemsRepresentable items
  | object members => MembersRepresentable members
  | unrepresentable => False
  | _ => True

/-- Every item is representable. -/
def ItemsRepresentable : List Json → Prop
  | [] => True
  | item :: rest => IsRepresentable item ∧ ItemsRepresentable rest

/-- The value of every member is representable. -/
def MembersRepresentable : List (String × Json) → Prop
  | [] => True
  | (_, value) :: rest => IsRepresentable value ∧ MembersRepresentable rest

end

mutual

/-- **What can be kept**: a tree without parts that have no value, and with no more nesting than
there is room for. -/
theorem isSome_canonical?_iff (room : Nat) (j : Json) :
    (canonical? room j).isSome = true ↔ IsRepresentable j ∧ nesting j ≤ room := by
  cases j with
  | array items =>
    cases room with
    | zero => simp [canonical?, nesting]
    | succ room =>
      have := isSome_canonicalItems?_iff room items
      simpa [canonical?, IsRepresentable, nesting] using this
  | object members =>
    cases room with
    | zero => simp [canonical?, nesting]
    | succ room =>
      have := isSome_canonicalMembers?_iff room members
      simpa [canonical?, IsRepresentable, nesting] using this
  | unrepresentable => simp [canonical?, IsRepresentable]
  | _ => simp [canonical?, IsRepresentable, nesting]

theorem isSome_canonicalItems?_iff (room : Nat) (items : List Json) :
    (canonicalItems? room items).isSome = true ↔
      ItemsRepresentable items ∧ nestingOfItems items ≤ room := by
  match items with
  | [] => simp [canonicalItems?, ItemsRepresentable, nestingOfItems]
  | item :: rest =>
    have hitem := isSome_canonical?_iff room item
    have hrest := isSome_canonicalItems?_iff room rest
    rw [ItemsRepresentable, nestingOfItems, canonicalItems?, Nat.max_le, and_and_and_comm, ← hitem,
      ← hrest]
    cases canonical? room item <;> cases canonicalItems? room rest <;> simp

theorem isSome_canonicalMembers?_iff (room : Nat) (members : List (String × Json)) :
    (canonicalMembers? room members).isSome = true ↔
      MembersRepresentable members ∧ nestingOfMembers members ≤ room := by
  match members with
  | [] => simp [canonicalMembers?, MembersRepresentable, nestingOfMembers]
  | (name, value) :: rest =>
    have hvalue := isSome_canonical?_iff room value
    have hrest := isSome_canonicalMembers?_iff room rest
    rw [MembersRepresentable, nestingOfMembers, canonicalMembers?, Nat.max_le, and_and_and_comm,
      ← hvalue, ← hrest]
    cases canonical? room value <;> cases canonicalMembers? room rest <;> simp

end

end Json
end QuizBank

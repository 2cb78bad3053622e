import QuizBank.OrderedMap

/-!
# Insertion into ordered maps

How insertion acts on the entries and the keys of a map: a new key is appended, a known key keeps
its place. A list of entries with keys that are new to the map is therefore appended as it is
(`entries_insertAll`). A key is found with the value that it was last given, and no other key
is touched (`get?_insert_self`, `get?_insert_of_ne`).
-/

namespace QuizBank
namespace OrderedMap

variable {α κ : Type} [DecidableEq κ]

/-- Maps are equal when their entries are. -/
theorem eq_of_entries {m n : OrderedMap α} (h : m.entries = n.entries) : m = n := by
  cases m
  cases n
  cases h
  rfl

@[simp] theorem keys_empty : (empty : OrderedMap α).keys = [] := rfl

/-! ### One entry -/

theorem insertEntry_of_not_mem {key : κ} (value : α) :
    ∀ {l : List (κ × α)}, key ∉ l.map Prod.fst → insertEntry key value l = l ++ [(key, value)]
  | [], _ => rfl
  | (k, v) :: rest, h => by
    have hk : k ≠ key := fun hk => h (by simp [hk])
    have hrest : key ∉ rest.map Prod.fst := fun hm => h (by simp [hm])
    rw [insertEntry, if_neg hk, insertEntry_of_not_mem value hrest]
    rfl

theorem entries_insert_of_not_mem {m : OrderedMap α} {key : String} (value : α)
    (h : key ∉ m.keys) : (m.insert key value).entries = m.entries ++ [(key, value)] :=
  insertEntry_of_not_mem value h

theorem keys_insert_of_not_mem {m : OrderedMap α} {key : String} (value : α)
    (h : key ∉ m.keys) : (m.insert key value).keys = m.keys ++ [key] := by
  rw [keys, entries_insert_of_not_mem value h, List.map_append]
  rfl

theorem mem_keys_insert {m : OrderedMap α} {key k : String} (value : α) :
    k ∈ (m.insert key value).keys ↔ k ∈ m.keys ∨ k = key := by
  have hkeys : (m.insert key value).keys =
      if key ∈ m.keys then m.keys else m.keys ++ [key] := map_fst_insertEntry key value m.entries
  rw [hkeys]
  split
  · next hmem =>
    constructor
    · exact .inl
    · rintro (hk | rfl)
      · exact hk
      · exact hmem
  · rw [List.mem_append, List.mem_singleton]

/-- What a map holds behind an insertion is the new entry or one that it held before. -/
theorem eq_or_mem_of_mem_insertEntry {key : String} {value : α} {e : String × α} :
    ∀ {l : List (String × α)}, e ∈ insertEntry key value l → e = (key, value) ∨ e ∈ l
  | [], h => .inl (List.mem_singleton.1 h)
  | (k, v) :: rest, h => by
    rw [insertEntry] at h
    split at h
    · exact (List.mem_cons.1 h).imp_right (List.mem_cons_of_mem _)
    · rcases List.mem_cons.1 h with rfl | h
      · exact .inr (List.mem_cons_self ..)
      · exact (eq_or_mem_of_mem_insertEntry h).imp_right (List.mem_cons_of_mem _)

/-! ### Lookup -/

theorem find?_insertEntry_self (key : String) (value : α) (l : List (String × α)) :
    (insertEntry key value l).find? (fun e => e.1 == key) = some (key, value) := by
  induction l with
  | nil => simp [insertEntry]
  | cons e rest ih =>
    obtain ⟨k, v⟩ := e
    rw [insertEntry]
    split
    · simp
    · next hk => rw [List.find?_cons_of_neg (by simpa using hk), ih]

theorem find?_insertEntry_of_ne {key k : String} (h : k ≠ key) (value : α)
    (l : List (String × α)) :
    (insertEntry key value l).find? (fun e => e.1 == k) = l.find? fun e => e.1 == k := by
  induction l with
  | nil => simp [insertEntry, Ne.symm h]
  | cons e rest ih =>
    obtain ⟨k', v⟩ := e
    rw [insertEntry]
    split
    · next hk =>
      subst hk
      rw [List.find?_cons_of_neg (by simpa using Ne.symm h),
        List.find?_cons_of_neg (by simpa using Ne.symm h)]
    · rw [List.find?_cons, List.find?_cons, ih]

theorem get?_insert_self (m : OrderedMap α) (key : String) (value : α) :
    (m.insert key value).get? key = some value := by
  rw [get?, insert, find?_insertEntry_self]
  rfl

theorem get?_insert_of_ne {key k : String} (h : k ≠ key) (m : OrderedMap α) (value : α) :
    (m.insert key value).get? k = m.get? k := by
  rw [get?, insert, find?_insertEntry_of_ne h]
  rfl

theorem isSome_get?_iff {m : OrderedMap α} {key : String} :
    (m.get? key).isSome = true ↔ key ∈ m.keys := by
  rw [get?, Option.isSome_map, List.find?_isSome, keys, List.mem_map]
  constructor
  · rintro ⟨e, he, hkey⟩
    exact ⟨e, he, by simpa using hkey⟩
  · rintro ⟨e, he, rfl⟩
    exact ⟨e, he, by simp⟩

theorem lookup_insertEntry_self (key : κ) (value : α) (l : List (κ × α)) :
    (insertEntry key value l).lookup key = some value := by
  induction l with
  | nil => exact List.lookup_cons_self
  | cons e rest ih =>
    obtain ⟨k, v⟩ := e
    rw [insertEntry]
    split
    · exact List.lookup_cons_self
    · next hk => rw [List.lookup_cons, beq_eq_false_iff_ne.2 (Ne.symm hk), ih]

theorem lookup_insertEntry_of_ne {key k : κ} (h : k ≠ key) (value : α)
    (l : List (κ × α)) : (insertEntry key value l).lookup k = l.lookup k := by
  induction l with
  | nil => rw [insertEntry, List.lookup_cons, beq_eq_false_iff_ne.2 h]
  | cons e rest ih =>
    obtain ⟨k', v⟩ := e
    rw [insertEntry]
    split
    · next hk =>
      subst hk
      rw [List.lookup_cons, List.lookup_cons, beq_eq_false_iff_ne.2 h]
    · rw [List.lookup_cons, List.lookup_cons, ih]

/-- Giving a key the value that it has changes nothing. -/
theorem insertEntry_of_lookup {key : κ} {value : α} {l : List (κ × α)}
    (h : l.lookup key = some value) : insertEntry key value l = l := by
  induction l with
  | nil => cases h
  | cons e rest ih =>
    obtain ⟨k, v⟩ := e
    rw [insertEntry]
    split
    · next hk =>
      subst hk
      rw [List.lookup_cons_self] at h
      cases h
      rfl
    · next hk =>
      rw [List.lookup_cons, beq_eq_false_iff_ne.2 (Ne.symm hk)] at h
      rw [ih h]

/-! ### Lists of entries -/

@[simp] theorem insertAll_nil (m : OrderedMap α) : m.insertAll [] = m := rfl

@[simp] theorem insertAll_cons (m : OrderedMap α) (e : String × α) (l : List (String × α)) :
    m.insertAll (e :: l) = (m.insert e.1 e.2).insertAll l := rfl

theorem insertAll_append (m : OrderedMap α) (l l' : List (String × α)) :
    m.insertAll (l ++ l') = (m.insertAll l).insertAll l' := List.foldl_append

theorem mem_keys_insertAll {m : OrderedMap α} {l : List (String × α)} {k : String} :
    k ∈ (m.insertAll l).keys ↔ k ∈ m.keys ∨ k ∈ l.map Prod.fst := by
  induction l generalizing m with
  | nil => simp
  | cons e rest ih =>
    rw [insertAll_cons, ih, mem_keys_insert, List.map_cons, List.mem_cons, or_assoc]

/-- Entries with new keys, none twice, are appended in their order. -/
theorem entries_insertAll {m : OrderedMap α} {l : List (String × α)}
    (h : (m.keys ++ l.map Prod.fst).Nodup) : (m.insertAll l).entries = m.entries ++ l := by
  induction l generalizing m with
  | nil => simp
  | cons e rest ih =>
    -- The first key is new to the map, and with it the others are still new.
    have hnew : e.1 ∉ m.keys := by
      intro hm
      have := (List.nodup_append.1 h).2.2 e.1 hm e.1 (by simp)
      exact this rfl
    have hkeys := keys_insert_of_not_mem e.2 hnew
    rw [insertAll_cons, ih (by rw [hkeys]; simpa using h), entries_insert_of_not_mem e.2 hnew]
    simp

theorem entries_ofList {l : List (String × α)} (h : (l.map Prod.fst).Nodup) :
    (ofList l).entries = l := by
  rw [ofList, entries_insertAll (by simpa using h)]
  rfl

end OrderedMap
end QuizBank

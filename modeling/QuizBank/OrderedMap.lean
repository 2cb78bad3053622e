/-!
# Ordered maps

A map that remembers the order in which its keys came. Inserting a key again replaces its value and
leaves it at its place. Keys never repeat, and the type says so.
-/

namespace QuizBank

/-- A list of keys with values, no key twice. -/
structure OrderedMap (α : Type) where
  entries : List (String × α)
  nodup : (entries.map Prod.fst).Nodup := by simp
  deriving DecidableEq

namespace OrderedMap

variable {α β κ : Type} [DecidableEq κ]

/-- Replaces the value of a key, or appends the key. The keys may be of any kind here. -/
def insertEntry (key : κ) (value : α) : List (κ × α) → List (κ × α)
  | [] => [(key, value)]
  | (k, v) :: rest =>
    if k = key then (key, value) :: rest else (k, v) :: insertEntry key value rest

theorem map_fst_insertEntry (key : κ) (value : α) (l : List (κ × α)) :
    (insertEntry key value l).map Prod.fst =
      if key ∈ l.map Prod.fst then l.map Prod.fst else l.map Prod.fst ++ [key] := by
  induction l with
  | nil => simp [insertEntry]
  | cons e rest ih =>
    obtain ⟨k, v⟩ := e
    by_cases h : k = key
    · simp [insertEntry, h]
    · by_cases hm : key ∈ rest.map Prod.fst <;>
        simp [insertEntry, h, Ne.symm h, ih, hm]

theorem nodup_insertEntry (key : κ) (value : α) {l : List (κ × α)}
    (h : (l.map Prod.fst).Nodup) : ((insertEntry key value l).map Prod.fst).Nodup := by
  rw [map_fst_insertEntry]
  split
  · exact h
  · next hm =>
    rw [List.nodup_append]
    refine ⟨h, by simp, ?_⟩
    intro a ha b hb
    simp only [List.mem_singleton] at hb
    exact fun hab => hm (hb ▸ hab ▸ ha)

/-- The map without keys. -/
def empty : OrderedMap α := ⟨[], by simp⟩

instance : Inhabited (OrderedMap α) := ⟨empty⟩

/-- Gives a key a value: in its place if the map has it, else at the end. -/
def insert (m : OrderedMap α) (key : String) (value : α) : OrderedMap α :=
  ⟨insertEntry key value m.entries, nodup_insertEntry key value m.nodup⟩

/-- The value of a key. -/
def get? (m : OrderedMap α) (key : String) : Option α :=
  (m.entries.find? fun e => e.1 == key).map Prod.snd

/-- Does the map have the key? -/
def contains (m : OrderedMap α) (key : String) : Bool := (m.get? key).isSome

/-- The keys in order. -/
def keys (m : OrderedMap α) : List String := m.entries.map Prod.fst

/-- The number of keys. -/
def size (m : OrderedMap α) : Nat := m.entries.length

/-- Has the map no key? -/
def isEmpty (m : OrderedMap α) : Bool := m.entries.isEmpty

/-- Inserts the entries of a list one after the other. -/
def insertAll (m : OrderedMap α) (l : List (String × α)) : OrderedMap α :=
  l.foldl (fun m e => m.insert e.1 e.2) m

/-- The map of a list of entries: of a repeated key the first place and the last value count. -/
def ofList (l : List (String × α)) : OrderedMap α := empty.insertAll l

/-- Have the maps the same keys in the same order, with values that `eq` accepts? -/
def equals (eq : α → α → Bool) (m n : OrderedMap α) : Bool :=
  m.size == n.size &&
    (m.entries.zip n.entries).all fun (a, b) => a.1 == b.1 && eq a.2 b.2

end OrderedMap
end QuizBank

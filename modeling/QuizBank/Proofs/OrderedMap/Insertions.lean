import Mathlib.Data.Finset.Card
import Mathlib.Data.List.Basic
import QuizBank.Proofs.Json.Stability
import QuizBank.Proofs.OrderedMap
import QuizBank.Template.Json

/-!
# What a map keeps of its insertions

`OrderedMap.Keeps` tells a map by the keys and values that were inserted, one after the other, and
by nothing else: the keys stand in the order in which they came first, and each has the value that
came last. One insertion goes on with this (`Keeps.insert`), so every run of insertions does
(`Keeps.insertAll`); and no two maps keep the same insertions (`Keeps.unique`). A map that is read
from an object keeps its members, as the maps of a template do (`keeps_insertions`).
-/

namespace QuizBank
namespace OrderedMap

variable {α : Type} {given : List (String × α)} {m n : OrderedMap α} {key : String} {a : α}

/-- The place at which a key is given a value for the first time. -/
def firstPlace (given : List (String × α)) (key : String) : Nat :=
  (given.map Prod.fst).idxOf key

/-- The key is given this value, and no other behind it. -/
def GivenLast (given : List (String × α)) (key : String) (a : α) : Prop :=
  ∃ before after, given = before ++ (key, a) :: after ∧ key ∉ after.map Prod.fst

/-- The map is what insertions leave: its keys are those that were given a value, each once and in
the order in which they came first, and each has the value that it was given last. -/
structure Keeps (m : OrderedMap α) (given : List (String × α)) : Prop where
  nodup : m.keys.Nodup
  ordered : m.keys.Pairwise fun k k' => firstPlace given k < firstPlace given k'
  mem_iff : ∀ key, key ∈ m.keys ↔ key ∈ given.map Prod.fst
  get?_eq_some_iff : ∀ key a, m.get? key = some a ↔ GivenLast given key a
  get?_eq_none_iff : ∀ key, m.get? key = none ↔ key ∉ given.map Prod.fst
  size_eq : m.size = (given.map Prod.fst).toFinset.card

/-! ### Where a key came first -/

theorem firstPlace_lt (h : key ∈ given.map Prod.fst) : firstPlace given key < given.length := by
  have hlength : (given.map Prod.fst).length = given.length := List.length_map Prod.fst
  rw [← hlength]
  exact List.idxOf_lt_length_iff.2 h

theorem firstPlace_append_of_mem (h : key ∈ given.map Prod.fst) (more : List (String × α)) :
    firstPlace (given ++ more) key = firstPlace given key := by
  rw [firstPlace, List.map_append, List.idxOf_append_of_mem h, firstPlace]

theorem firstPlace_append_of_not_mem (h : key ∉ given.map Prod.fst) (a : α) :
    firstPlace (given ++ [(key, a)]) key = given.length := by
  rw [firstPlace, List.map_append, List.idxOf_append_of_notMem h]
  simp

/-! ### Which value came last -/

theorem not_givenLast_nil : ¬GivenLast [] key a := by
  intro h
  obtain ⟨before, after, heq, -⟩ := h
  simp at heq

theorem givenLast_append_iff {e : String × α} :
    GivenLast (given ++ [e]) key a ↔ e = (key, a) ∨ e.1 ≠ key ∧ GivenLast given key a := by
  constructor
  · intro h
    obtain ⟨before, after, heq, hlast⟩ := h
    obtain rfl | ⟨after, e', rfl⟩ := List.eq_nil_or_concat' after
    · exact .inl (List.singleton_inj.1 (List.append_inj' heq rfl).2)
    · -- What stands behind the last value of a key has another key.
      rw [← List.cons_append, ← List.append_assoc] at heq
      obtain ⟨rfl, hend⟩ := List.append_inj' heq rfl
      obtain rfl := List.singleton_inj.1 hend
      rw [List.map_append, List.mem_append, not_or] at hlast
      refine .inr ⟨?_, before, after, rfl, hlast.1⟩
      intro hkey
      exact hlast.2 (List.mem_singleton.2 hkey.symm)
  · intro h
    obtain rfl | ⟨hne, before, after, rfl, hlast⟩ := h
    · exact ⟨given, [], rfl, List.not_mem_nil⟩
    · refine ⟨before, after ++ [e], by simp, ?_⟩
      simp [hlast, hne.symm]

/-- Where no key is given twice, every value is the last of its key. -/
theorem givenLast_iff_mem (h : (given.map Prod.fst).Nodup) :
    GivenLast given key a ↔ (key, a) ∈ given := by
  constructor
  · intro hgiven
    obtain ⟨before, after, rfl, -⟩ := hgiven
    exact List.mem_append_right _ List.mem_cons_self
  · intro hmem
    obtain ⟨before, after, rfl⟩ := List.append_of_mem hmem
    rw [List.map_append, List.map_cons] at h
    exact ⟨before, after, rfl, (List.nodup_cons.1 (List.nodup_append.1 h).2.1).1⟩

/-! ### Insertions -/

theorem keys_insert_of_mem (a : α) (h : key ∈ m.keys) : (m.insert key a).keys = m.keys :=
  (map_fst_insertEntry key a m.entries).trans (if_pos h)

namespace Keeps

/-- Which keys there are, their order and their values imply the rest. -/
theorem of_ordered
    (hordered : m.keys.Pairwise fun k k' => firstPlace given k < firstPlace given k')
    (hmem : ∀ key, key ∈ m.keys ↔ key ∈ given.map Prod.fst)
    (hget : ∀ key a, m.get? key = some a ↔ GivenLast given key a) : m.Keeps given := by
  have hnodup : m.keys.Nodup := hordered.imp fun hlt heq => absurd (heq ▸ hlt) (lt_irrefl _)
  refine ⟨hnodup, hordered, hmem, hget, ?_, ?_⟩
  · intro key
    rw [← hmem, ← isSome_get?_iff, Option.isSome_iff_ne_none, not_not]
  · have hkeys : m.keys.toFinset = (given.map Prod.fst).toFinset := by
      ext key
      rw [List.mem_toFinset, List.mem_toFinset, hmem]
    calc m.size = m.keys.length := (List.length_map Prod.fst).symm
      _ = m.keys.toFinset.card := (List.toFinset_card_of_nodup hnodup).symm
      _ = (given.map Prod.fst).toFinset.card := by rw [hkeys]

theorem empty : (empty : OrderedMap α).Keeps [] :=
  of_ordered .nil (fun _ => Iff.rfl) fun _ _ => iff_of_false nofun not_givenLast_nil

/-- One more insertion: a known key stays where it is, a new one comes behind all others, and no
other key is touched. -/
theorem insert (h : m.Keeps given) (key : String) (a : α) :
    (m.insert key a).Keeps (given ++ [(key, a)]) := by
  have hplace : ∀ k ∈ m.keys, firstPlace (given ++ [(key, a)]) k = firstPlace given k :=
    fun k hk => firstPlace_append_of_mem ((h.mem_iff k).1 hk) _
  have hordered : m.keys.Pairwise fun k k' =>
      firstPlace (given ++ [(key, a)]) k < firstPlace (given ++ [(key, a)]) k' := by
    refine h.ordered.imp_of_mem ?_
    intro k k' hk hk' hlt
    rw [hplace k hk, hplace k' hk']
    exact hlt
  apply of_ordered
  · by_cases hkey : key ∈ m.keys
    · rw [keys_insert_of_mem a hkey]
      exact hordered
    · rw [keys_insert_of_not_mem a hkey, List.pairwise_append]
      refine ⟨hordered, List.pairwise_singleton _ _, ?_⟩
      intro k hk k' hk'
      rw [List.mem_singleton.1 hk', hplace k hk,
        firstPlace_append_of_not_mem (mt (h.mem_iff key).2 hkey)]
      exact firstPlace_lt ((h.mem_iff k).1 hk)
  · intro k
    rw [mem_keys_insert, h.mem_iff, List.map_append, List.mem_append]
    simp
  · intro k b
    by_cases hk : k = key
    · subst hk
      rw [get?_insert_self, givenLast_append_iff]
      simp
    · rw [get?_insert_of_ne hk, givenLast_append_iff, h.get?_eq_some_iff]
      simp [Ne.symm hk]

/-- A run of insertions, by induction: each goes on from the map that those before it left. -/
theorem insertAll (h : m.Keeps given) (more : List (String × α)) :
    (m.insertAll more).Keeps (given ++ more) := by
  induction more generalizing m given with
  | nil =>
    rw [insertAll_nil, List.append_nil]
    exact h
  | cons e rest ih =>
    have hrest := ih (h.insert e.1 e.2)
    rw [List.append_assoc] at hrest
    exact hrest

theorem ofList (given : List (String × α)) : (ofList given).Keeps given :=
  Keeps.empty.insertAll given

end Keeps

/-! ### No other map -/

theorem mem_entries_iff : (key, a) ∈ m.entries ↔ m.get? key = some a := by
  have hself : OrderedMap.ofList m.entries = m := eq_of_entries (entries_ofList m.nodup)
  have hkeeps := Keeps.ofList m.entries
  rw [hself] at hkeeps
  rw [hkeeps.get?_eq_some_iff, givenLast_iff_mem m.nodup]

theorem Keeps.ordered_entries (h : m.Keeps given) :
    m.entries.Pairwise fun e e' => firstPlace given e.1 < firstPlace given e'.1 := by
  have hordered := h.ordered
  rw [keys, List.pairwise_map] at hordered
  exact hordered

/-- What a map keeps tells its entries and their order. -/
theorem Keeps.unique (hm : m.Keeps given) (hn : n.Keeps given) : m = n := by
  have hperm : m.entries.Perm n.entries := by
    refine (List.perm_ext_iff_of_nodup (.of_map _ m.nodup) (.of_map _ n.nodup)).2 ?_
    intro e
    rw [mem_entries_iff, mem_entries_iff, hm.get?_eq_some_iff, hn.get?_eq_some_iff]
  refine eq_of_entries (hperm.eq_of_pairwise ?_ hm.ordered_entries hn.ordered_entries)
  intro e e' _ _ hlt hlt'
  exact absurd hlt' (lt_asymm hlt)

theorem insertAll_empty_iff : empty.insertAll given = m ↔ m.Keeps given := by
  constructor
  · intro h
    subst h
    exact Keeps.ofList given
  · exact fun h => (Keeps.ofList given).unique h

/-- The key that is inserted again stays in front. -/
example : (ofList [("b", 1), ("a", 2), ("b", 3)]).entries = [("b", 3), ("a", 2)] := rfl

/-! ### Maps read from objects -/

/-- The map keeps what the reader makes of the members of an object, one after the other. -/
def KeepsRead (m : OrderedMap α) (read : Json → Except ShapeError α)
    (members : List (String × Json)) : Prop :=
  ∃ given, Json.Memberwise (fun j a => read j = .ok a) members given ∧ m.Keeps given

theorem readMembers_map_ofList_iff {read : Json → Except ShapeError α}
    {members : List (String × Json)} :
    ((Json.object members).readMembers read).map ofList = .ok m ↔ m.KeepsRead read members := by
  simp only [KeepsRead, ← Json.readMembers_object_iff, ← insertAll_empty_iff]
  cases (Json.object members).readMembers read with
  | error e => simp [Except.map]
  | ok given => simp [Except.map, ofList]

end OrderedMap

namespace Template

open Json (bind_eq_ok_iff readMembers)

/-- No other field touches the parameters or the derived values. -/
theorem maps_of_assign {t t' : Template} {field : String} {j : Json}
    (h : assign t field j = .ok t') :
    (field ≠ "params" → t'.params = t.params) ∧ (field ≠ "derived" → t'.derived = t.derived) := by
  unfold assign at h
  split at h
  case h_3 =>
    obtain ⟨entries, -, hset⟩ := bind_eq_ok_iff.1 h
    cases hset
    exact ⟨fun hne => absurd rfl hne, fun _ => rfl⟩
  case h_4 =>
    obtain ⟨entries, -, hset⟩ := bind_eq_ok_iff.1 h
    cases hset
    exact ⟨fun _ => rfl, fun hne => absurd rfl hne⟩
  case h_8 =>
    cases h
    exact ⟨fun _ => rfl, fun _ => rfl⟩
  all_goals
    obtain ⟨value, -, hset⟩ := bind_eq_ok_iff.1 h
    cases hset
    exact ⟨fun _ => rfl, fun _ => rfl⟩

/-- A map that only one field gives keeps the members of the object that this field holds. -/
theorem keepsRead_of_ofJson {α : Type} {π : Template → OrderedMap α} {field : String}
    {read : Json → Except ShapeError α} (hfield : field ∈ fields)
    (hkeep : ∀ t t' f j, f ≠ field → assign t f j = .ok t' → π t' = π t)
    (set : Template → OrderedMap α → Template) (hset : ∀ t m, π (set t m) = m)
    (hassign : ∀ t j, assign t field j =
      readMembers read j >>= fun given => pure (set t (.ofList given)))
    {ms members : List (String × Json)} {t : Template} (h : ofJson (.object ms) = .ok t)
    (hmem : (field, .object members) ∈ ms) : (π t).KeepsRead read members := by
  obtain ⟨_, hno, hall⟩ := bind_eq_ok_iff.1 h
  obtain ⟨t₁, t₂, hone, heq⟩ := Json.exists_assign_of_assignAll hkeep hfield
    (Json.refuseRepeated_eq_ok_iff.1 hno) hmem hall
  rw [hassign] at hone
  obtain ⟨given, hread, hgiven⟩ := bind_eq_ok_iff.1 hone
  cases hgiven
  rw [heq, hset]
  exact ⟨given, Json.readMembers_object_iff.1 hread, .ofList given⟩

theorem params_keepsRead {ms members : List (String × Json)} {t : Template}
    (h : ofJson (.object ms) = .ok t) (hmem : ("params", .object members) ∈ ms) :
    t.params.KeepsRead (·.readOptional ParamSpec.ofJson) members :=
  keepsRead_of_ofJson (by decide) (fun _ _ _ _ hne hassign => (maps_of_assign hassign).1 hne)
    (fun t m => { t with params := m }) (fun _ _ => rfl) (fun _ _ => rfl) h hmem

theorem derived_keepsRead {ms members : List (String × Json)} {t : Template}
    (h : ofJson (.object ms) = .ok t) (hmem : ("derived", .object members) ∈ ms) :
    t.derived.KeepsRead Json.readText members :=
  keepsRead_of_ofJson (by decide) (fun _ _ _ _ hne hassign => (maps_of_assign hassign).2 hne)
    (fun t m => { t with derived := m }) (fun _ _ => rfl) (fun _ _ => rfl) h hmem

end Template

namespace OrderedMap

/-- **A map keeps what was inserted.** Of all maps, the one that insertions into the empty map leave
is the one that keeps them: its keys are distinct and stand in the order in which they came first,
each has the value that came last, no other key has a value, and there are as many as different keys
were inserted. It is the same with a map that is made from a list or read from the members of an
object, repeated names included, and so with the parameters and the derived values of a template. -/
theorem keeps_insertions :
    (∀ {α : Type} (given : List (String × α)) (m : OrderedMap α),
      (empty.insertAll given = m ↔ m.Keeps given) ∧ (ofList given = m ↔ m.Keeps given)) ∧
    (∀ {α : Type} (read : Json → Except ShapeError α) (members : List (String × Json))
      (m : OrderedMap α),
      ((Json.object members).readMembers read).map ofList = .ok m ↔ m.KeepsRead read members) ∧
    ∀ (fields : List (String × Json)) (t : Template), Template.ofJson (.object fields) = .ok t →
      (∀ members, ("params", .object members) ∈ fields →
        t.params.KeepsRead (·.readOptional ParamSpec.ofJson) members) ∧
      ∀ members, ("derived", .object members) ∈ fields →
        t.derived.KeepsRead Json.readText members := by
  refine ⟨?_, fun read members m => readMembers_map_ofList_iff, ?_⟩
  · intro α given m
    exact ⟨insertAll_empty_iff, insertAll_empty_iff⟩
  · intro fields t ht
    refine ⟨?_, ?_⟩
    · exact fun members => Template.params_keepsRead ht
    · exact fun members => Template.derived_keepsRead ht

/-- Parameters of which one is given twice. -/
def repeatedParams : List (String × Json) :=
  [("y", .null), ("x", .object [("values", .array [.text "p"])]),
    ("y", .object [("values", .array [.text "q"])])]

/-- Derived values of which one is given twice. -/
def repeatedDerived : List (String × Json) := [("b", .text "1"), ("a", .text "2"), ("b", .text "a")]

/-- The template with these. -/
def repeating : Template where
  params := .ofList [("y", some { values := some [.text "q"] }),
    ("x", some { values := some [.text "p"] })]
  derived := .ofList [("b", "a"), ("a", "2")]
  answer := some (.text "b")

/-- The repeated names stand first, where they came first, with the values that came last. -/
theorem keeps_insertions_repeating :
    Template.ofJson (.object [("derived", .object repeatedDerived), ("answer", .text "b"),
        ("params", .object repeatedParams)]) = .ok repeating ∧
      repeating.params.KeepsRead (·.readOptional ParamSpec.ofJson) repeatedParams ∧
      repeating.derived.KeepsRead Json.readText repeatedDerived := by
  have hread : Template.ofJson (.object [("derived", .object repeatedDerived),
      ("answer", .text "b"), ("params", .object repeatedParams)]) = .ok repeating := by
    decide +kernel
  obtain ⟨hparams, hderived⟩ := keeps_insertions.2.2 _ _ hread
  refine ⟨hread, hparams _ ?_, hderived _ List.mem_cons_self⟩
  exact List.mem_cons_of_mem _ (List.mem_cons_of_mem _ List.mem_cons_self)

end OrderedMap
end QuizBank

import QuizBank.Proofs.OrderedMap
import QuizBank.Toml.Basic

/-!
# What statements keep

A text that a path leads to stays there: no later statement gives a key another value or goes on
into a text, so a run of statements that succeeds has changed no text (`Leads.foldlM_run`). It is
enough to see this for what a statement does at the end of its path (`Keeps`), as on the way there
tables are only put back in their places.
-/

namespace QuizBank
namespace Toml

variable {key k : String} {value child : Toml} {path : List String} {p : Toml → Prop}
  {entries : List (String × Toml)} {dotted : Bool} {f : Toml → Option Toml}

/-! ### Entries -/

/-- The entries have values of a key, and all of them are of a kind. -/
structure Gives (key : String) (p : Toml → Prop) (entries : List (String × Toml)) : Prop where
  exists_mem : ∃ e ∈ entries, e.1 = key
  of_mem : ∀ e ∈ entries, e.1 = key → p e.2

namespace Gives

theorem singleton (h : p value) : Gives key p [(key, value)] where
  exists_mem := ⟨_, List.mem_singleton_self _, rfl⟩
  of_mem := List.forall_mem_singleton.2 fun _ => h

theorem lookup_ne_none (h : Gives key p entries) : entries.lookup key ≠ none := by
  obtain ⟨e, he, hkey⟩ := h.exists_mem
  intro hnone
  exact bne_iff_ne.1 (List.lookup_eq_none_iff.1 hnone e he) hkey.symm

theorem of_lookup (h : Gives key p entries) (hchild : entries.lookup key = some child) :
    p child := by
  obtain ⟨before, after, hentries, -⟩ := List.lookup_eq_some_iff.1 hchild
  exact h.of_mem (key, child) (by rw [hentries]; simp) rfl

/-- A new key at the end changes nothing for the others. -/
theorem append (h : Gives key p entries) (hnew : entries.lookup k = none) (v : Toml) :
    Gives key p (entries ++ [(k, v)]) where
  exists_mem := by
    obtain ⟨e, he, hkey⟩ := h.exists_mem
    exact ⟨e, List.mem_append_left _ he, hkey⟩
  of_mem := by
    intro e he hkey
    obtain he | he := List.mem_append.1 he
    · exact h.of_mem e he hkey
    · obtain rfl := List.mem_singleton.1 he
      obtain rfl : k = key := hkey
      exact absurd hnew h.lookup_ne_none

/-- A value of the kind may be put in the place of another. -/
theorem insertEntry (h : Gives key p entries) (hv : k = key → p value) :
    Gives key p (OrderedMap.insertEntry k value entries) where
  exists_mem := by
    have hmem : key ∈ entries.map Prod.fst := List.mem_map.2 h.exists_mem
    refine List.mem_map.1 ?_
    rw [OrderedMap.map_fst_insertEntry]
    split
    · exact hmem
    · exact List.mem_append_left _ hmem
  of_mem := by
    intro e he hkey
    obtain rfl | he := OrderedMap.eq_or_mem_of_mem_insertEntry he
    · exact hv hkey
    · exact h.of_mem e he hkey

end Gives

/-! ### Paths -/

/-- The keys of the path lead to the value, table by table. -/
def Leads (value : Toml) : List String → Toml → Prop
  | [], t => t = value
  | key :: path, table _ entries => Gives key (Leads value path) entries
  | _ :: _, _ => False

theorem not_leads_array {w : String} {ofTables : Bool} {items : List Toml} :
    ¬Leads (text w) path (array ofTables items) := by
  cases path with
  | nil => exact fun h => by cases h
  | cons key path => exact id

/-! ### Changes -/

/-- A change that leaves every text where it is. -/
def Keeps (f : Toml → Option Toml) : Prop :=
  ∀ ⦃w path t t'⦄, Leads (text w) path t → f t = some t' → Leads (text w) path t'

/-- It is enough that a change leaves the texts of tables where they are. -/
theorem keeps_of_table (htext : ∀ w, f (text w) = none)
    (htable : ∀ w k way origin entries t', Gives k (Leads (text w) way) entries →
      f (table origin entries) = some t' → Leads (text w) (k :: way) t') : Keeps f := by
  intro w way t t' hleads h
  cases way with
  | nil =>
    obtain rfl : t = text w := hleads
    rw [htext] at h
    cases h
  | cons k way =>
    cases t with
    | table origin entries => exact htable w k way origin entries t' hleads h
    | _ => exact hleads.elim

/-- What a change further down does to a table: a key gets a value, which is new, or that of a table
changed further down, or an array again. -/
theorem exists_child_of_change {t' : Toml} {origin : Origin}
    (h : change dotted f (key :: path) (table origin entries) = some t') :
    ∃ child', t' = table origin (OrderedMap.insertEntry key child' entries) ∧
      (entries.lookup key = none ∨
        (∃ child, entries.lookup key = some child ∧ change dotted f path child = some child') ∨
        ∃ items, entries.lookup key = some (array true items)) := by
  rw [change] at h
  split at h
  · next hnone =>
    obtain ⟨child', -, rfl⟩ := Option.map_eq_some_iff.1 h
    exact ⟨child', rfl, .inl hnone⟩
  · next o es hsome =>
    split at h
    · obtain ⟨child', hchild, rfl⟩ := Option.map_eq_some_iff.1 h
      exact ⟨child', rfl, .inr (.inl ⟨_, hsome, hchild⟩)⟩
    · cases h
  · next items hsome =>
    obtain ⟨items', -, rfl⟩ := Option.map_eq_some_iff.1 h
    exact ⟨array true items', rfl, .inr (.inr ⟨items, hsome⟩)⟩
  · cases h

theorem keeps_change (hf : Keeps f) : Keeps (change dotted f path) := by
  -- The induction is on the path of the change. The way to the text may be any other: it matters
  -- only if both go through the same key.
  induction path with
  | nil => exact hf
  | cons key path ih =>
    refine keeps_of_table (fun w => rfl) fun w k way origin entries t' hgives h => ?_
    obtain ⟨child', rfl, hchild⟩ := exists_child_of_change h
    refine hgives.insertEntry ?_
    rintro rfl
    obtain hnone | ⟨child, hsome, hchange⟩ | ⟨items, hsome⟩ := hchild
    · exact absurd hnone hgives.lookup_ne_none
    · exact ih (hgives.of_lookup hsome) hchange
    · exact (not_leads_array (hgives.of_lookup hsome)).elim

theorem keeps_place : Keeps (place dotted key value) := by
  refine keeps_of_table (fun w => rfl) fun w k way origin entries t' hgives h => ?_
  rw [place] at h
  split at h
  · next hnew =>
    cases h
    exact hgives.append (Option.isNone_iff_eq_none.1 hnew.2) value
  · cases h

theorem keeps_openTable : Keeps (openTable key) := by
  refine keeps_of_table (fun w => rfl) fun w k way origin entries t' hgives h => ?_
  rw [openTable] at h
  split at h
  · next hnew =>
    cases h
    exact hgives.append hnew _
  · next es hsome =>
    cases h
    refine hgives.insertEntry ?_
    rintro rfl
    -- The header takes over a table that was implied, with its entries.
    have hleads := hgives.of_lookup hsome
    cases way with
    | nil => cases hleads
    | cons k way => exact hleads
  · cases h

theorem keeps_openElement : Keeps (openElement key) := by
  refine keeps_of_table (fun w => rfl) fun w k way origin entries t' hgives h => ?_
  rw [openElement] at h
  split at h
  · next hnew =>
    cases h
    exact hgives.append hnew _
  · next items hsome =>
    cases h
    refine hgives.insertEntry ?_
    rintro rfl
    exact (not_leads_array (hgives.of_lookup hsome)).elim
  · cases h

/-! ### Runs -/

theorem Leads.run {w : String} {way : List String} {s s' : Toml × List String}
    {statement : Statement} (hleads : Leads (text w) way s.1)
    (h : Toml.run s statement = some s') : Leads (text w) way s'.1 := by
  cases statement with
  | assign path key value =>
    obtain ⟨t, ht, rfl⟩ := Option.map_eq_some_iff.1 h
    exact keeps_change (keeps_change keeps_place) hleads ht
  | table path key =>
    obtain ⟨t, ht, rfl⟩ := Option.map_eq_some_iff.1 h
    exact keeps_change keeps_openTable hleads ht
  | element path key =>
    obtain ⟨t, ht, rfl⟩ := Option.map_eq_some_iff.1 h
    exact keeps_change keeps_openElement hleads ht

theorem Leads.foldlM_run {w : String} {way : List String} {s s' : Toml × List String}
    {statements : List Statement} (hleads : Leads (text w) way s.1)
    (h : statements.foldlM Toml.run s = some s') : Leads (text w) way s'.1 := by
  induction statements generalizing s with
  | nil =>
    cases h
    exact hleads
  | cons statement statements ih =>
    obtain ⟨s₁, hstatement, hmore⟩ := Option.bind_eq_some_iff.1 h
    exact ih (hleads.run hstatement) hmore

end Toml
end QuizBank

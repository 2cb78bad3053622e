import Mathlib.Data.List.Basic
import QuizBank.File.Tree
import QuizBank.Proofs.OrderedMap

/-!
# Places in a tree

A node that is put at a place of a tree is found there, and so is all that it holds
(`descend?_insertAt_append`). Places beside the way to it are untouched (`descend?_insertAt_apart`),
and on the way each directory has one entry that is new or changed (`descend?_insertAt_above`). How
this acts on the files of a directory depends only on which entries are files
(`fileNames_insertEntry`).
-/

namespace QuizBank
namespace Node

open OrderedMap

/-- Is the node a file? -/
def isFile : Node → Bool
  | file _ => true
  | directory _ => false

variable {root node : Node} {es : List (FileName × Node)}

theorem isFile_iff : node.isFile = true ↔ ∃ content, node = file content := by
  cases node <;> simp [isFile]

@[simp] theorem descend?_file_cons (content name : String) (rest : List String) :
    (file content).descend? (name :: rest) = none := rfl

@[simp] theorem descend?_directory_cons (es : List (FileName × Node)) (name : String)
    (rest : List String) :
    (directory es).descend? (name :: rest) = (es.lookup (.text name)).bind (descend? · rest) := rfl

@[simp] theorem descend?_nil (node : Node) : node.descend? [] = some node := by
  cases node <;> rfl

/-- A way through a file ends there. -/
theorem descend?_file_eq_some_iff {content : String} {place : List String} :
    (file content).descend? place = some node ↔ place = [] ∧ node = file content := by
  cases place <;> simp [eq_comm]

theorem descend?_empty {place : List String} (h : place ≠ []) :
    (directory []).descend? place = none := by
  cases place with
  | nil => exact absurd rfl h
  | cons name rest => rfl

theorem descend?_append (root : Node) (place place' : List String) :
    root.descend? (place ++ place') = (root.descend? place).bind (descend? · place') := by
  induction place generalizing root with
  | nil => rfl
  | cons name rest ih =>
    cases root with
    | file content => rfl
    | directory es =>
      rw [List.cons_append, descend?_directory_cons, descend?_directory_cons]
      cases es.lookup (.text name) with
      | none => rfl
      | some child => exact ih child

/-- Only a directory has a directory below it. -/
theorem isFile_of_descend? {place : List String} (h : node.descend? place = some (directory es)) :
    node.isFile = false := by
  cases node with
  | directory es' => rfl
  | file content =>
    obtain ⟨-, hfile⟩ := descend?_file_eq_some_iff.1 h
    cases hfile

theorem isFile_insertAt_append (node root : Node) (place : List String) (name : String) :
    (insertAt node (place ++ [name]) root).isFile = false := by
  cases place <;> cases root <;> rfl

/-- The names of the files of a directory, as far as they are texts. -/
def fileNames (es : List (FileName × Node)) : List String :=
  (es.filter fun e => e.2.isFile).filterMap fun e => e.1.text?

theorem fileNames_cons (e : FileName × Node) (es : List (FileName × Node)) :
    fileNames (e :: es) = (if e.2.isFile then e.1.text?.toList else []) ++ fileNames es := by
  cases hfile : e.2.isFile <;> cases hname : e.1.text? <;> simp [fileNames, hfile, hname]

theorem mem_fileNames {name : String} :
    name ∈ fileNames es ↔ ∃ node, (.text name, node) ∈ es ∧ node.isFile = true := by
  simp only [fileNames, List.mem_filterMap, List.mem_filter, Prod.exists,
    FileName.text?_eq_some_iff]
  constructor
  · rintro ⟨_, node, ⟨hmem, hfile⟩, rfl⟩
    exact ⟨node, hmem, hfile⟩
  · rintro ⟨node, hmem, hfile⟩
    exact ⟨_, node, ⟨hmem, hfile⟩, rfl⟩

theorem isSome_lookup_of_mem_fileNames {name : String} (h : name ∈ fileNames es) :
    (es.lookup (.text name)).isSome = true := by
  obtain ⟨node, hmem, -⟩ := mem_fileNames.1 h
  exact List.lookup_isSome_iff.2 ⟨_, hmem, beq_self_eq_true _⟩

theorem fileNames_insertEntry_of_some {key : FileName} {old : Node} (h : es.lookup key = some old)
    (hkind : node.isFile = old.isFile) : fileNames (insertEntry key node es) = fileNames es := by
  induction es with
  | nil => cases h
  | cons e rest ih =>
    obtain ⟨k, v⟩ := e
    rw [insertEntry]
    split
    · next hk =>
      subst hk
      rw [List.lookup_cons_self] at h
      cases h
      rw [fileNames_cons, fileNames_cons, hkind]
    · next hk =>
      rw [List.lookup_cons, beq_eq_false_iff_ne.2 (Ne.symm hk)] at h
      rw [fileNames_cons, fileNames_cons, ih h]

theorem fileNames_insertEntry_of_none {name : String} (h : es.lookup (.text name) = none)
    (node : Node) : fileNames (insertEntry (.text name) node es) =
      fileNames es ++ if node.isFile then [name] else [] := by
  have hnew : .text name ∉ es.map Prod.fst := by
    intro hmem
    obtain ⟨e, he, hkey⟩ := List.mem_map.1 hmem
    exact bne_iff_ne.1 (List.lookup_eq_none_iff.1 h e he) hkey.symm
  rw [insertEntry_of_not_mem node hnew]
  cases hnode : node.isFile <;> simp [fileNames, hnode, FileName.text?]

/-- A new entry adds a name to the files at most, and a changed one none, if it stays of its kind.
-/
theorem fileNames_insertEntry {name : String} {other : String → Bool}
    (hold : ∀ old, es.lookup (.text name) = some old → node.isFile = old.isFile)
    (hnew : node.isFile = true → other name = false) :
    fileNames es ⊆ fileNames (insertEntry (.text name) node es) ∧
      (fileNames (insertEntry (.text name) node es)).filter other =
        (fileNames es).filter other := by
  cases hlookup : es.lookup (.text name) with
  | some old =>
    rw [fileNames_insertEntry_of_some hlookup (hold old hlookup)]
    exact ⟨List.Subset.refl _, rfl⟩
  | none =>
    rw [fileNames_insertEntry_of_none hlookup]
    refine ⟨List.subset_append_left _ _, ?_⟩
    cases hnode : node.isFile with
    | false => simp
    | true => simp [hnew hnode]

/-! ### Putting a node into a tree -/

theorem descend?_insertAt_append (node root : Node) (place rest : List String) :
    (insertAt node place root).descend? (place ++ rest) = node.descend? rest := by
  induction place generalizing root with
  | nil => rfl
  | cons name above ih =>
    cases root with
    | file content =>
      rw [List.cons_append, insertAt, descend?_directory_cons, List.lookup_cons_self]
      exact ih (directory [])
    | directory es =>
      rw [List.cons_append, insertAt, descend?_directory_cons, lookup_insertEntry_self]
      exact ih _

/-- Above the place a directory has the new node below the next name. -/
theorem descend?_insertAt_above {place rest : List String} {name : String}
    (h : root.descend? place = some (directory es)) :
    (insertAt node (place ++ name :: rest) root).descend? place =
      some (directory (insertEntry (.text name)
        (insertAt node rest ((es.lookup (.text name)).getD (directory []))) es)) := by
  induction place generalizing root with
  | nil =>
    cases h
    rfl
  | cons n above ih =>
    cases root with
    | file content => cases h
    | directory es' =>
      obtain ⟨child, hchild, hrest⟩ := Option.bind_eq_some_iff.1 h
      rw [List.cons_append, insertAt, descend?_directory_cons, lookup_insertEntry_self, hchild]
      exact ih hrest

/-- Where the place does not lead to, everything stays as it is. -/
theorem descend?_insertAt_apart {place other : List String} (h : ¬ place <+: other)
    (h' : ¬ other <+: place) : (insertAt node place root).descend? other = root.descend? other := by
  induction place generalizing root other with
  | nil => exact absurd List.nil_prefix h
  | cons name above ih =>
    cases other with
    | nil => exact absurd List.nil_prefix h'
    | cons n rest =>
      by_cases hn : n = name
      · subst hn
        have hbelow : ∀ child : Node, (insertAt node above child).descend? rest =
            child.descend? rest := by
          intro child
          exact ih (fun hp => h ((List.prefix_cons_inj n).2 hp))
            (fun hp => h' ((List.prefix_cons_inj n).2 hp))
        -- Below a name that is missing so far there was nothing.
        have hempty : (directory []).descend? rest = none := by
          refine descend?_empty ?_
          rintro rfl
          exact h' ((List.prefix_cons_inj n).2 List.nil_prefix)
        cases root with
        | file content =>
          rw [insertAt, descend?_directory_cons, List.lookup_cons_self]
          exact (hbelow _).trans hempty
        | directory es =>
          rw [insertAt, descend?_directory_cons, lookup_insertEntry_self,
            descend?_directory_cons, Option.bind_some, hbelow]
          cases es.lookup (.text n) with
          | none => exact hempty
          | some child => rfl
      · have hn' : FileName.text n ≠ .text name := mt FileName.text.inj hn
        cases root with
        | file content =>
          rw [insertAt, descend?_directory_cons, List.lookup_cons, beq_eq_false_iff_ne.2 hn']
          rfl
        | directory es =>
          rw [insertAt, descend?_directory_cons, lookup_insertEntry_of_ne hn',
            descend?_directory_cons]

/-- Putting a node where it is changes nothing. -/
theorem insertAt_of_descend? {place : List String} (h : root.descend? place = some node) :
    insertAt node place root = root := by
  induction place generalizing root with
  | nil => exact (Option.some.inj h).symm
  | cons name rest ih =>
    cases root with
    | file content => cases h
    | directory es =>
      obtain ⟨child, hchild, hrest⟩ := Option.bind_eq_some_iff.1 h
      rw [insertAt, hchild, Option.getD_some, ih hrest, insertEntry_of_lookup hchild]

end Node
end QuizBank

import QuizBank.Proofs.File.Path
import QuizBank.Proofs.File.Tree

/-!
# How a tree of files grows

Making directories and writing a file never takes anything away. `Grows` says what is left as it
was: every directory is still one, every file too, and apart from one place every file has its text
and every directory has the names of its files. So a path that led somewhere still leads there
(`Grows.resolve`), and what made a directory or wrote a file can be done again with nothing more to
do (`makeDirectories_again`, `write_again`).
-/

namespace QuizBank
namespace FileSystem

variable {fs fs' fs₁ : FileSystem} {p : Path} {place place' names : List String} {name : String}

theorem node?_append (fs : FileSystem) (place rest : List String) :
    fs.node? (place ++ rest) = (fs.node? place).bind (·.descend? rest) :=
  Node.descend?_append fs.root place rest

theorem node?_append_singleton {es : List (FileName × Node)}
    (h : fs.node? place = some (.directory es)) (name : String) :
    fs.node? (place ++ [name]) = es.lookup (.text name) := by
  rw [node?_append, h, Option.bind_some, Node.descend?_directory_cons]
  cases es.lookup (.text name) <;> simp

theorem node?_put_self (fs : FileSystem) (place : List String) (node : Node) :
    (fs.put place node).node? place = some node := by
  have h := Node.descend?_insertAt_append node fs.root place []
  rwa [List.append_nil, Node.descend?_nil] at h

theorem put_of_node? {node : Node} (h : fs.node? place = some node) : fs.put place node = fs := by
  rw [put, Node.insertAt_of_descend? h]

/-! ### Walking -/

/-- What one name of a walk does: it stays, leads up, or leads to an entry. -/
theorem walk_cons_eq_ok_iff {names : List String} :
    fs.walk place (name :: names) = .ok place' ↔ ∃ es, fs.node? place = some (.directory es) ∧
      ((name = "." ∧ fs.walk place names = .ok place') ∨
        (name = ".." ∧ fs.walk place.dropLast names = .ok place') ∨
        ((name ≠ "." ∧ name ≠ "..") ∧ name.utf8ByteSize ≤ maxName ∧
          (es.lookup (.text name)).isSome = true ∧
            fs.walk (place ++ [name]) names = .ok place')) := by
  rw [walk]
  split
  · next h => simp [h]
  · next h => simp [h]
  · next es h =>
    rw [h]
    simp only [Option.some.injEq, Node.directory.injEq, exists_eq_left']
    split
    · next hdot => simp [hdot]
    · next hdot =>
      split
      · next hup => simp [hup]
      · next hup =>
        split
        · next hlong => simp [hdot, hup, Nat.not_le.2 hlong]
        · next hshort =>
          split
          · next hmem => simp [hdot, hup, Nat.not_lt.1 hshort, hmem]
          · next hmem => simp [hdot, hup, hmem]

theorem walk_append_eq_ok_iff {names names' : List String} :
    fs.walk place (names ++ names') = .ok place' ↔
      ∃ between, fs.walk place names = .ok between ∧ fs.walk between names' = .ok place' := by
  induction names generalizing place with
  | nil => simp [walk]
  | cons name rest ih =>
    simp only [List.cons_append, walk_cons_eq_ok_iff, ih]
    constructor
    · rintro ⟨es, hes, ⟨hname, between, h, h'⟩ | ⟨hname, between, h, h'⟩ |
        ⟨hname, hshort, hmem, between, h, h'⟩⟩
      · exact ⟨between, ⟨es, hes, .inl ⟨hname, h⟩⟩, h'⟩
      · exact ⟨between, ⟨es, hes, .inr (.inl ⟨hname, h⟩)⟩, h'⟩
      · exact ⟨between, ⟨es, hes, .inr (.inr ⟨hname, hshort, hmem, h⟩)⟩, h'⟩
    · rintro ⟨between, ⟨es, hes, ⟨hname, h⟩ | ⟨hname, h⟩ | ⟨hname, hshort, hmem, h⟩⟩, h'⟩
      · exact ⟨es, hes, .inl ⟨hname, between, h, h'⟩⟩
      · exact ⟨es, hes, .inr (.inl ⟨hname, between, h, h'⟩)⟩
      · exact ⟨es, hes, .inr (.inr ⟨hname, hshort, hmem, between, h, h'⟩)⟩

/-! ### Growth -/

/-- One file system comes from another by making directories and by writing the file at one place.
Elsewhere every file has the text that it had, and every directory has the names of files that it
had. -/
structure Grows (out : List String) (fs fs' : FileSystem) : Prop where
  workingDirectory : fs'.workingDirectory = fs.workingDirectory
  directory : ∀ {place es}, fs.node? place = some (.directory es) →
    ∃ es', fs'.node? place = some (.directory es') ∧
      Node.fileNames es ⊆ Node.fileNames es' ∧
      (Node.fileNames es').filter (fun name => place ++ [name] ≠ out) =
        (Node.fileNames es).filter fun name => place ++ [name] ≠ out
  file : ∀ {place content}, fs.node? place = some (.file content) →
    ∃ content', fs'.node? place = some (.file content') ∧ (place ≠ out → content' = content)

namespace Grows

variable {out : List String}

theorem refl (fs : FileSystem) : Grows out fs fs where
  workingDirectory := rfl
  directory h := ⟨_, h, List.Subset.refl _, rfl⟩
  file h := ⟨_, h, fun _ => rfl⟩

theorem trans (h : Grows out fs fs₁) (h' : Grows out fs₁ fs') : Grows out fs fs' where
  workingDirectory := h'.workingDirectory.trans h.workingDirectory
  directory hes := by
    obtain ⟨es₁, hes₁, hsub, hothers⟩ := h.directory hes
    obtain ⟨es', hes', hsub', hothers'⟩ := h'.directory hes₁
    exact ⟨es', hes', List.Subset.trans hsub hsub', hothers'.trans hothers⟩
  file hcontent := by
    obtain ⟨content₁, hcontent₁, heq⟩ := h.file hcontent
    obtain ⟨content', hcontent', heq'⟩ := h'.file hcontent₁
    exact ⟨content', hcontent', fun hne => (heq' hne).trans (heq hne)⟩

theorem isSome_node? (h : Grows out fs fs') (hsome : (fs.node? place).isSome = true) :
    (fs'.node? place).isSome = true := by
  obtain ⟨node, hnode⟩ := Option.isSome_iff_exists.1 hsome
  cases node with
  | file content =>
    obtain ⟨content', hcontent', -⟩ := h.file hnode
    rw [hcontent']
    rfl
  | directory es =>
    obtain ⟨es', hes', -⟩ := h.directory hnode
    rw [hes']
    rfl

theorem walk (h : Grows out fs fs') (hwalk : fs.walk place names = .ok place') :
    fs'.walk place names = .ok place' := by
  induction names generalizing place with
  | nil => exact hwalk
  | cons name rest ih =>
    rw [walk_cons_eq_ok_iff] at hwalk ⊢
    obtain ⟨es, hes, hcases⟩ := hwalk
    obtain ⟨es', hes', -⟩ := h.directory hes
    refine ⟨es', hes', ?_⟩
    obtain ⟨hname, hrest⟩ | ⟨hname, hrest⟩ | ⟨hname, hshort, hmem, hrest⟩ := hcases
    · exact .inl ⟨hname, ih hrest⟩
    · exact .inr (.inl ⟨hname, ih hrest⟩)
    · rw [← node?_append_singleton hes] at hmem
      have hmem' := h.isSome_node? hmem
      rw [node?_append_singleton hes'] at hmem'
      exact .inr (.inr ⟨hname, hshort, hmem', ih hrest⟩)

theorem start (h : Grows out fs fs') (p : Path) : fs'.start p = fs.start p := by
  rw [FileSystem.start, FileSystem.start, h.workingDirectory]

end Grows

theorem resolve_eq_ok_iff : fs.resolve p = .ok place ↔
    hasBadName p = false ∧ p.size ≤ maxPath ∧ p.isEmpty = false ∧
      fs.walk (fs.start p) (if p.endsInSlash then p.segments ++ ["."] else p.segments) =
        .ok place := by
  rw [resolve]
  by_cases hfits : p.size ≤ maxPath
  · cases hasBadName p <;> cases p.isEmpty <;> simp [hfits, Nat.not_lt.2 hfits]
  · cases hasBadName p <;> simp [hfits, Nat.not_le.1 hfits]

/-- A slash at the end changes nothing about the place. -/
theorem walk_segments_of_resolve (h : fs.resolve p = .ok place) :
    fs.walk (fs.start p) p.segments = .ok place := by
  obtain ⟨-, -, -, hwalk⟩ := resolve_eq_ok_iff.1 h
  cases hslash : p.endsInSlash with
  | false => simpa [hslash] using hwalk
  | true =>
    rw [hslash, if_pos rfl, walk_append_eq_ok_iff] at hwalk
    obtain ⟨between, hsegments, hdot⟩ := hwalk
    obtain ⟨es, -, ⟨-, hstay⟩ | ⟨hup, -⟩ | ⟨hplain, -⟩⟩ := walk_cons_eq_ok_iff.1 hdot
    · cases hstay
      exact hsegments
    · exact absurd hup (by decide)
    · exact absurd rfl hplain.1

/-- A path that leads somewhere still leads there. -/
theorem Grows.resolve {out : List String} (h : Grows out fs fs')
    (hresolve : fs.resolve p = .ok place) : fs'.resolve p = .ok place := by
  rw [resolve_eq_ok_iff] at hresolve ⊢
  obtain ⟨hbad, hfits, hempty, hwalk⟩ := hresolve
  exact ⟨hbad, hfits, hempty, h.start p ▸ h.walk hwalk⟩

/-! ### Putting a node into a directory -/

section Put

variable {out other : List String} {node : Node} {es : List (FileName × Node)}

/-- A place is below a new entry, or on the way to its directory, or the entry makes no difference.
-/
theorem put_cases (fs : FileSystem) (place : List String) (name : String) (node : Node)
    (other : List String) :
    (∃ rest, other = place ++ [name] ++ rest) ∨ (∃ rest, place = other ++ rest) ∨
      (fs.put (place ++ [name]) node).node? other = fs.node? other := by
  by_cases hbelow : place ++ [name] <+: other
  · obtain ⟨rest, rfl⟩ := hbelow
    exact .inl ⟨rest, rfl⟩
  by_cases habove : other <+: place ++ [name]
  · obtain rfl | ⟨rest, rfl⟩ := List.prefix_concat_iff.1 habove
    · exact absurd (List.prefix_refl _) hbelow
    · exact .inr (.inl ⟨rest, rfl⟩)
  · exact .inr (.inr (Node.descend?_insertAt_apart hbelow habove))

variable (hdir : fs.node? place = some (.directory es))
  (hold : ∀ old, fs.node? (place ++ [name]) = some old → old.isFile = true ∧ node.isFile = true)
  (hout : node.isFile = true → place ++ [name] = out)
include hdir hold hout

/-- The directory itself, and each directory above it, has one entry that is new or changed. -/
theorem directory_put {rest : List String} {es' : List (FileName × Node)}
    (hplace : place = other ++ rest) (hes' : fs.node? other = some (.directory es')) :
    ∃ es'', (fs.put (place ++ [name]) node).node? other = some (.directory es'') ∧
      Node.fileNames es' ⊆ Node.fileNames es'' ∧
      (Node.fileNames es'').filter (fun n => other ++ [n] ≠ out) =
        (Node.fileNames es').filter fun n => other ++ [n] ≠ out := by
  subst hplace
  cases rest with
  | nil =>
    rw [List.append_nil] at hold hout ⊢
    refine ⟨_, Node.descend?_insertAt_above hes', Node.fileNames_insertEntry ?_ ?_⟩
    · intro old hlookup
      rw [← node?_append_singleton hes'] at hlookup
      obtain ⟨hfile, hnode⟩ := hold old hlookup
      exact hnode.trans hfile.symm
    · intro hnode
      simpa using hout hnode
  | cons n rest =>
    -- The way on leads to a directory, so the changed entry is a directory before and after.
    have hkind : ∀ child, (Node.insertAt node (rest ++ [name]) child).isFile = false :=
      fun child => Node.isFile_insertAt_append node child rest name
    rw [List.append_assoc, List.cons_append]
    refine ⟨_, Node.descend?_insertAt_above hes', Node.fileNames_insertEntry ?_ ?_⟩
    · intro old hlookup
      rw [node?_append, hes', Option.bind_some, Node.descend?_directory_cons, hlookup] at hdir
      rw [hkind, Node.isFile_of_descend? hdir]
    · intro hnode
      rw [hkind] at hnode
      cases hnode

/-- A node that is put into a directory makes the file system grow, if it is new or if it is a file
in place of a file. -/
theorem grows_put : Grows out fs (fs.put (place ++ [name]) node) where
  workingDirectory := rfl
  directory := by
    intro other es' hes'
    obtain ⟨rest, rfl⟩ | ⟨rest, hplace⟩ | hsame := put_cases fs place name node other
    · rw [node?_append] at hes'
      obtain ⟨old, hplace, hrest⟩ := Option.bind_eq_some_iff.1 hes'
      have hfile := (hold old hplace).1
      rw [Node.isFile_of_descend? hrest] at hfile
      cases hfile
    · exact directory_put hdir hold hout hplace hes'
    · exact ⟨es', hsame.trans hes', List.Subset.refl _, rfl⟩
  file := by
    intro other content hcontent
    obtain ⟨rest, rfl⟩ | ⟨rest, rfl⟩ | hsame := put_cases fs place name node other
    · rw [node?_append] at hcontent
      obtain ⟨old, hplace, hrest⟩ := Option.bind_eq_some_iff.1 hcontent
      obtain ⟨hfile, hnode⟩ := hold old hplace
      obtain ⟨old, rfl⟩ := Node.isFile_iff.1 hfile
      obtain ⟨new, rfl⟩ := Node.isFile_iff.1 hnode
      obtain ⟨rfl, -⟩ := Node.descend?_file_eq_some_iff.1 hrest
      rw [List.append_nil]
      exact ⟨new, node?_put_self _ _ _, fun hne => absurd (hout rfl) hne⟩
    · rw [node?_append, hcontent] at hdir
      obtain ⟨-, hfile⟩ := Node.descend?_file_eq_some_iff.1 hdir
      cases hfile
    · exact ⟨content, hsame.trans hcontent, fun _ => rfl⟩

end Put

/-! ### Where a new entry goes -/

/-- The path leads to an entry of a directory that is there, whether or not the entry is. -/
structure Targets (fs : FileSystem) (p : Path) (place : List String) (name : String) : Prop where
  noBadName : hasBadName p = false
  fits : p.size ≤ maxPath
  directory : ∃ es, fs.node? place = some (.directory es)
  walk : ∃ above, p.segments = above ++ [name] ∧ fs.walk (fs.start p) above = .ok place
  plain : name ≠ "." ∧ name ≠ ".."
  short : name.utf8ByteSize ≤ maxName

theorem target_eq_ok_iff : fs.target p = .ok (place, some name) ↔ Targets fs p place name := by
  constructor
  · intro h
    rw [target] at h
    split at h
    · cases h
    next hbad =>
    split at h
    · cases h
    next hfits =>
    split at h
    · cases h
    split at h
    · cases h
    next hlast =>
    split at h
    · cases h
    next above hwalk =>
    split at h
    · next es hes =>
      split at h
      · cases h
      next hplain =>
      split at h
      · cases h
      next hshort =>
      cases h
      have hsegments := (List.dropLast_append_getLast? _ hlast).symm
      exact ⟨by simpa using hbad, Nat.not_lt.1 hfits, ⟨es, hes⟩, ⟨_, hsegments, hwalk⟩,
        not_or.1 hplain, Nat.not_lt.1 hshort⟩
    · cases h
    · cases h
  · rintro ⟨hbad, hfits, ⟨es, hes⟩, ⟨above, hsegments, hwalk⟩, hplain, hshort⟩
    simp [target, hbad, Nat.not_lt.2 hfits, Path.isEmpty, hsegments, hwalk, hes, hplain,
      Nat.not_lt.2 hshort]

namespace Targets

variable (h : Targets fs p place name)
include h

theorem grows {out : List String} (hgrows : Grows out fs fs') : Targets fs' p place name := by
  obtain ⟨es, hes⟩ := h.directory
  obtain ⟨es', hes', -⟩ := hgrows.directory hes
  obtain ⟨above, hsegments, hwalk⟩ := h.walk
  exact ⟨h.noBadName, h.fits, ⟨es', hes'⟩, ⟨above, hsegments, hgrows.start p ▸ hgrows.walk hwalk⟩,
    h.plain, h.short⟩

/-- If the entry is there, the path leads to it. -/
theorem resolve (hslash : p.endsInSlash = false)
    (hsome : (fs.node? (place ++ [name])).isSome = true) :
    fs.resolve p = .ok (place ++ [name]) := by
  obtain ⟨es, hes⟩ := h.directory
  obtain ⟨above, hsegments, hwalk⟩ := h.walk
  rw [node?_append_singleton hes] at hsome
  refine resolve_eq_ok_iff.2 ⟨h.noBadName, h.fits, by simp [Path.isEmpty, hsegments], ?_⟩
  rw [hslash, if_neg Bool.false_ne_true, hsegments, walk_append_eq_ok_iff]
  exact ⟨place, hwalk, walk_cons_eq_ok_iff.2
    ⟨es, hes, .inr (.inr ⟨h.plain, h.short, hsome, rfl⟩)⟩⟩

end Targets

/-! ### Writing a file -/

theorem write_eq_ok_iff {content : String} : fs.write p content = .ok fs' ↔
    ∃ place name, Targets fs p place name ∧ p.endsInSlash = false ∧
      (∀ es, fs.node? (place ++ [name]) ≠ some (.directory es)) ∧
      fs' = fs.put (place ++ [name]) (.file content) := by
  constructor
  · intro h
    rw [write] at h
    split at h
    · cases h
    · cases h
    next place name htarget =>
    split at h
    · cases h
    next hslash =>
    split at h
    · cases h
    next hfile =>
    cases h
    exact ⟨place, name, target_eq_ok_iff.1 htarget, by simpa using hslash, hfile, rfl⟩
  · rintro ⟨place, name, htargets, hslash, hfile, rfl⟩
    rw [write, target_eq_ok_iff.2 htargets]
    dsimp only
    rw [hslash, if_neg Bool.false_ne_true]
    split
    · next es hes => exact absurd hes (hfile es)
    · rfl

/-- What a written file makes of the file system: the path leads to the file, the file has its text,
and nothing else is touched. -/
theorem write_spec {content : String} (h : fs.write p content = .ok fs') :
    ∃ place name, Targets fs p place name ∧ Grows (place ++ [name]) fs fs' ∧
      fs'.resolve p = .ok (place ++ [name]) ∧
      fs'.node? (place ++ [name]) = some (.file content) := by
  obtain ⟨place, name, htargets, hslash, hfile, rfl⟩ := write_eq_ok_iff.1 h
  obtain ⟨es, hes⟩ := htargets.directory
  have hnode := node?_put_self fs (place ++ [name]) (.file content)
  have hgrows : Grows (place ++ [name]) fs (fs.put (place ++ [name]) (.file content)) := by
    refine grows_put hes ?_ fun _ => rfl
    intro old hold
    cases old with
    | file old => exact ⟨rfl, rfl⟩
    | directory es' => exact absurd hold (hfile es')
  exact ⟨place, name, htargets, hgrows, (htargets.grows hgrows).resolve hslash (by rw [hnode]; rfl),
    hnode⟩

theorem read_eq_ok_iff {content : String} : fs.read p = .ok content ↔
    ∃ place, fs.resolve p = .ok place ∧ fs.node? place = some (.file content) := by
  rw [read, nodeAt]
  cases fs.resolve p with
  | error e => simp
  | ok place =>
    cases hnode : fs.node? place with
    | none => simp [hnode]
    | some node => cases node <;> simp [hnode]

/-- A file that has the text already can be written with nothing to do. -/
theorem write_again {content : String} (h : fs.write p content = .ok fs') :
    fs'.write p content = .ok fs' := by
  obtain ⟨place, name, htargets, hgrows, -, hnode⟩ := write_spec h
  obtain ⟨_, _, -, hslash, -⟩ := write_eq_ok_iff.1 h
  refine write_eq_ok_iff.2 ⟨place, name, htargets.grows hgrows, hslash, ?_, ?_⟩
  · rw [hnode]
    nofun
  · exact (put_of_node? hnode).symm

/-! ### Making directories -/

theorem makeDirectory_eq_ok_iff : fs.makeDirectory p = .ok fs' ↔
    ∃ place name, Targets fs p place name ∧ fs.node? (place ++ [name]) = none ∧
      fs' = fs.put (place ++ [name]) (.directory []) := by
  constructor
  · intro h
    rw [makeDirectory] at h
    split at h
    · cases h
    · cases h
    next place name htarget =>
    split at h
    · cases h
    next hnew =>
    cases h
    exact ⟨place, name, target_eq_ok_iff.1 htarget, hnew, rfl⟩
  · rintro ⟨place, name, htargets, hnew, rfl⟩
    rw [makeDirectory, target_eq_ok_iff.2 htargets]
    dsimp only
    rw [hnew]

theorem isDirectory_iff : fs.isDirectory p = true ↔
    ∃ place es, fs.resolve p = .ok place ∧ fs.node? place = some (.directory es) := by
  rw [isDirectory, nodeAt]
  cases fs.resolve p with
  | error e => simp
  | ok place =>
    cases hnode : fs.node? place with
    | none => simp [hnode]
    | some node => cases node <;> simp [hnode]

theorem Grows.isDirectory {out : List String} (h : Grows out fs fs')
    (hp : fs.isDirectory p = true) : fs'.isDirectory p = true := by
  obtain ⟨place, es, hresolve, hes⟩ := isDirectory_iff.1 hp
  obtain ⟨es', hes', -⟩ := h.directory hes
  exact isDirectory_iff.2 ⟨place, es', h.resolve hresolve, hes'⟩

theorem grows_makeDirectory (out : List String) (h : fs.makeDirectory p = .ok fs') :
    Grows out fs fs' := by
  obtain ⟨place, name, htargets, hnew, rfl⟩ := makeDirectory_eq_ok_iff.1 h
  obtain ⟨es, hes⟩ := htargets.directory
  refine grows_put hes ?_ nofun
  intro old hold
  rw [hnew] at hold
  cases hold

theorem isDirectory_of_makeDirectory (hslash : p.endsInSlash = false)
    (h : fs.makeDirectory p = .ok fs') : fs'.isDirectory p = true := by
  have hgrows : Grows [] fs fs' := grows_makeDirectory [] h
  obtain ⟨place, name, htargets, -, rfl⟩ := makeDirectory_eq_ok_iff.1 h
  have hnode := node?_put_self fs (place ++ [name]) (.directory [])
  exact isDirectory_iff.2 ⟨place ++ [name], [],
    (htargets.grows hgrows).resolve hslash (by rw [hnode]; rfl), hnode⟩

/-- A directory that is there is not made again. -/
theorem makeDirectory_of_isDirectory (hslash : p.endsInSlash = false) (hsegments : p.segments ≠ [])
    (h : fs.isDirectory p = true) : fs.makeDirectory p = .error .exists := by
  obtain ⟨place, es, hresolve, hes⟩ := isDirectory_iff.1 h
  obtain ⟨hbad, hfits, hempty, hwalk⟩ := resolve_eq_ok_iff.1 hresolve
  have hfits' := Nat.not_lt.2 hfits
  obtain ⟨above, last, hsplit⟩ := (List.eq_nil_or_concat p.segments).resolve_left hsegments
  rw [List.concat_eq_append] at hsplit
  rw [hslash, if_neg Bool.false_ne_true, hsplit, walk_append_eq_ok_iff] at hwalk
  obtain ⟨between, habove, hlast⟩ := hwalk
  obtain ⟨es', hes', hcases⟩ := walk_cons_eq_ok_iff.1 hlast
  by_cases hplain : last = "." ∨ last = ".."
  · simp [makeDirectory, target, hbad, hfits', hempty, hsplit, habove, hes', hplain]
  · obtain ⟨hdot, -⟩ | ⟨hup, -⟩ | ⟨-, hshort, hmem, -⟩ := hcases
    · exact absurd (.inl hdot) hplain
    · exact absurd (.inr hup) hplain
    · rw [← node?_append_singleton hes'] at hmem
      obtain ⟨node, hnode⟩ := Option.isSome_iff_exists.1 hmem
      simp [makeDirectory, target, hbad, hfits', hempty, hsplit, habove, hes', hplain, hnode,
        Nat.not_lt.2 hshort]

/-- Makes the last directory of a path, unless it is there. -/
def makeLast (fs : FileSystem) (p : Path) : Except IoFault Unit × FileSystem :=
  match fs.makeDirectory p with
  | .ok fs => (.ok (), fs)
  | .error e => if fs.isDirectory p then (.ok (), fs) else (.error e, fs)

theorem makeAll_cons (fs : FileSystem) (absolute : Bool) (size : Nat) (name : String)
    (above : List String) :
    fs.makeAll absolute size (name :: above) =
      let p : Path := ⟨absolute, (name :: above).reverse, false, size⟩
      match fs.makeDirectory p with
      | .error .notFound =>
        match fs.makeAll absolute size above with
        | (.error e, fs) => (.error e, fs)
        | (.ok (), fs) => fs.makeLast p
      | _ => fs.makeLast p := by
  rw [makeAll]
  unfold makeLast
  dsimp only
  cases fs.makeDirectory ⟨absolute, (name :: above).reverse, false, size⟩ with
  | ok fs => rfl
  | error e => cases e <;> rfl

theorem grows_makeLast (out : List String) {made : Except IoFault Unit}
    (h : fs.makeLast p = (made, fs')) : Grows out fs fs' := by
  rw [makeLast] at h
  split at h
  · next hmade =>
    cases h
    exact grows_makeDirectory out hmade
  · split at h
    · cases h
      exact .refl _
    · cases h
      exact .refl _

theorem isDirectory_of_makeLast (hslash : p.endsInSlash = false)
    (h : fs.makeLast p = (.ok (), fs')) : fs'.isDirectory p = true := by
  rw [makeLast] at h
  split at h
  · next hmade =>
    cases h
    exact isDirectory_of_makeDirectory hslash hmade
  · split at h
    · next hdir =>
      cases h
      exact hdir
    · cases h

theorem grows_makeAll (out : List String) {absolute : Bool} {size : Nat} {names : List String}
    {made : Except IoFault Unit} (h : fs.makeAll absolute size names = (made, fs')) :
    Grows out fs fs' := by
  induction names generalizing fs made fs' with
  | nil =>
    cases h
    exact .refl _
  | cons name above ih =>
    rw [makeAll_cons] at h
    dsimp only at h
    split at h
    · split at h
      · next hmade =>
        cases h
        exact ih hmade
      · next hmade => exact (ih hmade).trans (grows_makeLast out h)
    · exact grows_makeLast out h

theorem isDirectory_of_makeAll {absolute : Bool} {size : Nat} {name : String} {above : List String}
    (h : fs.makeAll absolute size (name :: above) = (.ok (), fs')) :
    fs'.isDirectory ⟨absolute, (name :: above).reverse, false, size⟩ = true := by
  rw [makeAll_cons] at h
  dsimp only at h
  split at h
  · split at h
    · cases h
    · exact isDirectory_of_makeLast rfl h
  · exact isDirectory_of_makeLast rfl h

/-- What has been made once is there, and stays there: making it again does nothing. -/
theorem makeAll_again {out : List String} {absolute : Bool} {size : Nat} {names : List String}
    (h : fs.makeAll absolute size names = (.ok (), fs₁)) (hgrows : Grows out fs₁ fs') :
    fs'.makeAll absolute size names = (.ok (), fs') := by
  cases names with
  | nil => rfl
  | cons name above =>
    have hdir := hgrows.isDirectory (isDirectory_of_makeAll h)
    have hmade := makeDirectory_of_isDirectory rfl (by simp) hdir
    rw [makeAll_cons]
    dsimp only
    rw [makeLast, hmade]
    exact if_pos hdir

theorem grows_makeDirectories (out : List String) {made : Except IoFault Unit}
    (h : fs.makeDirectories p = (made, fs')) : Grows out fs fs' :=
  grows_makeAll out h

theorem makeDirectories_again {out : List String}
    (h : fs.makeDirectories p = (.ok (), fs₁)) (hgrows : Grows out fs₁ fs') :
    fs'.makeDirectories p = (.ok (), fs') :=
  makeAll_again h hgrows

end FileSystem
end QuizBank

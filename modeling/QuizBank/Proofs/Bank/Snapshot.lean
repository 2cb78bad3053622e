import Mathlib.Data.List.Forall2
import QuizBank.Bank.Snapshot
import QuizBank.Config.Check
import QuizBank.Proofs.File.Growth

/-!
# Snapshots taken again

A snapshot writes one file and makes the directories above it. All that a snapshot reads are the
banks. So if none of the banks is the written file, the next snapshot reads the same and writes the
same, and the file system stays as it is (`writeSnapshot_again`). The file can be a bank, however:
it may lie beside the banks, and then the next snapshot reads the one before
(`writeSnapshot_besideBanks`).
-/

namespace QuizBank
namespace Bank

open FileSystem

variable {fs fs' : FileSystem} {directory : Path} {files : List String}

/-! ### The banks that are read -/

/-- The names of the banks that are read: the chosen ones, or all of the directory. -/
def names (fs : FileSystem) (directory : Path) (files : List String) :
    Except Error (List String) :=
  if files.isEmpty then list fs directory else .ok files

theorem read_eq_ok_iff {file : String} {b : Bank} : read fs directory file = .ok b ↔
    ∃ text, fs.read (directory.join (.ofText file)) = .ok text ∧ ofText file text = .ok b := by
  rw [read]
  cases fs.read (directory.join (.ofText file)) <;> simp

theorem readAll_eq_ok_iff {banks : List Bank} : readAll fs directory files = .ok banks ↔
    List.Forall₂ (fun file b => read fs directory file = .ok b) files banks := by
  induction files generalizing banks with
  | nil => simp [readAll, eq_comm]
  | cons file rest ih =>
    rw [readAll, List.forall₂_cons_left_iff]
    simp only [← ih]
    cases read fs directory file with
    | error e => simp
    | ok bank => cases readAll fs directory rest <;> simp [eq_comm]

theorem load_eq_ok_iff {banks : List Bank} : load fs directory files = .ok banks ↔
    ∃ ns, names fs directory files = .ok ns ∧ readAll fs directory ns = .ok banks := by
  rw [load, names]
  cases files.isEmpty with
  | false => simp
  | true => cases list fs directory <;> simp

/-- The name is that of a bank. -/
def isBankName (name : String) : Bool := Path.extensionOf? name.toList == some "json".toList

/-- A file of the directory with this name is listed. -/
def isListed (directory : Path) (name : String) : Bool :=
  isInReach directory (.text name) && isBankName name

theorem namesIn_eq (directory : Path) (es : List (FileName × Node)) :
    namesIn directory es =
      ((Node.fileNames es).filter (isListed directory)).mergeSort (· ≤ ·) := by
  have hlisted : ∀ e ∈ es, (if isInReach directory e.1 && isBank e then e.1.text? else none) =
      if e.2.isFile then e.1.text?.filter (isListed directory) else none := by
    rintro ⟨name, node⟩ -
    cases name with
    | other bytes h => simp [FileName.text?]
    | text s =>
      cases node with
      | directory es => simp [isBank, Node.isFile]
      | file content => rfl
  rw [namesIn, Node.fileNames, List.filterMap_filter, List.filterMap_filter, List.filter_filterMap,
    List.filterMap_congr hlisted]
  refine congrArg (List.mergeSort · _) (List.filterMap_congr fun e _ => ?_)
  split <;> rfl

theorem list_eq_ok_iff {ns : List String} : list fs directory = .ok ns ↔
    ∃ place es, fs.resolve directory = .ok place ∧ fs.node? place = some (.directory es) ∧
      namesIn directory es = ns := by
  rw [list, FileSystem.list, nodeAt]
  cases fs.resolve directory with
  | error e => simp
  | ok place =>
    cases hnode : fs.node? place with
    | none => simp [hnode]
    | some node => cases node <;> simp [hnode]

theorem list_of_sorted {ns : List String}
    (h : (fs.list directory).map (fun es => (Node.fileNames es).filter (isListed directory)) =
      .ok ns)
    (hsorted : ns.Pairwise (· ≤ ·)) : list fs directory = .ok ns := by
  rw [list]
  cases hentries : fs.list directory with
  | error e =>
    rw [hentries] at h
    cases h
  | ok es =>
    rw [hentries] at h
    have hfiles : (Node.fileNames es).filter (isListed directory) = ns := Except.ok.inj h
    dsimp only
    rw [namesIn_eq, hfiles, List.mergeSort_of_pairwise (by simpa using hsorted)]

/-! ### Banks in a file system that grows -/

section Grows

variable {place : List String} {name text : String}

/-- In a directory that is there, the path to an entry in reach leads to the entry. -/
theorem resolve_join_ofText (h : Targets fs (.ofText text) place name) {base : List String}
    {es : List (FileName × Node)} (hbase : fs.resolve directory = .ok base)
    (hes : fs.node? base = some (.directory es)) (hmem : (es.lookup (.text name)).isSome = true)
    (hreach : isInReach directory (.text name) = true) :
    fs.resolve (directory.join (.ofText name)) = .ok (base ++ [name]) := by
  obtain ⟨above, hsegments, -⟩ := h.walk
  have hname : name ∈ (Path.ofText text).segments := by simp [hsegments]
  obtain ⟨hbad, -⟩ := resolve_eq_ok_iff.1 hbase
  have hbadName := h.noBadName
  rw [hasBadName, List.any_eq_false] at hbad hbadName
  rw [Path.join_ofText directory hname]
  refine resolve_eq_ok_iff.2 ⟨?_, of_decide_eq_true hreach, by simp [Path.isEmpty], ?_⟩
  · rw [hasBadName, List.any_eq_false]
    intro n hn
    obtain hn | hn := List.mem_append.1 hn
    · exact hbad n hn
    · exact hbadName n (List.mem_singleton.1 hn ▸ hname)
  · rw [if_neg Bool.false_ne_true, walk_append_eq_ok_iff]
    exact ⟨base, walk_segments_of_resolve hbase, walk_cons_eq_ok_iff.2
      ⟨es, hes, .inr (.inr ⟨h.plain, h.short, hmem, rfl⟩)⟩⟩

/-- No bank that is read is the file at the place. -/
def ApartFrom (out : List String) (fs : FileSystem) (directory : Path) (files : List String) :
    Prop :=
  ∀ ns, names fs directory files = .ok ns →
    ∀ file ∈ ns, fs.resolve (directory.join (.ofText file)) ≠ .ok out

theorem list_of_grows (hgrows : Grows (place ++ [name]) fs fs')
    (htargets : Targets fs' (.ofText text) place name)
    (hapart : ApartFrom (place ++ [name]) fs' directory []) {ns : List String}
    (h : list fs directory = .ok ns) : list fs' directory = .ok ns := by
  obtain ⟨base, es, hbase, hes, rfl⟩ := list_eq_ok_iff.1 h
  obtain ⟨es', hes', hsub, hothers⟩ := hgrows.directory hes
  have hbase' := hgrows.resolve hbase
  have hlist : list fs' directory = .ok (namesIn directory es') :=
    list_eq_ok_iff.2 ⟨base, es', hbase', hes', rfl⟩
  -- The written file is none of the banks afterwards, and so it was none before.
  have hother : ∀ n ∈ Node.fileNames es', isListed directory n = true →
      base ++ [n] ≠ place ++ [name] := by
    intro n hn hlisted heq
    obtain ⟨rfl, hname⟩ := List.append_inj' heq rfl
    cases hname
    refine hapart _ hlist name ?_ (resolve_join_ofText htargets hbase' hes'
      (Node.isSome_lookup_of_mem_fileNames hn) (Bool.and_eq_true_iff.1 hlisted).1)
    rw [namesIn_eq, List.mem_mergeSort]
    exact List.mem_filter.2 ⟨hn, hlisted⟩
  have hbanks : ∀ l : List String,
      (∀ n ∈ l, isListed directory n = true → base ++ [n] ≠ place ++ [name]) →
      (l.filter fun n => base ++ [n] ≠ place ++ [name]).filter (isListed directory) =
        l.filter (isListed directory) := by
    intro l hl
    rw [List.filter_filter]
    refine List.filter_congr fun n hn => ?_
    cases hlisted : isListed directory n with
    | false => rfl
    | true => simpa [imp_iff_not_or] using hl n hn hlisted
  rw [hlist, namesIn_eq, namesIn_eq, ← hbanks _ hother, hothers,
    hbanks _ fun n hn => hother n (hsub hn)]

theorem read_of_grows {out : List String} (hgrows : Grows out fs fs') {file : String}
    (hapart : fs'.resolve (directory.join (.ofText file)) ≠ .ok out) {b : Bank}
    (h : read fs directory file = .ok b) : read fs' directory file = .ok b := by
  obtain ⟨text, hread, hbank⟩ := read_eq_ok_iff.1 h
  obtain ⟨place, hresolve, hnode⟩ := FileSystem.read_eq_ok_iff.1 hread
  have hresolve' := hgrows.resolve hresolve
  obtain ⟨text', hnode', hsame⟩ := hgrows.file hnode
  have hplace : place ≠ out := fun heq => hapart (heq ▸ hresolve')
  rw [hsame hplace] at hnode'
  exact read_eq_ok_iff.2 ⟨text, FileSystem.read_eq_ok_iff.2 ⟨place, hresolve', hnode'⟩, hbank⟩

/-- A file system that grows by no bank has the same banks. -/
theorem load_of_grows (hgrows : Grows (place ++ [name]) fs fs')
    (htargets : Targets fs' (.ofText text) place name)
    (hapart : ApartFrom (place ++ [name]) fs' directory files) {banks : List Bank}
    (h : load fs directory files = .ok banks) : load fs' directory files = .ok banks := by
  obtain ⟨ns, hnames, hread⟩ := load_eq_ok_iff.1 h
  have hnames' : names fs' directory files = .ok ns := by
    cases files with
    | nil => exact list_of_grows hgrows htargets hapart hnames
    | cons file rest => exact hnames
  refine load_eq_ok_iff.2 ⟨ns, hnames', readAll_eq_ok_iff.2 ?_⟩
  have hread' := (List.forall₂_and_left _ _).2 ⟨hapart ns hnames', readAll_eq_ok_iff.1 hread⟩
  exact hread'.imp fun file b hb => read_of_grows hgrows hb.1 hb.2

end Grows

/-! ### The written file -/

/-- Makes the directory that a file goes into. -/
def makeParent (fs : FileSystem) (path : String) : Except IoFault Unit × FileSystem :=
  match Path.parent? path with
  | some parent => if parent.isEmpty then (.ok (), fs) else fs.makeDirectories parent
  | none => (.ok (), fs)

theorem writeFile_eq_ok_iff {path text : String} : writeFile fs path text = (.ok (), fs') ↔
    ∃ fs₁, makeParent fs path = (.ok (), fs₁) ∧
      fs₁.write (.ofText path) text = .ok fs' := by
  unfold writeFile makeParent
  dsimp only
  cases Path.parent? path with
  | none => cases hwrite : fs.write (.ofText path) text <;> simp [hwrite]
  | some parent =>
    dsimp only
    by_cases hempty : parent.isEmpty = true
    · cases hwrite : fs.write (.ofText path) text <;> simp [hempty, hwrite]
    · rcases fs.makeDirectories parent with ⟨made, fs₁⟩
      cases made with
      | error fault => simp [hempty]
      | ok _ => cases hwrite : fs₁.write (.ofText path) text <;> simp [hempty, hwrite]

theorem grows_makeParent (out : List String) {path : String} {made : Except IoFault Unit}
    (h : makeParent fs path = (made, fs')) : Grows out fs fs' := by
  rw [makeParent] at h
  split at h
  · split at h
    · cases h
      exact .refl _
    · exact grows_makeDirectories out h
  · cases h
    exact .refl _

theorem makeParent_again {fs₁ : FileSystem} {out : List String} {path : String}
    (h : makeParent fs path = (.ok (), fs₁)) (hgrows : Grows out fs₁ fs') :
    makeParent fs' path = (.ok (), fs') := by
  rw [makeParent] at h ⊢
  split at h
  · split at h
    · next hempty => exact if_pos hempty
    · next hempty => exact (if_neg hempty).trans (makeDirectories_again h hgrows)
  · rfl

/-- What a written file makes of the file system; writing it again makes nothing more of it. -/
theorem writeFile_spec {path text : String} (h : writeFile fs path text = (.ok (), fs')) :
    writeFile fs' path text = (.ok (), fs') ∧ fs'.read (.ofText path) = .ok text ∧
      ∃ place name, Targets fs' (.ofText path) place name ∧ Grows (place ++ [name]) fs fs' ∧
        fs'.resolve (.ofText path) = .ok (place ++ [name]) := by
  obtain ⟨fs₁, hmade, hwrite⟩ := writeFile_eq_ok_iff.1 h
  obtain ⟨place, name, htargets, hgrows, hresolve, hnode⟩ := write_spec hwrite
  refine ⟨writeFile_eq_ok_iff.2 ⟨fs', makeParent_again hmade hgrows, write_again hwrite⟩,
    FileSystem.read_eq_ok_iff.2 ⟨_, hresolve, hnode⟩, place, name, htargets.grows hgrows,
    (grows_makeParent _ hmade).trans hgrows, hresolve⟩

/-! ### Snapshots -/

theorem snapshot_eq_ok_iff {c : Config} {seedPrefix : String} {rs : List SnapshotRecord} :
    snapshot fs c seedPrefix = .ok rs ↔ ∃ banks, load fs (.ofText c.dataDir) c.files = .ok banks ∧
      banks.flatMap (records c.perFile seedPrefix) = rs := by
  rw [snapshot]
  cases load fs (.ofText c.dataDir) c.files <;> simp

theorem writeSnapshot_eq_ok_iff {c : Config} {seedPrefix out : String} :
    writeSnapshot fs c seedPrefix = (.ok out, fs') ↔ ∃ rs, snapshot fs c seedPrefix = .ok rs ∧
      writeFile fs c.output (snapshotText rs) = (.ok (), fs') ∧ c.output = out := by
  rw [writeSnapshot]
  cases snapshot fs c seedPrefix with
  | error e => simp
  | ok rs =>
    dsimp only
    rcases hwrite : writeFile fs c.output (snapshotText rs) with ⟨made, fs₁⟩
    cases made <;> simp [hwrite, and_comm]

/-- No bank that the configuration chooses is the file that snapshots are written to. -/
def ReadsNoSnapshot (fs : FileSystem) (c : Config) : Prop :=
  ∀ out, fs.resolve (.ofText c.output) = .ok out → ApartFrom out fs (.ofText c.dataDir) c.files

/-- **A snapshot can be repeated.** After a snapshot that was written, let no bank that the
configuration chooses be the written file. Then the next snapshot is written too, with the same
records, and leaves the whole file system as it is. -/
theorem writeSnapshot_again {c : Config} {seedPrefix out : String}
    (h : writeSnapshot fs c seedPrefix = (.ok out, fs')) (hreads : ReadsNoSnapshot fs' c) :
    writeSnapshot fs' c seedPrefix = (.ok out, fs') ∧ out = c.output ∧
      ∃ rs, snapshot fs c seedPrefix = .ok rs ∧ snapshot fs' c seedPrefix = .ok rs ∧
        fs'.read (.ofText out) = .ok (snapshotText rs) := by
  obtain ⟨rs, hsnapshot, hwrite, rfl⟩ := writeSnapshot_eq_ok_iff.1 h
  obtain ⟨hagain, hread, place, name, htargets, hgrows, hresolve⟩ := writeFile_spec hwrite
  obtain ⟨banks, hload, hrecords⟩ := snapshot_eq_ok_iff.1 hsnapshot
  have hload' := load_of_grows hgrows htargets (hreads _ hresolve) hload
  have hsnapshot' := snapshot_eq_ok_iff.2 ⟨banks, hload', hrecords⟩
  exact ⟨writeSnapshot_eq_ok_iff.2 ⟨rs, hsnapshot', hagain, rfl⟩, rfl, rs, hsnapshot, hsnapshot',
    hread⟩

/-- A directory with one bank, which has one entry. -/
def oneBank : FileSystem where
  root := .directory [("data", .directory [("a.json", .file "[\x7b\x7d]")])]
  workingDirectory := []

theorem writeSnapshot_again_oneBank :
    ∃ fs', writeSnapshot oneBank Config.default "p" = (.ok "SNAPSHOT.json", fs') ∧
      ReadsNoSnapshot fs' Config.default ∧
      writeSnapshot fs' Config.default "p" = (.ok "SNAPSHOT.json", fs') := by
  have hok : (writeSnapshot oneBank Config.default "p").1 = .ok "SNAPSHOT.json" := by
    decide +kernel
  have h : writeSnapshot oneBank Config.default "p" =
      (.ok "SNAPSHOT.json", (writeSnapshot oneBank Config.default "p").2) := Prod.ext hok rfl
  have hreads : ReadsNoSnapshot (writeSnapshot oneBank Config.default "p").2 Config.default := by
    have hout : (writeSnapshot oneBank Config.default "p").2.resolve
        (.ofText Config.default.output) = .ok ["SNAPSHOT.json"] := by
      decide +kernel
    have hnames : names (writeSnapshot oneBank Config.default "p").2
        (.ofText Config.default.dataDir) Config.default.files = .ok ["a.json"] := by
      decide +kernel
    intro out hresolve ns hns file hfile
    cases hout.symm.trans hresolve
    cases hnames.symm.trans hns
    cases List.mem_singleton.1 hfile
    decide +kernel
  exact ⟨_, h, hreads, (writeSnapshot_again h hreads).1⟩

/-- Settings that let snapshots be written beside the banks. -/
def besideBanks : Config := { dataDir := "data", output := "data/snapshot.json" }

/-- The record of an entry without a template. -/
def withoutTemplate (file : String) : SnapshotRecord :=
  .failed file none "Template '<no id>' is invalid: missing template.stem"

/-- A snapshot beside the banks is a bank for the next one, which so has another text. -/
theorem writeSnapshot_besideBanks :
    Config.check besideBanks = .ok () ∧ ∃ fs₁ fs₂,
      writeSnapshot oneBank besideBanks "p" = (.ok "data/snapshot.json", fs₁) ∧
      writeSnapshot fs₁ besideBanks "p" = (.ok "data/snapshot.json", fs₂) ∧
      fs₁.read (.ofText "data/snapshot.json") =
        .ok (snapshotText [withoutTemplate "a.json"]) ∧
      fs₂.read (.ofText "data/snapshot.json") =
        .ok (snapshotText [withoutTemplate "a.json", withoutTemplate "snapshot.json"]) ∧
      snapshotText [withoutTemplate "a.json"] ≠
        snapshotText [withoutTemplate "a.json", withoutTemplate "snapshot.json"] := by
  let fs₁ := (writeSnapshot oneBank besideBanks "p").2
  have hfirst : (writeSnapshot oneBank besideBanks "p").1 = .ok "data/snapshot.json" := by
    decide +kernel
  have hlist : list fs₁ (.ofText "data") = .ok ["a.json", "snapshot.json"] :=
    list_of_sorted (by decide +kernel) (by decide +kernel)
  have hread : (readAll fs₁ (.ofText "data") ["a.json", "snapshot.json"]).map (fun banks =>
      snapshotText (banks.flatMap (records 5 "p"))) =
      .ok (snapshotText [withoutTemplate "a.json", withoutTemplate "snapshot.json"]) := by
    decide +kernel
  cases hall : readAll fs₁ (.ofText "data") ["a.json", "snapshot.json"] with
  | error e =>
    rw [hall] at hread
    cases hread
  | ok banks =>
    rw [hall] at hread
    have htext : snapshotText (banks.flatMap (records 5 "p")) =
        snapshotText [withoutTemplate "a.json", withoutTemplate "snapshot.json"] :=
      Except.ok.inj hread
    let written := writeFile fs₁ "data/snapshot.json"
      (snapshotText [withoutTemplate "a.json", withoutTemplate "snapshot.json"])
    have hsecond : writeFile fs₁ "data/snapshot.json"
        (snapshotText [withoutTemplate "a.json", withoutTemplate "snapshot.json"]) =
        (.ok (), written.2) := Prod.ext (show written.1 = .ok () by decide +kernel) rfl
    have htext₂ := (writeFile_spec hsecond).2.1
    refine ⟨by decide +kernel, fs₁, written.2, Prod.ext hfirst rfl, ?_, by decide +kernel, htext₂,
      by decide +kernel⟩
    have hload : load fs₁ (.ofText besideBanks.dataDir) besideBanks.files = .ok banks :=
      load_eq_ok_iff.2 ⟨_, hlist, hall⟩
    rw [← htext] at hsecond
    exact writeSnapshot_eq_ok_iff.2 ⟨_, snapshot_eq_ok_iff.2 ⟨banks, hload, rfl⟩, hsecond, rfl⟩

end Bank
end QuizBank

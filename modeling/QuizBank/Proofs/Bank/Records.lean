import QuizBank.Proofs.Bank.Agreement

/-!
# Records of a snapshot

A snapshot has one record for each of the first entries of every bank, in the order of the banks and
of their entries, whatever becomes of the entries. A record comes from its entry alone, so another
entry in its place changes that record and no other. Where a bank cannot be loaded there is no
snapshot: the error is that of the first bank that cannot be read, and nothing is written.
-/

namespace QuizBank

/-! ### What a record is about -/

namespace SnapshotRecord

/-- The file of the bank that a record comes from. -/
def file : SnapshotRecord → String
  | generated file _ _ _ _ => file
  | failed file _ _ => file

/-- The id of the entry that a record comes from. -/
def id : SnapshotRecord → Option String
  | generated _ id _ _ _ => id
  | failed _ id _ => id

end SnapshotRecord

namespace Bank

variable {fs : FileSystem} {directory : Path} {files : List String} {banks : List Bank} {b : Bank}
variable {perFile : Nat} {seedPrefix : String} {e : Entry} {i j : Nat}

@[simp]
theorem Entry.file_record (file seedPrefix : String) (e : Entry) :
    (e.record file seedPrefix).file = file := by
  rw [record]
  split <;> rfl

@[simp]
theorem Entry.id_record (file seedPrefix : String) (e : Entry) :
    (e.record file seedPrefix).id = e.id := by
  rw [record]
  split <;> rfl

@[simp]
theorem length_records (perFile : Nat) (seedPrefix : String) (b : Bank) :
    (records perFile seedPrefix b).length = min perFile b.entries.length := by
  simp [records]

theorem getElem?_records (he : b.entries[j]? = some e) (hj : j < perFile) :
    (records perFile seedPrefix b)[j]? = some (e.record b.file seedPrefix) := by
  simp [records, List.getElem?_take_of_lt hj, he]

/-! ### Where a record stands -/

/-- Where the records of a bank begin: behind those of the banks before it. -/
def recordStart (perFile : Nat) : List Bank → Nat → Nat
  | [], _ => 0
  | _ :: _, 0 => 0
  | b :: rest, i + 1 => min perFile b.entries.length + recordStart perFile rest i

/-- The records of these banks: one for each of the first entries of every bank, which stand in the
order of the banks and of their entries. -/
structure AreRecords (perFile : Nat) (seedPrefix : String) (banks : List Bank)
    (rs : List SnapshotRecord) : Prop where
  listed : rs.map (fun r => (r.file, r.id)) =
    banks.flatMap fun b => (b.entries.take perFile).map fun e => (b.file, e.id)
  length_eq : rs.length = recordStart perFile banks banks.length
  record : ∀ {i j b e}, banks[i]? = some b → b.entries[j]? = some e → j < perFile →
    rs[recordStart perFile banks i + j]? = some (e.record b.file seedPrefix)
  noOther : ∀ k < rs.length, ∃ i j b, banks[i]? = some b ∧ j < min perFile b.entries.length ∧
    k = recordStart perFile banks i + j

theorem map_flatMap_records (banks : List Bank) :
    (banks.flatMap (records perFile seedPrefix)).map (fun r => (r.file, r.id)) =
      banks.flatMap fun b => (b.entries.take perFile).map fun e => (b.file, e.id) := by
  rw [List.map_flatMap]
  refine List.flatMap_congr fun b _ => ?_
  rw [records, List.map_map]
  refine List.map_congr_left fun e _ => ?_
  simp

theorem length_flatMap_records (banks : List Bank) :
    (banks.flatMap (records perFile seedPrefix)).length =
      recordStart perFile banks banks.length := by
  induction banks with
  | nil => rfl
  | cons b rest ih => simp [List.flatMap_cons, recordStart, ih]

theorem getElem?_flatMap_records (hb : banks[i]? = some b) (hj : j < min perFile b.entries.length) :
    (banks.flatMap (records perFile seedPrefix))[recordStart perFile banks i + j]? =
      (records perFile seedPrefix b)[j]? := by
  induction banks generalizing i with
  | nil => cases hb
  | cons first rest ih =>
    rw [List.flatMap_cons]
    cases i with
    | zero =>
      cases hb
      rw [recordStart, Nat.zero_add, List.getElem?_append_left (by simpa using hj)]
    | succ i =>
      rw [recordStart, Nat.add_assoc, List.getElem?_append_right (by simp), length_records,
        Nat.add_sub_cancel_left]
      exact ih hb

theorem exists_recordStart (banks : List Bank) {k : Nat}
    (hk : k < recordStart perFile banks banks.length) :
    ∃ i j b, banks[i]? = some b ∧ j < min perFile b.entries.length ∧
      k = recordStart perFile banks i + j := by
  induction banks generalizing k with
  | nil => exact absurd hk (Nat.not_lt_zero k)
  | cons first rest ih =>
    rw [List.length_cons, recordStart] at hk
    by_cases hfirst : k < min perFile first.entries.length
    · exact ⟨0, k, first, rfl, hfirst, (Nat.zero_add k).symm⟩
    · obtain ⟨i, j, b, hb, hj, hk'⟩ := ih (k := k - min perFile first.entries.length) (by omega)
      exact ⟨i + 1, j, b, hb, hj, by rw [recordStart]; omega⟩

theorem areRecords (perFile : Nat) (seedPrefix : String) (banks : List Bank) :
    AreRecords perFile seedPrefix banks (banks.flatMap (records perFile seedPrefix)) where
  listed := map_flatMap_records banks
  length_eq := length_flatMap_records banks
  record := by
    intro i j b e hb he hj
    have hlt : j < b.entries.length := (List.getElem?_eq_some_iff.1 he).1
    rw [getElem?_flatMap_records hb (Nat.lt_min.2 ⟨hj, hlt⟩), getElem?_records he hj]
  noOther := fun k hk => exists_recordStart banks (length_flatMap_records banks ▸ hk)

/-! ### Another entry in the place of one -/

/-- The banks with another entry in the place of one. -/
def replaceEntry (banks : List Bank) (i j : Nat) (e : Entry) : List Bank :=
  banks.modify i fun b => { b with entries := b.entries.set j e }

theorem records_set (e : Entry) :
    records perFile seedPrefix { b with entries := b.entries.set j e } =
      (records perFile seedPrefix b).set j (e.record b.file seedPrefix) := by
  rw [records, List.take_set, List.map_set]
  rfl

/-- An entry that is among the first of its bank has one record, and the others stay. -/
theorem flatMap_records_replaceEntry (hb : banks[i]? = some b)
    (hj : j < min perFile b.entries.length) (e : Entry) :
    (replaceEntry banks i j e).flatMap (records perFile seedPrefix) =
      (banks.flatMap (records perFile seedPrefix)).set (recordStart perFile banks i + j)
        (e.record b.file seedPrefix) := by
  induction banks generalizing i with
  | nil => cases hb
  | cons first rest ih =>
    cases i with
    | zero =>
      cases hb
      rw [replaceEntry, List.modify_zero_cons, List.flatMap_cons, List.flatMap_cons, records_set,
        recordStart, Nat.zero_add, List.set_append_left _ _ (by simpa using hj)]
    | succ i =>
      have hrest := ih hb
      rw [replaceEntry] at hrest
      rw [replaceEntry, List.modify_succ_cons, List.flatMap_cons, List.flatMap_cons, hrest,
        recordStart, Nat.add_assoc, List.set_append_right _ _ (by simp), length_records,
        Nat.add_sub_cancel_left]

/-- An entry behind the first of its bank has no record. -/
theorem flatMap_records_replaceEntry_of_le (hj : perFile ≤ j) (e : Entry) :
    (replaceEntry banks i j e).flatMap (records perFile seedPrefix) =
      banks.flatMap (records perFile seedPrefix) := by
  induction banks generalizing i with
  | nil => simp [replaceEntry]
  | cons first rest ih =>
    cases i with
    | zero =>
      rw [replaceEntry, List.modify_zero_cons, List.flatMap_cons, List.flatMap_cons, records_set,
        List.set_eq_of_length_le (by simp; omega)]
    | succ i =>
      have hrest := ih (i := i)
      rw [replaceEntry] at hrest
      rw [replaceEntry, List.modify_succ_cons, List.flatMap_cons, List.flatMap_cons, hrest]

/-! ### Banks that cannot be loaded -/

/-- A bank cannot be had, for this reason: its file cannot be read, or holds no entries. -/
inductive Unreadable (fs : FileSystem) (directory : Path) (file : String) : Error → Prop
  | unread {fault : IoFault} (hread : fs.read (directory.join (.ofText file)) = .error fault) :
    Unreadable fs directory file (.ofFault fault)
  | malformed {text message : String}
    (hread : fs.read (directory.join (.ofText file)) = .ok text)
    (hentries : readEntries text = .error message) :
    Unreadable fs directory file (.bank file message)

theorem read_eq_error_iff {file : String} {error : Error} :
    read fs directory file = .error error ↔ Unreadable fs directory file error := by
  constructor
  · intro h
    rw [read] at h
    split at h
    · next fault hread =>
      cases h
      exact .unread hread
    · next text hread =>
      rw [ofText] at h
      split at h
      · next message hentries =>
        cases h
        exact .malformed hread hentries
      · cases h
  · rintro (hread | ⟨hread, hentries⟩)
    · rw [read, hread]
    · rw [read, hread]
      dsimp only
      rw [ofText, hentries]

/-- The banks cannot be loaded, for this reason: the directory cannot be listed, or this is the
first bank that cannot be had. -/
inductive Unloadable (fs : FileSystem) (directory : Path) (files : List String) : Error → Prop
  | unlisted {fault : IoFault} (hall : files = []) (hlist : fs.list directory = .error fault) :
    Unloadable fs directory files (.ofFault fault)
  | unreadable {passed rest : List String} {file : String} {error : Error}
    (hnames : names fs directory files = .ok (passed ++ file :: rest))
    (hpassed : ∀ f ∈ passed, ∃ b, read fs directory f = .ok b)
    (hfile : Unreadable fs directory file error) : Unloadable fs directory files error

theorem readAll_of_first {passed rest : List String} {file : String} {error : Error}
    (hpassed : ∀ f ∈ passed, ∃ b, read fs directory f = .ok b)
    (hfile : read fs directory file = .error error) :
    readAll fs directory (passed ++ file :: rest) = .error error := by
  induction passed with
  | nil => rw [List.nil_append, readAll, hfile]
  | cons f passed ih =>
    obtain ⟨⟨b, hb⟩, hpassed⟩ := List.forall_mem_cons.1 hpassed
    rw [List.cons_append, readAll, hb, ih hpassed]

theorem exists_first_of_readAll {error : Error} (h : readAll fs directory files = .error error) :
    ∃ passed file rest, files = passed ++ file :: rest ∧
      (∀ f ∈ passed, ∃ b, read fs directory f = .ok b) ∧ read fs directory file = .error error := by
  induction files with
  | nil => cases h
  | cons first others ih =>
    rw [readAll] at h
    cases hfirst : read fs directory first with
    | error fault =>
      rw [hfirst] at h
      cases h
      exact ⟨[], first, others, rfl, List.forall_mem_nil _, hfirst⟩
    | ok b =>
      rw [hfirst] at h
      cases hothers : readAll fs directory others with
      | ok banks =>
        rw [hothers] at h
        cases h
      | error fault =>
        rw [hothers] at h
        cases h
        obtain ⟨passed, file, rest, rfl, hpassed, hfile⟩ := ih hothers
        have hpassed' := List.forall_mem_cons.2 ⟨⟨b, hfirst⟩, hpassed⟩
        exact ⟨first :: passed, file, rest, rfl, hpassed', hfile⟩

theorem names_eq_error_iff {error : Error} : names fs directory files = .error error ↔
    files = [] ∧ ∃ fault, fs.list directory = .error fault ∧ error = .ofFault fault := by
  cases files with
  | cons file rest => simp [names]
  | nil =>
    rw [names, List.isEmpty_nil, if_pos rfl, list]
    cases fs.list directory <;> simp [eq_comm]

theorem load_of_names {ns : List String} (h : names fs directory files = .ok ns) :
    load fs directory files = readAll fs directory ns := by
  rw [names] at h
  rw [load]
  cases hall : files.isEmpty with
  | true =>
    rw [hall, if_pos rfl] at h
    rw [if_pos rfl, h]
  | false =>
    rw [hall, if_neg Bool.false_ne_true] at h
    cases h
    rw [if_neg Bool.false_ne_true]

theorem load_of_list_eq_error {fault : IoFault} (h : fs.list directory = .error fault) :
    load fs directory [] = .error (.ofFault fault) := by
  rw [load, List.isEmpty_nil, if_pos rfl, list, h]

theorem load_eq_error_iff {error : Error} :
    load fs directory files = .error error ↔ Unloadable fs directory files error := by
  constructor
  · intro h
    cases hnames : names fs directory files with
    | error fault =>
      obtain ⟨rfl, fault, hlist, rfl⟩ := names_eq_error_iff.1 hnames
      rw [load_of_list_eq_error hlist] at h
      cases h
      exact .unlisted rfl hlist
    | ok ns =>
      rw [load_of_names hnames] at h
      obtain ⟨passed, file, rest, rfl, hpassed, hfile⟩ := exists_first_of_readAll h
      exact .unreadable hnames hpassed (read_eq_error_iff.1 hfile)
  · rintro (⟨rfl, hlist⟩ | ⟨hnames, hpassed, hfile⟩)
    · exact load_of_list_eq_error hlist
    · rw [load_of_names hnames]
      exact readAll_of_first hpassed (read_eq_error_iff.2 hfile)

/-- One bank that cannot be had is enough. -/
theorem exists_unloadable {ns : List String} {file : String} {error : Error}
    (hnames : names fs directory files = .ok ns) (hmem : file ∈ ns)
    (hfile : Unreadable fs directory file error) :
    ∃ first, Unloadable fs directory files first := by
  cases hload : load fs directory files with
  | error first => exact ⟨first, load_eq_error_iff.1 hload⟩
  | ok banks =>
    obtain ⟨ns', hnames', hread⟩ := load_eq_ok_iff.1 hload
    rw [hnames] at hnames'
    cases hnames'
    obtain ⟨b, hb⟩ := exists_forall₂_iff.1 ⟨banks, readAll_eq_ok_iff.1 hread⟩ file hmem
    rw [read_eq_error_iff.2 hfile] at hb
    cases hb

theorem writeSnapshot_of_unloadable {c : Config} {error : Error}
    (h : Unloadable fs (.ofText c.dataDir) c.files error) :
    writeSnapshot fs c seedPrefix = (.error error, fs) := by
  rw [writeSnapshot, snapshot, load_eq_error_iff.2 h]

theorem names_of_load (h : load fs directory files = .ok banks) :
    names fs directory files = .ok (banks.map Bank.file) := by
  obtain ⟨ns, hnames, hread⟩ := load_eq_ok_iff.1 h
  have hfiles : List.Forall₂ (fun file b => file = b.file) ns banks :=
    (readAll_eq_ok_iff.1 hread).imp fun _ _ hb => (file_of_read hb).symm
  rw [← List.forall₂_map_right_iff, List.forall₂_eq_eq_eq] at hfiles
  rw [hnames, hfiles]

/-! ### Snapshots -/

/-- **A snapshot is complete, and its records are apart from each other.** Where the banks can be
loaded, the snapshot has a record for each of the first entries of every bank, in order, and another
entry in the place of one changes that record and no other. Where they cannot, the snapshot fails
with the error of the first bank that cannot be had, and the whole file system stays as it is. -/
theorem snapshot_complete (fs : FileSystem) (c : Config) (seedPrefix : String) :
    (∀ banks, load fs (.ofText c.dataDir) c.files = .ok banks →
      names fs (.ofText c.dataDir) c.files = .ok (banks.map Bank.file) ∧
      ∃ rs, snapshot fs c seedPrefix = .ok rs ∧ AreRecords c.perFile seedPrefix banks rs ∧
        ∀ (fs' : FileSystem) i j b e, banks[i]? = some b → j < b.entries.length →
          load fs' (.ofText c.dataDir) c.files = .ok (replaceEntry banks i j e) →
          snapshot fs' c seedPrefix = .ok (if j < c.perFile then
            rs.set (recordStart c.perFile banks i + j) (e.record b.file seedPrefix) else rs)) ∧
    (∀ error, Unloadable fs (.ofText c.dataDir) c.files error →
      writeSnapshot fs c seedPrefix = (.error error, fs)) ∧
    (∀ ns file error, names fs (.ofText c.dataDir) c.files = .ok ns → file ∈ ns →
      Unreadable fs (.ofText c.dataDir) file error →
      ∃ first, Unloadable fs (.ofText c.dataDir) c.files first ∧
        writeSnapshot fs c seedPrefix = (.error first, fs)) := by
  refine ⟨?_, fun _ h => writeSnapshot_of_unloadable h, ?_⟩
  · intro banks hload
    refine ⟨names_of_load hload, _, snapshot_eq_ok_iff.2 ⟨banks, hload, rfl⟩,
      areRecords _ _ _, ?_⟩
    intro fs' i j b e hb hj hload'
    rw [snapshot_eq_ok_iff]
    refine ⟨_, hload', ?_⟩
    split
    · next hlt => exact flatMap_records_replaceEntry hb (Nat.lt_min.2 ⟨hlt, hj⟩) e
    · next hle => exact flatMap_records_replaceEntry_of_le (Nat.not_lt.1 hle) e
  · intro ns file error hnames hmem hfile
    obtain ⟨first, hfirst⟩ := exists_unloadable hnames hmem hfile
    exact ⟨first, hfirst, writeSnapshot_of_unloadable hfirst⟩

/-- Two banks in a directory, the second with this text. -/
def twoBanks (second : String) : FileSystem where
  root := .directory [("data", .directory
    [("a.json", .file "[\x7b\x7d,\x7b\"id\":\"q\"\x7d,\x7b\x7d]"), ("b.json", .file second)])]
  workingDirectory := []

/-- Settings that choose both banks, and two entries of each. -/
def bothBanks : Config := { dataDir := "data", files := ["a.json", "b.json"], perFile := 2 }

/-- The two banks as they are loaded, where the second has one entry with an id. -/
def loadedBanks (id : String) : List Bank :=
  [⟨"a.json", [⟨none, none⟩, ⟨some "q", none⟩, ⟨none, none⟩]⟩, ⟨"b.json", [⟨some id, none⟩]⟩]

theorem snapshot_complete_twoBanks :
    (∃ rs, snapshot (twoBanks "[\x7b\"id\":\"z\"\x7d]") bothBanks "p" = .ok rs ∧
      rs.map (fun r => (r.file, r.id)) =
        [("a.json", none), ("a.json", some "q"), ("b.json", some "z")] ∧
      snapshot (twoBanks "[\x7b\"id\":\"y\"\x7d]") bothBanks "p" =
        .ok (rs.set 2 (Entry.record "b.json" "p" ⟨some "y", none⟩))) ∧
    writeSnapshot (twoBanks "]") bothBanks "p" =
      (.error (.bank "b.json" "the text is not well formed"), twoBanks "]") := by
  have hz : load (twoBanks "[\x7b\"id\":\"z\"\x7d]") (.ofText "data") ["a.json", "b.json"] =
      .ok (loadedBanks "z") := by
    with_unfolding_all rfl
  have hy : load (twoBanks "[\x7b\"id\":\"y\"\x7d]") (.ofText "data") ["a.json", "b.json"] =
      .ok (replaceEntry (loadedBanks "z") 1 0 ⟨some "y", none⟩) := by
    with_unfolding_all rfl
  have hb : (twoBanks "]").read ((Path.ofText "data").join (.ofText "b.json")) = .ok "]" := by
    decide +kernel
  have hentries : readEntries "]" = .error "the text is not well formed" := by
    with_unfolding_all rfl
  have hnames : names (twoBanks "]") (.ofText "data") ["a.json", "b.json"] =
      .ok (["a.json"] ++ "b.json" :: []) := rfl
  have hpassed : ∀ f ∈ ["a.json"], ∃ b, read (twoBanks "]") (.ofText "data") f = .ok b := by
    intro f hf
    cases List.mem_singleton.1 hf
    exact ⟨⟨"a.json", [⟨none, none⟩, ⟨some "q", none⟩, ⟨none, none⟩]⟩, by with_unfolding_all rfl⟩
  refine ⟨?_, ?_⟩
  · obtain ⟨-, rs, hrs, hrecords, hreplaced⟩ := (snapshot_complete _ bothBanks "p").1 _ hz
    exact ⟨rs, hrs, hrecords.listed, hreplaced _ 1 0 _ _ rfl (by decide) hy⟩
  · exact (snapshot_complete _ bothBanks "p").2.1 _
      (.unreadable hnames hpassed (.malformed hb hentries))

end Bank
end QuizBank

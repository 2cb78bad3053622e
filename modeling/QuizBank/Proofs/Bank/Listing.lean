import QuizBank.Bank.Validation
import QuizBank.Proofs.Bank.Records
import QuizBank.Proofs.Config.Selection
import QuizBank.Proofs.Text.Bytes

/-!
# All banks of a directory, or these

The banks of a directory are its files whose extension is `json` in lower case. The check of a
choice accepts more names than these, but it accepts all of these: a name in a directory is a path
of one name, and none stands there twice. So the banks can be chosen by their names as well, and
then the same banks are read (`exists_list_namesAllBanks`). A file whose name is no text or whose
path is too long is not among the banks, whatever its extension (`list_leaves_out`).
-/

namespace QuizBank

/-- What a directory can hold: no name twice, and no name with a slash in it. -/
structure Node.IsListing (es : List (FileName × Node)) : Prop where
  nodup : (es.map Prod.fst).Nodup
  noSlash : ∀ name ∈ es.map Prod.fst, '/' ∉ name.chars

namespace Bank

variable {fs : FileSystem} {directory : Path} {es : List (FileName × Node)} {name : String}
variable {names : List String}

/-! ### The names of banks -/

/-- A bank has something for a name, and `.json` behind it. -/
theorem isBankName_iff : isBankName name = true ↔ ∃ stem, stem ≠ "" ∧ name = stem ++ ".json" := by
  rw [isBankName, beq_iff_eq, Path.extensionOf?_eq_some_iff]
  constructor
  · rintro ⟨stem, hstem, hname, -⟩
    refine ⟨String.ofList stem, ?_, ?_⟩
    · rwa [ne_eq, ← String.toList_eq_nil_iff, String.toList_ofList]
    · rw [← String.toList_inj, hname, String.toList_append, String.toList_ofList]
      simp
  · rintro ⟨stem, hstem, rfl⟩
    refine ⟨stem.toList, mt String.toList_eq_nil_iff.1 hstem, ?_, by decide⟩
    rw [String.toList_append]
    rfl

theorem hasBankExtension_of_isBankName (h : isBankName name = true) :
    Config.HasBankExtension name := by
  obtain ⟨stem, hstem, rfl⟩ := isBankName_iff.1 h
  refine ⟨stem.toList, "json".toList, mt String.toList_eq_nil_iff.1 hstem, ?_, by decide⟩
  rw [String.toList_append]
  rfl

/-- The name of a bank is accepted as a choice, for it is a path of one name. -/
theorem isBankFile_of_isBankName (h : isBankName name = true) (hslash : '/' ∉ name.toList) :
    Config.IsBankFile name := by
  have hbank := hasBankExtension_of_isBankName h
  have hne : name ≠ "" ∧ name ≠ "." := by
    refine ⟨?_, ?_⟩
    · rintro rfl
      exact absurd h (by decide)
    · rintro rfl
      exact absurd h (by decide)
  have hpath := Path.ofText_eq_of_slash_not_mem hne.1 hslash
  have hnames : (Path.ofText name).names = [name] := by
    rw [hpath, Path.names]
    simp [hne.2]
  refine Config.isBankFile_iff.2 ⟨by rw [hpath], ?_, [], name, hnames, hbank⟩
  rw [hnames, List.mem_singleton]
  exact hbank.ne_up.symm

/-- The path of an entry is that of its directory with the name behind it. -/
theorem isInReach_ofText {dataDir : String} (h : dataDir ≠ "") :
    isInReach (.ofText dataDir) (.text name) = true ↔
      (dataDir ++ Path.separator dataDir ++ name).utf8ByteSize ≤ 4095 := by
  rw [isInReach, decide_eq_true_iff, Path.sizeInFront_ofText h,
    String.utf8ByteSize_append (t := name)]
  rfl

/-! ### The banks of a directory -/

theorem lookup_eq_some_iff_of_nodup (h : (es.map Prod.fst).Nodup) {key : FileName} {node : Node} :
    es.lookup key = some node ↔ (key, node) ∈ es := by
  induction es with
  | nil => simp
  | cons e rest ih =>
    obtain ⟨k, v⟩ := e
    rw [List.map_cons, List.nodup_cons] at h
    rw [List.lookup_cons, List.mem_cons, Prod.mk.injEq]
    by_cases hk : key = k
    · subst hk
      have hrest : (key, node) ∉ rest := fun hmem => h.1 (List.mem_map.2 ⟨_, hmem, rfl⟩)
      simp [hrest, eq_comm]
    · rw [beq_eq_false_iff_ne.2 hk]
      simp [hk, ih h.2]

theorem mem_namesIn (h : Node.IsListing es) : name ∈ namesIn directory es ↔
    (∃ content, es.lookup (.text name) = some (.file content)) ∧
      isBankName name = true ∧ isInReach directory (.text name) = true := by
  rw [namesIn_eq, List.mem_mergeSort, List.mem_filter, Node.mem_fileNames, isListed,
    Bool.and_eq_true, and_comm (a := isInReach _ _ = true)]
  refine and_congr_left fun _ => ?_
  simp only [lookup_eq_some_iff_of_nodup h.nodup, Node.isFile_iff]
  constructor
  · rintro ⟨node, hmem, content, rfl⟩
    exact ⟨content, hmem⟩
  · rintro ⟨content, hmem⟩
    exact ⟨_, hmem, content, rfl⟩

theorem nodup_fileNames (h : Node.IsListing es) : (Node.fileNames es).Nodup := by
  have hfiles : ((es.filter fun e => e.2.isFile).map Prod.fst).Nodup :=
    h.nodup.sublist (List.filter_sublist.map Prod.fst)
  -- Two entries with the same text for a name have the same name.
  have htexts := hfiles.filterMap (f := FileName.text?) fun name name' s hname hname' => by
    rw [FileName.text?_eq_some_iff.1 hname, FileName.text?_eq_some_iff.1 hname']
  rwa [List.filterMap_map] at htexts

/-- The names come in order, and none comes twice. -/
theorem pairwise_lt_namesIn (h : Node.IsListing es) : (namesIn directory es).Pairwise (· < ·) := by
  have hle : (namesIn directory es).Pairwise (· ≤ ·) := by
    have hsorted : (namesIn directory es).Pairwise fun s t => decide (s ≤ t) = true :=
      List.pairwise_mergeSort (by simpa using fun a b c => le_trans (a := a) (b := b) (c := c))
        (by simpa using fun a b => le_total a b) _
    exact hsorted.imp fun hst => by simpa using hst
  have hnodup : (namesIn directory es).Nodup := by
    rw [namesIn_eq, (List.mergeSort_perm _ _).nodup_iff]
    exact (nodup_fileNames h).filter _
  exact (hle.and hnodup).imp fun h => lt_of_le_of_ne h.1 h.2

theorem isBankFile_of_mem_namesIn (h : Node.IsListing es) (hname : name ∈ namesIn directory es) :
    Config.IsBankFile name := by
  obtain ⟨⟨content, hlookup⟩, hbank, -⟩ := (mem_namesIn h).1 hname
  have hmem : .text name ∈ es.map Prod.fst :=
    List.mem_map_of_mem ((lookup_eq_some_iff_of_nodup h.nodup).1 hlookup)
  exact isBankFile_of_isBankName hbank (h.noSlash _ hmem)

/-! ### Chosen by name -/

/-- No choice is the choice of all banks. -/
theorem load_nil_of_list (h : list fs directory = .ok names) :
    load fs directory [] = load fs directory names := by
  rw [load, List.isEmpty_nil, if_pos rfl, h, load]
  cases names with
  | nil => rw [List.isEmpty_nil, if_pos rfl, h]
  | cons name rest => rfl

/-- The names are those of the banks of a directory whose paths are not too long, and choosing the
banks by these names comes to the same as choosing none. -/
structure NamesAllBanks (fs : FileSystem) (dataDir : String) (place names : List String) :
    Prop where
  increasing : names.Pairwise fun s t => Text.bytes s < Text.bytes t
  mem_iff : ∀ name, name ∈ names ↔ (∃ content, fs.node? (place ++ [name]) = some (.file content)) ∧
    (∃ stem, stem ≠ "" ∧ name = stem ++ ".json") ∧
      (dataDir ++ Path.separator dataDir ++ name).utf8ByteSize ≤ 4095
  accepted : Config.checkBanks dataDir names = .ok ()
  load_eq : load fs (.ofText dataDir) [] = load fs (.ofText dataDir) names
  validate_eq : ∀ c : Config, c.dataDir = dataDir →
    validate fs { c with files := [] } = validate fs { c with files := names }
  snapshot_eq : ∀ c : Config, c.dataDir = dataDir → ∀ seedPrefix,
    snapshot fs { c with files := [] } seedPrefix = snapshot fs { c with files := names } seedPrefix

/-- **The banks of a directory can be chosen by their names.** Whatever a directory holds, its banks
can be listed: the names are strictly increasing by their bytes, and are those names of files that
are texts, have the extension `json` and end a path that is not too long. As a choice of banks they
are accepted, and with them everything comes out as it does without a choice. -/
theorem exists_list_namesAllBanks {dataDir : String} {place : List String}
    (hblank : Text.isBlankText dataDir = false) (hnul : '\x00' ∉ dataDir.toList)
    (hplace : fs.resolve (.ofText dataDir) = .ok place)
    (hnode : fs.node? place = some (.directory es)) (hes : Node.IsListing es) :
    ∃ names, list fs (.ofText dataDir) = .ok names ∧ NamesAllBanks fs dataDir place names := by
  have hne : dataDir ≠ "" := by
    rintro rfl
    exact absurd hblank (by decide)
  have hlist : list fs (.ofText dataDir) = .ok (namesIn (.ofText dataDir) es) :=
    list_eq_ok_iff.2 ⟨place, es, hplace, hnode, rfl⟩
  have hload := load_nil_of_list hlist
  refine ⟨namesIn (.ofText dataDir) es, hlist, ?_, ?_, ?_, hload, ?_, ?_⟩
  · exact (pairwise_lt_namesIn hes).imp Text.bytes_lt_iff.2
  · intro name
    rw [mem_namesIn hes, isBankName_iff, isInReach_ofText hne,
      FileSystem.node?_append_singleton hnode]
  · refine Config.checkBanks_eq_ok_iff.2 ⟨⟨hblank, hnul⟩, ?_, ?_⟩
    · exact fun name hname => isBankFile_of_mem_namesIn hes hname
    · exact (pairwise_lt_namesIn hes).imp fun hlt => ne_of_lt hlt
  · rintro c rfl
    rw [validate, validate, hload]
  · rintro c rfl seedPrefix
    rw [snapshot, snapshot, hload]

/-- The name `\xff.json`: no text has the byte `\xff`. -/
def noTextName : FileName := .other [0xff, 0x2e, 0x6a, 0x73, 0x6f, 0x6e] (by decide)

/-- A directory with two banks among other entries. -/
def twoBanksAmongOthers : List (FileName × Node) :=
  [("b.json", .file "[]"), ("old.json", .directory []), (".json", .file "[]"),
    ("a.b.json", .file "[\x7b\x7d]"), ("c.JSON", .file "[]"), ("notes.txt", .file ""),
    (noTextName, .file "[]")]

theorem exists_list_namesAllBanks_twoBanks :
    Node.IsListing twoBanksAmongOthers ∧
      NamesAllBanks ⟨.directory [("data", .directory twoBanksAmongOthers)], []⟩ "./data" ["data"]
        ["a.b.json", "b.json"] := by
  have hes : Node.IsListing twoBanksAmongOthers := ⟨by decide, by decide⟩
  have hplace : FileSystem.resolve ⟨.directory [("data", .directory twoBanksAmongOthers)], []⟩
      (.ofText "./data") = .ok ["data"] := by
    decide +kernel
  have hbanks : (Node.fileNames twoBanksAmongOthers).filter (isListed (.ofText "./data")) =
      ["b.json", "a.b.json"] := by
    decide +kernel
  have hnames : namesIn (.ofText "./data") twoBanksAmongOthers = ["a.b.json", "b.json"] := by
    rw [namesIn_eq, hbanks]
    simp [List.mergeSort]
  obtain ⟨names, hlist, hagrees⟩ := exists_list_namesAllBanks (by decide) (by decide) hplace rfl hes
  cases (list_eq_ok_iff.2 ⟨_, _, hplace, rfl, hnames⟩).symm.trans hlist
  exact ⟨hes, hagrees⟩

/-- The directory `data` with a bank, and a file beside it with a name that is no text. -/
def besideNoText : FileSystem where
  root := .directory [("data", .directory [("a.json", .file "[]"), (noTextName, .file "[]")])]
  workingDirectory := []

/-- The directory `data`, spelled with so many slashes that nothing fits behind them. -/
def farData : String := "data" ++ String.ofList (List.replicate 4090 '/')

theorem ofText_farData : Path.ofText farData = ⟨false, ["data"], true, 4094⟩ :=
  Path.ofText_append_slashes (by decide : "data" ≠ "") 4089

theorem checkBanks_farData : Config.checkBanks farData [] = .ok () := by
  have hchars : farData.toList = "data".toList ++ List.replicate 4090 '/' := by
    rw [farData, String.toList_append]
    exact congrArg _ String.toList_ofList
  refine Config.checkBanks_eq_ok_iff.2 ⟨⟨?_, ?_⟩, List.forall_mem_nil _, List.nodup_nil⟩
  · have hd : 'd' ∈ farData.toList := hchars ▸ List.mem_append_left _ (by decide)
    exact List.all_eq_false.2 ⟨'d', hd, by decide⟩
  · rw [hchars, List.mem_append, not_or]
    exact ⟨by decide, fun hnul => absurd (List.eq_of_mem_replicate hnul) (by decide)⟩

theorem list_farData : list besideNoText (.ofText farData) = .ok [] := by
  refine list_of_sorted ?_ List.Pairwise.nil
  rw [ofText_farData]
  decide +kernel

theorem read_farData :
    read besideNoText (.ofText farData) "a.json" = .error (.ofFault .nameTooLong) := by
  rw [ofText_farData, read_eq_error_iff]
  exact .unread (by decide +kernel)

/-- Not every file with the extension `json` is listed: neither one whose name is no text, nor one
whose path is too long, though the directory is the same. The latter, chosen by its name, cannot be
read. -/
theorem list_leaves_out :
    besideNoText.node? ["data"] =
        some (.directory [("a.json", .file "[]"), (noTextName, .file "[]")]) ∧
      Node.IsListing [("a.json", .file "[]"), (noTextName, .file "[]")] ∧
      isBank ("a.json", .file "[]") = true ∧ isBank (noTextName, .file "[]") = true ∧
      besideNoText.resolve (.ofText "data") = .ok ["data"] ∧
      list besideNoText (.ofText "data") = .ok ["a.json"] ∧
      Config.checkBanks farData [] = .ok () ∧
      besideNoText.resolve (.ofText farData) = .ok ["data"] ∧
      list besideNoText (.ofText farData) = .ok [] ∧
      load besideNoText (.ofText farData) [] = .ok [] ∧
      load besideNoText (.ofText farData) ["a.json"] = .error (.ofFault .nameTooLong) := by
  have hnear : list besideNoText (.ofText "data") = .ok ["a.json"] :=
    list_of_sorted (by decide +kernel) (by decide)
  have hplace : besideNoText.resolve (.ofText farData) = .ok ["data"] := by
    rw [ofText_farData]
    decide +kernel
  refine ⟨rfl, ⟨by decide, by decide⟩, by decide +kernel, by decide +kernel, by decide +kernel,
    hnear, checkBanks_farData, hplace, list_farData, ?_, ?_⟩
  · rw [load, List.isEmpty_nil, if_pos rfl, list_farData]
    rfl
  · rw [load, List.isEmpty_cons, if_neg Bool.false_ne_true, readAll, read_farData]

end Bank
end QuizBank

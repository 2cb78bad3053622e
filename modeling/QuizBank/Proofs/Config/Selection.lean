import Mathlib.Data.List.Nodup
import QuizBank.Config.Check
import QuizBank.Proofs.File.Spelling

/-!
# The choice of banks

A choice of banks passes its check if the directory has a name, if each file is the path of a bank
that stays inside the directory, and if no text stands in the list twice. What the check sees of a
file is in the names of its path, so a path that passes leads to the same place as its names alone,
below the directory. But texts are compared as they are spelled: a list can have two spellings of
one path.
-/

namespace QuizBank
namespace Config

open QuizBank.Path (ofText)

variable {dataDir file : String} {files earlier : List String}

/-! ### What passes the check -/

/-- A name with the extension of banks, in any case: something, a point, and `json` behind it. -/
def HasBankExtension (name : String) : Prop :=
  ∃ stem ext, stem ≠ [] ∧ name.toList = stem ++ '.' :: ext ∧ ext.map Char.toLower = "json".toList

theorem equalsIgnoringCase_json_iff {ext : String} : Text.equalsIgnoringCase ext "json" = true ↔
    ext.toList.map Char.toLower = "json".toList := by
  rw [Text.equalsIgnoringCase, beq_iff_eq]
  rfl

theorem point_not_mem_of_json {ext : List Char} (h : ext.map Char.toLower = "json".toList) :
    '.' ∉ ext := by
  intro hmem
  have hpoint : '.' ∈ "json".toList := h ▸ List.mem_map_of_mem hmem
  exact absurd hpoint (by decide)

theorem HasBankExtension.ne_up {name : String} (h : HasBankExtension name) : name ≠ ".." := by
  rintro rfl
  obtain ⟨stem, ext, -, hname, hlower⟩ := h
  have hext : ext.length = 4 := (List.length_map _).symm.trans (congrArg List.length hlower)
  have htwo : 2 = (stem ++ '.' :: ext).length := congrArg List.length hname
  rw [List.length_append, List.length_cons, hext] at htwo
  omega

theorem isBankPath_iff {p : Path} :
    isBankPath p = true ↔ ∃ above name, p.names = above ++ [name] ∧ HasBankExtension name := by
  constructor
  · intro h
    rw [isBankPath] at h
    split at h
    · next ext hsome =>
      obtain ⟨above, name, stem, habove, -, hstem, hname, -⟩ := Path.extension?_eq_some_iff.1 hsome
      have hlower := equalsIgnoringCase_json_iff.1 h
      exact ⟨above, name, habove, stem, ext.toList, hstem, hname, hlower⟩
    · cases h
  · rintro ⟨above, name, habove, hbank⟩
    have hup := hbank.ne_up
    obtain ⟨stem, ext, hstem, hname, hlower⟩ := hbank
    have hsome : p.extension? = some (String.ofList ext) := by
      rw [Path.extension?_eq_some_iff, String.toList_ofList]
      exact ⟨above, name, stem, habove, hup, hstem, hname, point_not_mem_of_json hlower⟩
    rw [isBankPath, hsome]
    refine equalsIgnoringCase_json_iff.2 ?_
    rwa [String.toList_ofList]

/-- A text that can be chosen as a bank file: the path of a bank that starts in the directory and
never leads upwards. -/
structure IsBankFile (file : String) : Prop where
  isBankPath : Config.isBankPath (ofText file) = true
  relative : (ofText file).absolute = false
  stays : (ofText file).leadsUp = false

theorem fileFault?_eq_none_iff :
    fileFault? earlier file = none ↔ IsBankFile file ∧ file ∉ earlier := by
  constructor
  · intro h
    rw [fileFault?] at h
    split at h
    · cases h
    next hbank =>
    split at h
    · cases h
    next hinside =>
    split at h
    · cases h
    next hnew =>
    rw [Bool.or_eq_true, not_or] at hinside
    exact ⟨⟨by simpa using hbank, by simpa using hinside.1, by simpa using hinside.2⟩,
      by simpa using hnew⟩
  · rintro ⟨⟨hbank, hrelative, hstays⟩, hnew⟩
    simp [fileFault?, hbank, hrelative, hstays, hnew]

theorem checkFiles_eq_ok_iff : checkFiles earlier files = .ok () ↔
    (∀ file ∈ files, IsBankFile file) ∧ files.Nodup ∧ ∀ file ∈ files, file ∉ earlier := by
  induction files generalizing earlier with
  | nil => exact iff_of_true rfl ⟨nofun, List.nodup_nil, nofun⟩
  | cons file rest ih =>
    rw [checkFiles.eq_def]
    dsimp only
    cases hfault : fileFault? earlier file with
    | some reason =>
      refine iff_of_false nofun ?_
      rintro ⟨hfiles, -, hnew⟩
      have hnone := fileFault?_eq_none_iff.2
        ⟨hfiles file List.mem_cons_self, hnew file List.mem_cons_self⟩
      rw [hfault] at hnone
      cases hnone
    | none =>
      obtain ⟨hfile, hnew⟩ := fileFault?_eq_none_iff.1 hfault
      simp only [ih, List.forall_mem_cons, List.nodup_cons, List.mem_append, List.mem_singleton]
      constructor
      · rintro ⟨hrest, hnodup, hearlier⟩
        exact ⟨⟨hfile, hrest⟩, ⟨fun hmem => hearlier file hmem (.inr rfl), hnodup⟩, hnew,
          fun f hf hmem => hearlier f hf (.inl hmem)⟩
      · rintro ⟨⟨-, hrest⟩, ⟨hfirst, hnodup⟩, -, hearlier⟩
        refine ⟨hrest, hnodup, fun f hf => ?_⟩
        rintro (hmem | rfl)
        · exact hearlier f hf hmem
        · exact hfirst hf

/-- The directory has a name, the files stay inside it, and no text stands there twice. -/
theorem checkBanks_eq_ok_iff : checkBanks dataDir files = .ok () ↔
    (Text.isBlankText dataDir = false ∧ '\x00' ∉ dataDir.toList) ∧
      (∀ file ∈ files, IsBankFile file) ∧ files.Nodup := by
  have hdir : (Text.isBlankText dataDir || dataDir.toList.contains '\x00') = false ↔
      Text.isBlankText dataDir = false ∧ '\x00' ∉ dataDir.toList := by
    simp
  rw [checkBanks, ← hdir]
  cases Text.isBlankText dataDir || dataDir.toList.contains '\x00' with
  | true => exact iff_of_false nofun fun h => Bool.noConfusion h.1
  | false => simp [checkFiles_eq_ok_iff]

theorem ne_empty_of_checkBanks (h : checkBanks dataDir files = .ok ()) : dataDir ≠ "" := by
  rintro rfl
  exact absurd (checkBanks_eq_ok_iff.1 h).1.1 (by decide)

/-! ### Files stay below the directory -/

/-- What the check asks of a file is in the names of its path, but for where the path starts. -/
theorem isBankFile_iff : IsBankFile file ↔
    (ofText file).absolute = false ∧ ".." ∉ (ofText file).names ∧
      ∃ above name, (ofText file).names = above ++ [name] ∧ HasBankExtension name := by
  rw [← Path.leadsUp_eq_false_iff, ← isBankPath_iff]
  constructor
  · rintro ⟨hbank, hrelative, hstays⟩
    exact ⟨hrelative, hstays, hbank⟩
  · rintro ⟨hrelative, hstays, hbank⟩
    exact ⟨hbank, hrelative, hstays⟩

theorem IsBankFile.names_ne_nil (h : IsBankFile file) : (ofText file).names ≠ [] := by
  obtain ⟨-, -, above, name, hnames, -⟩ := isBankFile_iff.1 h
  simp [hnames]

/-- A file that the check lets through is found below the directory, wherever that is: at the names
of its path, and nowhere else on the way. -/
structure Below (dataDir file : String) : Prop where
  staysBelow : ∀ place, (ofText file).StaysBelow place
  bank : ∃ above name, (ofText file).names = above ++ [name] ∧ HasBankExtension name
  names : ∀ name ∈ (ofText file).names, name ≠ "" ∧ name ≠ "." ∧ name ≠ ".." ∧ '/' ∉ name.toList
  join_eq : (ofText dataDir).join (ofText file) =
    ofText (dataDir ++ Path.separator dataDir ++ file)
  absolute_eq : ((ofText dataDir).join (ofText file)).absolute = (ofText dataDir).absolute
  components_eq : ((ofText dataDir).join (ofText file)).components =
    (ofText dataDir).components ++ (ofText file).names
  resolve : ∀ fs : FileSystem, ∀ place,
    fs.resolve ((ofText dataDir).join (ofText file)) = .ok place →
      ∃ directory, fs.resolve (ofText dataDir) = .ok directory ∧
        place = directory ++ (ofText file).names

theorem IsBankFile.below (h : IsBankFile file) (hdir : dataDir ≠ "") : Below dataDir file := by
  obtain ⟨hrelative, hup, hbank⟩ := isBankFile_iff.1 h
  have hstays := Path.staysBelow hrelative hup
  have hempty : (ofText dataDir).isEmpty = false := by
    rw [← Bool.not_eq_true, Path.isEmpty_ofText_iff]
    exact hdir
  have hsegments : (ofText file).segments ≠ [] :=
    fun hnil => h.names_ne_nil (by rw [Path.names, hnil, List.filter_nil])
  refine ⟨hstays, hbank, ?_, Path.join_ofText_ofText hdir hrelative hsegments,
    Path.absolute_join _ hrelative, Path.components_join hempty hrelative, ?_⟩
  · intro name hname
    obtain ⟨hmem, hdot⟩ := Path.mem_names.1 hname
    obtain ⟨hne, hslash⟩ := Path.ne_empty_of_mem_segments hmem
    exact ⟨hne, hdot, fun heq => hup (heq ▸ hname), hslash⟩
  · intro fs place hplace
    obtain ⟨directory, hdirectory, hwalk⟩ :=
      FileSystem.resolve_join hempty hrelative hsegments hplace
    have hstart : (ofText file).start directory = directory := by
      rw [Path.start, hrelative, if_neg Bool.false_ne_true]
    have hend := (hstays directory).atTheEnd
    rw [hstart] at hend
    exact ⟨directory, hdirectory, (FileSystem.eq_follow_of_walk hwalk).trans hend⟩

/-- Every file of a choice that passes the check is below the directory. -/
theorem below_of_checkBanks (h : checkBanks dataDir files = .ok ()) (hfile : file ∈ files) :
    Below dataDir file :=
  ((checkBanks_eq_ok_iff.1 h).2.1 file hfile).below (ne_empty_of_checkBanks h)

theorem below_of_checkBanks_dots :
    checkBanks "./data/" ["sat/extra.JSON", ".//x/./..json", "a.b.Json/."] = .ok () ∧
      ".//x/./..json" ∈ ["sat/extra.JSON", ".//x/./..json", "a.b.Json/."] ∧
      Below "./data/" ".//x/./..json" := by
  have h : checkBanks "./data/" ["sat/extra.JSON", ".//x/./..json", "a.b.Json/."] = .ok () := by
    decide +kernel
  exact ⟨h, by decide, below_of_checkBanks h (by decide)⟩

/-! ### Spellings of one path -/

theorem IsBankFile.plain (h : IsBankFile file) : IsBankFile (ofText file).plain := by
  obtain ⟨-, hup, hbank⟩ := isBankFile_iff.1 h
  have hplain := Path.ofText_plain h.names_ne_nil
  refine isBankFile_iff.2 ⟨by rw [hplain], ?_⟩
  rw [Path.names_plain h.names_ne_nil]
  exact ⟨hup, hbank⟩

theorem IsBankFile.plain_eq_iff {other : String} (h : IsBankFile file) (hother : IsBankFile other) :
    (ofText file).plain = (ofText other).plain ↔ (ofText file).names = (ofText other).names := by
  constructor
  · intro heq
    rw [← Path.names_plain h.names_ne_nil, heq, Path.names_plain hother.names_ne_nil]
  · intro heq
    rw [Path.plain, heq, Path.plain]

/-- No path stands twice in a choice exactly if it still passes when each file is spelled plainly. -/
theorem checkBanks_plain_iff (h : checkBanks dataDir files = .ok ()) :
    checkBanks dataDir (files.map fun file => (ofText file).plain) = .ok () ↔
      (files.map fun file => (ofText file).names).Nodup := by
  obtain ⟨hdir, hfiles, hnodup⟩ := checkBanks_eq_ok_iff.1 h
  have hplain : ∀ file ∈ files.map fun file => (ofText file).plain, IsBankFile file := by
    intro file hfile
    obtain ⟨spelled, hspelled, rfl⟩ := List.mem_map.1 hfile
    exact (hfiles spelled hspelled).plain
  rw [checkBanks_eq_ok_iff, List.nodup_map_iff_inj_on hnodup, List.nodup_map_iff_inj_on hnodup]
  constructor
  · rintro ⟨-, -, hinj⟩ file hfile other hother heq
    have hspelled := ((hfiles file hfile).plain_eq_iff (hfiles other hother)).2 heq
    exact hinj file hfile other hother hspelled
  · intro hinj
    refine ⟨hdir, hplain, fun file hfile other hother heq => ?_⟩
    have hnames := ((hfiles file hfile).plain_eq_iff (hfiles other hother)).1 heq
    exact hinj file hfile other hother hnames

/-- Two files that are both there are at one place exactly if their paths have the same names. -/
theorem Below.place_eq_iff {other : String} {fs : FileSystem} {place place' : List String}
    (h : Below dataDir file) (hother : Below dataDir other)
    (hplace : fs.resolve ((ofText dataDir).join (ofText file)) = .ok place)
    (hplace' : fs.resolve ((ofText dataDir).join (ofText other)) = .ok place') :
    place = place' ↔ (ofText file).names = (ofText other).names := by
  obtain ⟨directory, hdirectory, rfl⟩ := h.resolve fs place hplace
  obtain ⟨directory', hdirectory', rfl⟩ := hother.resolve fs place' hplace'
  rw [hdirectory] at hdirectory'
  cases hdirectory'
  exact List.append_right_inj directory

/-- A choice that passes the check has no text twice, and so no two plain spellings of one path. It
has no path twice exactly if it still passes when each file is spelled plainly. Two files of it that
are both there are at one place exactly if their paths have the same names. -/
theorem checkBanks_spellings (h : checkBanks dataDir files = .ok ()) :
    files.Nodup ∧
      (∀ file ∈ files, ∀ other ∈ files, file ≠ other → (ofText file).plain = file →
        (ofText other).plain = other → (ofText file).names ≠ (ofText other).names) ∧
      (checkBanks dataDir (files.map fun file => (ofText file).plain) = .ok () ↔
        (files.map fun file => (ofText file).names).Nodup) ∧
      ∀ file ∈ files, ∀ other ∈ files, ∀ (fs : FileSystem) place place',
        fs.resolve ((ofText dataDir).join (ofText file)) = .ok place →
        fs.resolve ((ofText dataDir).join (ofText other)) = .ok place' →
        (place = place' ↔ (ofText file).names = (ofText other).names) := by
  obtain ⟨-, hfiles, hnodup⟩ := checkBanks_eq_ok_iff.1 h
  refine ⟨hnodup, ?_, checkBanks_plain_iff h, ?_⟩
  · intro file hfile other hother hne hplain hplain' heq
    have hspelled := ((hfiles file hfile).plain_eq_iff (hfiles other hother)).2 heq
    rw [hplain, hplain'] at hspelled
    exact hne hspelled
  · intro file hfile other hother fs place place' hplace hplace'
    have hdir := ne_empty_of_checkBanks h
    exact ((hfiles file hfile).below hdir).place_eq_iff ((hfiles other hother).below hdir) hplace
      hplace'

theorem checkBanks_spellings_sat :
    checkBanks "data" ["a.json", "sat/a.json", "sat//./b.JSON"] = .ok () ∧
      checkBanks "data" ["a.json", "sat/a.json", "sat/b.JSON"] = .ok () := by
  have h : checkBanks "data" ["a.json", "sat/a.json", "sat//./b.JSON"] = .ok () := by
    decide +kernel
  exact ⟨h, (checkBanks_spellings h).2.2.1.2 (by decide +kernel)⟩

/-- A choice that passes with two spellings of one path. -/
theorem checkBanks_two_spellings :
    checkBanks "data" ["sat/a.json", "sat//a.json"] = .ok () ∧
      ¬ (["sat/a.json", "sat//a.json"].map fun file => (ofText file).names).Nodup := by
  decide +kernel

end Config
end QuizBank

import QuizBank.Proofs.Bank.Entries
import QuizBank.Proofs.Bank.Snapshot

/-!
# One entry, three ways

Items of an entry are made in three places: when the entry is asked for by its id, for its record in
a snapshot, and for the report of a validation. Each of them finds the entry, takes its template and
names the seed in its own way. Asking by the id makes the item of the first entry that has it
(`generate_of_load`), and the fault of an entry is the first error that its seeds give
(`Entry.exists_fault?_iff`). So records and failures tell what asking by the id would give.
-/

namespace QuizBank
namespace Bank

/-- Of the runs on these seeds the first that fails ends with this error. -/
def FirstError (run : String → Except Error Item) (seeds : List String) (error : Error) : Prop :=
  ∃ passed seed rest, seeds = passed ++ seed :: rest ∧ (∀ s ∈ passed, ∃ item, run s = .ok item) ∧
    run seed = .error error

/-- Of the runs on these seeds the one on this seed is the first that fails, with this error. -/
def FirstFailure (run : String → Except Error Item) (seeds : List String) (seed : String)
    (error : Error) : Prop :=
  ∃ passed rest, seeds = passed ++ seed :: rest ∧ (∀ s ∈ passed, ∃ item, run s = .ok item) ∧
    run seed = .error error

theorem firstError_iff_firstFailure {run : String → Except Error Item} {seeds : List String}
    {error : Error} : FirstError run seeds error ↔ ∃ seed, FirstFailure run seeds seed error := by
  constructor
  · rintro ⟨passed, seed, rest, hfirst⟩
    exact ⟨seed, passed, rest, hfirst⟩
  · rintro ⟨seed, passed, rest, hfirst⟩
    exact ⟨passed, seed, rest, hfirst⟩

theorem FirstFailure.mem {run : String → Except Error Item} {seeds : List String} {seed : String}
    {error : Error} (h : FirstFailure run seeds seed error) : seed ∈ seeds := by
  obtain ⟨passed, rest, rfl, -, -⟩ := h
  exact List.mem_append_right passed List.mem_cons_self

theorem exists_firstError_iff {run : String → Except Error Item} {seeds : List String} :
    (∃ error, FirstError run seeds error) ↔ ∃ seed ∈ seeds, ∃ error, run seed = .error error := by
  constructor
  · rintro ⟨error, passed, seed, rest, rfl, -, herror⟩
    exact ⟨seed, by simp, error, herror⟩
  · intro h
    induction seeds with
    | nil => simp at h
    | cons seed rest ih =>
      cases hrun : run seed with
      | error error => exact ⟨error, [], seed, rest, rfl, List.forall_mem_nil _, hrun⟩
      | ok item =>
        obtain ⟨s, hs, error, herror⟩ := h
        obtain rfl | hs := List.mem_cons.1 hs
        · rw [hrun] at herror
          cases herror
        · obtain ⟨first, passed, seed', rest', rfl, hpassed, hfirst⟩ := ih ⟨s, hs, error, herror⟩
          refine ⟨first, seed :: passed, seed', rest', rfl, ?_, hfirst⟩
          exact List.forall_mem_cons.2 ⟨⟨item, hrun⟩, hpassed⟩

theorem firstError_map_iff {run : String → Except Error Item} {f : String → String}
    {l : List String} {error : Error} :
    FirstError run (l.map f) error ↔ FirstError (fun s => run (f s)) l error := by
  constructor
  · rintro ⟨passed, seed, rest, hl, hpassed, hseed⟩
    obtain ⟨l₁, l₂, rfl, rfl, hl₂⟩ := List.map_eq_append_iff.1 hl
    obtain ⟨s, l₃, rfl, rfl, rfl⟩ := List.map_eq_cons_iff.1 hl₂
    exact ⟨l₁, s, l₃, rfl, fun s hs => hpassed _ (List.mem_map_of_mem hs), hseed⟩
  · rintro ⟨passed, seed, rest, rfl, hpassed, hseed⟩
    exact ⟨passed.map f, f seed, rest.map f, by simp, List.forall_mem_map.2 hpassed, hseed⟩

/-! ### One entry -/

namespace Entry

variable {e : Entry} {error : Error} {suffixes : List String}

theorem generate_of_requireTemplate {t : Template} (h : e.requireTemplate = .ok t)
    (seed : String) : e.generate seed = QuizBank.generate t seed := by
  rw [generate, h]

/-- Without a template that can be used every seed gives the same error. -/
theorem generate_of_requireTemplate_eq_error (h : e.requireTemplate = .error error)
    (seed : String) : e.generate seed = .error error := by
  rw [generate, h]

theorem seeds_of_id (id : String) (suffixes : List String) :
    seeds (some id) suffixes = suffixes.map (id ++ ·) :=
  List.ext_getElem (by simp [seeds]) (by simp [seeds, seedBase])

theorem length_seeds (id : Option String) (suffixes : List String) :
    (seeds id suffixes).length = suffixes.length := List.length_mapIdx

theorem seedFault?_eq_none_iff {t : Template} {seed : String} :
    seedFault? t seed = none ↔ ∃ item, QuizBank.generate t seed = .ok item := by
  rw [seedFault?]
  cases QuizBank.generate t seed <;> simp

theorem seedFault?_eq_some_iff {t : Template} {seed : String} {fault : Fault} :
    seedFault? t seed = some fault ↔ ∃ error, QuizBank.generate t seed = .error error ∧
      fault = ⟨if seed.isEmpty then none else some seed, error⟩ := by
  rw [seedFault?]
  cases QuizBank.generate t seed with
  | ok item => simp
  | error error => simp [@eq_comm Fault]

theorem fault?_of_requireTemplate_eq_error (h : e.requireTemplate = .error error) :
    e.fault? suffixes = some ⟨none, error⟩ := by
  rw [fault?, h]

/-- With a sound template the fault of an entry tells of the first seed that fails. It names the seed
unless this is empty. -/
theorem fault?_eq_some_iff {t : Template} (h : e.requireTemplate = .ok t) {fault : Fault} :
    e.fault? suffixes = some fault ↔
      ∃ seed, FirstFailure (QuizBank.generate t) (seeds e.id suffixes) seed fault.error ∧
        fault.seed = if seed = "" then none else some seed := by
  rw [fault?, h]
  simp only [List.findSome?_eq_some_iff, seedFault?_eq_some_iff, seedFault?_eq_none_iff,
    String.isEmpty_iff]
  constructor
  · rintro ⟨passed, seed, rest, hsplit, ⟨error, herror, rfl⟩, hpassed⟩
    exact ⟨seed, ⟨passed, rest, hsplit, hpassed, herror⟩, rfl⟩
  · rintro ⟨seed, ⟨passed, rest, hsplit, hpassed, herror⟩, hseed⟩
    refine ⟨passed, seed, rest, hsplit, ⟨fault.error, herror, ?_⟩, hpassed⟩
    rw [← hseed]

/-- The fault of an entry has the first error that its seeds give. -/
theorem exists_fault?_iff (hne : suffixes ≠ []) :
    (∃ fault, e.fault? suffixes = some fault ∧ fault.error = error) ↔
      FirstError e.generate (seeds e.id suffixes) error := by
  cases htemplate : e.requireTemplate with
  | error error' =>
    have hlength := length_seeds e.id suffixes
    have hne' : seeds e.id suffixes ≠ [] := by
      rw [← List.length_pos_iff] at hne ⊢
      omega
    obtain ⟨seed, rest, hseeds⟩ := List.exists_cons_of_ne_nil hne'
    rw [fault?_of_requireTemplate_eq_error htemplate]
    simp only [FirstError, generate_of_requireTemplate_eq_error htemplate]
    constructor
    · rintro ⟨_, ⟨⟩, rfl⟩
      exact ⟨[], seed, rest, hseeds, List.forall_mem_nil _, rfl⟩
    · rintro ⟨_, _, _, -, -, ⟨⟩⟩
      exact ⟨_, rfl, rfl⟩
  | ok t =>
    have hgenerate : e.generate = QuizBank.generate t :=
      funext (generate_of_requireTemplate htemplate)
    rw [hgenerate, firstError_iff_firstFailure]
    constructor
    · rintro ⟨fault, hfault, rfl⟩
      obtain ⟨seed, hfirst, -⟩ := (fault?_eq_some_iff htemplate).1 hfault
      exact ⟨seed, hfirst⟩
    · rintro ⟨seed, hfirst⟩
      exact ⟨⟨_, error⟩, (fault?_eq_some_iff htemplate).2 ⟨seed, hfirst, rfl⟩, rfl⟩

end Entry

/-! ### The entry with an id -/

section Loaded

variable {fs : FileSystem} {directory : Path} {files : List String} {banks : List Bank} {b : Bank}
variable {earlier later : List Entry} {e : Entry} {id : String}

theorem file_of_read {file : String} (h : read fs directory file = .ok b) : b.file = file := by
  obtain ⟨text, -, hbank⟩ := read_eq_ok_iff.1 h
  exact (ofText_eq_ok_iff.1 hbank).1

/-- A bank that was loaded can be read again by the name of its file. -/
theorem read_of_load (hload : load fs directory files = .ok banks) (hb : b ∈ banks) :
    read fs directory b.file = .ok b := by
  obtain ⟨ns, -, hread⟩ := load_eq_ok_iff.1 hload
  obtain ⟨file, hfile⟩ := exists_forall₂_iff.1 ⟨_, (readAll_eq_ok_iff.1 hread).flip⟩ b hb
  rw [file_of_read hfile]
  exact hfile

/-- Where an entry is the first with its id, it is the one that the id stands for. -/
theorem entry_eq_ok (hentries : b.entries = earlier ++ e :: later) (hid : e.id = some id)
    (hfirst : ∀ e' ∈ earlier, e'.id ≠ some id) : b.entry id = .ok e := by
  have hfound : b.entry? id = some e := by
    refine List.find?_eq_some_iff_append.2 ⟨by simp [hid], earlier, later, hentries, ?_⟩
    intro e' he'
    simpa using hfirst e' he'
  rw [entry, hfound]

/-- Asking for an item by an id makes the item of the first entry that has it. -/
theorem generate_of_load (hload : load fs directory files = .ok banks) (hb : b ∈ banks)
    (hentries : b.entries = earlier ++ e :: later) (hid : e.id = some id)
    (hfirst : ∀ e' ∈ earlier, e'.id ≠ some id) (seed : String) :
    generate fs directory b.file id seed = e.generate seed := by
  rw [generate, read_of_load hload hb]
  dsimp only
  rw [entry_eq_ok hentries hid hfirst]

end Loaded

/-! ### The place of an entry -/

section Place

variable {before after : List Bank} {b : Bank} {earlier later : List Entry} {e : Entry}

/-- The jobs of the entries in front of an entry. -/
def jobsBefore (before : List Bank) (b : Bank) (earlier : List Entry) : List Job :=
  jobs before ++ earlier.map (Job.mk b.file)

/-- The jobs of the entries behind an entry. -/
def jobsAfter (b : Bank) (later : List Entry) (after : List Bank) : List Job :=
  later.map (Job.mk b.file) ++ jobs after

theorem jobs_split (hentries : b.entries = earlier ++ e :: later) :
    jobs (before ++ b :: after) =
      jobsBefore before b earlier ++ ⟨b.file, e⟩ :: jobsAfter b later after := by
  simp [jobs, jobsBefore, jobsAfter, hentries]

/-- The records of the entries in front of an entry. -/
def recordsBefore (perFile : Nat) (seedPrefix : String) (before : List Bank) (b : Bank)
    (earlier : List Entry) : List SnapshotRecord :=
  before.flatMap (records perFile seedPrefix) ++ earlier.map (Entry.record b.file seedPrefix)

theorem records_split {perFile : Nat} (hentries : b.entries = earlier ++ e :: later)
    (hplace : earlier.length < perFile) (seedPrefix : String) :
    ∃ following, (before ++ b :: after).flatMap (records perFile seedPrefix) =
      recordsBefore perFile seedPrefix before b earlier ++
        e.record b.file seedPrefix :: following := by
  obtain ⟨n, rfl⟩ := Nat.exists_eq_add_of_lt hplace
  have htake : b.entries.take (earlier.length + n + 1) = earlier ++ e :: later.take n := by
    rw [hentries, Nat.add_assoc, List.take_length_add_append, List.take_succ_cons]
  refine ⟨(later.take n).map (Entry.record b.file seedPrefix) ++
    after.flatMap (records (earlier.length + n + 1) seedPrefix), ?_⟩
  simp [recordsBefore, records, htake]

end Place

/-! ### Records and failures -/

/-- **A record and a failure tell what asking by the id gives.** Let the banks of a configuration be
loaded, and let an entry be the first of its bank with its id. If a snapshot takes the entry, then
at its place is a record of what the id gives with the seed of the prefix and the id: the stem, the
answer and the distractors of the item, or the text of the error. If there are seed suffixes, then a
report has a failure at the place of the entry exactly if the id fails with one of them behind it,
and the error is that of the first suffix that fails. -/
theorem snapshot_validate_agree {fs : FileSystem} {c : Config} {before after : List Bank} {b : Bank}
    {earlier later : List Entry} {e : Entry} {id : String}
    (hload : load fs (.ofText c.dataDir) c.files = .ok (before ++ b :: after))
    (hentries : b.entries = earlier ++ e :: later) (hid : e.id = some id)
    (hfirst : ∀ e' ∈ earlier, e'.id ≠ some id) :
    (earlier.length < c.perFile → ∀ seedPrefix, ∃ record following,
      snapshot fs c seedPrefix =
        .ok (recordsBefore c.perFile seedPrefix before b earlier ++ record :: following) ∧
      (∀ item,
        generate fs (.ofText c.dataDir) b.file id (seedPrefix ++ "-" ++ id) = .ok item →
        record = .generated b.file (some id) item.stem item.answer item.distractors) ∧
      ∀ error,
        generate fs (.ofText c.dataDir) b.file id (seedPrefix ++ "-" ++ id) = .error error →
        record = .failed b.file (some id) error.message) ∧
    (c.seedSuffixes ≠ [] → ∃ report, ∃ own : Option Failure,
      validate fs c = .ok report ∧
      report.failures =
        (jobsBefore before b earlier).filterMap (Job.failure? c.seedSuffixes) ++ own.toList ++
          (jobsAfter b later after).filterMap (Job.failure? c.seedSuffixes) ∧
      (own.isSome = true ↔ ∃ suffix ∈ c.seedSuffixes, ∃ error,
        generate fs (.ofText c.dataDir) b.file id (id ++ suffix) = .error error) ∧
      ∀ failure, own = some failure → failure.file = b.file ∧ failure.id = some id ∧
        FirstError (fun suffix => generate fs (.ofText c.dataDir) b.file id (id ++ suffix))
          c.seedSuffixes failure.fault.error) := by
  have hb : b ∈ before ++ b :: after := by simp
  have hgenerate : ∀ seed, generate fs (.ofText c.dataDir) b.file id seed = e.generate seed :=
    generate_of_load hload hb hentries hid hfirst
  simp only [hgenerate]
  refine ⟨?_, ?_⟩
  · intro hplace seedPrefix
    obtain ⟨following, hrecords⟩ := records_split hentries hplace seedPrefix
    have hseed : snapshotSeed seedPrefix e.id = seedPrefix ++ "-" ++ id := by
      rw [hid]
      rfl
    refine ⟨_, following, snapshot_eq_ok_iff.2 ⟨_, hload, hrecords⟩, ?_, ?_⟩
    · intro item hitem
      rw [Entry.record, hseed, hitem, hid]
    · intro error herror
      rw [Entry.record, hseed, herror, hid]
  · intro hne
    have hfault := fun error => @Entry.exists_fault?_iff e error _ hne
    simp only [hid, Entry.seeds_of_id, firstError_map_iff] at hfault
    obtain ⟨-, -, hfailures⟩ := @Report.ofJobs_eq c.seedSuffixes (jobs (before ++ b :: after))
    rw [← Report.ofBanks_eq_ofJobs, jobs_split hentries, List.filterMap_append] at hfailures
    refine ⟨_, Job.failure? c.seedSuffixes ⟨b.file, e⟩, by rw [validate, hload], ?_, ?_, ?_⟩
    · rw [hfailures, List.append_assoc]
      cases hown : Job.failure? c.seedSuffixes ⟨b.file, e⟩ <;> simp [hown]
    · rw [← exists_firstError_iff, Job.failure?, Option.isSome_map, Option.isSome_iff_exists]
      simp only [← hfault]
      simp
    · intro failure hown
      obtain ⟨fault, hfaulty, rfl⟩ := Option.map_eq_some_iff.1 hown
      exact ⟨rfl, hid, (hfault _).1 ⟨fault, hfaulty, rfl⟩⟩

/-- The text of a bank in which two entries have the same id. -/
def sharedIdText : String :=
  "[\x7b\"id\":\"p\"\x7d,\x7b\"id\":\"q\",\"template\":" ++
    "\x7b\"stem\":\"s\",\"answer\":\"yes\"\x7d\x7d,\x7b\"id\":\"q\"\x7d]"

/-- A directory with this bank. -/
def sharedId : FileSystem where
  root := .directory [("data", .directory [("a.json", .file sharedIdText)])]
  workingDirectory := []

/-- Settings that choose the bank by its name. -/
def chosenBank : Config := { files := ["a.json"] }

/-- The bank as it is loaded. -/
def sharedIdBank : Bank where
  file := "a.json"
  entries := [⟨some "p", none⟩,
    ⟨some "q", some (.object [("answer", .text "yes"), ("stem", .text "s")])⟩, ⟨some "q", none⟩]

theorem load_sharedId :
    load sharedId (.ofText chosenBank.dataDir) chosenBank.files = .ok [sharedIdBank] := by
  let items : List Json := [.object [("id", .text "p")],
    .object [("id", .text "q"),
      ("template", .object [("stem", .text "s"), ("answer", .text "yes")])],
    .object [("id", .text "q")]]
  have hparse : Json.parse? sharedIdText = some (.array items) := by with_unfolding_all rfl
  have hread : sharedId.read ((Path.ofText "data").join (.ofText "a.json")) =
      .ok sharedIdText := by
    decide +kernel
  have hentries : readEntries sharedIdText = .ok sharedIdBank.entries :=
    (readEntries_eq_ok_iff hparse).2 (.cons rfl (.cons rfl (.cons rfl .nil)))
  refine load_eq_ok_iff.2 ⟨["a.json"], rfl, readAll_eq_ok_iff.2 (.cons ?_ .nil)⟩
  exact read_eq_ok_iff.2 ⟨_, hread, ofText_eq_ok_iff.2 ⟨rfl, hentries⟩⟩

/-- The entry without a template fails in the report as it does by its id, and the first of the two
entries with one id has the record that the id gives. -/
theorem snapshot_validate_agree_sharedId :
    (∃ report failure following, validate sharedId chosenBank = .ok report ∧
      report.failures = failure :: following ∧ failure.id = some "p" ∧
      failure.fault.error = .invalidTemplate "p" "missing template.stem") ∧
    ∃ first following, snapshot sharedId chosenBank "day" =
      .ok (first :: .generated "a.json" (some "q") "s" (.text "yes") [] :: following) := by
  have hload : load sharedId (.ofText chosenBank.dataDir) chosenBank.files =
      .ok ([] ++ sharedIdBank :: []) := load_sharedId
  have hp : sharedIdBank.entries = [] ++ ⟨some "p", none⟩ :: sharedIdBank.entries.tail := rfl
  have hq : sharedIdBank.entries = [⟨some "p", none⟩] ++
      ⟨some "q", some (.object [("answer", .text "yes"), ("stem", .text "s")])⟩ ::
        [⟨some "q", none⟩] := rfl
  have hfails : ∀ seed, generate sharedId (.ofText chosenBank.dataDir) "a.json" "p" seed =
      .error (.invalidTemplate "p" "missing template.stem") :=
    fun seed => (generate_of_load load_sharedId List.mem_cons_self hp rfl nofun seed).trans rfl
  have hitem : generate sharedId (.ofText chosenBank.dataDir) "a.json" "q" "day-q" =
      .ok ⟨"s", .empty, .empty, .text "yes", []⟩ := by
    decide +kernel
  refine ⟨?_, ?_⟩
  · obtain ⟨report, own, hvalidate, hfailures, hsome, hown⟩ :=
      (snapshot_validate_agree hload hp rfl nofun).2 (by decide)
    obtain ⟨failure, rfl⟩ := Option.isSome_iff_exists.1 (hsome.2 ⟨"", by decide, _, hfails _⟩)
    obtain ⟨-, hid, passed, suffix, rest, -, -, herror⟩ := hown failure rfl
    exact ⟨report, failure, _, hvalidate, hfailures, hid,
      (Except.error.inj ((hfails _).symm.trans herror)).symm⟩
  · have hfirst : ∀ e' ∈ [(⟨some "p", none⟩ : Entry)], e'.id ≠ some "q" := by
      intro e' he'
      rw [List.mem_singleton.1 he']
      decide
    obtain ⟨record, following, hsnapshot, hgenerated, -⟩ :=
      (snapshot_validate_agree hload hq rfl hfirst).1 (by decide) "day"
    rw [hgenerated _ hitem] at hsnapshot
    exact ⟨_, following, hsnapshot⟩

end Bank
end QuizBank

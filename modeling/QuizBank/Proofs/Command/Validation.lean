import QuizBank.Command.Run
import QuizBank.Proofs.Bank.Agreement
import QuizBank.Proofs.Bank.Batch

/-!
# The exit code of a validation

A run stops before its command does anything if the configuration cannot be read or is refused. A
validation stops if a bank cannot be loaded, and no error has an exit code that means success. What
is left is the report: it has no failures exactly if every entry passes, and otherwise its failures
are those of the entries that do not pass, in their order.
-/

namespace QuizBank

/-! ### Exit codes of errors -/

theorem Severity.exitCode_eq_zero_iff {severity : Severity} :
    severity.exitCode = 0 ↔ severity = .low := by
  cases severity <;> decide

theorem Error.severity_ne_low (e : Error) : e.severity ≠ .low := by
  cases e <;> nofun

/-- No error ends a run as if it had succeeded. -/
theorem Error.exitCode_ne_zero (e : Error) : e.severity.exitCode ≠ 0 := by
  rw [Ne, Severity.exitCode_eq_zero_iff]
  exact e.severity_ne_low

/-! ### Entries that pass -/

namespace Bank

variable {suffixes : List String}

/-- The entry has a template that can be used, and an item for each of its seeds. -/
def Entry.Passes (suffixes : List String) (e : Entry) : Prop :=
  ∃ t, e.requireTemplate = .ok t ∧
    ∀ seed ∈ Entry.seeds e.id suffixes, ∃ item, QuizBank.generate t seed = .ok item

theorem Entry.fault?_eq_none_iff {e : Entry} : e.fault? suffixes = none ↔ e.Passes suffixes := by
  rw [fault?, Passes]
  cases e.requireTemplate with
  | error error => simp
  | ok t => simp [List.findSome?_eq_none_iff, seedFault?_eq_none_iff]

instance (suffixes : List String) (e : Entry) : Decidable (e.Passes suffixes) :=
  decidable_of_iff _ Entry.fault?_eq_none_iff

/-- A failure tells of a job: it has the file and the id, and the first error that the seeds of the
entry give. -/
structure Job.FailsWith (suffixes : List String) (j : Job) (f : Failure) : Prop where
  file_eq : f.file = j.file
  id_eq : f.id = j.entry.id
  firstError : FirstError j.entry.generate (Entry.seeds j.entry.id suffixes) f.fault.error

/-- The jobs whose entries do not pass. -/
def failing (suffixes : List String) (js : List Job) : List Job :=
  js.filter fun j => ¬ j.entry.Passes suffixes

theorem Job.failsWith_of_failure? (hne : suffixes ≠ []) {j : Job} {f : Failure}
    (h : j.failure? suffixes = some f) : j.FailsWith suffixes f := by
  obtain ⟨fault, hfault, rfl⟩ := Option.map_eq_some_iff.1 h
  exact ⟨rfl, rfl, (Entry.exists_fault?_iff hne).1 ⟨fault, hfault, rfl⟩⟩

theorem Job.failure?_eq_none_iff {j : Job} :
    j.failure? suffixes = none ↔ j.entry.Passes suffixes := by
  rw [failure?, Option.map_eq_none_iff, Entry.fault?_eq_none_iff]

/-- The failures of jobs are those of the jobs that fail, one for each. -/
theorem forall₂_failure? (js : List Job) :
    List.Forall₂ (fun j f => j.failure? suffixes = some f) (failing suffixes js)
      (js.filterMap (Job.failure? suffixes)) := by
  induction js with
  | nil => exact .nil
  | cons j rest ih =>
    cases hj : j.failure? suffixes with
    | none =>
      have hpasses := Job.failure?_eq_none_iff.1 hj
      rw [List.filterMap_cons_none hj, failing, List.filter_cons_of_neg (by simpa using hpasses)]
      exact ih
    | some f =>
      have hfails : ¬ j.entry.Passes suffixes := by
        rw [← Job.failure?_eq_none_iff, hj]
        nofun
      rw [List.filterMap_cons_some hj, failing, List.filter_cons_of_pos (by simpa using hfails)]
      exact .cons hj ih

theorem forall₂_failures (hne : suffixes ≠ []) (js : List Job) :
    List.Forall₂ (Job.FailsWith suffixes) (failing suffixes js)
      (js.filterMap (Job.failure? suffixes)) :=
  (forall₂_failure? js).imp fun _ _ => Job.failsWith_of_failure? hne

/-! ### Reports on banks -/

theorem mem_jobs_iff {banks : List Bank} {j : Job} :
    j ∈ jobs banks ↔ ∃ b ∈ banks, j.file = b.file ∧ j.entry ∈ b.entries := by
  obtain ⟨file, entry⟩ := j
  simp only [jobs, List.mem_flatMap, List.mem_map, Job.mk.injEq]
  constructor
  · rintro ⟨b, hb, e, he, rfl, rfl⟩
    exact ⟨b, hb, rfl, he⟩
  · rintro ⟨b, hb, hfile, he⟩
    exact ⟨b, hb, entry, he, hfile.symm, rfl⟩

theorem Report.isSuccess_ofBanks_iff {banks : List Bank} :
    (ofBanks suffixes banks).isSuccess = true ↔
      ∀ b ∈ banks, ∀ e ∈ b.entries, e.Passes suffixes := by
  obtain ⟨-, -, hfailures⟩ := @ofJobs_eq suffixes (jobs banks)
  rw [isSuccess, ofBanks_eq_ofJobs, List.isEmpty_iff, hfailures, List.filterMap_eq_nil_iff]
  simp only [Job.failure?_eq_none_iff]
  constructor
  · intro h b hb e he
    exact h ⟨b.file, e⟩ (mem_jobs_iff.2 ⟨b, hb, rfl, he⟩)
  · intro h j hj
    obtain ⟨b, hb, -, he⟩ := mem_jobs_iff.1 hj
    exact h b hb j.entry he

/-- Every bank that the configuration chooses can be read, and every entry in it passes. -/
def AllPass (fs : FileSystem) (c : Config) : Prop :=
  ∃ ns, names fs (.ofText c.dataDir) c.files = .ok ns ∧
    ∀ file ∈ ns, ∃ b, read fs (.ofText c.dataDir) file = .ok b ∧
      ∀ e ∈ b.entries, e.Passes c.seedSuffixes

theorem allPass_iff {fs : FileSystem} {c : Config} :
    AllPass fs c ↔ ∃ banks, load fs (.ofText c.dataDir) c.files = .ok banks ∧
      ∀ b ∈ banks, ∀ e ∈ b.entries, e.Passes c.seedSuffixes := by
  simp only [AllPass, load_eq_ok_iff, readAll_eq_ok_iff]
  constructor
  · rintro ⟨ns, hns, hread⟩
    obtain ⟨banks, hbanks⟩ := exists_forall₂_iff.2 hread
    have hflip := List.Forall₂.flip (hbanks.imp fun _ _ h => And.symm h)
    obtain ⟨hpass, hall⟩ := (List.forall₂_and_left _ _).1 hflip
    exact ⟨banks, ⟨ns, hns, hall.flip⟩, hpass⟩
  · rintro ⟨banks, ⟨ns, hns, hall⟩, hpass⟩
    have hboth := (List.forall₂_and_left _ _).2 ⟨hpass, hall.flip⟩
    refine ⟨ns, hns, ?_⟩
    intro file hfile
    obtain ⟨b, hpass, hread⟩ := exists_forall₂_iff.1 ⟨_, hboth.flip⟩ file hfile
    exact ⟨b, hread, hpass⟩

theorem validate_eq_ok_iff {fs : FileSystem} {c : Config} {r : Report} :
    validate fs c = .ok r ↔ ∃ banks, load fs (.ofText c.dataDir) c.files = .ok banks ∧
      Report.ofBanks c.seedSuffixes banks = r := by
  rw [validate]
  cases load fs (.ofText c.dataDir) c.files <;> simp

end Bank

/-! ### Settings that are accepted -/

theorem Config.seedSuffixes_ne_nil_of_check {c : Config} (h : c.check = .ok ()) :
    c.seedSuffixes ≠ [] := by
  intro hempty
  rw [check, checkSuffixes, hempty] at h
  cases hbanks : checkBanks c.dataDir c.files <;> simp [hbanks] at h

namespace Command

open Bank (AllPass Failure Job Report failing jobs load)

variable {s : Surroundings} {i : Invocation} {c : Config}

/-- The run goes by the configuration: it is the one that can be loaded, with the settings of the
command in place, and it passes the checks. -/
def Configures (s : Surroundings) (i : Invocation) (c : Config) : Prop :=
  ∃ loaded, loadConfig s i.config = .ok loaded ∧ i.command.override loaded = c ∧ c.check = .ok ()

theorem runInvocation_of_configures (h : Configures s i c) :
    runInvocation s i = runWith s c i.command := by
  obtain ⟨loaded, hloaded, rfl, hcheck⟩ := h
  simp only [runInvocation, hloaded, hcheck]

/-- Without a configuration that is accepted a run fails before its command does anything. -/
theorem code_runInvocation_of_not_configures (h : ∀ c, ¬ Configures s i c) :
    (runInvocation s i).code = 1 := by
  rw [runInvocation]
  cases hloaded : loadConfig s i.config with
  | error e => rfl
  | ok loaded =>
    cases hcheck : (i.command.override loaded).check with
    | error e => simp only [hcheck, fail]
    | ok u => exact absurd ⟨loaded, hloaded, rfl, hcheck⟩ (h _)

/-! ### Validations -/

/-- A validation of banks succeeds exactly if all of them can be read and all entries pass. -/
theorem code_runValidate_eq_zero_iff {fs : FileSystem} :
    (runValidate fs c).code = 0 ↔ AllPass fs c := by
  rw [Bank.allPass_iff, runValidate]
  cases hvalidate : Bank.validate fs c with
  | error e =>
    have hnone : ∀ banks, load fs (.ofText c.dataDir) c.files ≠ .ok banks := by
      intro banks hload
      rw [Bank.validate_eq_ok_iff.2 ⟨banks, hload, rfl⟩] at hvalidate
      cases hvalidate
    constructor
    · intro hcode
      exact absurd hcode e.exitCode_ne_zero
    · rintro ⟨banks, hload, -⟩
      exact absurd hload (hnone banks)
  | ok report =>
    obtain ⟨banks, hload, rfl⟩ := Bank.validate_eq_ok_iff.1 hvalidate
    simp only [hload, Except.ok.injEq, exists_eq_left', ← Report.isSuccess_ofBanks_iff]
    cases (Report.ofBanks c.seedSuffixes banks).isSuccess <;> simp [fail]

/-- The complaint of a validation that lists some failures and counts the entries. -/
def complaintOf (listed : List Failure) (passed total failed : Nat) : String :=
  line "❌ Validation failed." ++ String.join (listed.map failureLine) ++
    line ("\n" ++ Nat.repr passed ++ "/" ++ Nat.repr total ++ " passed; " ++ Nat.repr failed ++
      " failed.")

/-- Where entries fail, a validation lists the first fifty of their failures and counts all. -/
theorem runValidate_of_failing {fs : FileSystem} {banks : List Bank}
    (hload : load fs (.ofText c.dataDir) c.files = .ok banks) (hne : c.seedSuffixes ≠ [])
    (hfailing : failing c.seedSuffixes (jobs banks) ≠ []) :
    ∃ failures listed passed,
      List.Forall₂ (Job.FailsWith c.seedSuffixes) (failing c.seedSuffixes (jobs banks)) failures ∧
      listed <+: failures ∧ listed.length = min 50 failures.length ∧
      passed = (jobs banks).countP (fun j => j.entry.Passes c.seedSuffixes) ∧
      passed + failures.length = (jobs banks).length ∧
      runValidate fs c =
        fail 1 (complaintOf listed passed (jobs banks).length failures.length) fs := by
  have hall := Bank.forall₂_failures hne (jobs banks)
  obtain ⟨htotal, hsum, hfailures⟩ := @Report.ofJobs_eq c.seedSuffixes (jobs banks)
  rw [← hfailures] at hall
  refine ⟨_, (Report.ofJobs c.seedSuffixes (jobs banks)).failures.take maxListed, _, hall,
    List.take_prefix _ _, List.length_take, ?_, hsum, ?_⟩
  · -- The entries that pass are those that are left when the failures are taken away.
    have hlength := hall.length_eq
    rw [failing, ← List.countP_eq_length_filter] at hlength
    have hsplit := List.length_eq_countP_add_countP
      (fun j : Job => decide (j.entry.Passes c.seedSuffixes)) (l := jobs banks)
    simp only [decide_eq_true_eq, decide_not] at hlength hsplit
    omega
  · have hvalidate := Bank.validate_eq_ok_iff.2 ⟨banks, hload, rfl⟩
    rw [Report.ofBanks_eq_ofJobs] at hvalidate
    have hsuccess : (Report.ofJobs c.seedSuffixes (jobs banks)).isSuccess = false := by
      rw [Report.isSuccess, List.isEmpty_eq_false_iff]
      intro hnil
      rw [hnil, List.forall₂_nil_right_iff] at hall
      exact hfailing hall
    rw [runValidate, hvalidate]
    simp only [hsuccess, failureText, htotal]
    rfl

variable {arguments files : List String} {config dataDir : Option String} {concurrency : Option Nat}

/-- **The exit code of a validation.** Let the arguments ask for a validation. The run ends with the
code 0 exactly if there is a configuration that the run goes by, every bank that it chooses can be
read, and every entry in them passes. Where the banks can be loaded and some entries fail, the code
is 1 and the complaint lists the first failures, fifty at most, one for each of the entries that
fail and in their order; the counts in its last line are true, and those of the passed and of the
failed entries add up to all. -/
theorem run_validate_code_and_complaint
    (harguments : Arguments.read arguments = .ok ⟨config, .validate dataDir files concurrency⟩) :
    ((run s arguments).code = 0 ↔
      ∃ c, Configures s ⟨config, .validate dataDir files concurrency⟩ c ∧ AllPass s.files c) ∧
    ∀ c banks, Configures s ⟨config, .validate dataDir files concurrency⟩ c →
      load s.files (.ofText c.dataDir) c.files = .ok banks →
      failing c.seedSuffixes (jobs banks) ≠ [] →
      ∃ failures listed passed,
        List.Forall₂ (Job.FailsWith c.seedSuffixes) (failing c.seedSuffixes (jobs banks))
          failures ∧
        listed <+: failures ∧ listed.length = min 50 failures.length ∧
        passed = (jobs banks).countP (fun j => j.entry.Passes c.seedSuffixes) ∧
        passed + failures.length = (jobs banks).length ∧
        run s arguments =
          fail 1 (complaintOf listed passed (jobs banks).length failures.length) s.files := by
  have hrun : run s arguments =
      runInvocation s ⟨config, .validate dataDir files concurrency⟩ := by
    rw [run, harguments]
  rw [hrun]
  refine ⟨⟨?_, ?_⟩, ?_⟩
  · intro hcode
    by_cases hconfigured : ∃ c, Configures s ⟨config, .validate dataDir files concurrency⟩ c
    · obtain ⟨c, hc⟩ := hconfigured
      rw [runInvocation_of_configures hc] at hcode
      exact ⟨c, hc, code_runValidate_eq_zero_iff.1 hcode⟩
    · rw [code_runInvocation_of_not_configures (not_exists.1 hconfigured)] at hcode
      cases hcode
  · rintro ⟨c, hc, hpass⟩
    rw [runInvocation_of_configures hc]
    exact code_runValidate_eq_zero_iff.2 hpass
  · intro c banks hc hload hfailing
    have hne : c.seedSuffixes ≠ [] := by
      obtain ⟨loaded, -, -, hcheck⟩ := hc
      exact Config.seedSuffixes_ne_nil_of_check hcheck
    rw [runInvocation_of_configures hc]
    exact runValidate_of_failing hload hne hfailing

/-- A directory with a bank whose only entry passes. -/
def oneEntry : FileSystem where
  root := .directory [("data", .directory [("a.json",
    .file "[\x7b\"template\":\x7b\"stem\":\"s\",\"answer\":\"yes\"\x7d\x7d]")])]
  workingDirectory := []

/-- In one directory all entries pass; in the other one, two of three fail. -/
theorem run_validate_code_and_complaint_twoOfThree :
    (∃ c, Configures ⟨oneEntry, [], "day"⟩ ⟨none, .validate none [] none⟩ c ∧
      AllPass oneEntry c) ∧
    ∃ listed, listed.length = 2 ∧
      run ⟨Bank.sharedId, [], "day"⟩ ["validate", "--files", "a.json"] =
        fail 1 (complaintOf listed 1 3 2) Bank.sharedId := by
  refine ⟨?_, ?_⟩
  · have hread : Arguments.read ["validate"] = .ok ⟨none, .validate none [] none⟩ := by
      decide +kernel
    apply (run_validate_code_and_complaint hread).1.1
    show (run ⟨oneEntry, [], "day"⟩ ["validate"]).code = 0
    decide +kernel
  · have hread : Arguments.read ["validate", "--files", "a.json"] =
        .ok ⟨none, .validate none ["a.json"] none⟩ := by
      decide +kernel
    have hconfigured : Configures ⟨Bank.sharedId, [], "day"⟩
        ⟨none, .validate none ["a.json"] none⟩ Bank.chosenBank :=
      ⟨.default, rfl, rfl, by decide +kernel⟩
    have htwo : (failing Bank.chosenBank.seedSuffixes (jobs [Bank.sharedIdBank])).length = 2 := by
      decide +kernel
    have hone : (jobs [Bank.sharedIdBank]).countP
        (fun j => j.entry.Passes Bank.chosenBank.seedSuffixes) = 1 := by
      decide +kernel
    have hfailing : failing Bank.chosenBank.seedSuffixes (jobs [Bank.sharedIdBank]) ≠ [] := by
      intro hnil
      rw [hnil] at htwo
      cases htwo
    obtain ⟨failures, listed, passed, hall, -, hlisted, hpassed, -, hrun⟩ :=
      (run_validate_code_and_complaint hread).2 _ _ hconfigured Bank.load_sharedId hfailing
    have hfailed : failures.length = 2 := hall.length_eq.symm.trans htwo
    rw [hpassed, hone, hfailed] at hrun
    rw [hfailed] at hlisted
    exact ⟨listed, hlisted, hrun⟩

end Command
end QuizBank

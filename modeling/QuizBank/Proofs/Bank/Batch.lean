import Mathlib.Data.List.Induction
import QuizBank.Bank.Batch

/-!
# The order of events in a batch

Whatever the order in which tasks go on, a batch ends with the report that entry after entry gives.
`Step` says what one event can do, with one case for each kind of event. Three facts are kept by
every event and so hold of every batch that a run leads to (`Accounted`): permits are neither lost
nor made, every task has the outcome of its own entry, and the joined entries, the tasks and the
waiting entries are the entries of the banks in their order. A batch that is not done can go on
(`Accounted.exists_step`), and each event brings it one step nearer to its end.
-/

namespace QuizBank
namespace Bank

/-- The entry of a report for a job, if the job fails. -/
def Job.failure? (suffixes : List String) (j : Job) : Option Failure :=
  (j.entry.fault? suffixes).map (Failure.mk j.file j.entry.id)

/-! ### The report, entry after entry -/

namespace Report

variable {suffixes : List String}

/-- The report with one more job, validated. -/
def addJob (suffixes : List String) (r : Report) (j : Job) : Report :=
  r.add j.file j.entry.id (j.entry.fault? suffixes)

/-- The report on jobs, one after the other. -/
def ofJobs (suffixes : List String) (js : List Job) : Report := js.foldl (addJob suffixes) {}

theorem ofBanks_eq_ofJobs (banks : List Bank) :
    ofBanks suffixes banks = ofJobs suffixes (jobs banks) := by
  rw [ofBanks, ofJobs, jobs, List.foldl_flatMap]
  simp only [List.foldl_map]
  rfl

theorem ofJobs_append_singleton (js : List Job) (j : Job) :
    ofJobs suffixes (js ++ [j]) = (ofJobs suffixes js).addJob suffixes j := by
  rw [ofJobs, List.foldl_append]
  rfl

theorem addJob_eq (r : Report) (j : Job) :
    r.addJob suffixes j =
      { total := r.total + 1
        passed := r.passed + if (j.failure? suffixes).isSome then 0 else 1
        failures := r.failures ++ (j.failure? suffixes).toList } := by
  rw [addJob, Job.failure?]
  cases j.entry.fault? suffixes with
  | none => simp [add]
  | some fault => simp [add]

/-- A report on jobs counts all of them, and the failures are those of the jobs that fail, in order.
-/
theorem ofJobs_eq (js : List Job) :
    (ofJobs suffixes js).total = js.length ∧
      (ofJobs suffixes js).passed + (ofJobs suffixes js).failures.length = js.length ∧
      (ofJobs suffixes js).failures = js.filterMap (Job.failure? suffixes) := by
  induction js using List.reverseRecOn with
  | nil => exact ⟨rfl, rfl, rfl⟩
  | append_singleton js j ih =>
    obtain ⟨htotal, hsum, hfailures⟩ := ih
    rw [ofJobs_append_singleton, addJob_eq]
    refine ⟨by simp [htotal], ?_, ?_⟩
    · cases hj : j.failure? suffixes with
      | none => simp; omega
      | some f => simp; omega
    · rw [List.filterMap_append, ← hfailures]
      cases hj : j.failure? suffixes with
      | none => simp [hj]
      | some f => simp [hj]

end Report

/-! ### One task -/

namespace Task

variable {suffixes : List String}

/-- The task has no outcome yet, or that of its own entry. -/
def IsSound (suffixes : List String) (t : Task) : Prop :=
  match t.progress with
  | .running => True
  | .finished outcome => outcome = t.job.entry.fault? suffixes
  | .released outcome => outcome = t.job.entry.fault? suffixes

theorem changeAt_eq_some_iff {change : Task → Option Task} {i : Nat} {ts ts' : List Task} :
    changeAt change i ts = some ts' ↔
      ∃ before t t' after, ts = before ++ t :: after ∧ before.length = i ∧ change t = some t' ∧
        ts' = before ++ t' :: after := by
  induction ts generalizing i ts' with
  | nil => simp [changeAt]
  | cons t rest ih =>
    cases i with
    | zero =>
      rw [changeAt, Option.map_eq_some_iff]
      constructor
      · rintro ⟨t', ht', rfl⟩
        exact ⟨[], t, t', rest, rfl, rfl, ht', rfl⟩
      · rintro ⟨before, t₁, t', after, hts, hlength, ht', rfl⟩
        obtain rfl := List.length_eq_zero_iff.1 hlength
        cases hts
        exact ⟨t', ht', rfl⟩
    | succ i =>
      rw [changeAt, Option.map_eq_some_iff]
      constructor
      · rintro ⟨rest', hrest', rfl⟩
        obtain ⟨before, t₁, t', after, rfl, rfl, ht', rfl⟩ := ih.1 hrest'
        exact ⟨t :: before, t₁, t', after, rfl, rfl, ht', rfl⟩
      · rintro ⟨before, t₁, t', after, hts, hlength, ht', rfl⟩
        cases before with
        | nil => cases hlength
        | cons b before =>
          cases hts
          exact ⟨_, ih.2 ⟨before, t₁, t', after, rfl, Nat.succ.inj hlength, ht', rfl⟩, rfl⟩

theorem finish?_eq_some_iff {t t' : Task} :
    finish? suffixes t = some t' ↔
      ∃ job, t = ⟨job, .running⟩ ∧ t' = ⟨job, .finished (job.entry.fault? suffixes)⟩ := by
  obtain ⟨job, progress⟩ := t
  cases progress <;> simp [finish?, eq_comm]

theorem release?_eq_some_iff {t t' : Task} :
    release? t = some t' ↔
      ∃ job outcome, t = ⟨job, .finished outcome⟩ ∧ t' = ⟨job, .released outcome⟩ := by
  obtain ⟨job, progress⟩ := t
  cases progress <;> simp [release?, eq_comm]

@[simp] theorem holdsPermit_running (job : Job) : holdsPermit ⟨job, .running⟩ = true := rfl

@[simp] theorem holdsPermit_finished (job : Job) (outcome : Option Fault) :
    holdsPermit ⟨job, .finished outcome⟩ = true := rfl

@[simp] theorem holdsPermit_released (job : Job) (outcome : Option Fault) :
    holdsPermit ⟨job, .released outcome⟩ = false := rfl

@[simp] theorem isRunning_running (job : Job) : isRunning ⟨job, .running⟩ = true := rfl

@[simp] theorem isRunning_finished (job : Job) (outcome : Option Fault) :
    isRunning ⟨job, .finished outcome⟩ = false := rfl

@[simp] theorem isRunning_released (job : Job) (outcome : Option Fault) :
    isRunning ⟨job, .released outcome⟩ = false := rfl

/-- One task may give way to another sound one. -/
theorem sound_replace {before after : List Task} {t t' : Task}
    (h : ∀ u ∈ before ++ t :: after, u.IsSound suffixes) (ht' : t'.IsSound suffixes) :
    ∀ u ∈ before ++ t' :: after, u.IsSound suffixes := by
  intro u hu
  obtain hu | hu := List.mem_append.1 hu
  · exact h u (List.mem_append_left _ hu)
  · obtain rfl | hu := List.mem_cons.1 hu
    · exact ht'
    · exact h u (List.mem_append_right _ (List.mem_cons_of_mem _ hu))

end Task

/-! ### One event -/

namespace Batch

variable {suffixes : List String} {b b' : Batch}

/-- What one event does to a batch: the first entry that waits gets a task and a permit, a task
finishes, a task gives its permit back, or the first task is joined. -/
inductive Step (suffixes : List String) : Batch → Batch → Prop
  | start {job waiting tasks free report} :
      Step suffixes ⟨job :: waiting, tasks, free + 1, report⟩
        ⟨waiting, tasks ++ [⟨job, .running⟩], free, report⟩
  | finish {waiting before job after free report} :
      Step suffixes ⟨waiting, before ++ ⟨job, .running⟩ :: after, free, report⟩
        ⟨waiting, before ++ ⟨job, .finished (job.entry.fault? suffixes)⟩ :: after, free, report⟩
  | release {waiting before job outcome after free report} :
      Step suffixes ⟨waiting, before ++ ⟨job, .finished outcome⟩ :: after, free, report⟩
        ⟨waiting, before ++ ⟨job, .released outcome⟩ :: after, free + 1, report⟩
  | join {job outcome tasks free report} :
      Step suffixes ⟨[], ⟨job, .released outcome⟩ :: tasks, free, report⟩
        ⟨[], tasks, free, report.add job.file job.entry.id outcome⟩

theorem step_of_next? {event : Event} (h : b.next? suffixes event = some b') :
    Step suffixes b b' := by
  obtain ⟨waiting, tasks, free, report⟩ := b
  cases event with
  | start =>
    cases waiting with
    | nil => cases h
    | cons job waiting =>
      cases free with
      | zero => cases h
      | succ free =>
        cases h
        exact .start
  | finish i =>
    obtain ⟨tasks', htasks, rfl⟩ := Option.map_eq_some_iff.1 h
    obtain ⟨before, t, t', after, rfl, -, ht, rfl⟩ := Task.changeAt_eq_some_iff.1 htasks
    obtain ⟨job, rfl, rfl⟩ := Task.finish?_eq_some_iff.1 ht
    exact .finish
  | release i =>
    obtain ⟨tasks', htasks, rfl⟩ := Option.map_eq_some_iff.1 h
    obtain ⟨before, t, t', after, rfl, -, ht, rfl⟩ := Task.changeAt_eq_some_iff.1 htasks
    obtain ⟨job, outcome, rfl, rfl⟩ := Task.release?_eq_some_iff.1 ht
    exact .release
  | join =>
    rw [next?] at h
    split at h
    · next hwaiting htasks =>
      cases h
      cases hwaiting
      cases htasks
      exact .join
    · cases h

theorem Step.exists_next? (h : Step suffixes b b') :
    ∃ event, b.next? suffixes event = some b' := by
  cases h with
  | start => exact ⟨.start, rfl⟩
  | @finish _ before job after =>
    refine ⟨.finish before.length, Option.map_eq_some_iff.2 ⟨_, ?_, rfl⟩⟩
    exact Task.changeAt_eq_some_iff.2 ⟨before, _, _, after, rfl, rfl, rfl, rfl⟩
  | @release _ before job outcome after =>
    refine ⟨.release before.length, Option.map_eq_some_iff.2 ⟨_, ?_, rfl⟩⟩
    exact Task.changeAt_eq_some_iff.2 ⟨before, _, _, after, rfl, rfl, rfl, rfl⟩
  | join => exact ⟨.join, rfl⟩

/-! ### What every event keeps -/

/-- Every permit is held or free, every task has the outcome of its own entry, and the jobs are
those whose outcomes the report has, those of the tasks, and those that wait, in this order. -/
structure Accounted (suffixes : List String) (js : List Job) (permits : Nat) (b : Batch) :
    Prop where
  permits_eq : b.held + b.free = permits
  sound : ∀ t ∈ b.tasks, t.IsSound suffixes
  order : ∃ joined, joined ++ (b.tasks.map Task.job ++ b.waiting) = js ∧
    b.report = Report.ofJobs suffixes joined

theorem accounted_ofBanks (suffixes : List String) (concurrency : Nat) (banks : List Bank) :
    Accounted suffixes (jobs banks) (max concurrency 1) (ofBanks concurrency banks) where
  permits_eq := Nat.zero_add _
  sound := nofun
  order := ⟨[], rfl, rfl⟩

theorem Accounted.step {js : List Job} {permits : Nat} (ha : Accounted suffixes js permits b)
    (h : Step suffixes b b') : Accounted suffixes js permits b' := by
  obtain ⟨hpermits, hsound, joined, hjs, hreport⟩ := ha
  cases h with
  | start =>
    refine ⟨?_, ?_, joined, by simpa using hjs, hreport⟩
    · simp [held] at hpermits ⊢
      omega
    · intro t ht
      obtain ht | ht := List.mem_append.1 ht
      · exact hsound t ht
      · cases List.mem_singleton.1 ht
        trivial
  | finish =>
    refine ⟨?_, Task.sound_replace hsound rfl, joined, by simpa using hjs, hreport⟩
    simpa [held, List.countP_cons] using hpermits
  | @release _ before job outcome after =>
    have hown : outcome = job.entry.fault? suffixes := hsound ⟨job, .finished outcome⟩ (by simp)
    refine ⟨?_, Task.sound_replace hsound hown, joined, by simpa using hjs, hreport⟩
    simp [held, List.countP_cons] at hpermits ⊢
    omega
  | @join job outcome =>
    have hown : outcome = job.entry.fault? suffixes := hsound ⟨job, .released outcome⟩ (by simp)
    refine ⟨by simpa [held] using hpermits, fun t ht => hsound t (List.mem_cons_of_mem _ ht),
      joined ++ [job], by simpa using hjs, ?_⟩
    rw [Report.ofJobs_append_singleton, Report.addJob, ← hreport, hown]

theorem Accounted.running_le {js : List Job} {permits : Nat}
    (ha : Accounted suffixes js permits b) : b.running ≤ permits := by
  have hle : b.running ≤ b.held := by
    refine List.countP_mono_left ?_
    rintro ⟨job, progress⟩ - hrunning
    cases progress with
    | running => rfl
    | finished outcome => cases hrunning
    | released outcome => cases hrunning
  have hpermits := ha.permits_eq
  omega

/-- A batch that is not done can go on: a task that holds a permit can finish or release it, and if
none holds one then all permits are free. -/
theorem Accounted.exists_step {js : List Job} {permits : Nat}
    (ha : Accounted suffixes js permits b) (hpermits : 0 < permits) (hdone : b.isDone = false) :
    ∃ b', Step suffixes b b' := by
  obtain ⟨waiting, tasks, free, report⟩ := b
  by_cases hheld : ∃ t ∈ tasks, t.holdsPermit = true
  · obtain ⟨⟨job, progress⟩, hmem, hholds⟩ := hheld
    obtain ⟨before, after, rfl⟩ := List.append_of_mem hmem
    cases progress with
    | running => exact ⟨_, .finish⟩
    | finished outcome => exact ⟨_, .release⟩
    | released outcome => cases hholds
  · have hnone : tasks.countP Task.holdsPermit = 0 := by
      rw [List.countP_eq_zero]
      intro t ht hholds
      exact hheld ⟨t, ht, hholds⟩
    have hfree : free = permits := by
      have heq := ha.permits_eq
      rw [held, hnone] at heq
      simpa using heq
    cases waiting with
    | cons job waiting =>
      obtain ⟨n, rfl⟩ := Nat.exists_eq_succ_of_ne_zero (n := free) (by omega)
      exact ⟨_, .start⟩
    | nil =>
      cases tasks with
      | nil => cases hdone
      | cons t tasks =>
        obtain ⟨job, progress⟩ := t
        cases progress with
        | running => exact absurd ⟨_, List.mem_cons_self, rfl⟩ hheld
        | finished outcome => exact absurd ⟨_, List.mem_cons_self, rfl⟩ hheld
        | released outcome => exact ⟨_, .join⟩

/-! ### Runs -/

/-- How many events are still to come: four for an entry that waits, and for a task one until it is
joined, one until it gives its permit back and one until it finishes. -/
def remaining (b : Batch) : Nat := 4 * b.waiting.length + (b.tasks.length + b.held + b.running)

theorem Step.remaining_eq (h : Step suffixes b b') : b.remaining = b'.remaining + 1 := by
  cases h <;> simp [remaining, held, running, List.countP_cons] <;> omega

theorem remaining_eq_zero_iff : b.remaining = 0 ↔ b.isDone = true := by
  obtain ⟨waiting, tasks, free, report⟩ := b
  cases waiting with
  | cons job waiting => simp [remaining, isDone]
  | nil =>
    cases tasks with
    | nil => exact iff_of_true rfl rfl
    | cons t tasks => simp [remaining, isDone]

theorem remaining_ofBanks (concurrency : Nat) (banks : List Bank) :
    (ofBanks concurrency banks).remaining = 4 * (jobs banks).length := Nat.add_zero _

theorem run?_cons_iff {event : Event} {events : List Event} :
    b.run? suffixes (event :: events) = some b' ↔
      ∃ b₁, b.next? suffixes event = some b₁ ∧ b₁.run? suffixes events = some b' := by
  rw [run?, Option.bind_eq_some_iff]

/-- What a batch keeps at every event it keeps in every run. -/
theorem Accounted.run {js : List Job} {permits : Nat} {events : List Event}
    (ha : Accounted suffixes js permits b) (h : b.run? suffixes events = some b') :
    Accounted suffixes js permits b' := by
  induction events generalizing b with
  | nil =>
    cases h
    exact ha
  | cons event events ih =>
    obtain ⟨b₁, hnext, hrun⟩ := run?_cons_iff.1 h
    exact ih (ha.step (step_of_next? hnext)) hrun

theorem remaining_of_run {events : List Event} (h : b.run? suffixes events = some b') :
    b.remaining = events.length + b'.remaining := by
  induction events generalizing b with
  | nil =>
    cases h
    exact (Nat.zero_add _).symm
  | cons event events ih =>
    obtain ⟨b₁, hnext, hrun⟩ := run?_cons_iff.1 h
    have hstep := (step_of_next? hnext).remaining_eq
    have hrest := ih hrun
    rw [List.length_cons]
    omega

/-- Every batch that is accounted for can be brought to its end. -/
theorem Accounted.exists_run {js : List Job} {permits : Nat}
    (ha : Accounted suffixes js permits b) (hpermits : 0 < permits) :
    ∃ events b', b.run? suffixes events = some b' ∧ b'.isDone = true := by
  induction hn : b.remaining generalizing b with
  | zero => exact ⟨[], b, rfl, remaining_eq_zero_iff.1 hn⟩
  | succ n ih =>
    have hdone : b.isDone = false := by
      rw [Bool.eq_false_iff]
      intro hdone
      have hzero := remaining_eq_zero_iff.2 hdone
      omega
    obtain ⟨b₁, hstep⟩ := ha.exists_step hpermits hdone
    have hless := hstep.remaining_eq
    obtain ⟨events, b', hrun, hdone'⟩ := ih (ha.step hstep) (by omega)
    obtain ⟨event, hnext⟩ := hstep.exists_next?
    exact ⟨event :: events, b', run?_cons_iff.2 ⟨b₁, hnext, hrun⟩, hdone'⟩

/-- A batch that is done has the report on all jobs. -/
theorem Accounted.report_eq {js : List Job} {permits : Nat}
    (ha : Accounted suffixes js permits b) (hdone : b.isDone = true) :
    b.report = Report.ofJobs suffixes js := by
  obtain ⟨waiting, tasks, free, report⟩ := b
  obtain ⟨joined, rfl, hreport⟩ := ha.order
  cases waiting with
  | cons job waiting => cases hdone
  | nil =>
    cases tasks with
    | cons t tasks => cases hdone
    | nil => simpa using hreport

/-- **The order of events does not matter.** In every run of a batch, at most as many tasks are at
work as there are permits, and no permit is lost or made. As long as the batch is not done some
event is possible, it can be brought to its end, and four events for each entry do that. Its report
is then the one that entry after entry gives: it counts the entries and has the failures of those
that fail, in the order of the banks and their entries, each with its own file, id and fault. -/
theorem report_of_run {suffixes : List String} {concurrency : Nat} {banks : List Bank}
    {events : List Event} {b : Batch}
    (hrun : (ofBanks concurrency banks).run? suffixes events = some b) :
    (b.running ≤ max concurrency 1 ∧ b.held + b.free = max concurrency 1) ∧
    ((b.isDone = false → ∃ event b', b.next? suffixes event = some b') ∧
      (∃ more b', b.run? suffixes more = some b' ∧ b'.isDone = true) ∧
      events.length ≤ 4 * (jobs banks).length ∧
      (b.isDone = true ↔ events.length = 4 * (jobs banks).length)) ∧
    (b.isDone = true →
      (b.report = Report.ofBanks suffixes banks ∧
        ∀ fs c, load fs (.ofText c.dataDir) c.files = .ok banks → c.seedSuffixes = suffixes →
          validate fs c = .ok b.report) ∧
      b.report.total = (jobs banks).length ∧
      b.report.passed + b.report.failures.length = b.report.total ∧
      b.report.failures = (jobs banks).filterMap (Job.failure? suffixes)) := by
  have ha := (accounted_ofBanks suffixes concurrency banks).run hrun
  have hpermits : 0 < max concurrency 1 := by omega
  have hevents := remaining_of_run hrun
  rw [remaining_ofBanks] at hevents
  refine ⟨⟨ha.running_le, ha.permits_eq⟩, ⟨?_, ha.exists_run hpermits, by omega, ?_⟩, ?_⟩
  · intro hdone
    obtain ⟨b', hstep⟩ := ha.exists_step hpermits hdone
    obtain ⟨event, hnext⟩ := hstep.exists_next?
    exact ⟨event, b', hnext⟩
  · rw [← remaining_eq_zero_iff]
    omega
  · intro hdone
    have hreport : b.report = Report.ofBanks suffixes banks := by
      rw [Report.ofBanks_eq_ofJobs, ha.report_eq hdone]
    obtain ⟨htotal, hsum, hfailures⟩ := @Report.ofJobs_eq suffixes (jobs banks)
    rw [← Report.ofBanks_eq_ofJobs, ← hreport] at htotal hsum hfailures
    refine ⟨⟨hreport, ?_⟩, htotal, hsum.trans htotal.symm, hfailures⟩
    rintro fs c hload rfl
    rw [validate, hload, hreport]

/-- A bank with an entry that fails and one that passes. -/
def halfGood : Bank where
  file := "a.json"
  entries := [⟨some "p", none⟩,
    ⟨some "q", some (.object [("answer", .text "yes"), ("stem", .text "s")])⟩]

/-- The second task overtakes the first, and still the report has the first entry. -/
theorem report_of_run_halfGood :
    ∃ b, (ofBanks 2 [halfGood]).run? ["", "-B"] [.start, .start, .finish 1, .release 1, .finish 0,
        .release 0, .join, .join] = some b ∧
      b.isDone = true ∧ b.report = Report.ofBanks ["", "-B"] [halfGood] ∧
      b.report.total = 2 ∧ b.report.passed = 1 ∧ b.report.failures =
        [⟨"a.json", some "p", none, .invalidTemplate "p" "missing template.stem"⟩] := by
  have hsome : ((ofBanks 2 [halfGood]).run? ["", "-B"] [.start, .start, .finish 1, .release 1,
      .finish 0, .release 0, .join, .join]).isSome = true := by decide +kernel
  obtain ⟨b, hrun⟩ := Option.isSome_iff_exists.1 hsome
  obtain ⟨-, ⟨-, -, -, hend⟩, hall⟩ := report_of_run hrun
  have hdone : b.isDone = true := hend.2 rfl
  obtain ⟨⟨hreport, -⟩, htotal, hsum, hfailures⟩ := hall hdone
  have hjobs : (jobs [halfGood]).filterMap (Job.failure? ["", "-B"]) =
      [⟨"a.json", some "p", none, .invalidTemplate "p" "missing template.stem"⟩] := by
    decide +kernel
  rw [hjobs] at hfailures
  rw [hfailures, htotal] at hsum
  exact ⟨b, hrun, hdone, hreport, htotal, Nat.succ.inj hsum, hfailures⟩

end Batch
end Bank
end QuizBank

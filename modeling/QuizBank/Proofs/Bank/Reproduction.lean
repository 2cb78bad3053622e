import QuizBank.Config.Check
import QuizBank.Proofs.Command.Validation

/-!
# Failures made again

A failure in a report names the first seed that its entry fails with, so the item can be made again
to look at the error. No seed is named where the template itself is at fault. The empty seed is not
named either, though a template can be sound and fail with it: an entry whose id is the empty text
has this seed for the empty suffix (`Entry.nil_mem_seeds_iff`). All other failures can be told apart
and made again (`failures_reproducible_iff`).
-/

namespace QuizBank
namespace Bank

variable {suffixes : List String}

/-- The empty seed is that of the empty suffix, for an entry whose id is the empty text. -/
theorem Entry.nil_mem_seeds_iff {id : Option String} :
    "" ∈ Entry.seeds id suffixes ↔ id = some "" ∧ "" ∈ suffixes := by
  cases id with
  | none =>
    simp [Entry.seeds, Entry.seedBase, List.mem_mapIdx]
  | some id =>
    rw [Entry.seeds_of_id, List.mem_map]
    constructor
    · rintro ⟨suffix, hsuffix, hnil⟩
      rw [String.append_eq_empty_iff] at hnil
      obtain ⟨rfl, rfl⟩ := hnil
      exact ⟨rfl, hsuffix⟩
    · rintro ⟨hid, hmem⟩
      cases hid
      exact ⟨"", hmem, rfl⟩

/-! ### One failure -/

/-- The template of the entry is sound, and this seed of the entry is the first that it fails with.
-/
def Job.FirstFails (suffixes : List String) (j : Job) (seed : String) (error : Error) : Prop :=
  ∃ t, j.entry.requireTemplate = .ok t ∧
    FirstFailure (QuizBank.generate t) (Entry.seeds j.entry.id suffixes) seed error

/-- The failure can be made again: without a seed it tells of the template, which is not sound, and
with one of the first seed that fails. -/
structure Job.Reproducible (suffixes : List String) (j : Job) (f : Failure) : Prop where
  seed_eq_none_iff : f.fault.seed = none ↔ ∃ error, j.entry.requireTemplate = .error error
  template : ∀ error, j.entry.requireTemplate = .error error → f.fault.error = error
  firstFails : ∀ seed, f.fault.seed = some seed → j.FirstFails suffixes seed f.fault.error

/-- The failure tells of the job, and can be made again unless the empty seed is the first that the
entry fails with. Then the error is that of the empty seed, but the seed is not named. -/
structure Job.ReportedAs (suffixes : List String) (j : Job) (f : Failure) : Prop where
  file_eq : f.file = j.file
  id_eq : f.id = j.entry.id
  reproducible_iff : j.Reproducible suffixes f ↔ ¬ ∃ error, j.FirstFails suffixes "" error
  unnamed : ∀ error, j.FirstFails suffixes "" error →
    f.fault = ⟨none, error⟩ ∧ j.entry.id = some "" ∧ "" ∈ suffixes

/-! ### What a failure tells -/

section Told

variable {j : Job} {seed : String} {error : Error}

theorem Job.FirstFails.fault?_eq (h : j.FirstFails suffixes seed error) :
    j.entry.fault? suffixes = some ⟨if seed = "" then none else some seed, error⟩ := by
  obtain ⟨t, htemplate, hfirst⟩ := h
  exact (Entry.fault?_eq_some_iff htemplate).2 ⟨seed, hfirst, rfl⟩

/-- An entry for which the empty seed is the first that fails has the empty text as its id. -/
theorem Job.FirstFails.id_eq (h : j.FirstFails suffixes "" error) :
    j.entry.id = some "" ∧ "" ∈ suffixes := by
  obtain ⟨t, -, hfirst⟩ := h
  exact Entry.nil_mem_seeds_iff.1 hfirst.mem

theorem Job.FirstFails.requireTemplate_ne (h : j.FirstFails suffixes seed error) (error' : Error) :
    j.entry.requireTemplate ≠ .error error' := by
  obtain ⟨t, htemplate, -⟩ := h
  rw [htemplate]
  nofun

/-- A template that is not sound is told of without a seed. -/
theorem Job.reproducible_of_requireTemplate_eq_error (h : j.entry.requireTemplate = .error error)
    (file : String) (id : Option String) : j.Reproducible suffixes ⟨file, id, none, error⟩ := by
  refine ⟨⟨fun _ => ⟨error, h⟩, fun _ => rfl⟩, ?_, nofun⟩
  intro error' h'
  exact Except.error.inj (h.symm.trans h')

/-- A failure that names the first seed that fails can be made again. -/
theorem Job.FirstFails.reproducible (h : j.FirstFails suffixes seed error) (file : String)
    (id : Option String) : j.Reproducible suffixes ⟨file, id, some seed, error⟩ := by
  refine ⟨⟨nofun, ?_⟩, ?_, ?_⟩
  · rintro ⟨error', herror⟩
    exact absurd herror (h.requireTemplate_ne error')
  · intro error' herror
    exact absurd herror (h.requireTemplate_ne error')
  · rintro _ ⟨⟩
    exact h

/-- A failure that names no seed, though the template is sound, cannot be made again. -/
theorem Job.FirstFails.not_reproducible (h : j.FirstFails suffixes seed error) {f : Failure}
    (hf : f.fault.seed = none) : ¬ j.Reproducible suffixes f := by
  intro hreproducible
  obtain ⟨error', herror⟩ := hreproducible.seed_eq_none_iff.1 hf
  exact h.requireTemplate_ne error' herror

end Told

theorem Job.reportedAs_of_failure? {j : Job} {f : Failure} (h : j.failure? suffixes = some f) :
    j.ReportedAs suffixes f := by
  obtain ⟨fault, hfault, rfl⟩ := Option.map_eq_some_iff.1 h
  -- With the empty seed as the first that fails the fault is known.
  have hunnamed : ∀ error, j.FirstFails suffixes "" error → fault = ⟨none, error⟩ := by
    intro error hfirst
    exact Option.some.inj (hfault.symm.trans hfirst.fault?_eq)
  refine ⟨rfl, rfl, ⟨?_, ?_⟩, fun error hfirst => ⟨hunnamed error hfirst, hfirst.id_eq⟩⟩
  · rintro hreproducible ⟨error, hfirst⟩
    refine hfirst.not_reproducible ?_ hreproducible
    rw [hunnamed error hfirst]
  · intro hnone
    cases htemplate : j.entry.requireTemplate with
    | error error =>
      rw [Entry.fault?_of_requireTemplate_eq_error htemplate] at hfault
      obtain rfl := Option.some.inj hfault
      exact Job.reproducible_of_requireTemplate_eq_error htemplate _ _
    | ok t =>
      obtain ⟨seed, hfirst, hseed⟩ := (Entry.fault?_eq_some_iff htemplate).1 hfault
      have hfails : j.FirstFails suffixes seed fault.error := ⟨t, htemplate, hfirst⟩
      have hne : seed ≠ "" := by
        rintro rfl
        exact hnone ⟨_, hfails⟩
      rw [if_neg hne] at hseed
      obtain ⟨faultSeed, error⟩ := fault
      obtain rfl := hseed
      exact hfails.reproducible _ _

/-! ### All failures of a report -/

/-- **Failures can be made again.** A report on banks has one failure for each entry that does not
pass, in their order, with the file and the id of the entry. Unless the first seed that the entry
fails with is the empty one, no seed is named exactly if the template is not sound, and a seed that
is named is the first, in the order of the suffixes, with which making an item fails, and the error
is the one of the failure. The empty seed is the first that fails only for an entry whose id is the
empty text, and with the empty suffix; then the error is that of the empty seed, which is not named.
-/
theorem failures_reproducible_iff (suffixes : List String) (banks : List Bank) :
    List.Forall₂ (Job.ReportedAs suffixes) (failing suffixes (jobs banks))
      (Report.ofBanks suffixes banks).failures := by
  obtain ⟨-, -, hfailures⟩ := @Report.ofJobs_eq suffixes (jobs banks)
  rw [Report.ofBanks_eq_ofJobs, hfailures]
  exact (forall₂_failure? (jobs banks)).imp fun _ _ => Job.reportedAs_of_failure?

/-- The error of a template with the answer `eval(1)`. -/
def unsafeAnswer : Error := .unsafeExpression "eval(1)" "identifier 'eval' is not allowed"

/-- A template with this answer, as it stands in a bank. -/
def unsafeDocument : Json := .object [("answer", .text "eval(1)"), ("stem", .text "s")]

/-- The template as it is read for an entry with an id. -/
def unsafeTemplate (id : Option String) : Template where
  id := id
  stem := "s"
  answer := some (.text "eval(1)")

/-- Where there is one entry and one failure, the failure is that of the entry. -/
theorem rel_of_forall₂_failing {R : Job → Failure → Prop} {j : Job} {f : Failure}
    (h : List.Forall₂ R (failing suffixes [j]) [f]) : R j f := by
  rw [List.forall₂_cons_right_iff] at h
  obtain ⟨j', rest, hrel, -, hfailing⟩ := h
  have hmem : j' ∈ failing suffixes [j] := by
    rw [hfailing]
    exact List.mem_cons_self
  obtain rfl : j' = j := List.mem_singleton.1 (List.mem_of_mem_filter hmem)
  exact hrel

/-- A bank whose entry has no id. -/
def noIdBank : Bank := ⟨"b.json", [⟨none, some unsafeDocument⟩]⟩

theorem failures_reproducible_iff_noId :
    (Report.ofBanks ["", "-B"] [noIdBank]).failures =
        [⟨"b.json", none, some "seedA", unsafeAnswer⟩] ∧
      Job.Reproducible ["", "-B"] ⟨"b.json", none, some unsafeDocument⟩
        ⟨"b.json", none, some "seedA", unsafeAnswer⟩ := by
  have hfailures : (Report.ofBanks ["", "-B"] [noIdBank]).failures =
      [⟨"b.json", none, some "seedA", unsafeAnswer⟩] := by
    decide +kernel
  have hall := failures_reproducible_iff ["", "-B"] [noIdBank]
  rw [hfailures] at hall
  have hreported := rel_of_forall₂_failing hall
  refine ⟨hfailures, hreported.reproducible_iff.2 ?_⟩
  rintro ⟨error, hfirst⟩
  nomatch hfirst.id_eq.1

/-- The text of a bank whose entry has the empty text as its id. -/
def emptyIdText : String :=
  "[\x7b\"id\":\"\",\"template\":\x7b\"stem\":\"s\",\"answer\":\"eval(1)\"\x7d\x7d]"

/-- The bank as it is loaded. -/
def emptyIdBank : Bank := ⟨"b.json", [⟨some "", some unsafeDocument⟩]⟩

/-- The template of this entry is sound and fails with the empty seed, but its failure names no seed.
-/
theorem not_reproducible_emptyId :
    ofText "b.json" emptyIdText = .ok emptyIdBank ∧
      Config.checkSuffixes ["", "-B"] = .ok () ∧
      Entry.requireTemplate ⟨some "", some unsafeDocument⟩ = .ok (unsafeTemplate (some "")) ∧
      QuizBank.generate (unsafeTemplate (some "")) "" = .error unsafeAnswer ∧
      (Report.ofBanks ["", "-B"] [emptyIdBank]).failures =
        [⟨"b.json", some "", none, unsafeAnswer⟩] ∧
      ¬ List.Forall₂ (Job.Reproducible ["", "-B"]) (failing ["", "-B"] (jobs [emptyIdBank]))
        (Report.ofBanks ["", "-B"] [emptyIdBank]).failures := by
  have hparse : Json.parse? emptyIdText = some (.array [.object [("id", .text ""),
      ("template", .object [("stem", .text "s"), ("answer", .text "eval(1)")])]]) := by
    with_unfolding_all rfl
  have htext : ofText "b.json" emptyIdText = .ok emptyIdBank :=
    ofText_eq_ok_iff.2 ⟨rfl, (readEntries_eq_ok_iff hparse).2 (.cons rfl .nil)⟩
  have htemplate : Entry.requireTemplate ⟨some "", some unsafeDocument⟩ =
      .ok (unsafeTemplate (some "")) := by
    decide +kernel
  have hfailures : (Report.ofBanks ["", "-B"] [emptyIdBank]).failures =
      [⟨"b.json", some "", none, unsafeAnswer⟩] := by
    decide +kernel
  refine ⟨htext, by decide +kernel, htemplate, by decide +kernel, hfailures, ?_⟩
  intro hall
  rw [hfailures] at hall
  obtain ⟨error, herror⟩ := (rel_of_forall₂_failing hall).seed_eq_none_iff.1 rfl
  rw [htemplate] at herror
  nomatch herror

end Bank
end QuizBank

import QuizBank.Bank.Snapshot
import QuizBank.Proofs.Bank.Batch
import QuizBank.Proofs.Bank.TemplateOrder

/-!
# Entries that can be read

A bank is read as a whole or not at all. Among the files that are an array of objects, those that
can be read are told here object by object (`Entry.Readable`): only the id and the template count,
and of the template only that it can be kept. What a template holds is then the matter of its own
entry (`Entry.fault?_of_malformed`), but an id that is no text hides all the entries beside it
(`ofText_number_id`).
-/

namespace QuizBank
namespace Bank

open Json

namespace Entry

/-! ### One member -/

theorem readOptional_readText_iff {j : Json} {id : Option String} :
    j.readOptional readText = .ok id ↔
      (j = .null ∧ id = none) ∨ ∃ s, j = .text s ∧ id = some s := by
  cases j with
  | null => simp [readOptional, eq_comm]
  | text s => simp [readOptional, readText, bind, Except.bind, pure, Except.pure, eq_comm]
  | _ => simp [readOptional, readText, mismatch, bind, Except.bind]

theorem readOptional_readDocument_iff {j : Json} {template : Option Json} :
    j.readOptional readDocument = .ok template ↔
      (j = .null ∧ template = none) ∨
        ∃ document, j ≠ .null ∧ j.canonical? templateRoom = some document ∧
          template = some document := by
  by_cases hj : j = .null
  · subst hj
    simp [readOptional, eq_comm]
  · rw [readOptional_of_ne_null hj, bind_eq_ok_iff]
    simp only [readDocument_eq_ok_iff, hj, false_and, false_or, ne_eq, not_false_eq_true, true_and]
    exact exists_congr fun document => and_congr_right fun _ => by simp [pure, Except.pure, eq_comm]

section Assign

variable {e e' : Entry} {field : String} {j : Json}

theorem assign_id_iff : assign e "id" j = .ok e' ↔
    ∃ id, j.readOptional readText = .ok id ∧ e' = { e with id } := by
  show (_ >>= _) = _ ↔ _
  rw [bind_eq_ok_iff]
  exact exists_congr fun id => and_congr_right fun _ => by simp [pure, Except.pure, eq_comm]

theorem assign_template_iff : assign e "template" j = .ok e' ↔
    ∃ template, j.readOptional readDocument = .ok template ∧ e' = { e with template } := by
  show (_ >>= _) = _ ↔ _
  rw [bind_eq_ok_iff]
  exact exists_congr fun template =>
    and_congr_right fun _ => by simp [pure, Except.pure, eq_comm]

theorem assign_of_ne (hid : field ≠ "id") (htemplate : field ≠ "template") :
    assign e field j = .ok e := by
  unfold assign
  split
  · exact absurd rfl hid
  · exact absurd rfl htemplate
  · rfl

end Assign

/-- The member does not keep an entry from being read: an id is a text or `null`, and a template can
be kept. -/
structure Assignable (m : String × Json) : Prop where
  id : m.1 = "id" → m.2 = .null ∨ ∃ s, m.2 = .text s
  template : m.1 = "template" → IsRepresentable m.2 ∧ nesting m.2 ≤ templateRoom

theorem assignable_id_iff {j : Json} : Assignable ("id", j) ↔ j = .null ∨ ∃ s, j = .text s :=
  ⟨fun h => h.id rfl, fun h => ⟨fun _ => h, by simp⟩⟩

theorem assignable_template_iff {j : Json} :
    Assignable ("template", j) ↔ ∃ document, j.canonical? templateRoom = some document := by
  rw [← Option.isSome_iff_exists, isSome_canonical?_iff]
  exact ⟨fun h => h.template rfl, fun h => ⟨by simp, fun _ => h⟩⟩

theorem exists_assign_iff {e : Entry} {m : String × Json} :
    (∃ e', assign e m.1 m.2 = .ok e') ↔ Assignable m := by
  obtain ⟨field, j⟩ := m
  by_cases hid : field = "id"
  · subst hid
    simp only [assign_id_iff, readOptional_readText_iff, assignable_id_iff]
    constructor
    · rintro ⟨_, _, ⟨rfl, -⟩ | ⟨s, rfl, -⟩, -⟩
      · exact .inl rfl
      · exact .inr ⟨s, rfl⟩
    · rintro (rfl | ⟨s, rfl⟩)
      · exact ⟨_, _, .inl ⟨rfl, rfl⟩, rfl⟩
      · exact ⟨_, _, .inr ⟨s, rfl, rfl⟩, rfl⟩
  by_cases htemplate : field = "template"
  · subst htemplate
    simp only [assign_template_iff, readOptional_readDocument_iff, assignable_template_iff]
    constructor
    · rintro ⟨_, _, ⟨rfl, -⟩ | ⟨document, -, hkept, -⟩, -⟩
      · exact ⟨.null, rfl⟩
      · exact ⟨document, hkept⟩
    · rintro ⟨document, hkept⟩
      by_cases hj : j = .null
      · exact ⟨_, _, .inl ⟨hj, rfl⟩, rfl⟩
      · exact ⟨_, _, .inr ⟨document, hj, hkept, rfl⟩, rfl⟩
  · exact iff_of_true ⟨e, assign_of_ne hid htemplate⟩
      ⟨fun h => absurd h hid, fun h => absurd h htemplate⟩

/-! ### All members -/

/-- The object is one that an entry can be read from: neither field is repeated, and both can be
assigned. -/
structure Readable (ms : List (String × Json)) : Prop where
  noRepeats : NoRepeats fields ms
  assignable : ∀ m ∈ ms, Assignable m

theorem exists_assignAll_iff {e : Entry} {ms : List (String × Json)} :
    (∃ e', assignAll assign e ms = .ok e') ↔ ∀ m ∈ ms, Assignable m := by
  induction ms generalizing e with
  | nil => exact iff_of_true ⟨e, rfl⟩ nofun
  | cons m rest ih =>
    rw [List.forall_mem_cons, ← @exists_assign_iff e]
    constructor
    · rintro ⟨e', h⟩
      obtain ⟨e₁, hfirst, hrest⟩ := assignAll_cons_iff.1 h
      exact ⟨⟨e₁, hfirst⟩, ih.1 ⟨e', hrest⟩⟩
    · rintro ⟨⟨e₁, hfirst⟩, hrest⟩
      obtain ⟨e', hrest⟩ := (@ih e₁).2 hrest
      exact ⟨e', assignAll_cons_iff.2 ⟨e₁, hfirst, hrest⟩⟩

/-- **Which objects are entries.** -/
theorem exists_ofJson_object_iff {ms : List (String × Json)} :
    (∃ e, ofJson (.object ms) = .ok e) ↔ Readable ms := by
  constructor
  · rintro ⟨e, h⟩
    obtain ⟨_, hno, hall⟩ := bind_eq_ok_iff.1 h
    exact ⟨refuseRepeated_eq_ok_iff.1 hno, exists_assignAll_iff.1 ⟨e, hall⟩⟩
  · rintro ⟨hno, hall⟩
    obtain ⟨e, he⟩ := (@exists_assignAll_iff {} ms).2 hall
    exact ⟨e, bind_eq_ok_iff.2 ⟨(), refuseRepeated_eq_ok_iff.2 hno, he⟩⟩

/-- What an entry has of its object: the text of its id, and its template as it was kept. -/
structure Describes (ms : List (String × Json)) (e : Entry) : Prop where
  id : ∀ s, e.id = some s ↔ ("id", .text s) ∈ ms
  template : ∀ document, e.template = some document ↔
    ∃ j, ("template", j) ∈ ms ∧ j ≠ .null ∧ j.canonical? templateRoom = some document

theorem id_of_assign (e e' : Entry) (field : String) (j : Json) (hne : field ≠ "id")
    (h : assign e field j = .ok e') : e'.id = e.id := by
  by_cases htemplate : field = "template"
  · subst htemplate
    obtain ⟨template, -, rfl⟩ := assign_template_iff.1 h
    rfl
  · rw [assign_of_ne hne htemplate] at h
    cases h
    rfl

theorem describes_of_ofJson {e : Entry} {ms : List (String × Json)}
    (h : ofJson (.object ms) = .ok e) : Describes ms e := by
  obtain ⟨_, hno, hall⟩ := bind_eq_ok_iff.1 h
  have hno := refuseRepeated_eq_ok_iff.1 hno
  constructor
  · intro s
    have hset : ∀ e e' j, assign e "id" j = .ok e' → j.readOptional readText = .ok e'.id := by
      intro e e' j hassign
      obtain ⟨id, hid, rfl⟩ := assign_id_iff.1 hassign
      exact hid
    rw [eq_some_iff_of_assignAll id_of_assign hset (by decide) hno rfl hall]
    simp [readOptional_readText_iff]
  · intro document
    have hset : ∀ e e' j, assign e "template" j = .ok e' →
        j.readOptional readDocument = .ok e'.template := by
      intro e e' j hassign
      obtain ⟨template, htemplate, rfl⟩ := assign_template_iff.1 hassign
      exact htemplate
    rw [eq_some_iff_of_assignAll template_of_assign hset (by decide) hno rfl hall]
    simp [readOptional_readDocument_iff]

/-! ### Templates of the wrong shape -/

section Malformed

variable {e : Entry} {document : Json} {fault : ShapeError}

/-- The error of a template of the wrong shape. -/
def malformed (e : Entry) (fault : ShapeError) : Error :=
  .invalidTemplate e.label ("malformed template: " ++ fault.message)

theorem requireTemplate_of_malformed (htemplate : e.template = some document)
    (hfault : Template.ofJson document = .error fault) :
    e.requireTemplate = .error (e.malformed fault) := by
  have hread : e.readTemplate = .error fault := by
    rw [readTemplate, htemplate]
    dsimp only
    rw [hfault]
    rfl
  rw [requireTemplate, hread]
  rfl

/-- The failure is found before any seed is tried. -/
theorem fault?_of_malformed (htemplate : e.template = some document)
    (hfault : Template.ofJson document = .error fault) (suffixes : List String) :
    e.fault? suffixes = some ⟨none, e.malformed fault⟩ := by
  rw [fault?, requireTemplate_of_malformed htemplate hfault]

theorem record_of_malformed (htemplate : e.template = some document)
    (hfault : Template.ofJson document = .error fault) (file seedPrefix : String) :
    e.record file seedPrefix = .failed file e.id (e.malformed fault).message := by
  rw [record, generate, requireTemplate_of_malformed htemplate hfault]

end Malformed

end Entry

/-! ### Whole banks -/

theorem exists_forall₂_iff {α β : Type} {R : α → β → Prop} {l : List α} :
    (∃ l', List.Forall₂ R l l') ↔ ∀ a ∈ l, ∃ b, R a b := by
  induction l with
  | nil => exact iff_of_true ⟨[], .nil⟩ nofun
  | cons a rest ih =>
    rw [List.forall_mem_cons, ← ih]
    constructor
    · rintro ⟨_, hab | ⟨hab, hrest⟩⟩
      exact ⟨⟨_, hab⟩, _, hrest⟩
    · rintro ⟨⟨b, hab⟩, l', hrest⟩
      exact ⟨b :: l', .cons hab hrest⟩

variable {file text : String}

theorem readEntries_eq_ok_iff {items : List Json} {entries : List Entry}
    (h : parse? text = some (.array items)) :
    readEntries text = .ok entries ↔
      List.Forall₂ (fun j e => Entry.ofJson j = .ok e) items entries := by
  have hitems : (Json.array items).readItems Entry.ofJson = items.mapM Entry.ofJson := rfl
  rw [readEntries, h, ← mapM_eq_ok_iff]
  dsimp only
  rw [hitems]
  cases items.mapM Entry.ofJson with
  | error fault => simp
  | ok entries' => simp

theorem ofText_eq_ok_iff {b : Bank} :
    ofText file text = .ok b ↔ b.file = file ∧ readEntries text = .ok b.entries := by
  obtain ⟨file', entries⟩ := b
  rw [ofText]
  cases readEntries text with
  | error message => simp
  | ok entries' => simp [eq_comm]

/-- A text that cannot be read as a bank is reported for its file. -/
theorem bank_of_ofText {e : Error} (h : ofText file text = .error e) :
    ∃ message, e = .bank file message := by
  rw [ofText] at h
  cases hread : readEntries text with
  | error message =>
    rw [hread] at h
    exact ⟨message, (Except.error.inj h).symm⟩
  | ok entries =>
    rw [hread] at h
    cases h

/-- **Which arrays of objects are banks, and what is left to the entries.** An array of objects is
read exactly if every object is one that an entry can be read from, and otherwise the file is
reported. The bank has one entry for each object, in the order of the objects, with what this object
gives. The report has the failures of its entries one by one, and a template of the wrong shape is
the failure, or the failed record, of its own entry. -/
theorem exists_ofText_iff_readable {elements : List (List (String × Json))}
    (h : parse? text = some (.array (elements.map .object))) :
    ((∃ b, ofText file text = .ok b) ↔ ∀ ms ∈ elements, Entry.Readable ms) ∧
    (∀ error, ofText file text = .error error → ∃ message, error = .bank file message) ∧
    ∀ b, ofText file text = .ok b →
      (b.file = file ∧ List.Forall₂ Entry.Describes elements b.entries) ∧
      (∀ suffixes, (Report.ofBanks suffixes [b]).failures =
        b.entries.filterMap fun e => Job.failure? suffixes ⟨file, e⟩) ∧
      ∀ e ∈ b.entries, ∀ document fault, e.template = some document →
        Template.ofJson document = .error fault →
        (∀ suffixes, e.fault? suffixes = some ⟨none, e.malformed fault⟩) ∧
        ∀ seedPrefix, e.record file seedPrefix = .failed file e.id (e.malformed fault).message := by
  have hentries : ∀ entries, readEntries text = .ok entries ↔
      List.Forall₂ (fun ms e => Entry.ofJson (.object ms) = .ok e) elements entries := by
    intro entries
    rw [readEntries_eq_ok_iff h, List.forall₂_map_left_iff]
  refine ⟨?_, fun _ => bank_of_ofText, ?_⟩
  · have hbank : (∃ b, ofText file text = .ok b) ↔ ∃ entries, readEntries text = .ok entries := by
      simp only [ofText_eq_ok_iff]
      exact ⟨fun ⟨b, _, hb⟩ => ⟨b.entries, hb⟩, fun ⟨entries, hb⟩ => ⟨⟨file, entries⟩, rfl, hb⟩⟩
    rw [hbank]
    simp only [hentries, exists_forall₂_iff, Entry.exists_ofJson_object_iff]
  · intro b hb
    obtain ⟨hfile, hread⟩ := ofText_eq_ok_iff.1 hb
    refine ⟨⟨hfile, ((hentries _).1 hread).imp fun _ _ => Entry.describes_of_ofJson⟩, ?_, ?_⟩
    · intro suffixes
      rw [Report.ofBanks_eq_ofJobs, (Report.ofJobs_eq _).2.2, jobs, List.flatMap_singleton,
        List.filterMap_map, hfile]
      rfl
    · intro e _ document fault htemplate hfault
      exact ⟨Entry.fault?_of_malformed htemplate hfault,
        Entry.record_of_malformed htemplate hfault file⟩

/-- The text of a bank whose first entry has a number as its stem. -/
def halfMalformedText : String :=
  "[\x7b\"id\":\"p\",\"template\":\x7b\"stem\":5\x7d\x7d,\x7b\"id\":\"q\",\"template\":" ++
    "\x7b\"stem\":\"s\",\"answer\":\"yes\"\x7d,\"level\":[5]\x7d]"

theorem exists_ofText_iff_readable_halfMalformed :
    ∃ b, ofText "a.json" halfMalformedText = .ok b ∧ b.entries.length = 2 ∧
      (Report.ofBanks [""] [b]).failures = [⟨"a.json", some "p", none,
        .invalidTemplate "p"
          "malformed template: invalid type: integer `5`, expected a string"⟩] := by
  let elements : List (List (String × Json)) :=
    [[("id", .text "p"), ("template", .object [("stem", .number (.natural 5))])],
      [("id", .text "q"), ("template", .object [("stem", .text "s"), ("answer", .text "yes")]),
        ("level", .array [.number (.natural 5)])]]
  have hparse : parse? halfMalformedText = some (.array (elements.map .object)) := by
    with_unfolding_all rfl
  have hrun : (ofText "a.json" halfMalformedText).map (fun b => b.entries.filterMap fun e =>
      Job.failure? [""] ⟨"a.json", e⟩) = .ok [⟨"a.json", some "p", none, .invalidTemplate "p"
        "malformed template: invalid type: integer `5`, expected a string"⟩] := by
    decide +kernel
  obtain ⟨-, -, hall⟩ := @exists_ofText_iff_readable "a.json" _ _ hparse
  cases hbank : ofText "a.json" halfMalformedText with
  | error error =>
    rw [hbank] at hrun
    cases hrun
  | ok b =>
    obtain ⟨⟨-, hentries⟩, hfailures, -⟩ := hall b hbank
    rw [hbank] at hrun
    refine ⟨b, rfl, hentries.length_eq.symm, ?_⟩
    rw [hfailures]
    exact Except.ok.inj hrun

/-- The text of a bank whose first entry has a number as its id. -/
def numberIdText : String := "[\x7b\"id\":5\x7d,\x7b\"id\":\"q\"\x7d]"

/-- An id that is no text hides the entry beside it. -/
theorem ofText_number_id :
    parse? numberIdText =
        some (.array [.object [("id", .number (.natural 5))], .object [("id", .text "q")]]) ∧
      (∃ e, Entry.ofJson (.object [("id", .text "q")]) = .ok e) ∧
      ofText "b.json" numberIdText =
        .error (.bank "b.json" "invalid type: integer `5`, expected a string") := by
  refine ⟨by with_unfolding_all rfl, ⟨⟨some "q", none⟩, rfl⟩, by with_unfolding_all rfl⟩

end Bank
end QuizBank

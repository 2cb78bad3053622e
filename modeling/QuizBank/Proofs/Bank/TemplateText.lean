import Mathlib.Control.Monad.Basic
import QuizBank.Proofs.Bank.TemplateOrder
import QuizBank.Proofs.Json.Splicing

/-!
# Templates in the texts of banks

A template can be read directly from its text, or from a bank whose text holds it. Both ways lead to
the same template exactly if its parameters and its derived values are declared in the order of
their names.
-/

namespace QuizBank
namespace Bank

open Json

/-- The text of a bank with one entry, which has the text as its template. -/
def textAround (template : String) : String := "[\x7b\"template\":" ++ template ++ "\x7d]"

theorem parse?_textAround {text : String} {members : List (String × Json)}
    (h : parse? text = some (.object members)) :
    parse? (textAround text) = some (.array [.object [("template", .object members)]]) := by
  have htext : (textAround text).toList =
      '[' :: '\x7b' :: '"' :: ("template\":".toList ++ (text.toList ++ ['\x7d', ']'])) := by
    simp [textAround]
  -- The template is read in front of the two closing characters, which are then left.
  obtain ⟨rest, hvalue, hrest⟩ := valueAt_object_append h (u := ['\x7d', ']']) rfl
  have hname : Finds (textAt ("template\":".toList ++ (text.toList ++ ['\x7d', ']'])))
      (some "template") (':' :: (text.toList ++ ['\x7d', ']'])) :=
    textAt_finds_iff.2 ⟨_, rfl, rfl⟩
  rw [parse?_eq_some_iff, htext]
  refine ⟨[], (valueAt_bracket_finds_iff rfl).2 (.inr ⟨nofun, _, ?_, rfl⟩), rfl⟩
  refine itemsAt_finds_iff.2 ⟨.object [("template", .object members)], [']'], ?_, .inr ⟨rfl, rfl⟩⟩
  refine (valueAt_brace_finds_iff rfl).2
    (.inr ⟨nofun, [(some "template", .object members)], ?_, rfl⟩)
  exact membersAt_finds_iff.2 ⟨_, _, _, _, _, _, rfl, hname, rfl, hvalue, .inr ⟨hrest, rfl⟩⟩

theorem readEntries_textAround {text : String} {members : List (String × Json)} {e : Entry}
    (h : parse? text = some (.object members)) :
    readEntries (textAround text) = .ok [e] ↔
      Entry.ofJson (.object [("template", .object members)]) = .ok e := by
  unfold readEntries
  rw [parse?_textAround h]
  dsimp only
  cases hentry : Entry.ofJson (.object [("template", .object members)]) with
  | error fault =>
    have hitems : Json.readItems Entry.ofJson (.array [.object [("template", .object members)]]) =
        .error fault := by
      rw [readItems, List.mapM_cons, hentry]
      rfl
    rw [hitems]
    constructor
    · intro herror
      cases herror
    · intro herror
      cases herror
  | ok e' =>
    have hitems : Json.readItems Entry.ofJson (.array [.object [("template", .object members)]]) =
        .ok [e'] := by
      rw [readItems, List.mapM_cons, hentry]
      rfl
    rw [hitems]
    simp

/-- The entry can be read from a tree of members, of which the template is the given tree. -/
def Entry.Holds (e : Entry) (template : Json) : Prop :=
  ∃ ms, ("template", template) ∈ ms ∧ Entry.ofJson (.object ms) = .ok e

theorem Entry.holds_of_readEntries {text : String} {members : List (String × Json)} {e : Entry}
    (hparse : parse? text = some (.object members))
    (h : readEntries (textAround text) = .ok [e]) : e.Holds (.object members) :=
  ⟨_, List.mem_cons_self, (readEntries_textAround hparse).1 h⟩

/-- **A bank reads a template with its names sorted.** Let the text of a template be read directly.
A bank with the text can be read exactly if the template can be kept. Each entry with the template
then gives it with its parameters and its derived values sorted by name, which is the same template
exactly if they were declared in this order. In that case every seed has the same outcome. -/
theorem readTemplate_eq_iff_sorted {text : String} {members : List (String × Json)} {t : Template}
    (hparse : parse? text = some (.object members))
    (hdirect : Template.ofJson (.object members) = .ok t) :
    ((∃ e, readEntries (textAround text) = .ok [e]) ↔
        IsRepresentable (.object members) ∧ nesting (.object members) ≤ Entry.templateRoom) ∧
      (∀ e, readEntries (textAround text) = .ok [e] → e.Holds (.object members)) ∧
      ∀ e : Entry, e.Holds (.object members) →
        e.readTemplate = .ok (some t.sorted) ∧
        (e.readTemplate = .ok (some t) ↔
          t.params.keys.Pairwise (· < ·) ∧ t.derived.keys.Pairwise (· < ·)) ∧
        (t.params.keys.Pairwise (· < ·) → t.derived.keys.Pairwise (· < ·) → ∀ seed,
          ∃ t', e.readTemplate = .ok (some t') ∧
            QuizBank.generate t' seed = QuizBank.generate t seed) := by
  refine ⟨?_, fun e => Entry.holds_of_readEntries hparse, ?_⟩
  · rw [← Entry.exists_ofJson_iff]
    exact exists_congr fun e => readEntries_textAround hparse
  · rintro e ⟨ms, hmem, hentry⟩
    have hsorted := Entry.readTemplate_eq_sorted hdirect hmem hentry
    refine ⟨hsorted, ?_, ?_⟩
    · rw [hsorted, ← Template.sorted_eq_self_iff]
      simp
    · intro hparams hderived seed
      have heq := Template.sorted_eq_self_iff.2 ⟨hparams, hderived⟩
      exact ⟨t.sorted, hsorted, by rw [heq]⟩

/-- The text of a template with its derived values declared in the order of their names. -/
def orderedText : String :=
  "\x7b\"stem\":\"s\",\"derived\":\x7b\"a\":\"1\",\"b\":\"a + 1\"\x7d,\"answer\":\"b\"\x7d"

/-- The template of that text. -/
def ordered : Template :=
  { stem := "s", derived := .ofList [("a", "1"), ("b", "a + 1")], answer := some (.text "b") }

theorem readTemplate_ordered :
    ∃ members, parse? orderedText = some (.object members) ∧
      Template.ofJson (.object members) = .ok ordered ∧
      ∃ e, readEntries (textAround orderedText) = .ok [e] ∧
        e.readTemplate = .ok (some ordered) := by
  let members : List (String × Json) := [("stem", .text "s"),
    ("derived", .object [("a", .text "1"), ("b", .text "a + 1")]), ("answer", .text "b")]
  have hparse : parse? orderedText = some (.object members) := by with_unfolding_all rfl
  have hdirect : Template.ofJson (.object members) = .ok ordered := by decide +kernel
  obtain ⟨hread, hholds, hentry⟩ := readTemplate_eq_iff_sorted hparse hdirect
  obtain ⟨e, he⟩ := hread.2 (by
    simp [members, IsRepresentable, MembersRepresentable, nesting, nestingOfMembers,
      Entry.templateRoom])
  have hnames := (hentry e (hholds e he)).2.1.2 (by decide)
  exact ⟨members, hparse, hdirect, e, he, hnames⟩

/-- The text of a template with its derived values declared in another order. -/
def unorderedText : String :=
  "\x7b\"stem\":\"s\",\"derived\":\x7b\"b\":\"1\",\"a\":\"b + 1\"\x7d,\"answer\":\"a\"\x7d"

/-- The template of that text. -/
def unordered : Template :=
  { stem := "s", derived := .ofList [("b", "1"), ("a", "b + 1")], answer := some (.text "a") }

/-- Out of order, a derived value may miss the one that it needs. -/
theorem readTemplate_unordered :
    (parse? unorderedText).map Template.ofJson = some (.ok unordered) ∧
      (readEntries (textAround unorderedText)).map (·.map Entry.readTemplate) =
        .ok [.ok (some unordered.sorted)] ∧
      unordered.sorted ≠ unordered ∧
      (QuizBank.generate unordered "s").isOk = true ∧
      (QuizBank.generate unordered.sorted "s").isOk = false := by
  refine ⟨?_, ?_, ?_, ?_, ?_⟩
  · decide +kernel
  · decide +kernel
  · decide +kernel
  · decide +kernel
  · decide +kernel

end Bank
end QuizBank

import QuizBank.Error
import QuizBank.Json.Reader
import QuizBank.Template.Json
import QuizBank.Text.Classes

/-!
# Question banks

A bank is a file with a JSON array of entries. Each entry has an id and a template; either may be
missing, and other fields are ignored. The template of an entry is kept as the JSON document that it
is, its members sorted, and is read only when it is needed. So a template of the wrong shape spoils
its own entry and no other.
-/

namespace QuizBank

/-- An entry of a bank. -/
structure Bank.Entry where
  id : Option String := none
  template : Option Json := none

/-- A bank: the name of its file, and its entries. -/
structure Bank where
  file : String
  entries : List Bank.Entry

namespace Bank
namespace Entry

/-- How many arrays and objects of a template may stand inside each other. -/
def templateRoom : Nat := 125

/-- Reads a document that is kept for later. -/
def readDocument (j : Json) : Except ShapeError Json :=
  match j.canonical? templateRoom with
  | some document => .ok document
  | none => .error .notKept

/-- The fields in the order in which an array gives them. -/
def fields : List String := ["id", "template"]

/-- Gives a field its value. -/
def assign (e : Entry) (field : String) (j : Json) : Except ShapeError Entry :=
  match field with
  | "id" => do return { e with id := ← j.readOptional Json.readText }
  | "template" => do return { e with template := ← j.readOptional readDocument }
  | _ => .ok e

/-- Reads an entry. -/
def ofJson : Json → Except ShapeError Entry := Json.readRecord .entry fields 0 {} assign

/-- The template of an entry, if it has one. -/
def readTemplate (e : Entry) : Except ShapeError (Option Template) :=
  match e.template with
  | none => .ok none
  | some document => do return some (← Template.ofJson document)

/-- The name of an entry in messages. -/
def label (e : Entry) : String := e.id.getD "<no id>"

/-- The template of an entry that questions can be made from: it has a stem with more than blanks.
A template without an id takes that of the entry. -/
def requireTemplate (e : Entry) : Except Error Template :=
  match e.readTemplate with
  | .error fault => .error (.invalidTemplate e.label ("malformed template: " ++ fault.message))
  | .ok none => .error (.invalidTemplate e.label "missing template.stem")
  | .ok (some t) =>
    if Text.isBlankText t.stem then .error (.invalidTemplate e.label "missing template.stem")
    else .ok { t with id := t.id.or e.id }

end Entry

/-- The entries that a text holds. The first message, and the shape faults as they are worded here,
stand for those of the library that reads JSON, which adds the line and the column. -/
def readEntries (text : String) : Except String (List Entry) :=
  match Json.parse? text with
  | none => .error "the text is not well formed"
  | some j =>
    match j.readItems Entry.ofJson with
    | .error fault => .error fault.message
    | .ok entries => .ok entries

/-- The bank of a file with a text. -/
def ofText (file text : String) : Except Error Bank :=
  match readEntries text with
  | .error message => .error (.bank file message)
  | .ok entries => .ok ⟨file, entries⟩

/-- The first entry with an id. -/
def entry? (b : Bank) (id : String) : Option Entry := b.entries.find? fun e => e.id == some id

/-- The entry with an id. -/
def entry (b : Bank) (id : String) : Except Error Entry :=
  match b.entry? id with
  | some e => .ok e
  | none => .error (.bank b.file ("no entry with id '" ++ id ++ "'"))

end Bank
end QuizBank

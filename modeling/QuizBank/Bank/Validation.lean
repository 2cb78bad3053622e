import QuizBank.Bank.Generation
import QuizBank.Config

/-!
# Validation of banks

A bank is validated by making an item of every entry with each of several seeds. The report counts
the entries and names those that fail, each with the first seed that shows it.
-/

namespace QuizBank
namespace Bank

/-- Why an entry fails: the error, and the seed that it arises with. There is no seed if the
template itself is at fault. -/
structure Fault where
  seed : Option String
  error : Error
  deriving DecidableEq

namespace Entry

/-- The text in front of the seed suffix at an index: the id of the entry. Without an id it is
`seed` and a letter, the letters in turn. -/
def seedBase (id : Option String) (index : Nat) : String :=
  match id with
  | some id => id
  | none => "seed" ++ String.singleton (Char.ofNat ('A'.toNat + index % 26))

/-- The seeds that an entry is tried with. -/
def seeds (id : Option String) (suffixes : List String) : List String :=
  suffixes.mapIdx fun index suffix => seedBase id index ++ suffix

/-- What goes wrong with a template and a seed. The empty seed is not named. -/
def seedFault? (t : Template) (seed : String) : Option Fault :=
  match QuizBank.generate t seed with
  | .ok _ => none
  | .error e => some ⟨if seed.isEmpty then none else some seed, e⟩

/-- What goes wrong first with an entry, if anything does. -/
def fault? (e : Entry) (suffixes : List String) : Option Fault :=
  match e.requireTemplate with
  | .error error => some ⟨none, error⟩
  | .ok t => (seeds e.id suffixes).findSome? (seedFault? t)

end Entry

/-- A failed entry in a report. -/
structure Failure where
  file : String
  id : Option String
  fault : Fault
  deriving DecidableEq

/-- The result of a validation. -/
structure Report where
  total : Nat := 0
  passed : Nat := 0
  failures : List Failure := []
  deriving DecidableEq

namespace Report

/-- Does no entry fail? -/
def isSuccess (r : Report) : Bool := r.failures.isEmpty

/-- The report with one more entry of a file. -/
def add (r : Report) (file : String) (id : Option String) : Option Fault → Report
  | none => { r with total := r.total + 1, passed := r.passed + 1 }
  | some fault => { r with total := r.total + 1, failures := r.failures ++ [⟨file, id, fault⟩] }

/-- The report on banks, entry by entry. -/
def ofBanks (suffixes : List String) (banks : List Bank) : Report :=
  banks.foldl (fun r bank =>
    bank.entries.foldl (fun r e => r.add bank.file e.id (e.fault? suffixes)) r) {}

/-- The JSON form of a text that may be missing. -/
def optionalText (s : Option String) : Json := (s.map Json.text).getD .null

/-- The JSON form of a failure. -/
def failureToJson (f : Failure) : Json :=
  .object [
    ("file", .text f.file), ("id", optionalText f.id), ("seed", optionalText f.fault.seed),
    ("kind", .text f.fault.error.kind), ("message", .text f.fault.error.message)]

/-- The JSON form of a report. -/
def toJson (r : Report) : Json :=
  .object [
    ("total", .number (.natural r.total)), ("passed", .number (.natural r.passed)),
    ("failures", .array (r.failures.map failureToJson))]

end Report

/-- Validates the banks that a configuration chooses. -/
def validate (fs : FileSystem) (c : Config) : Except Error Report :=
  match load fs (.ofText c.dataDir) c.files with
  | .error e => .error e
  | .ok banks => .ok (Report.ofBanks c.seedSuffixes banks)

end Bank
end QuizBank

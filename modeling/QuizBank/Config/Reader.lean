import QuizBank.Config
import QuizBank.Config.Environment
import QuizBank.Error
import QuizBank.Toml.Reader

/-!
# Reading a configuration

A configuration is a TOML text with the tables `bank`, `validate` and `snapshot`. All of them and
all of their keys may be missing, and other keys are ignored. Environment variables are put in
before the text is read.
-/

namespace QuizBank

namespace Toml

/-- The text of a value that is a text. -/
def text? : Toml → Option String
  | text s => some s
  | _ => none

/-- The texts of an array of texts. -/
def texts? : Toml → Option (List String)
  | array _ items => items.mapM text?
  | _ => none

/-- The number of a value that is a count: not negative, and no more than 64 bits hold. -/
def count? : Toml → Option Nat
  | integer n => if 0 ≤ n ∧ n < Nat.pow 2 64 then some n.toNat else none
  | _ => none

mutual

/-- Has every part of the tree a value? -/
def isRepresentable : Toml → Bool
  | unrepresentable => false
  | array _ items => allRepresentable items
  | table _ entries => entriesRepresentable entries
  | _ => true

/-- `isRepresentable` for the items of an array. -/
def allRepresentable : List Toml → Bool
  | [] => true
  | t :: rest => isRepresentable t && allRepresentable rest

/-- `isRepresentable` for the values of a table. -/
def entriesRepresentable : List (String × Toml) → Bool
  | [] => true
  | (_, t) :: rest => isRepresentable t && entriesRepresentable rest

end

/-- Reads a record: a table with the record's keys among others, or an array with the values of the
keys in order, of which the first `needed` must be there. A date has no key of the record. -/
def readRecord {ρ : Type} (keys : List String) (needed : Nat)
    (assign : ρ → String → Toml → Option ρ) (start : ρ) : Toml → Option ρ
  | table _ entries => entries.foldlM (fun r e => assign r e.1 e.2) start
  | array _ items =>
    if items.length < needed then none
    else (keys.zip items).foldlM (fun r e => assign r e.1 e.2) start
  | moment _ => some start
  | _ => none

/-- What a key without meaning does to a record: nothing, if its value can be read at all. -/
def ignore {ρ : Type} (r : ρ) (value : Toml) : Option ρ :=
  if value.isRepresentable then some r else none

end Toml

namespace Config

/-- Gives a setting of the banks its value. -/
def assignBank (c : Config) (key : String) (value : Toml) : Option Config :=
  match key with
  | "data_dir" => value.text?.map fun dataDir => { c with dataDir }
  | "files" => value.texts?.map fun files => { c with files }
  | _ => value.ignore c

/-- Gives a setting of the validation its value. -/
def assignValidate (c : Config) (key : String) (value : Toml) : Option Config :=
  match key with
  | "seed_suffixes" => value.texts?.map fun seedSuffixes => { c with seedSuffixes }
  | "concurrency" => value.count?.map fun concurrency => { c with concurrency }
  | _ => value.ignore c

/-- Gives a setting of the snapshot its value. -/
def assignSnapshot (c : Config) (key : String) (value : Toml) : Option Config :=
  match key with
  | "per_file" => value.count?.map fun perFile => { c with perFile }
  | "output" => value.text?.map fun output => { c with output }
  | "seed_prefix" => value.text?.map fun seedPrefix => { c with seedPrefix := some seedPrefix }
  | _ => value.ignore c

/-- Reads the settings under a key of the whole text. An array of snapshot settings has all of them,
the others may be short. -/
def assignTable (c : Config) (key : String) (value : Toml) : Option Config :=
  match key with
  | "bank" => value.readRecord ["data_dir", "files"] 0 assignBank c
  | "validate" => value.readRecord ["seed_suffixes", "concurrency"] 0 assignValidate c
  | "snapshot" => value.readRecord ["per_file", "output", "seed_prefix"] 3 assignSnapshot c
  | _ => value.ignore c

/-- The settings that a TOML tree gives. -/
def ofToml (t : Toml) : Option Config := t.readRecord [] 0 assignTable .default

/-- The settings that a text gives once the environment variables are put in. What is wrong with a
text, and at which line, is worded by the library that reads TOML; the two fixed messages here stand
for what it says of a text that is not well formed, and of one whose values do not fit. -/
def ofText (env : Environment) (text : String) : Except Error Config :=
  match Toml.parse? (env.expand text) with
  | none => .error (.config "toml_parsing" "TOML parsing error: the text is not well formed")
  | some t =>
    match ofToml t with
    | none => .error (.config "toml_parsing" "TOML parsing error: a value is of the wrong kind")
    | some c => .ok c

end Config
end QuizBank

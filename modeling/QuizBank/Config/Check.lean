import QuizBank.Config
import QuizBank.Error
import QuizBank.File.Path
import QuizBank.Text.Classes

/-!
# Checks of a configuration

Settings that can be read may still make no sense. `Config.check` tells the first fault: the choice
of the banks is checked first, then the seed suffixes, the concurrency and the snapshot.
-/

namespace QuizBank
namespace Config

/-- Complains about the value of a setting. -/
def invalid {α : Type} (field value reason : String) : Except Error α :=
  .error (.configValue field value reason)

/-- Has what the path leads to the extension of a bank, in either case? -/
def isBankPath (p : Path) : Bool :=
  match p.extension? with
  | some e => Text.equalsIgnoringCase e "json"
  | none => false

/-- Why a bank file cannot be chosen, if it cannot. The files before it come along. -/
def fileFault? (earlier : List String) (file : String) : Option String :=
  let path := Path.ofText file
  if !isBankPath path then some "bank files must be .json"
  else if path.absolute || path.leadsUp then some "must stay inside bank.data_dir"
  else if earlier.contains file then some "listed more than once"
  else none

/-- Checks the bank files one after the other. -/
def checkFiles (earlier : List String) : List String → Except Error Unit
  | [] => .ok ()
  | file :: rest =>
    match fileFault? earlier file with
    | some reason => invalid "bank.files" file reason
    | none => checkFiles (earlier ++ [file]) rest

/-- Checks the choice of the banks: a directory, and files that stay inside it. -/
def checkBanks (dataDir : String) (files : List String) : Except Error Unit :=
  if Text.isBlankText dataDir || dataDir.toList.contains '\x00' then
    invalid "bank.data_dir" dataDir "must name a directory"
  else checkFiles [] files

/-- The first text that stands in the list a second time. -/
def firstRepeated (earlier : List String) : List String → Option String
  | [] => none
  | s :: rest => if earlier.contains s then some s else firstRepeated (earlier ++ [s]) rest

/-- Checks the seed suffixes: there is one at least, and none stands there twice. -/
def checkSuffixes (suffixes : List String) : Except Error Unit :=
  if suffixes.isEmpty then .error (.missingConfig "validate.seed_suffixes")
  else
    match firstRepeated [] suffixes with
    | some s => invalid "validate.seed_suffixes" s "duplicate seed suffix"
    | none => .ok ()

/-- How many entries may be validated at a time. -/
def maxConcurrency : Nat := 256

/-- Checks the number of entries that are validated at a time. -/
def checkConcurrency (n : Nat) : Except Error Unit :=
  if 1 ≤ n ∧ n ≤ maxConcurrency then .ok ()
  else
    invalid "validate.concurrency" (Nat.repr n)
      ("must be between 1 and " ++ Nat.repr maxConcurrency)

/-- Checks the settings of a snapshot. -/
def checkSnapshot (perFile : Nat) (output : String) (seedPrefix : Option String) :
    Except Error Unit :=
  if perFile = 0 then
    invalid "snapshot.per_file" (Nat.repr perFile) "must take at least one entry per bank"
  else if output.toList.contains '\x00' || !isBankPath (Path.ofText output) then
    invalid "snapshot.output" output "snapshot output must be a .json file"
  else
    match seedPrefix with
    | some p =>
      if Text.isBlankText p then
        invalid "snapshot.seed_prefix" p "leave unset to use today's date"
      else .ok ()
    | none => .ok ()

/-- Checks all settings. -/
def check (c : Config) : Except Error Unit :=
  match checkBanks c.dataDir c.files with
  | .error e => .error e
  | .ok () =>
    match checkSuffixes c.seedSuffixes with
    | .error e => .error e
    | .ok () =>
      match checkConcurrency c.concurrency with
      | .error e => .error e
      | .ok () => checkSnapshot c.perFile c.output c.seedPrefix

end Config
end QuizBank

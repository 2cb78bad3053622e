import QuizBank.Bank.Snapshot
import QuizBank.Bank.Validation
import QuizBank.Command.Arguments
import QuizBank.Config.Check
import QuizBank.Config.Reader

/-!
# Runs of the program

A run starts from files, environment variables and the day, and ends with an exit code, two texts
and files. The configuration is read and checked before the command does anything.
-/

namespace QuizBank

/-- What a run starts from. -/
structure Surroundings where
  files : FileSystem
  environment : Environment
  today : String

/-- How a run ends: its exit code, what it prints, what it complains about, and the files. The
complaint goes to the error stream. Log records go there too, as far as logging is on; they are no
part of it. -/
structure Outcome where
  code : Nat
  output : String
  complaint : String
  files : FileSystem

namespace Command

/-- A text with a line end. -/
def line (s : String) : String := s ++ "\n"

/-- The outcome of a run that fails with a complaint. -/
def fail (code : Nat) (complaint : String) (files : FileSystem) : Outcome :=
  ⟨code, "", complaint, files⟩

/-- The outcome of a command that ends with an error. -/
def failWith (e : Error) (files : FileSystem) : Outcome :=
  fail e.severity.exitCode
    (line ("❌ " ++ e.friendly) ++ line ("💡 Suggestion: " ++ e.suggestion)) files

/-- The file of the configuration when none is named. -/
def defaultConfigFile : String := "itemgen.toml"

/-- The configuration in a file. -/
def readConfig (s : Surroundings) (file : String) : Except Error Config :=
  match s.files.read (.ofText file) with
  | .error fault => .error (.ofFault fault)
  | .ok text => Config.ofText s.environment text

/-- The configuration of a run: that of the named file, else that of the file with the usual name if
there is one, else the default. -/
def loadConfig (s : Surroundings) (file : Option String) : Except Error Config :=
  match file with
  | some file => readConfig s file
  | none =>
    if s.files.exists (.ofText defaultConfigFile) then readConfig s defaultConfigFile
    else .ok .default

/-- Makes one item and prints it. -/
def runGenerate (files : FileSystem) (bank id seed : String) : Outcome :=
  match (Path.ofText bank).fileName? with
  | none => fail 1 (line ("Error: invalid bank path: " ++ bank)) files
  | some file =>
    match Bank.generate files ((Path.parent? bank).getD (.ofText ".")) file id seed with
    | .ok item => ⟨0, line item.toJson.pretty, "", files⟩
    | .error e => failWith e files

/-- How many failures are listed at most. -/
def maxListed : Nat := 50

/-- The line of a failure. -/
def failureLine (f : Bank.Failure) : String :=
  line ("- [" ++ f.file ++ "] " ++ f.id.getD "<no id>" ++ " → " ++ f.fault.error.kind ++ ": " ++
    f.fault.error.message)

/-- The complaint of a report with failures. -/
def failureText (r : Bank.Report) : String :=
  line "❌ Validation failed." ++
  String.join ((r.failures.take maxListed).map failureLine) ++
  line ("\n" ++ Nat.repr r.passed ++ "/" ++ Nat.repr r.total ++ " passed; " ++
    Nat.repr r.failures.length ++ " failed.")

/-- Validates banks and prints the report. -/
def runValidate (files : FileSystem) (c : Config) : Outcome :=
  match Bank.validate files c with
  | .error e => failWith e files
  | .ok report =>
    if report.isSuccess then
      ⟨0, line ("✅ All good: " ++ Nat.repr report.passed ++ "/" ++ Nat.repr report.total ++
        " templates validated."), "", files⟩
    else fail 1 (failureText report) files

/-- Writes a snapshot and prints where it is. -/
def runSnapshot (s : Surroundings) (c : Config) : Outcome :=
  match Bank.writeSnapshot s.files c (Bank.seedPrefix c s.today) with
  | (.ok path, files) => ⟨0, line ("Wrote " ++ path), "", files⟩
  | (.error e, files) => failWith e files

/-- Runs a command with a configuration. -/
def runWith (s : Surroundings) (c : Config) : Command → Outcome
  | generate bank id seed => runGenerate s.files bank id seed
  | validate .. => runValidate s.files c
  | snapshot .. => runSnapshot s c

/-- Reads and checks the configuration and runs the command. -/
def runInvocation (s : Surroundings) (i : Invocation) : Outcome :=
  match loadConfig s i.config with
  | .error e =>
    fail 1 (line ("❌ Failed to load config: " ++ e.message) ++
      line "💡 Make sure the file exists and is valid TOML format") s.files
  | .ok c =>
    let c := i.command.override c
    match c.check with
    | .error e => fail 1 (line ("❌ " ++ e.friendly)) s.files
    | .ok () => runWith s c i.command

/-- How the program is called, in short. The wording of help belongs to the library that reads the
arguments, and this text stands for it: what counts is which output it goes to, and the exit code.
-/
def usage : String :=
  line "Usage: itemgen [--config FILE] [--verbose] [--log-json] COMMAND" ++
  line "  generate --bank FILE --id ID [--seed SEED]" ++
  line "  validate [--data-dir DIR] [--files A,B] [--concurrency N]" ++
  line "  snapshot [--data-dir DIR] [--per-file N] [--seed-prefix TEXT] [--output FILE]"

/-- Runs the program. -/
def run (s : Surroundings) (arguments : List String) : Outcome :=
  match Arguments.read arguments with
  | .error .help => ⟨0, usage, "", s.files⟩
  | .error .usage => fail 2 usage s.files
  | .ok i => runInvocation s i

end Command
end QuizBank

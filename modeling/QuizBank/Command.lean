import QuizBank.Config

/-!
# Commands

What a run of the program is asked to do, and which settings it takes in place of those of the
configuration.
-/

namespace QuizBank

/-- A command: make one item, validate banks, or write a snapshot. Settings that are not given are
`none` or empty. -/
inductive Command
  | generate (bank id seed : String)
  | validate (dataDir : Option String) (files : List String) (concurrency : Option Nat)
  | snapshot (dataDir : Option String) (perFile : Option Nat) (seedPrefix output : Option String)
  deriving DecidableEq

/-- A command, and the file of the configuration if one is named. -/
structure Invocation where
  config : Option String
  command : Command
  deriving DecidableEq

/-- The configuration with the settings of a command in place. -/
def Command.override (c : Config) : Command → Config
  | generate .. => c
  | validate dataDir files concurrency =>
    { c with
      dataDir := dataDir.getD c.dataDir
      files := if files.isEmpty then c.files else files
      concurrency := concurrency.getD c.concurrency }
  | snapshot dataDir perFile seedPrefix output =>
    { c with
      dataDir := dataDir.getD c.dataDir
      perFile := perFile.getD c.perFile
      seedPrefix := seedPrefix.or c.seedPrefix
      output := output.getD c.output }

end QuizBank

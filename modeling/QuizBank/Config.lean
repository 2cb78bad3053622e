/-!
# Configuration

Where the banks are, how they are validated and how a snapshot is taken. Each setting has a default
of its own.
-/

namespace QuizBank

/-- The settings of a run. No files at all means every bank of the directory. Without a seed prefix
the day of the run is the prefix. -/
structure Config where
  dataDir : String := "data"
  files : List String := []
  seedSuffixes : List String := ["", "-B"]
  concurrency : Nat := 4
  perFile : Nat := 5
  output : String := "SNAPSHOT.json"
  seedPrefix : Option String := none
  deriving DecidableEq

/-- The default settings. -/
def Config.default : Config := {}

instance : Inhabited Config := ⟨.default⟩

end QuizBank

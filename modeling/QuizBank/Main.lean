import QuizBank.Command.Run
import QuizBank.Day
import QuizBank.File.Changes
import Std.Time.DateTime.Timestamp

/-!
# The program

The outer layer: it takes from the disk and the environment what a run needs, runs it on these
values, and puts the changes back.
-/

namespace QuizBank
namespace Disk

/-- The path of a place on the disk. -/
def pathOf (place : List String) : String := "/" ++ String.intercalate "/" place

/-- Puts what stands at a place on the disk into a file system: a directory without entries, or a
file without text. -/
def loadNode (fs : FileSystem) (place : List String) : IO FileSystem := do
  if (fs.node? place).isSome then return fs
  let path := (← IO.currentDir) / pathOf place
  if ← path.isDir then return fs.put place (.directory [])
  if ← path.pathExists then return fs.put place (.file "")
  return fs

/-- Puts the text of a file on the disk into a file system. -/
def loadText (fs : FileSystem) (place : List String) : IO FileSystem := do
  match fs.node? place with
  | some (.file _) => return fs.put place (.file (← IO.FS.readFile (pathOf place)))
  | _ => return fs

/-- Puts everything on a path into a file system, the end of it with its text if that is wanted. -/
def loadPath (fs : FileSystem) (path : Path) (withText : Bool) : IO FileSystem := do
  let mut fs := fs
  let mut place := fs.start path
  for name in path.segments do
    if name = ".." then place := place.dropLast
    else if name ≠ "." then
      place := place ++ [name]
      fs ← loadNode fs place
  if withText then loadText fs place else return fs

/-- Puts the entries of a directory into a file system, those that are banks with their texts. -/
def loadEntries (fs : FileSystem) (path : Path) : IO FileSystem := do
  let mut fs ← loadPath fs path false
  match fs.resolve path with
  | .error _ => return fs
  | .ok place =>
    let directory := (← IO.currentDir) / pathOf place
    if ← directory.isDir then
      for entry in ← directory.readDir do
        let inside := place ++ [entry.fileName]
        fs ← loadNode fs inside
        if Bank.isBank (.text entry.fileName, .file "") then fs ← loadText fs inside
    return fs

/-- Puts the banks that a configuration chooses into a file system. -/
def loadBanks (fs : FileSystem) (c : Config) : IO FileSystem := do
  let directory := Path.ofText c.dataDir
  if c.files.isEmpty then loadEntries fs directory
  else c.files.foldlM (fun fs file => loadPath fs (directory.join (.ofText file)) true) fs

/-- Puts what a command needs into a file system. -/
def loadFor (fs : FileSystem) (c : Config) : Command → IO FileSystem
  | .generate bank _ _ => loadPath fs (.ofText bank) true
  | .validate .. => loadBanks fs c
  | .snapshot .. => do loadPath (← loadBanks fs c) (.ofText c.output) false

/-- The values of the variables that a text refers to. -/
def environmentFor (text : String) : IO Environment := do
  let mut env : Environment := []
  for name in Environment.namesIn text do
    if let some value ← IO.getEnv name then env := env ++ [(name, value)]
  return env

/-- What a run starts from. -/
def surroundings (arguments : List String) : IO Surroundings := do
  let here := (Path.ofText (← IO.currentDir).toString).segments
  let fs : FileSystem := ⟨Node.insertAt (.directory []) here (.directory []), here⟩
  let now ← Std.Time.Timestamp.now
  let today := (Day.ofCount (now.toSecondsSinceUnixEpoch.val / 86400)).text
  match Arguments.read arguments with
  | .error _ => return ⟨fs, [], today⟩
  | .ok invocation =>
    let file := Path.ofText (invocation.config.getD Command.defaultConfigFile)
    let fs ← loadPath fs file true
    let environment ← match fs.read file with
      | .ok text => environmentFor text
      | .error _ => pure []
    match Command.loadConfig ⟨fs, environment, today⟩ invocation.config with
    | .error _ => return ⟨fs, environment, today⟩
    | .ok c =>
      let fs ← loadFor fs (invocation.command.override c) invocation.command
      return ⟨fs, environment, today⟩

/-- Carries out a change. -/
def apply : Change → IO Unit
  | .directory place => IO.FS.createDir (pathOf place)
  | .file place content => IO.FS.writeFile (pathOf place) content

/-- Runs the program. -/
def run (arguments : List String) : IO Outcome := do
  let s ← surroundings arguments
  let outcome := Command.run s arguments
  for change in Change.between s.files outcome.files do apply change
  return outcome

end Disk
end QuizBank

/-- Runs the program, prints what it has to say and returns its exit code. -/
def main (arguments : List String) : IO UInt32 := do
  let outcome ← try QuizBank.Disk.run arguments
    catch e =>
      pure (QuizBank.Command.failWith (.io (toString e)) ⟨.directory [], []⟩)
  IO.print outcome.output
  IO.eprint outcome.complaint
  return UInt32.ofNat outcome.code

import QuizBank.Bank.Generation
import QuizBank.Config
import QuizBank.Json.Printer

/-!
# Snapshots

A snapshot holds one record for each of the first entries of every bank: the item of the entry, or
why there is none. The seed of a record joins the prefix of the snapshot and the id of the entry, so
a snapshot with the same prefix can be compared with an earlier one.
-/

namespace QuizBank

/-- A record of a snapshot. -/
inductive SnapshotRecord
  | generated (file : String) (id : Option String) (stem : String) (answer : Value)
      (distractors : List Value)
  | failed (file : String) (id : Option String) (error : String)

namespace SnapshotRecord

/-- The JSON form of an id. -/
def idToJson (id : Option String) : Json := (id.map Json.text).getD .null

/-- The JSON form of a record. -/
def toJson : SnapshotRecord → Json
  | generated file id stem answer distractors =>
    .object [
      ("file", .text file), ("id", idToJson id), ("stem", .text stem),
      ("answer", answer.toJson), ("distractors", Value.listToJson distractors)]
  | failed file id error =>
    .object [("file", .text file), ("id", idToJson id), ("error", .text error)]

end SnapshotRecord

namespace Bank

/-- The seed of a record. -/
def snapshotSeed (seedPrefix : String) (id : Option String) : String :=
  seedPrefix ++ "-" ++ id.getD "undefined"

/-- The record of an entry. -/
def Entry.record (file seedPrefix : String) (e : Entry) : SnapshotRecord :=
  match e.generate (snapshotSeed seedPrefix e.id) with
  | .ok item => .generated file e.id item.stem item.answer item.distractors
  | .error error => .failed file e.id error.message

/-- The records of the first entries of a bank. -/
def records (perFile : Nat) (seedPrefix : String) (b : Bank) : List SnapshotRecord :=
  (b.entries.take perFile).map (Entry.record b.file seedPrefix)

/-- The snapshot of the banks that a configuration chooses. -/
def snapshot (fs : FileSystem) (c : Config) (seedPrefix : String) :
    Except Error (List SnapshotRecord) :=
  match load fs (.ofText c.dataDir) c.files with
  | .error e => .error e
  | .ok banks => .ok (banks.flatMap (records c.perFile seedPrefix))

/-- The text of a snapshot. -/
def snapshotText (records : List SnapshotRecord) : String :=
  (Json.array (records.map SnapshotRecord.toJson)).pretty

/-- Writes a text to a file. The directories above it are made if they are missing. -/
def writeFile (fs : FileSystem) (path : String) (text : String) : Except Error Unit × FileSystem :=
  let (made, fs) : Except IoFault Unit × FileSystem := match Path.parent? path with
    | some parent => if parent.isEmpty then (.ok (), fs) else fs.makeDirectories parent
    | none => (.ok (), fs)
  match made with
  | .error fault => (.error (.ofFault fault), fs)
  | .ok () =>
    match fs.write (.ofText path) text with
    | .error fault => (.error (.ofFault fault), fs)
    | .ok fs => (.ok (), fs)

/-- Takes a snapshot and writes it to the file that the configuration names. The result is that
name, with the file system afterwards. -/
def writeSnapshot (fs : FileSystem) (c : Config) (seedPrefix : String) :
    Except Error String × FileSystem :=
  match snapshot fs c seedPrefix with
  | .error e => (.error e, fs)
  | .ok records =>
    match writeFile fs c.output (snapshotText records) with
    | (.error e, fs) => (.error e, fs)
    | (.ok (), fs) => (.ok c.output, fs)

/-- The seed prefix of a snapshot: the configured one, or else the day. -/
def seedPrefix (c : Config) (today : String) : String := c.seedPrefix.getD today

end Bank
end QuizBank

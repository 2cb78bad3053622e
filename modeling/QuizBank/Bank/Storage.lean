import QuizBank.Bank
import QuizBank.File.Tree

/-!
# Banks in a directory

The banks of a directory are its files with the extension `json`, sorted by name; those whose name
is no text, or whose path is too long to be looked at, are left out. A bank is also read by a path
that starts in the directory.
-/

namespace QuizBank

/-- The fault of a file operation as an error. -/
def Error.ofFault (fault : IoFault) : Error := .io fault.message

namespace Bank

/-- Is the entry of a directory a bank: a file, or a link to one, with the extension of banks? -/
def isBank : FileName × Node → Bool
  | (name, .file _) => Path.extensionOf? name.chars == some "json".toList
  | (_, .directory _) => false

/-- Can the entry of a directory be looked at? Its path is that of the directory with the name
behind it, and a path that is too long leads nowhere. -/
def isInReach (directory : Path) (name : FileName) : Bool :=
  decide (directory.sizeInFront + name.size ≤ FileSystem.maxPath)

/-- The names of the banks among the entries of a directory. A file that cannot be looked at does
not count as one, and a name that is no text is not listed. -/
def namesIn (directory : Path) (entries : List (FileName × Node)) : List String :=
  ((entries.filter fun e => isInReach directory e.1 && isBank e).filterMap
    (·.1.text?)).mergeSort (· ≤ ·)

/-- The names of the banks of a directory. -/
def list (fs : FileSystem) (directory : Path) : Except Error (List String) :=
  match fs.list directory with
  | .error fault => .error (.ofFault fault)
  | .ok entries => .ok (namesIn directory entries)

/-- Reads a bank of a directory. -/
def read (fs : FileSystem) (directory : Path) (file : String) : Except Error Bank :=
  match fs.read (directory.join (.ofText file)) with
  | .error fault => .error (.ofFault fault)
  | .ok text => ofText file text

/-- Reads banks one after the other, up to the first that cannot be read. -/
def readAll (fs : FileSystem) (directory : Path) : List String → Except Error (List Bank)
  | [] => .ok []
  | file :: rest =>
    match read fs directory file with
    | .error e => .error e
    | .ok bank =>
      match readAll fs directory rest with
      | .error e => .error e
      | .ok banks => .ok (bank :: banks)

/-- The chosen banks of a directory, or all of them if none is chosen. -/
def load (fs : FileSystem) (directory : Path) (files : List String) : Except Error (List Bank) :=
  if files.isEmpty then
    match list fs directory with
    | .error e => .error e
    | .ok names => readAll fs directory names
  else readAll fs directory files

end Bank
end QuizBank

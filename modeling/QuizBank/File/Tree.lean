import QuizBank.File.Path
import QuizBank.OrderedMap

/-!
# Files

A file system as a value: a tree of directories and files, and the place in it that relative paths
start from. Operations walk a path name by name from that place, and say what went wrong the way the
operating system does. Names are bytes: most are texts, and only those can stand in a path.
-/

namespace QuizBank

/-- Why a file operation fails. -/
inductive IoFault
  | notFound
  | notADirectory
  | isADirectory
  | exists
  | nameTooLong
  | badName
  deriving DecidableEq

/-- The text of a fault. -/
def IoFault.message : IoFault → String
  | notFound => "No such file or directory (os error 2)"
  | notADirectory => "Not a directory (os error 20)"
  | isADirectory => "Is a directory (os error 21)"
  | «exists» => "File exists (os error 17)"
  | nameTooLong => "File name too long (os error 36)"
  | badName => "file name contained an unexpected NUL byte"

/-- The name of an entry of a directory: a text, or bytes that are not the UTF-8 form of any text. A
path is a text, so no path leads to an entry of the second kind. -/
inductive FileName
  | text (s : String)
  | other (bytes : List UInt8) (noText : ¬ bytes.toByteArray.IsValidUTF8)
  deriving DecidableEq

instance : Coe String FileName := ⟨.text⟩

namespace FileName

/-- The name as a text, if it is one. -/
def text? : FileName → Option String
  | text s => some s
  | other _ _ => none

theorem text?_eq_some_iff {name : FileName} {s : String} :
    name.text? = some s ↔ name = .text s := by
  cases name <;> simp [text?]

/-- The characters of a name. A byte of a name that is no text counts as the character with its
number, which tells where its ASCII characters stand. -/
def chars : FileName → List Char
  | text s => s.toList
  | other bytes _ => bytes.map fun b => Char.ofNat b.toNat

/-- The length of a name in bytes. -/
def size : FileName → Nat
  | text s => s.utf8ByteSize
  | other bytes _ => bytes.length

end FileName

/-- A file with its text, or a directory with its entries. Links are followed, so an entry that is a
link stands here as what it leads to; one that leads nowhere is left out. -/
inductive Node
  | file (content : String)
  | directory (entries : List (FileName × Node))

instance : Inhabited Node := ⟨.directory []⟩

namespace Node

/-- The node that a list of names leads to. -/
def descend? : Node → List String → Option Node
  | node, [] => some node
  | file _, _ :: _ => none
  | directory entries, name :: rest => (entries.lookup (.text name)).bind (descend? · rest)

/-- Puts a node where a list of names leads to. Directories on the way are made if they are
missing; a file on the way gives way to a directory. -/
def insertAt (node : Node) : List String → Node → Node
  | [], _ => node
  | name :: rest, file _ => directory [(.text name, insertAt node rest (directory []))]
  | name :: rest, directory entries =>
    directory (OrderedMap.insertEntry (.text name)
      (insertAt node rest ((entries.lookup (.text name)).getD (directory []))) entries)

end Node

/-- A file system: the root directory, and the names from there to the working directory. -/
structure FileSystem where
  root : Node
  workingDirectory : List String

namespace FileSystem

/-- The node at a place. -/
def node? (fs : FileSystem) (place : List String) : Option Node := fs.root.descend? place

/-- The longest name, in bytes. -/
def maxName : Nat := 255

/-- The longest path, in bytes. -/
def maxPath : Nat := 4095

/-- Walks from a place along names, and tells the place at the end. -/
def walk (fs : FileSystem) (place : List String) : List String → Except IoFault (List String)
  | [] => .ok place
  | name :: rest =>
    match fs.node? place with
    | none => .error .notFound
    | some (.file _) => .error .notADirectory
    | some (.directory entries) =>
      if name = "." then walk fs place rest
      else if name = ".." then walk fs place.dropLast rest
      else if maxName < name.utf8ByteSize then .error .nameTooLong
      else if (entries.lookup (.text name)).isSome then walk fs (place ++ [name]) rest
      else .error .notFound

/-- Where a path starts. -/
def start (fs : FileSystem) (p : Path) : List String :=
  if p.absolute then [] else fs.workingDirectory

/-- Does a name of the path hold a character that no name may hold? -/
def hasBadName (p : Path) : Bool := p.segments.any fun s => s.toList.contains '\x00'

/-- The place that a path leads to. -/
def resolve (fs : FileSystem) (p : Path) : Except IoFault (List String) :=
  if hasBadName p then .error .badName
  else if maxPath < p.size then .error .nameTooLong
  else if p.isEmpty then .error .notFound
  else walk fs (fs.start p) (if p.endsInSlash then p.segments ++ ["."] else p.segments)

/-- The node that a path leads to. -/
def nodeAt (fs : FileSystem) (p : Path) : Except IoFault Node :=
  match fs.resolve p with
  | .error e => .error e
  | .ok place =>
    match fs.node? place with
    | some node => .ok node
    | none => .error .notFound

/-- Does the path lead to anything? -/
def «exists» (fs : FileSystem) (p : Path) : Bool := (fs.nodeAt p).isOk

/-- Does the path lead to a directory? -/
def isDirectory (fs : FileSystem) (p : Path) : Bool :=
  match fs.nodeAt p with
  | .ok (.directory _) => true
  | _ => false

/-- The text of a file. -/
def read (fs : FileSystem) (p : Path) : Except IoFault String :=
  match fs.nodeAt p with
  | .error e => .error e
  | .ok (.file content) => .ok content
  | .ok (.directory _) => .error .isADirectory

/-- The entries of a directory. -/
def list (fs : FileSystem) (p : Path) : Except IoFault (List (FileName × Node)) :=
  match fs.nodeAt p with
  | .error e => .error e
  | .ok (.file _) => .error .notADirectory
  | .ok (.directory entries) => .ok entries

/-- The file system with a node put at a place. -/
def put (fs : FileSystem) (place : List String) (node : Node) : FileSystem :=
  { fs with root := Node.insertAt node place fs.root }

/-- The place of the directory that a new entry goes into, and the name of the entry; `none` for the
name if the path ends in `.` or `..` or is a root. -/
def target (fs : FileSystem) (p : Path) : Except IoFault (List String × Option String) :=
  if hasBadName p then .error .badName
  else if maxPath < p.size then .error .nameTooLong
  else if p.isEmpty then .error .notFound
  else
    match p.segments.getLast? with
    | none => .ok ([], none)
    | some name =>
      match walk fs (fs.start p) p.segments.dropLast with
      | .error e => .error e
      | .ok place =>
        match fs.node? place with
        | some (.directory _) =>
          if name = "." ∨ name = ".." then .ok (place, none)
          else if maxName < name.utf8ByteSize then .error .nameTooLong
          else .ok (place, some name)
        | some (.file _) => .error .notADirectory
        | none => .error .notFound

/-- Writes a file, in place of one that is there or as a new one in a directory that is there. -/
def write (fs : FileSystem) (p : Path) (content : String) : Except IoFault FileSystem :=
  match fs.target p with
  | .error e => .error e
  | .ok (_, none) => .error .isADirectory
  | .ok (place, some name) =>
    if p.endsInSlash then .error .isADirectory
    else
      match fs.node? (place ++ [name]) with
      | some (.directory _) => .error .isADirectory
      | _ => .ok (fs.put (place ++ [name]) (.file content))

/-- Makes a directory in one that is there. -/
def makeDirectory (fs : FileSystem) (p : Path) : Except IoFault FileSystem :=
  match fs.target p with
  | .error e => .error e
  | .ok (_, none) => .error .exists
  | .ok (place, some name) =>
    match fs.node? (place ++ [name]) with
    | some _ => .error .exists
    | none => .ok (fs.put (place ++ [name]) (.directory []))

/-- Makes a directory and those above it that are missing; the names come from the last to the
first. What was made before a failure stays. The paths above are shorter than the whole one, and are
made only if that is not too long; so its size can stand for theirs. -/
def makeAll (fs : FileSystem) (absolute : Bool) (size : Nat) :
    List String → Except IoFault Unit × FileSystem
  | [] => (.ok (), fs)
  | name :: above =>
    let p : Path := ⟨absolute, (name :: above).reverse, false, size⟩
    match fs.makeDirectory p with
    | .ok fs => (.ok (), fs)
    | .error .notFound =>
      match makeAll fs absolute size above with
      | (.error e, fs) => (.error e, fs)
      | (.ok (), fs) =>
        match fs.makeDirectory p with
        | .ok fs => (.ok (), fs)
        | .error e => if fs.isDirectory p then (.ok (), fs) else (.error e, fs)
    | .error e => if fs.isDirectory p then (.ok (), fs) else (.error e, fs)

/-- Makes the directory of a path and those above it, as far as they are missing. -/
def makeDirectories (fs : FileSystem) (p : Path) : Except IoFault Unit × FileSystem :=
  makeAll fs p.absolute p.size p.components.reverse

end FileSystem
end QuizBank

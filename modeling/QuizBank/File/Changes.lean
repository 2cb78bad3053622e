import QuizBank.File.Tree

/-!
# Changes of files

What has to be made and written so that one tree of files becomes another. Nothing is ever removed.
-/

namespace QuizBank

/-- A directory to make, or a file to write, at a place. -/
inductive Change
  | directory (place : List String)
  | file (place : List String) (content : String)
  deriving DecidableEq

namespace Change

mutual

/-- The changes that make a node out of what stands at a place so far. -/
def ofNode (place : List String) (old : Option Node) : Node → List Change
  | .file content =>
    match old with
    | some (.file c) => if c = content then [] else [file place content]
    | _ => [file place content]
  | .directory entries =>
    match old with
    | some (.directory es) => ofEntries place es entries
    | _ => directory place :: ofEntries place [] entries

/-- The changes that make the entries of a directory. No operation changes an entry whose name is no
text. -/
def ofEntries (place : List String) (old : List (FileName × Node)) :
    List (FileName × Node) → List Change
  | [] => []
  | (.text name, node) :: rest =>
    ofNode (place ++ [name]) (old.lookup (.text name)) node ++ ofEntries place old rest
  | (.other _ _, _) :: rest => ofEntries place old rest

end

/-- The changes from one file system to another. -/
def between (old new : FileSystem) : List Change := ofNode [] (some old.root) new.root

end Change
end QuizBank

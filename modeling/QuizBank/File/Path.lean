/-!
# Paths

A path is read from its text once: where it starts, the names between its slashes, whether it ends
in a slash, and how long the text is. `.` and `..` are names like others here; they get their
meaning when the path is walked (`FileSystem.walk`) or taken apart (`Path.components`).
-/

namespace QuizBank

/-- A path. Its size is that of its text in bytes, with all slashes. -/
structure Path where
  absolute : Bool
  segments : List String
  endsInSlash : Bool
  size : Nat
  deriving DecidableEq

namespace Path

/-- The pieces between the slashes of a text, empty ones included. -/
def pieces : List Char → List (List Char)
  | [] => [[]]
  | c :: rest =>
    if c = '/' then [] :: pieces rest
    else
      match pieces rest with
      | [] => [[c]]
      | piece :: more => (c :: piece) :: more

/-- The path that a text denotes. Repeated slashes count as one. -/
def ofText (text : String) : Path :=
  let chars := text.toList
  ⟨chars.head? == some '/', ((pieces chars).filter (!·.isEmpty)).map String.ofList,
    chars.getLast? == some '/', text.utf8ByteSize⟩

/-- The path that leads nowhere: the empty text. -/
def isEmpty (p : Path) : Bool := !p.absolute && p.segments.isEmpty

/-- The names that matter: a `.` counts only at the start of a path that is not absolute. -/
def components (p : Path) : List String :=
  match p.absolute, p.segments with
  | false, "." :: rest => "." :: rest.filter (· != ".")
  | _, segments => segments.filter (· != ".")

/-- The name of what a path leads to, unless it ends in `.` or `..` or has no names. -/
def fileName? (p : Path) : Option String :=
  match p.components.getLast? with
  | some name => if name = "." ∨ name = ".." then none else some name
  | none => none

/-- What stands behind the last point of a name. A point at the front does not count. -/
def extensionOf? (name : List Char) : Option (List Char) :=
  let reversed := name.reverse
  match reversed.dropWhile (· != '.') with
  | [] => none
  | [_] => none
  | _ => some (reversed.takeWhile (· != '.')).reverse

/-- The extension of the name that a path leads to. -/
def extension? (p : Path) : Option String :=
  p.fileName?.bind fun name => (extensionOf? name.toList).map String.ofList

/-- Pieces of a text without those at the end that lead nowhere: empty ones and `.`. -/
def dropIdle (l : List (List Char)) : List (List Char) :=
  (l.reverse.dropWhile fun piece => piece.isEmpty || piece == ['.']).reverse

/-- What stands in front of the last name of a text. A piece at the front always counts: it is the
first name, or if it is empty the root. -/
def parentText? (text : String) : Option String :=
  match pieces text.toList with
  | [] => none
  | first :: rest =>
    match dropIdle rest with
    | [] => if first.isEmpty then none else some ""
    | names =>
      let above := dropIdle names.dropLast
      if first.isEmpty && above.isEmpty then some "/"
      else some ("/".intercalate ((first :: above).map String.ofList))

/-- The path that a text denotes without its last name; `none` for a root and for the empty text. -/
def parent? (text : String) : Option Path := (parentText? text).map ofText

example : ["b", "./b", "//b", "a//./b/", "../a/./c", "/"].map parentText? =
    [some "", some ".", some "/", some "a", some "../a", none] := by
  decide +kernel

/-- The bytes in front of what is joined to the path: those of its text, and a slash if it does not
end in one. -/
def sizeInFront (p : Path) : Nat := if p.endsInSlash || p.size == 0 then p.size else p.size + 1

theorem size_le_sizeInFront (p : Path) : p.size ≤ p.sizeInFront := by
  rw [sizeInFront]
  split <;> omega

/-- The path `p` seen from `base`: itself if it is absolute, else `base` with its names behind. -/
def join (base p : Path) : Path :=
  if p.absolute then p
  else if p.segments.isEmpty then { base with endsInSlash := true, size := base.sizeInFront }
  else ⟨base.absolute, base.segments ++ p.segments, p.endsInSlash, base.sizeInFront + p.size⟩

/-- Does some name on the path lead upwards? -/
def leadsUp (p : Path) : Bool := p.components.contains ".."

end Path
end QuizBank

import QuizBank.Number.Text
import QuizBank.Text.Quoted

/-!
# JSON

The tree of a JSON text. Objects keep their members in the order of the text, repeated names
included. `Json.canonical?` is the tree of a document that is kept for later: every scalar has a
value, nesting is bounded, and the members of an object are sorted, each name once.
-/

namespace QuizBank

/-- A JSON number. Whole numbers that fit into 64 bits, with or without sign, are kept as such; all
others are doubles. -/
inductive Json.Number
  | natural (n : Nat)
  | negative (n : Nat)
  | float (x : Float)
  deriving DecidableEq

/-- The tree of a JSON text. `unrepresentable` stands for a part that is correctly formed and has no
value: a number out of range, a text with half a surrogate pair. -/
inductive Json
  | null
  | bool (b : Bool)
  | number (n : Json.Number)
  | text (s : String)
  | array (items : List Json)
  | object (members : List (String × Json))
  | unrepresentable

namespace Json

instance : Inhabited Json := ⟨null⟩

/-- The number as a double. -/
def Number.toFloat : Number → Float
  | natural n => Float.ofNat n
  | negative n => -(Float.ofNat n)
  | float x => x

/-- The number of a value that is a number. -/
def number? : Json → Option Float
  | number n => some n.toFloat
  | _ => none

/-- The value of the first member of a name. -/
def member? (name : String) : Json → Option Json
  | object members => (members.find? fun m => m.1 == name).map Prod.snd
  | _ => none

/-- What a value is, for a message. -/
def describe : Json → String
  | null => "null"
  | bool b => "boolean `" ++ (if b then "true" else "false") ++ "`"
  | number (.natural n) => "integer `" ++ Nat.repr n ++ "`"
  | number (.negative n) => "integer `-" ++ Nat.repr n ++ "`"
  | number (.float x) => "floating point `" ++ QuizBank.Number.json x ++ "`"
  | text s => "string " ++ Text.quoted s
  | array _ => "sequence"
  | object _ => "map"
  | unrepresentable => "invalid value"

/-- Puts a member where its name belongs in a sorted list of members; a member of that name gives
way. -/
def insertMember {α : Type} (name : String) (value : α) :
    List (String × α) → List (String × α)
  | [] => [(name, value)]
  | (n, v) :: rest =>
    if name = n then (name, value) :: rest
    else if name < n then (name, value) :: (n, v) :: rest
    else (n, v) :: insertMember name value rest

/-- The members sorted by name; of a repeated name the last member counts. -/
def sortMembers {α : Type} (members : List (String × α)) : List (String × α) :=
  members.foldl (fun sorted m => insertMember m.1 m.2 sorted) []

mutual

/-- The tree with sorted members, if every part of it has a value and no more than `room` arrays
and objects stand inside each other. -/
def canonical? (room : Nat) : Json → Option Json
  | null => some null
  | bool b => some (bool b)
  | number n => some (number n)
  | text s => some (text s)
  | unrepresentable => none
  | array items =>
    match room with
    | 0 => none
    | room + 1 => (canonicalItems? room items).map array
  | object members =>
    match room with
    | 0 => none
    | room + 1 => (canonicalMembers? room members).map fun ms => object (sortMembers ms)

/-- `canonical?` for every item of an array. -/
def canonicalItems? (room : Nat) : List Json → Option (List Json)
  | [] => some []
  | item :: rest =>
    match canonical? room item, canonicalItems? room rest with
    | some item, some rest => some (item :: rest)
    | _, _ => none

/-- `canonical?` for the value of every member of an object. -/
def canonicalMembers? (room : Nat) : List (String × Json) → Option (List (String × Json))
  | [] => some []
  | (name, value) :: rest =>
    match canonical? room value, canonicalMembers? room rest with
    | some value, some rest => some ((name, value) :: rest)
    | _, _ => none

end

end Json
end QuizBank

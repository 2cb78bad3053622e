import QuizBank.OrderedMap

/-!
# TOML

The tree of a TOML text, and how its statements build it. A statement gives a key a value or opens a
table. Each table remembers how it came to be, because that decides what later statements may still
add to it.
-/

namespace QuizBank

/-- How a table came to be: by a header of its own, between braces, by a dotted key, or only because
a header names a table inside it. -/
inductive Toml.Origin
  | header
  | braces
  | dotted
  | implied
  deriving DecidableEq

/-- The tree of a TOML text. Dates and times are kept as they are written. An array may be one of
tables that headers have opened. `unrepresentable` stands for a number that is correctly written and
out of range. -/
inductive Toml
  | text (s : String)
  | integer (n : Int)
  | float (x : Float)
  | bool (b : Bool)
  | moment (written : String)
  | array (ofTables : Bool) (items : List Toml)
  | table (origin : Toml.Origin) (entries : List (String × Toml))
  | unrepresentable

namespace Toml

instance : Inhabited Toml := ⟨table .header []⟩

/-- Carries a change on to the last item of a list. -/
def changeLast (f : Toml → Option Toml) : List Toml → Option (List Toml)
  | [] => none
  | [t] => (f t).map ([·])
  | t :: rest => (changeLast f rest).map (t :: ·)

/-- May a path go on into a table? A table between braces is complete. Dots go on only into a table
without a header. -/
def Origin.isOpen (dotted : Bool) : Origin → Bool
  | header => !dotted
  | braces => false
  | _ => true

/-- Changes the table that a path leads to. Tables that are missing on the way are made, and an
array of tables stands for its last table. The path is that of a header, or it is `dotted`, part of
the key of a value. -/
def change (dotted : Bool) (f : Toml → Option Toml) : List String → Toml → Option Toml
  | [], t => f t
  | key :: path, table origin entries =>
    let put (child : Toml) := table origin (OrderedMap.insertEntry key child entries)
    match entries.lookup key with
    | none => (change dotted f path (table (if dotted then .dotted else .implied) [])).map put
    | some (table o es) =>
      if o.isOpen dotted then (change dotted f path (table o es)).map put else none
    | some (array true items) => (changeLast (change dotted f path) items).map (put ∘ array true)
    | some _ => none
  | _ :: _, _ => none

/-- Gives a key of a table a value. The key must be new. A table that dotted keys have made takes
values by dotted keys only, and no other table takes them so. -/
def place (dotted : Bool) (key : String) (value : Toml) : Toml → Option Toml
  | table origin entries =>
    if decide (origin = .dotted) = dotted ∧ (entries.lookup key).isNone then
      some (table origin (entries ++ [(key, value)]))
    else none
  | _ => none

/-- Gives a value to the key at the end of a dotted path. -/
def assign (path : List String) (key : String) (value : Toml) : Toml → Option Toml :=
  change (!path.isEmpty) (place (!path.isEmpty) key value) path

/-- Opens a table by its header. It must be new, or only implied so far. -/
def openTable (key : String) : Toml → Option Toml
  | table origin entries =>
    match entries.lookup key with
    | none => some (table origin (entries ++ [(key, table .header [])]))
    | some (table .implied es) =>
      some (table origin (OrderedMap.insertEntry key (table .header es) entries))
    | some _ => none
  | _ => none

/-- Opens the next table of an array of tables. -/
def openElement (key : String) : Toml → Option Toml
  | table origin entries =>
    match entries.lookup key with
    | none => some (table origin (entries ++ [(key, array true [table .header []])]))
    | some (array true items) =>
      some (table origin
        (OrderedMap.insertEntry key (array true (items ++ [table .header []])) entries))
    | some _ => none
  | _ => none

/-- A statement of a TOML text. -/
inductive Statement
  | assign (path : List String) (key : String) (value : Toml)
  | table (path : List String) (key : String)
  | element (path : List String) (key : String)

/-- Carries out a statement on the tree so far. Values go into the table that was opened last, and
its place comes along. -/
def run (state : Toml × List String) : Statement → Option (Toml × List String)
  | .assign path key value =>
    (change false (assign path key value) state.2 state.1).map (·, state.2)
  | .table path key => (change false (openTable key) path state.1).map (·, path ++ [key])
  | .element path key => (change false (openElement key) path state.1).map (·, path ++ [key])

/-- The tree that statements build. -/
def ofStatements (statements : List Statement) : Option Toml :=
  (statements.foldlM run (table .header [], [])).map Prod.fst

end Toml
end QuizBank

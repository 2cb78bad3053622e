import QuizBank.Json.Basic

/-!
# Writing JSON

`Json.compact` writes a tree without spaces; `Json.pretty` puts every item and member on a line of
its own, two spaces deeper than what holds it.
-/

namespace QuizBank
namespace Json

/-- The lower-case hexadecimal digits of a control character. -/
def hexDigits (n : Nat) : List Char := [Nat.digitChar (n / 16), Nat.digitChar (n % 16)]

/-- A character inside a text: quotes, backslashes and controls are escaped, all else stands for
itself. -/
def escapeChar (c : Char) : List Char :=
  if c = '"' then ['\\', '"']
  else if c = '\\' then ['\\', '\\']
  else if c = '\x08' then ['\\', 'b']
  else if c = '\x0c' then ['\\', 'f']
  else if c = '\n' then ['\\', 'n']
  else if c = '\r' then ['\\', 'r']
  else if c = '\t' then ['\\', 't']
  else if c.toNat < 32 then '\\' :: 'u' :: '0' :: '0' :: hexDigits c.toNat
  else [c]

/-- A text between double quotes. -/
def quote (s : String) : List Char := '"' :: (s.toList.flatMap escapeChar ++ ['"'])

/-- The text of a number. -/
def Number.chars : Number → List Char
  | natural n => Nat.toDigits 10 n
  | negative n => '-' :: Nat.toDigits 10 n
  | float x => (QuizBank.Number.json x).toList

/-- The text of a truth value. -/
def boolChars (b : Bool) : List Char := if b then "true".toList else "false".toList

mutual

/-- The characters of a tree, without spaces. -/
def compactChars : Json → List Char
  | null => "null".toList
  | bool b => boolChars b
  | number n => n.chars
  | text s => quote s
  | unrepresentable => "null".toList
  | array items => '[' :: (compactItems items ++ [']'])
  | object members => '\x7b' :: (compactMembers members ++ ['\x7d'])

/-- The items of an array with commas between them. -/
def compactItems : List Json → List Char
  | [] => []
  | [item] => compactChars item
  | item :: rest => compactChars item ++ ',' :: compactItems rest

/-- The members of an object with commas between them. -/
def compactMembers : List (String × Json) → List Char
  | [] => []
  | [(name, value)] => quote name ++ ':' :: compactChars value
  | (name, value) :: rest => quote name ++ ':' :: (compactChars value ++ ',' :: compactMembers rest)

end

/-- A line break and the spaces of a depth. -/
def newline (depth : Nat) : List Char := '\n' :: List.replicate (2 * depth) ' '

mutual

/-- The characters of a tree that stands at a depth, one item or member a line. -/
def prettyChars (depth : Nat) : Json → List Char
  | null => "null".toList
  | bool b => boolChars b
  | number n => n.chars
  | text s => quote s
  | unrepresentable => "null".toList
  | array [] => ['[', ']']
  | array (item :: rest) =>
    '[' :: (prettyItems (depth + 1) (item :: rest) ++ newline depth ++ [']'])
  | object [] => ['\x7b', '\x7d']
  | object (m :: rest) =>
    '\x7b' :: (prettyMembers (depth + 1) (m :: rest) ++ newline depth ++ ['\x7d'])

/-- The items of an array, each on its line. -/
def prettyItems (depth : Nat) : List Json → List Char
  | [] => []
  | [item] => newline depth ++ prettyChars depth item
  | item :: rest => newline depth ++ prettyChars depth item ++ ',' :: prettyItems depth rest

/-- The members of an object, each on its line. -/
def prettyMembers (depth : Nat) : List (String × Json) → List Char
  | [] => []
  | [(name, value)] => newline depth ++ quote name ++ ':' :: ' ' :: prettyChars depth value
  | (name, value) :: rest =>
    newline depth ++ quote name ++ ':' :: ' ' ::
      (prettyChars depth value ++ ',' :: prettyMembers depth rest)

end

/-- The text of a tree without spaces. -/
def compact (j : Json) : String := String.ofList j.compactChars

/-- The text of a tree over several lines. -/
def pretty (j : Json) : String := String.ofList (j.prettyChars 0)

end Json
end QuizBank

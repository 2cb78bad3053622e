/-!
# Environment variables in a text

A text may refer to a variable as `$`, an opening brace, a name and a closing brace. The reference
is replaced by the value of the variable, as it is. A value is not searched for references again,
and a reference to a variable without value stays.
-/

namespace QuizBank

/-- Variables and their values. -/
abbrev Environment := List (String × String)

/-- A piece of a text: a character, or a reference to a variable. -/
inductive TextPiece
  | char (c : Char)
  | reference (name : List Char)

namespace TextPiece

/-- The pieces of a text. A name has at least one character. -/
def ofChars (s : List Char) : List TextPiece :=
  match s with
  | [] => []
  | '$' :: '\x7b' :: rest =>
    match rest.takeWhile (· != '\x7d'), _h : rest.dropWhile (· != '\x7d') with
    | c :: name, _ :: after => reference (c :: name) :: ofChars after
    | _, _ => char '$' :: ofChars ('\x7b' :: rest)
  | c :: rest => char c :: ofChars rest
termination_by s.length
decreasing_by
  · have := (List.dropWhile_sublist (fun c => c != '\x7d') (l := rest)).length_le
    simp only [_h, List.length_cons] at this ⊢
    omega
  all_goals simp

/-- A piece as it is written. -/
def toChars : TextPiece → List Char
  | char c => [c]
  | reference name => '$' :: '\x7b' :: (name ++ ['\x7d'])

/-- The variable that a piece refers to. -/
def name? : TextPiece → Option String
  | char _ => none
  | reference name => some (String.ofList name)

/-- A piece with the value of the variable in its place. -/
def expand (env : Environment) (piece : TextPiece) : List Char :=
  match piece.name?.bind (List.lookup · env) with
  | some value => value.toList
  | none => piece.toChars

end TextPiece

namespace Environment

/-- Replaces the references of a text. -/
def expand (env : Environment) (text : String) : String :=
  String.ofList ((TextPiece.ofChars text.toList).flatMap (TextPiece.expand env))

/-- The variables that a text refers to. -/
def namesIn (text : String) : List String :=
  (TextPiece.ofChars text.toList).filterMap TextPiece.name?

end Environment
end QuizBank

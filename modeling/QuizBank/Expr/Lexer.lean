import QuizBank.Expr.Token
import QuizBank.Number.Reader
import QuizBank.Text.Classes
import QuizBank.Text.Found

/-!
# From text to tokens

`Token.ofText` cuts a source text into tokens. Blanks separate tokens and mean nothing else. A
malformed number or a stray character becomes an invalid token and scanning goes on behind it; only
a text literal without its closing quote ends it.
-/

namespace QuizBank
namespace Token

/-! ### Numbers -/

/-- Digits and points. -/
def isNumberChar (c : Char) : Bool := c.isDigit || c == '.'

/-- Does a number start here: a digit, or a point before a digit? -/
def startsNumber (c : Char) (rest : List Char) : Bool :=
  c.isDigit || (c == '.' && (rest.head?.map Char.isDigit).getD false)

/-- The sign at the front of a text, if there is one, and the text behind it. -/
def signPart : List Char → List Char × List Char
  | '+' :: rest => (['+'], rest)
  | '-' :: rest => (['-'], rest)
  | rest => ([], rest)

/-- The exponent at the front of a text, if there is a whole one: `e` or `E`, an optional sign, and
digits. What follows it comes second. -/
def exponentPart (s : List Char) : List Char × List Char :=
  match s with
  | e :: rest =>
    if e = 'e' ∨ e = 'E' then
      let digits := (signPart rest).2
      if (digits.head?.map Char.isDigit).getD false then
        (e :: ((signPart rest).1 ++ digits.takeWhile Char.isDigit),
          digits.dropWhile Char.isDigit)
      else ([], s)
    else ([], s)
  | [] => ([], [])

/-- The characters of the number at the front of a text, and the text behind them. -/
def numberPart (s : List Char) : List Char × List Char :=
  let body := s.takeWhile isNumberChar
  let (exponent, rest) := exponentPart (s.dropWhile isNumberChar)
  (body ++ exponent, rest)

/-- The token of the characters of a number. -/
def ofNumberPart (text : List Char) : Token :=
  match Number.read text with
  | some x => number x
  | none => invalid (.malformedNumber (String.ofList text))

/-! ### Names -/

/-- Characters that a name starts with. -/
def startsName (c : Char) : Bool := Text.isLetter c || c == '_' || c == '$'

/-- Characters that a name goes on with. -/
def isNameChar (c : Char) : Bool := Text.isLetterOrNumber c || c == '_' || c == '$'

/-! ### Text literals -/

/-- The apostrophe, one of the two quotes. -/
def apostrophe : Char := '\x27'

/-- The character that a backslash and `c` stand for. -/
def unescape (c : Char) : Char :=
  if c = 'n' then '\n' else if c = 't' then '\t' else if c = 'r' then '\r' else c

/-- The content of a text literal behind its opening quote, and the text behind its closing one. -/
def textPart (quote : Char) : List Char → Option (List Char × List Char)
  | [] => none
  | c :: rest =>
    if c = quote then some ([], rest)
    else if c = '\\' then
      match rest with
      | [] => none
      | e :: rest =>
        match textPart quote rest with
        | some (content, rest) => some (unescape e :: content, rest)
        | none => none
    else
      match textPart quote rest with
      | some (content, rest) => some (c :: content, rest)
      | none => none

theorem length_lt_of_textPart {quote : Char} {s : List Char} {p : List Char × List Char}
    (h : textPart quote s = some p) : p.2.length < s.length := by
  fun_induction textPart quote s generalizing p <;> grind

/-! ### Symbols -/

/-- The longest symbol at the front of a text. -/
def symbolPart (c : Char) (rest : List Char) : Option (Symbol × List Char) :=
  match c, rest with
  | '*', '*' :: r => some (.starStar, r)
  | '=', '=' :: '=' :: r => some (.eqEqEq, r)
  | '=', '=' :: r => some (.eqEq, r)
  | '=', '>' :: r => some (.arrow, r)
  | '!', '=' :: '=' :: r => some (.notEqEq, r)
  | '!', '=' :: r => some (.notEq, r)
  | '<', '=' :: r => some (.le, r)
  | '>', '=' :: r => some (.ge, r)
  | '&', '&' :: r => some (.andAnd, r)
  | '|', '|' :: r => some (.orOr, r)
  | '+', r => some (.plus, r)
  | '-', r => some (.minus, r)
  | '*', r => some (.star, r)
  | '/', r => some (.slash, r)
  | '%', r => some (.percent, r)
  | '!', r => some (.bang, r)
  | '<', r => some (.lt, r)
  | '>', r => some (.gt, r)
  | '?', r => some (.question, r)
  | ':', r => some (.colon, r)
  | ',', r => some (.comma, r)
  | '.', r => some (.dot, r)
  | '(', r => some (.lparen, r)
  | ')', r => some (.rparen, r)
  | '=', r => some (.assign, r)
  | '\x7b', r => some (.lbrace, r)
  | '\x7d', r => some (.rbrace, r)
  | '[', r => some (.lbracket, r)
  | ']', r => some (.rbracket, r)
  | ';', r => some (.semicolon, r)
  | _, _ => none

theorem length_le_of_symbolPart {c : Char} {s : List Char} {p : Symbol × List Char}
    (h : symbolPart c s = some p) : p.2.length ≤ s.length := by
  unfold symbolPart at h
  split at h <;> grind

/-! ### The scanner -/

theorem length_signPart_le (s : List Char) : (signPart s).2.length ≤ s.length := by
  unfold signPart
  split <;> simp

theorem length_exponentPart_le (s : List Char) : (exponentPart s).2.length ≤ s.length := by
  unfold exponentPart
  split
  · next e rest =>
    have h1 := length_signPart_le rest
    have h2 := length_dropWhile_le Char.isDigit (signPart rest).2
    grind
  · simp

theorem length_numberPart_lt {c : Char} {rest : List Char} (h : startsNumber c rest) :
    (numberPart (c :: rest)).2.length < (c :: rest).length := by
  have hc : isNumberChar c := by
    simp only [startsNumber, Bool.or_eq_true, Bool.and_eq_true] at h
    simp only [isNumberChar, Bool.or_eq_true]
    exact h.imp id And.left
  have h1 := length_exponentPart_le (rest.dropWhile isNumberChar)
  have h2 := length_dropWhile_le isNumberChar rest
  simp only [numberPart, List.dropWhile_cons, hc, if_true, List.length_cons]
  omega

/-- The tokens of a text. -/
def scan : List Char → List Token
  | [] => []
  | c :: rest =>
    if Text.isBlank c then scan rest
    else if hn : startsNumber c rest then
      have := length_numberPart_lt hn
      ofNumberPart (numberPart (c :: rest)).1 :: scan (numberPart (c :: rest)).2
    else if startsName c then
      have := length_dropWhile_le isNameChar rest
      ident (String.ofList (c :: rest.takeWhile isNameChar)) :: scan (rest.dropWhile isNameChar)
    else if c = '"' ∨ c = apostrophe then
      match h : textPart c rest with
      | some (content, after) =>
        have := length_lt_of_textPart h
        text (String.ofList content) :: scan after
      | none => [invalid .unterminatedText]
    else
      match h : symbolPart c rest with
      | some (s, after) =>
        have := length_le_of_symbolPart h
        symbol s :: scan after
      | none => invalid (.unexpectedCharacter c) :: scan rest
termination_by s => s.length
decreasing_by all_goals grind

/-- The tokens of a source text. -/
def ofText (source : String) : List Token := scan source.toList

end Token
end QuizBank

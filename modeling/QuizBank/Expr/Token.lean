import QuizBank.Number.Text

/-!
# Tokens

The words of the expression language. Symbols that the language has no use for are tokens all the
same, so that the safety check sees them.
-/

namespace QuizBank

/-- A symbol. -/
inductive Symbol
  | plus
  | minus
  | star
  | starStar
  | slash
  | percent
  | bang
  | eqEq
  | eqEqEq
  | notEq
  | notEqEq
  | lt
  | le
  | gt
  | ge
  | andAnd
  | orOr
  | question
  | colon
  | comma
  | dot
  | lparen
  | rparen
  | assign
  | arrow
  | lbrace
  | rbrace
  | lbracket
  | rbracket
  | semicolon
  deriving DecidableEq

/-- How a symbol is written. -/
def Symbol.text : Symbol → String
  | plus => "+"
  | minus => "-"
  | star => "*"
  | starStar => "**"
  | slash => "/"
  | percent => "%"
  | bang => "!"
  | eqEq => "=="
  | eqEqEq => "==="
  | notEq => "!="
  | notEqEq => "!=="
  | lt => "<"
  | le => "<="
  | gt => ">"
  | ge => ">="
  | andAnd => "&&"
  | orOr => "||"
  | question => "?"
  | colon => ":"
  | comma => ","
  | dot => "."
  | lparen => "("
  | rparen => ")"
  | assign => "="
  | arrow => "=>"
  | lbrace => "\x7b"
  | rbrace => "\x7d"
  | lbracket => "["
  | rbracket => "]"
  | semicolon => ";"

/-- Input that is no token. -/
inductive LexFault
  | malformedNumber (text : String)
  | unterminatedText
  | unexpectedCharacter (c : Char)
  deriving DecidableEq

/-- The text of a lexical fault. -/
def LexFault.message : LexFault → String
  | malformedNumber text => "malformed number '" ++ text ++ "'"
  | unterminatedText => "unterminated string literal"
  | unexpectedCharacter c => "unexpected character '" ++ String.singleton c ++ "'"

/-- A token of an expression. -/
inductive Token
  | number (x : Float)
  | text (s : String)
  | ident (name : String)
  | symbol (s : Symbol)
  | invalid (fault : LexFault)
  deriving DecidableEq

/-- How a token is named in a message. -/
def Token.describe : Token → String
  | number x => "number " ++ Number.plain x
  | text s => "string '" ++ s ++ "'"
  | ident name => "identifier '" ++ name ++ "'"
  | symbol s => "'" ++ s.text ++ "'"
  | invalid fault => fault.message

end QuizBank

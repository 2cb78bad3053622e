import QuizBank.Expr.Token
import QuizBank.Text.Classes

/-!
# The safety check

Before an expression is parsed its tokens are screened: braces, brackets, semicolons, arrows and the
names of host facilities are refused wherever they stand.
-/

namespace QuizBank

/-- Why a token is refused. -/
inductive SafetyFault
  | braces
  | brackets
  | separator
  | arrow
  | identifier (name : String)
  deriving DecidableEq

/-- The text of a safety fault. -/
def SafetyFault.message : SafetyFault → String
  | braces => "block braces are not allowed"
  | brackets => "array/index brackets are not allowed"
  | separator => "statement separators are not allowed"
  | arrow => "arrow functions are not allowed"
  | identifier name => "identifier '" ++ name ++ "' is not allowed"

/-- Names that reach outside the expression language. -/
def deniedNames : List String := [
  "new", "function", "process", "global", "globalThis", "window", "document", "this", "eval",
  "require", "import", "constructor", "prototype", "__proto__"]

/-- Is the name denied, in any case of its letters? -/
def isDenied (name : String) : Bool :=
  deniedNames.any fun denied => Text.equalsIgnoringCase denied name

/-- The fault of a token, if it has one. -/
def Token.safetyFault? : Token → Option SafetyFault
  | symbol .lbrace => some .braces
  | symbol .rbrace => some .braces
  | symbol .lbracket => some .brackets
  | symbol .rbracket => some .brackets
  | symbol .semicolon => some .separator
  | symbol .arrow => some .arrow
  | ident name => if isDenied name then some (.identifier name) else none
  | _ => none

/-- The first fault in a list of tokens. -/
def safetyFault? (tokens : List Token) : Option SafetyFault :=
  tokens.findSome? Token.safetyFault?

end QuizBank

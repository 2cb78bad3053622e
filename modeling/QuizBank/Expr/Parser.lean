import QuizBank.Expr.Syntax
import QuizBank.Expr.Token

/-!
# From tokens to expressions

The grammar, from the loosest to the tightest form:

    expression := or ['?' expression ':' expression]
    or := and ('||' and)*                       and := equality ('&&' equality)*
    equality := comparison (eqOp comparison)*   comparison := additive (orderOp additive)*
    additive := multiplicative (('+' | '-') multiplicative)*
    multiplicative := power (('*' | '/' | '%') power)*
    power := unary ['**' power]                 unary := ('-' | '+' | '!') unary | primary
    primary := number | text | name | 'Math' '.' member | '(' expression ')'
    member := constant | function '(' [expression (',' expression)*] ')'

The six forms with repetition are `Level`s, and one chain parser serves them all. Every parser
returns what is left of the tokens and a proof that it has taken some.
-/

namespace QuizBank

/-- Where a symbol is expected. -/
inductive ParseContext
  | conditional
  | parenthesis
  | member
  | arguments
  deriving DecidableEq

/-- The text of a context. -/
def ParseContext.text : ParseContext → String
  | conditional => "in conditional"
  | parenthesis => "to close '('"
  | member => "after 'Math'"
  | arguments => "to close argument list"

/-- Why tokens are no expression. -/
inductive ParseError
  | empty
  | trailing (token : Token)
  | unexpected (token : Token)
  | unexpectedEnd
  | expected (s : Symbol) (context : ParseContext) (found : Option Token)
  | memberName (found : Option Token)
  | unknownFunction (name : String)
  | unknownConstant (name : String)
  | arity (f : MathFunction) (expected given : Nat)
  deriving DecidableEq

/-- What was found in place of something expected. -/
def describeFound : Option Token → String
  | some token => token.describe
  | none => "end of input"

/-- The complaint about the number of arguments of a function. -/
def MathFunction.arityMessage (f : MathFunction) (expected given : Nat) : String :=
  f.title ++ " expects " ++ Nat.repr expected ++ " argument(s), got " ++ Nat.repr given

/-- The text of a parse error. -/
def ParseError.message : ParseError → String
  | empty => "empty expression"
  | trailing token => "unexpected " ++ token.describe ++ " after expression"
  | unexpected token => "unexpected " ++ token.describe
  | unexpectedEnd => "unexpected end of expression"
  | expected s context found =>
    "expected " ++ (Token.symbol s).describe ++ " " ++ context.text ++ ", found " ++
      describeFound found
  | memberName found => "expected Math member name, found " ++ describeFound found
  | unknownFunction name => "unknown function 'Math." ++ name ++ "'"
  | unknownConstant name => "unknown constant 'Math." ++ name ++ "'"
  | arity f n given => f.arityMessage n given

/-- The forms that repeat an operator, from the loosest to the tightest. -/
inductive Level
  | or
  | and
  | equality
  | comparison
  | additive
  | multiplicative
  deriving DecidableEq

namespace Level

/-- The form of the operands; those of the tightest level are powers. -/
def tighter? : Level → Option Level
  | or => some and
  | and => some equality
  | equality => some comparison
  | comparison => some additive
  | additive => some multiplicative
  | multiplicative => none

/-- How many levels lie between this one and the powers. -/
def height : Level → Nat
  | or => 6
  | and => 5
  | equality => 4
  | comparison => 3
  | additive => 2
  | multiplicative => 1

theorem height_lt_of_tighter? {l m : Level} (h : l.tighter? = some m) : m.height < l.height := by
  cases l <;> simp only [tighter?, Option.some.injEq, reduceCtorEq] at h <;> subst h <;> decide

theorem height_le (l : Level) : l.height ≤ 6 := by
  cases l <;> decide

/-- The tree of two operands, if the symbol is an operator of the level. -/
def combine? : Level → Symbol → Option (Expr → Expr → Expr)
  | or, .orOr => some (.logical .or)
  | and, .andAnd => some (.logical .and)
  | equality, .eqEq => some (.binary .looseEq)
  | equality, .notEq => some (.binary .looseNe)
  | equality, .eqEqEq => some (.binary .strictEq)
  | equality, .notEqEq => some (.binary .strictNe)
  | comparison, .lt => some (.binary .lt)
  | comparison, .le => some (.binary .le)
  | comparison, .gt => some (.binary .gt)
  | comparison, .ge => some (.binary .ge)
  | additive, .plus => some (.binary .add)
  | additive, .minus => some (.binary .sub)
  | multiplicative, .star => some (.binary .mul)
  | multiplicative, .slash => some (.binary .div)
  | multiplicative, .percent => some (.binary .rem)
  | _, _ => none

end Level

/-- The operator in front of an operand that a symbol stands for. -/
def UnaryOp.ofSymbol? : Symbol → Option UnaryOp
  | .minus => some .neg
  | .plus => some .pos
  | .bang => some .not
  | _ => none

namespace Parse

/-- What a parser made of the tokens, and the tokens that are left. -/
structure Parsed (α : Type) (ts : List Token) where
  value : α
  rest : List Token
  shorter : rest.length < ts.length

/-- What a chain made of an operand and the tokens behind it. -/
structure Chained (ts : List Token) where
  value : Expr
  rest : List Token
  notLonger : rest.length ≤ ts.length

/-- The outcome of a parser. -/
abbrev Outcome (α : Type) (ts : List Token) := Except ParseError (Parsed α ts)

/-- Takes a symbol. -/
def expect (s : Symbol) (context : ParseContext) : (ts : List Token) → Outcome Unit ts
  | [] => .error (.expected s context none)
  | token :: rest =>
    if token = .symbol s then .ok ⟨(), rest, Nat.lt_succ_self _⟩
    else .error (.expected s context (some token))

/-- The tree of a name that stands alone. -/
def ofName (name : String) : Expr :=
  if name = "true" then .literal (.bool true)
  else if name = "false" then .literal (.bool false)
  else .var name

/-- The tree of a call, if the function takes so many arguments. -/
def ofCall (f : MathFunction) (args : List Expr) : Except ParseError Expr :=
  match f.arity with
  | .any => .ok (.call f args)
  | .exactly n => if args.length = n then .ok (.call f args) else .error (.arity f n args.length)

mutual

/-- A conditional, or what a conditional begins with. -/
def expression (ts : List Token) : Outcome Expr ts :=
  match chain .or ts with
  | .error e => .error e
  | .ok ⟨cond, r₁, h₁⟩ =>
    match r₁, h₁ with
    | .symbol .question :: r₂, h₂ =>
      match expression r₂ with
      | .error e => .error e
      | .ok ⟨yes, r₃, h₃⟩ =>
        match expect .colon .conditional r₃ with
        | .error e => .error e
        | .ok ⟨_, r₄, h₄⟩ =>
          match expression r₄ with
          | .error e => .error e
          | .ok ⟨no, r₅, h₅⟩ => .ok ⟨.conditional cond yes no, r₅,
            Nat.lt_trans h₅ (Nat.lt_trans h₄ (Nat.lt_trans h₃ (Nat.lt_of_succ_lt h₂)))⟩
    | r, h => .ok ⟨cond, r, h⟩
termination_by 24 * ts.length + 20
decreasing_by all_goals grind [Level.height]

/-- An operand of a level and the operators and operands behind it. -/
def chain (l : Level) (ts : List Token) : Outcome Expr ts :=
  match operand l ts with
  | .error e => .error e
  | .ok ⟨lhs, r, h⟩ =>
    match chainRest l lhs r with
    | .error e => .error e
    | .ok ⟨e, r', h'⟩ => .ok ⟨e, r', Nat.lt_of_le_of_lt h' h⟩
termination_by 24 * ts.length + 2 * l.height + 4
decreasing_by all_goals grind

/-- An operand of a level. -/
def operand (l : Level) (ts : List Token) : Outcome Expr ts :=
  match _h : l.tighter? with
  | some m => chain m ts
  | none => power ts
termination_by 24 * ts.length + 2 * l.height + 3
decreasing_by
  · have := Level.height_lt_of_tighter? _h
    grind
  · grind

/-- Goes on as long as an operator of the level follows; the tree so far is its left operand. -/
def chainRest (l : Level) (lhs : Expr) (ts : List Token) : Except ParseError (Chained ts) :=
  match ts with
  | .symbol s :: r =>
    match l.combine? s with
    | some combine =>
      match operand l r with
      | .error e => .error e
      | .ok ⟨rhs, r', h⟩ =>
        match chainRest l (combine lhs rhs) r' with
        | .error e => .error e
        | .ok ⟨e, r'', h'⟩ => .ok ⟨e, r'', by grind⟩
    | none => .ok ⟨lhs, .symbol s :: r, Nat.le_refl _⟩
  | r => .ok ⟨lhs, r, Nat.le_refl _⟩
termination_by 24 * ts.length
decreasing_by all_goals grind [Level.height_le]

/-- A unary form, possibly raised to a power. -/
def power (ts : List Token) : Outcome Expr ts :=
  match unary ts with
  | .error e => .error e
  | .ok ⟨base, r₁, h₁⟩ =>
    match r₁, h₁ with
    | .symbol .starStar :: r₂, h₂ =>
      match power r₂ with
      | .error e => .error e
      | .ok ⟨exponent, r₃, h₃⟩ => .ok ⟨.binary .pow base exponent, r₃, by grind⟩
    | r, h => .ok ⟨base, r, h⟩
termination_by 24 * ts.length + 2
decreasing_by all_goals grind

/-- A primary form with the unary operators in front of it. -/
def unary (ts : List Token) : Outcome Expr ts :=
  match ts with
  | .symbol s :: r =>
    match UnaryOp.ofSymbol? s with
    | some op =>
      match unary r with
      | .error e => .error e
      | .ok ⟨e, r', h⟩ => .ok ⟨.unary op e, r', by grind⟩
    | none => primary (.symbol s :: r)
  | r => primary r
termination_by 24 * ts.length + 1
decreasing_by all_goals grind

/-- A literal, a name, a member of the mathematical library or an expression in parentheses. -/
def primary (ts : List Token) : Outcome Expr ts :=
  match ts with
  | [] => .error .unexpectedEnd
  | .number x :: r => .ok ⟨.literal (.number x), r, Nat.lt_succ_self _⟩
  | .text s :: r => .ok ⟨.literal (.text s), r, Nat.lt_succ_self _⟩
  | .ident name :: r =>
    if name = "Math" then
      match member r with
      | .error e => .error e
      | .ok ⟨e, r', h⟩ => .ok ⟨e, r', by grind⟩
    else .ok ⟨ofName name, r, Nat.lt_succ_self _⟩
  | .symbol .lparen :: r =>
    match expression r with
    | .error e => .error e
    | .ok ⟨inner, r₁, h₁⟩ =>
      match expect .rparen .parenthesis r₁ with
      | .error e => .error e
      | .ok ⟨_, r₂, h₂⟩ => .ok ⟨inner, r₂, by grind⟩
  | token :: _ => .error (.unexpected token)
termination_by 24 * ts.length
decreasing_by all_goals grind

/-- What follows the name of the mathematical library: a point and a constant or a call. -/
def member (ts : List Token) : Outcome Expr ts :=
  match expect .dot .member ts with
  | .error e => .error e
  | .ok ⟨_, r₁, h₁⟩ =>
    match r₁, h₁ with
    | .ident name :: .symbol .lparen :: r₂, h₂ =>
      match MathFunction.ofName? name with
      | none => .error (.unknownFunction name)
      | some f =>
        match arguments r₂ with
        | .error e => .error e
        | .ok ⟨args, r₃, h₃⟩ =>
          match ofCall f args with
          | .error e => .error e
          | .ok e =>
            .ok ⟨e, r₃, Nat.lt_trans h₃ (Nat.lt_of_succ_lt (Nat.lt_of_succ_lt h₂))⟩
    | .ident name :: r₂, h₂ =>
      match mathConstant? name with
      | some x => .ok ⟨.literal (.number x), r₂, Nat.lt_of_succ_lt h₂⟩
      | none => .error (.unknownConstant name)
    | r, _ => .error (.memberName r.head?)
termination_by 24 * ts.length
decreasing_by all_goals grind

/-- The arguments of a call, up to its closing parenthesis. -/
def arguments (ts : List Token) : Outcome (List Expr) ts :=
  match ts with
  | .symbol .rparen :: r => .ok ⟨[], r, Nat.lt_succ_self _⟩
  | r => argumentList r
termination_by 24 * ts.length + 22
decreasing_by all_goals grind

/-- One argument or more. -/
def argumentList (ts : List Token) : Outcome (List Expr) ts :=
  match expression ts with
  | .error e => .error e
  | .ok ⟨arg, r₁, h₁⟩ =>
    match r₁, h₁ with
    | .symbol .comma :: r₂, h₂ =>
      match argumentList r₂ with
      | .error e => .error e
      | .ok ⟨args, r₃, h₃⟩ => .ok ⟨arg :: args, r₃, by grind⟩
    | r, h =>
      match expect .rparen .arguments r with
      | .error e => .error e
      | .ok ⟨_, r₂, h₂⟩ => .ok ⟨[arg], r₂, Nat.lt_trans h₂ h⟩
termination_by 24 * ts.length + 21
decreasing_by all_goals grind

end

end Parse

/-- The expression that a list of tokens makes up. -/
def Expr.ofTokens (ts : List Token) : Except ParseError Expr :=
  match ts with
  | [] => .error .empty
  | ts =>
    match Parse.expression ts with
    | .error e => .error e
    | .ok ⟨e, [], _⟩ => .ok e
    | .ok ⟨_, token :: _, _⟩ => .error (.trailing token)

end QuizBank

import QuizBank.Expr.Parser

/-!
# The grammar of expressions

The productions of the expression language as a relation, without a parser:

    expr     := or | or '?' expr ':' expr          power   := unary | unary '**' power
    or       := and | or '||' and                  unary   := primary | ('-' | '+' | '!') unary
    and      := equality | and '&&' equality       primary := number | text | 'true' | 'false' | name
    equality := compare | equality eqOp compare             | '(' expr ')'
    compare  := additive | compare orderOp additive         | 'Math' '.' NAME
    additive := mult | additive addOp mult                  | 'Math' '.' NAME '(' args ')'
    mult     := power | mult mulOp power           args    := [expr (',' expr)*]

`Derives n ts e` says that the nonterminal `n` produces the tokens `ts` with the tree `e`. The
chains are written with recursion on the left, which is the nesting that their trees have; powers
and conditionals recurse on the right. A derivation spends all of its tokens: the tokens of a
production are those of its parts, put together.
-/

namespace QuizBank
namespace Grammar

/-- What the grammar derives. The six chains are named by their levels. -/
inductive Nonterminal
  | expr
  | chain (l : Level)
  | power
  | unary
  | primary

/-- The operands of a chain. -/
def operandOf : Level → Nonterminal
  | .or => .chain .and
  | .and => .chain .equality
  | .equality => .chain .comparison
  | .comparison => .chain .additive
  | .additive => .chain .multiplicative
  | .multiplicative => .power

/-- The operators of the chains, each with the tree of its two operands. -/
inductive Joins : Level → Symbol → (Expr → Expr → Expr) → Prop
  | or : Joins .or .orOr (.logical .or)
  | and : Joins .and .andAnd (.logical .and)
  | looseEq : Joins .equality .eqEq (.binary .looseEq)
  | looseNe : Joins .equality .notEq (.binary .looseNe)
  | strictEq : Joins .equality .eqEqEq (.binary .strictEq)
  | strictNe : Joins .equality .notEqEq (.binary .strictNe)
  | lt : Joins .comparison .lt (.binary .lt)
  | le : Joins .comparison .le (.binary .le)
  | gt : Joins .comparison .gt (.binary .gt)
  | ge : Joins .comparison .ge (.binary .ge)
  | add : Joins .additive .plus (.binary .add)
  | sub : Joins .additive .minus (.binary .sub)
  | mul : Joins .multiplicative .star (.binary .mul)
  | div : Joins .multiplicative .slash (.binary .div)
  | rem : Joins .multiplicative .percent (.binary .rem)

/-- The operators in front of an operand. -/
inductive Prefixes : Symbol → UnaryOp → Prop
  | neg : Prefixes .minus .neg
  | pos : Prefixes .plus .pos
  | not : Prefixes .bang .not

/-- Names that stand for themselves; the others are words of the grammar. -/
def IsVariable (name : String) : Prop := name ≠ "true" ∧ name ≠ "false" ∧ name ≠ "Math"

/-- Lists of tokens with commas between them. -/
def commaSeparated (parts : List (List Token)) : List Token :=
  [Token.symbol .comma].intercalate parts

/-- `Derives n ts e`: the nonterminal `n` produces the tokens `ts` with the tree `e`. -/
inductive Derives : Nonterminal → List Token → Expr → Prop
  | ofOr {ts e} : Derives (.chain .or) ts e → Derives .expr ts e
  | conditional {ts₁ ts₂ ts₃ cond yes no} :
      Derives (.chain .or) ts₁ cond → Derives .expr ts₂ yes → Derives .expr ts₃ no →
      Derives .expr (ts₁ ++ .symbol .question :: (ts₂ ++ .symbol .colon :: ts₃))
        (.conditional cond yes no)
  | ofOperand {l ts e} : Derives (operandOf l) ts e → Derives (.chain l) ts e
  | join {l ts₁ ts₂ s tree lhs rhs} :
      Derives (.chain l) ts₁ lhs → Joins l s tree → Derives (operandOf l) ts₂ rhs →
      Derives (.chain l) (ts₁ ++ .symbol s :: ts₂) (tree lhs rhs)
  | ofUnary {ts e} : Derives .unary ts e → Derives .power ts e
  | pow {ts₁ ts₂ base exponent} :
      Derives .unary ts₁ base → Derives .power ts₂ exponent →
      Derives .power (ts₁ ++ .symbol .starStar :: ts₂) (.binary .pow base exponent)
  | ofPrimary {ts e} : Derives .primary ts e → Derives .unary ts e
  | sign {s op ts e} :
      Prefixes s op → Derives .unary ts e → Derives .unary (.symbol s :: ts) (.unary op e)
  | number {x} : Derives .primary [.number x] (.literal (.number x))
  | text {s} : Derives .primary [.text s] (.literal (.text s))
  | isTrue : Derives .primary [.ident "true"] (.literal (.bool true))
  | isFalse : Derives .primary [.ident "false"] (.literal (.bool false))
  | name {name} : IsVariable name → Derives .primary [.ident name] (.var name)
  | parentheses {ts e} :
      Derives .expr ts e →
      Derives .primary (.symbol .lparen :: (ts ++ [.symbol .rparen])) e
  | constant {name x} :
      mathConstant? name = some x →
      Derives .primary [.ident "Math", .symbol .dot, .ident name] (.literal (.number x))
  | call {name f} {args : List (List Token × Expr)} :
      MathFunction.ofName? name = some f → f.accepts args.length = true →
      (∀ arg ∈ args, Derives .expr arg.1 arg.2) →
      Derives .primary
        (.ident "Math" :: .symbol .dot :: .ident name :: .symbol .lparen ::
          (commaSeparated (args.map Prod.fst) ++ [.symbol .rparen]))
        (.call f (args.map Prod.snd))

/-! ### Lists with commas -/

@[simp] theorem commaSeparated_singleton (ts : List Token) : commaSeparated [ts] = ts := by
  simp [commaSeparated]

theorem commaSeparated_cons_cons (ts ts' : List Token) (rest : List (List Token)) :
    commaSeparated (ts :: ts' :: rest) = ts ++ .symbol .comma :: commaSeparated (ts' :: rest) := by
  simp [commaSeparated, List.intercalate]

theorem mem_commaSeparated {token : Token} {parts : List (List Token)}
    (h : token ∈ commaSeparated parts) :
    token = .symbol .comma ∨ ∃ ts ∈ parts, token ∈ ts := by
  match parts, h with
  | [ts], h => exact .inr ⟨ts, by simp, by simpa using h⟩
  | ts :: ts' :: rest, h =>
    rw [commaSeparated_cons_cons] at h
    rcases List.mem_append.1 h with h | h
    · exact .inr ⟨ts, by simp, h⟩
    rcases List.mem_cons.1 h with h | h
    · exact .inl h
    rcases mem_commaSeparated h with h | ⟨u, hu, h⟩
    · exact .inl h
    · exact .inr ⟨u, List.mem_cons_of_mem ts hu, h⟩

theorem mem_commaSeparated_of_mem {token : Token} {ts : List Token} {parts : List (List Token)}
    (hts : ts ∈ parts) (h : token ∈ ts) : token ∈ commaSeparated parts := by
  match parts, hts with
  | [ts'], hts =>
    rw [commaSeparated_singleton, ← List.mem_singleton.1 hts]
    exact h
  | ts' :: ts'' :: rest, hts =>
    rw [commaSeparated_cons_cons, List.mem_append, List.mem_cons]
    rcases List.mem_cons.1 hts with rfl | hts
    · exact .inl h
    · exact .inr (.inr (mem_commaSeparated_of_mem hts h))

/-! ### Tokens that no derivation holds -/

/-- Tokens that the grammar has no use for: input that is no token, assignments, arrows, braces,
brackets and semicolons. -/
def IsForeign : Token → Prop
  | .invalid _ => True
  | .symbol s => s ∈ [Symbol.assign, .arrow, .lbrace, .rbrace, .lbracket, .rbracket, .semicolon]
  | _ => False

theorem Joins.not_isForeign {l : Level} {s : Symbol} {tree : Expr → Expr → Expr}
    (h : Joins l s tree) : ¬IsForeign (.symbol s) := by
  cases h <;> simp [IsForeign]

theorem Prefixes.not_isForeign {s : Symbol} {op : UnaryOp} (h : Prefixes s op) :
    ¬IsForeign (.symbol s) := by
  cases h <;> simp [IsForeign]

theorem Derives.not_isForeign {n : Nonterminal} {ts : List Token} {e : Expr}
    (h : Derives n ts e) : ∀ token ∈ ts, ¬IsForeign token := by
  induction h with
  | ofOr _ ih => exact ih
  | conditional _ _ _ ih₁ ih₂ ih₃ =>
    intro token ht
    simp only [List.mem_append, List.mem_cons] at ht
    rcases ht with ht | rfl | ht | rfl | ht
    · exact ih₁ token ht
    · simp [IsForeign]
    · exact ih₂ token ht
    · simp [IsForeign]
    · exact ih₃ token ht
  | ofOperand _ ih => exact ih
  | join _ hj _ ih₁ ih₂ =>
    intro token ht
    simp only [List.mem_append, List.mem_cons] at ht
    rcases ht with ht | rfl | ht
    · exact ih₁ token ht
    · exact hj.not_isForeign
    · exact ih₂ token ht
  | ofUnary _ ih => exact ih
  | pow _ _ ih₁ ih₂ =>
    intro token ht
    simp only [List.mem_append, List.mem_cons] at ht
    rcases ht with ht | rfl | ht
    · exact ih₁ token ht
    · simp [IsForeign]
    · exact ih₂ token ht
  | ofPrimary _ ih => exact ih
  | sign hp _ ih =>
    intro token ht
    rcases List.mem_cons.1 ht with rfl | ht
    · exact hp.not_isForeign
    · exact ih token ht
  | number => simp [IsForeign]
  | text => simp [IsForeign]
  | isTrue => simp [IsForeign]
  | isFalse => simp [IsForeign]
  | name _ => simp [IsForeign]
  | parentheses _ ih =>
    intro token ht
    simp only [List.mem_append, List.mem_cons, List.not_mem_nil, or_false] at ht
    rcases ht with rfl | ht | rfl
    · simp [IsForeign]
    · exact ih token ht
    · simp [IsForeign]
  | constant _ => simp [IsForeign]
  | call _ _ _ ih =>
    intro token ht
    simp only [List.mem_append, List.mem_cons, List.not_mem_nil, or_false] at ht
    rcases ht with rfl | rfl | rfl | rfl | ht | rfl
    · simp [IsForeign]
    · simp [IsForeign]
    · simp [IsForeign]
    · simp [IsForeign]
    · rcases mem_commaSeparated ht with rfl | ⟨ts, hts, ht⟩
      · simp [IsForeign]
      · obtain ⟨arg, harg, rfl⟩ := List.mem_map.1 hts
        exact ih arg harg token ht
    · simp [IsForeign]

end Grammar
end QuizBank

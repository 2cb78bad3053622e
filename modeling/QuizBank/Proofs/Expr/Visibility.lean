import QuizBank.Expr.Expression
import QuizBank.Proofs.Expr.Parsing

/-!
# What an expression can see

An expression sees its scope through the variables of its tree, and these come from its text:

* `Expr.eval_congr`: a tree has the same value or the same error in two scopes that agree on its
  variables, whatever else they hold. The induction follows the evaluation, which leaves out operands
  but never looks at anything else.
* `Grammar.Derives.mem_of_mem_varNames`: every variable of a derived tree is one of the identifiers
  among its tokens.
-/

namespace QuizBank

/-- The scopes give each of the names the same value, or both none. -/
def AgreeOn (names : List String) (s₁ s₂ : Scope) : Prop :=
  ∀ name ∈ names, s₁.get? name = s₂.get? name

theorem AgreeOn.mono {names names' : List String} {s₁ s₂ : Scope} (h : AgreeOn names s₁ s₂)
    (hsub : names' ⊆ names) : AgreeOn names' s₁ s₂ := by
  intro name hname
  exact h name (hsub hname)

namespace Expr

/-! ### Variables of a tree -/

mutual

/-- The names of the variables in a tree, at any depth. -/
def varNames : Expr → List String
  | literal _ => []
  | var name => [name]
  | call _ args => argVarNames args
  | unary _ operand => operand.varNames
  | binary _ lhs rhs => lhs.varNames ++ rhs.varNames
  | logical _ lhs rhs => lhs.varNames ++ rhs.varNames
  | conditional cond yes no => cond.varNames ++ yes.varNames ++ no.varNames

/-- The names of the variables in a list of arguments. -/
def argVarNames : List Expr → List String
  | [] => []
  | arg :: rest => arg.varNames ++ argVarNames rest

end

theorem mem_argVarNames {name : String} {args : List Expr} :
    name ∈ argVarNames args ↔ ∃ arg ∈ args, name ∈ arg.varNames := by
  induction args with
  | nil => simp [argVarNames]
  | cons arg rest ih => simp [argVarNames, ih]

/-! ### Evaluation -/

variable {s₁ s₂ : Scope}

mutual

/-- **A tree sees its variables only.** -/
theorem eval_congr {e : Expr} (h : AgreeOn e.varNames s₁ s₂) : e.eval s₁ = e.eval s₂ := by
  match e with
  | literal v => rfl
  | var name =>
    have hname : s₁.get? name = s₂.get? name := h name (by simp [varNames])
    rw [eval, eval, hname]
  | call f args =>
    have hargs : evalNumbers s₁ args = evalNumbers s₂ args := evalNumbers_congr h
    rw [eval, eval, hargs]
  | unary op operand =>
    have hoperand : operand.eval s₁ = operand.eval s₂ := eval_congr h
    rw [eval, eval, hoperand]
  | binary op lhs rhs =>
    have hlhs : lhs.eval s₁ = lhs.eval s₂ := eval_congr (h.mono (by simp [varNames]))
    have hrhs : rhs.eval s₁ = rhs.eval s₂ := eval_congr (h.mono (by simp [varNames]))
    rw [eval, eval, hlhs, hrhs]
  | logical op lhs rhs =>
    have hlhs : lhs.eval s₁ = lhs.eval s₂ := eval_congr (h.mono (by simp [varNames]))
    have hrhs : rhs.eval s₁ = rhs.eval s₂ := eval_congr (h.mono (by simp [varNames]))
    rw [eval, eval, hlhs, hrhs]
  | conditional cond yes no =>
    have hcond : cond.eval s₁ = cond.eval s₂ := eval_congr (h.mono (by simp [varNames]))
    have hyes : yes.eval s₁ = yes.eval s₂ := eval_congr (h.mono (by simp [varNames]))
    have hno : no.eval s₁ = no.eval s₂ := eval_congr (h.mono (by simp [varNames]))
    rw [eval, eval, hcond, hyes, hno]

theorem evalNumbers_congr {args : List Expr} (h : AgreeOn (argVarNames args) s₁ s₂) :
    evalNumbers s₁ args = evalNumbers s₂ args := by
  match args with
  | [] => rfl
  | arg :: rest =>
    have harg : arg.eval s₁ = arg.eval s₂ := eval_congr (h.mono (by simp [argVarNames]))
    have hrest : evalNumbers s₁ rest = evalNumbers s₂ rest :=
      evalNumbers_congr (h.mono (by simp [argVarNames]))
    rw [evalNumbers, evalNumbers, harg, hrest]

end

end Expr

/-! ### Names among tokens -/

namespace Grammar

/-- Joining two trees gives the variables of both. -/
theorem Joins.mem_varNames {l : Level} {s : Symbol} {tree : Expr → Expr → Expr}
    (h : Joins l s tree) {lhs rhs : Expr} {name : String} :
    name ∈ (tree lhs rhs).varNames ↔ name ∈ lhs.varNames ∨ name ∈ rhs.varNames := by
  cases h <;> simp [Expr.varNames]

/-- **Variables are identifiers**: each variable of a tree stands among the tokens that the tree was
derived from. The induction is on the derivation; the only production that makes a variable is that
of a name, and every other one keeps the tokens of its parts. -/
theorem Derives.mem_of_mem_varNames {n : Nonterminal} {ts : List Token} {e : Expr}
    (h : Derives n ts e) : ∀ name ∈ e.varNames, Token.ident name ∈ ts := by
  induction h with
  | ofOr _ ih => exact ih
  | conditional _ _ _ ih₁ ih₂ ih₃ =>
    intro name hname
    simp only [Expr.varNames, List.mem_append] at hname
    simp only [List.mem_append, List.mem_cons]
    rcases hname with (hcond | hyes) | hno
    · exact .inl (ih₁ name hcond)
    · exact .inr (.inr (.inl (ih₂ name hyes)))
    · exact .inr (.inr (.inr (.inr (ih₃ name hno))))
  | ofOperand _ ih => exact ih
  | join _ hj _ ih₁ ih₂ =>
    intro name hname
    rw [List.mem_append, List.mem_cons]
    rcases hj.mem_varNames.1 hname with hlhs | hrhs
    · exact .inl (ih₁ name hlhs)
    · exact .inr (.inr (ih₂ name hrhs))
  | ofUnary _ ih => exact ih
  | pow _ _ ih₁ ih₂ =>
    intro name hname
    rw [Expr.varNames, List.mem_append] at hname
    rw [List.mem_append, List.mem_cons]
    rcases hname with hbase | hexponent
    · exact .inl (ih₁ name hbase)
    · exact .inr (.inr (ih₂ name hexponent))
  | ofPrimary _ ih => exact ih
  | sign _ _ ih =>
    intro name hname
    exact List.mem_cons_of_mem _ (ih name hname)
  | number => simp [Expr.varNames]
  | text => simp [Expr.varNames]
  | isTrue => simp [Expr.varNames]
  | isFalse => simp [Expr.varNames]
  | name _ => simp [Expr.varNames]
  | parentheses _ ih =>
    intro name hname
    apply List.mem_cons_of_mem
    exact List.mem_append_left _ (ih name hname)
  | constant _ => simp [Expr.varNames]
  | @call _ _ args _ _ _ ih =>
    intro name hname
    rw [Expr.varNames, Expr.mem_argVarNames] at hname
    obtain ⟨_, htree, hname⟩ := hname
    obtain ⟨arg, harg, rfl⟩ := List.mem_map.1 htree
    -- The argument is one of the parts between the parentheses.
    have hpart : Token.ident name ∈ commaSeparated (args.map Prod.fst) :=
      mem_commaSeparated_of_mem (List.mem_map_of_mem harg) (ih arg harg name hname)
    simp only [List.mem_cons, List.mem_append]
    exact .inr (.inr (.inr (.inr (.inl hpart))))

end Grammar

/-! ### Sources -/

/-- A source compiles exactly if the safety check has nothing against its tokens and the grammar
derives a tree from them. -/
theorem Expression.compile_eq_ok_iff {source : String} {e : Expression} :
    compile source = .ok e ↔
      safetyFault? (Token.ofText source) = none ∧
        Grammar.Derives .expr (Token.ofText source) e.tree ∧ e.source = source := by
  rw [compile, ← Grammar.ofTokens_eq_ok_iff]
  cases safetyFault? (Token.ofText source) with
  | some fault => simp
  | none =>
    cases Expr.ofTokens (Token.ofText source) with
    | error fault => simp
    | ok tree =>
      obtain ⟨source', tree'⟩ := e
      simp [and_comm, eq_comm]

/-- No identifier of a source that passes the safety check is denied. -/
theorem isDenied_of_mem {tokens : List Token} (hsafe : safetyFault? tokens = none) {name : String}
    (hmem : Token.ident name ∈ tokens) : isDenied name = false := by
  have hfault : (Token.ident name).safetyFault? = none :=
    List.findSome?_eq_none_iff.1 hsafe _ hmem
  rw [Token.safetyFault?] at hfault
  cases hdenied : isDenied name with
  | false => rfl
  | true =>
    rw [hdenied] at hfault
    cases hfault

/-- **A source sees only what it names.** Two scopes that agree on the identifiers among the tokens
of a source give it the same value, or the same error. In a source that compiles every variable of
the tree is one of these identifiers, and differs from each denied name in more than the case of its
letters. -/
theorem evaluate_sees_identifiers (source : String) :
    (∀ s₁ s₂ : Scope,
      (∀ name, Token.ident name ∈ Token.ofText source → s₁.get? name = s₂.get? name) →
        evaluate source s₁ = evaluate source s₂) ∧
    ∀ e, Expression.compile source = .ok e → ∀ name ∈ e.tree.varNames,
      Token.ident name ∈ Token.ofText source ∧
        ∀ denied ∈ deniedNames,
          name.toList.map Char.toLower ≠ denied.toList.map Char.toLower := by
  refine ⟨?_, ?_⟩
  · intro s₁ s₂ hagree
    rw [evaluate, evaluate]
    cases hcompile : Expression.compile source with
    | error e => rfl
    | ok e =>
      obtain ⟨-, hderives, -⟩ := Expression.compile_eq_ok_iff.1 hcompile
      have htree : e.tree.eval s₁ = e.tree.eval s₂ := by
        apply Expr.eval_congr
        intro name hname
        exact hagree name (hderives.mem_of_mem_varNames name hname)
      show e.eval s₁ = e.eval s₂
      rw [Expression.eval, Expression.eval, htree]
  · intro e hcompile name hname
    obtain ⟨hsafe, hderives, -⟩ := Expression.compile_eq_ok_iff.1 hcompile
    have hmem := hderives.mem_of_mem_varNames name hname
    refine ⟨hmem, ?_⟩
    intro denied hdenied heq
    have hnot := isDenied_of_mem hsafe hmem
    rw [isDenied, List.any_eq_false] at hnot
    apply hnot denied hdenied
    rw [Text.equalsIgnoringCase, beq_iff_eq]
    exact heq.symm

/-- A source that has the name `z` only inside a text, and the name `zz` in a branch that may be left
out. -/
def branching : String := "x == 'a' ? y + 'z' : zz"

theorem evaluate_sees_identifiers_branching :
    evaluate branching (.ofList [("x", .text "a"), ("y", .text "p"), ("z", .text "q")]) =
        evaluate branching (.ofList [("x", .text "a"), ("y", .text "p")]) ∧
      ∃ e, Expression.compile branching = .ok e ∧ e.tree.varNames = ["x", "y", "zz"] ∧
        Token.ident "zz" ∈ Token.ofText branching := by
  obtain ⟨hsees, hnames⟩ := evaluate_sees_identifiers branching
  have htokens : Token.ofText branching = [.ident "x", .symbol .eqEq, .text "a", .symbol .question,
      .ident "y", .symbol .plus, .text "z", .symbol .colon, .ident "zz"] := by decide +kernel
  refine ⟨?_, ?_⟩
  · apply hsees
    intro name hname
    rw [htokens] at hname
    simp only [List.mem_cons, Token.ident.injEq, List.not_mem_nil, reduceCtorEq, or_false,
      false_or] at hname
    rcases hname with rfl | rfl | rfl
    · rfl
    · rfl
    · rfl
  · have htree : Expr.ofTokens (Token.ofText branching) = .ok (.conditional
        (.binary .looseEq (.var "x") (.literal (.text "a")))
        (.binary .add (.var "y") (.literal (.text "z"))) (.var "zz")) := by
      rw [htokens]
      cbv
    have hsafe : safetyFault? (Token.ofText branching) = none := by
      rw [htokens]
      decide
    have hcompile : Expression.compile branching = .ok ⟨branching, _⟩ :=
      Expression.compile_eq_ok_iff.2 ⟨hsafe, Grammar.ofTokens_eq_ok_iff.1 htree, rfl⟩
    exact ⟨_, hcompile, rfl, (hnames _ hcompile "zz" (by simp [Expr.varNames])).1⟩

end QuizBank

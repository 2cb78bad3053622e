import QuizBank.Proofs.Expr.Scanning
import QuizBank.Proofs.Expr.Visibility
import QuizBank.Proofs.Item.Constraints

/-!
# Options with an operator at the root

An answer or a distractor is evaluated only if its text looks like an expression, and that is told
from its characters. The scanner reads a symbol only where the text spells it
(`Token.infix_of_mem_scan`), and a tree is derived from tokens that hold its operator
(`Grammar.Derives.symbol_mem`), so an operator at the root of a tree shows in the text. Comparisons
and arithmetic operators are written with an operator character, all but that of the remainder.
-/

namespace QuizBank

/-! ### Symbols in a text -/

namespace Token

theorem eq_append_of_symbolPart {c : Char} {rest after : List Char} {s : Symbol}
    (h : symbolPart c rest = some (s, after)) : c :: rest = s.text.toList ++ after := by
  unfold symbolPart at h
  split at h <;> cases h <;> rfl

/-- The scanner reads a symbol only where it is written. The cases are the branches of the scanner;
behind the token in front goes on what is left of the text. -/
theorem infix_of_mem_scan {cs : List Char} {s : Symbol} (h : symbol s ∈ scan cs) :
    s.text.toList <:+: cs := by
  fun_induction scan cs with
  | case1 => cases h
  | case2 c rest hblank ih => exact (ih h).trans (List.suffix_cons c rest).isInfix
  | case3 c rest hblank hnumber _ ih =>
    have hne : ofNumberPart (numberPart (c :: rest)).1 ≠ symbol s :=
      ofNumberPart_ne (by simp) (by simp) _
    have hrest := (List.mem_cons.1 h).resolve_left hne.symm
    exact (ih hrest).trans (numberPart_suffix _).isInfix
  | case4 c rest hblank hnumber hstart _ ih =>
    have hrest : symbol s ∈ scan (rest.dropWhile isNameChar) := by simpa using h
    exact (ih hrest).trans ((List.dropWhile_suffix _).trans (List.suffix_cons c rest)).isInfix
  | case5 c rest hblank hnumber hstart hquote content after htext _ ih =>
    have hrest : symbol s ∈ scan after := by simpa using h
    exact (ih hrest).trans ((textPart_suffix htext).trans (List.suffix_cons c rest)).isInfix
  | case6 => cases List.mem_singleton.1 h
  | case7 c rest hblank hnumber hstart hquote s' after hsymbol _ ih =>
    have htext : c :: rest = s'.text.toList ++ after := eq_append_of_symbolPart hsymbol
    rw [htext]
    obtain heq | hrest := List.mem_cons.1 h
    · cases heq
      exact (List.prefix_append _ _).isInfix
    · exact (ih hrest).trans (List.suffix_append _ _).isInfix
  | case8 c rest hblank hnumber hstart hquote hsymbol ih =>
    have hrest : symbol s ∈ scan rest := by simpa using h
    exact (ih hrest).trans (List.suffix_cons c rest).isInfix

end Token

/-! ### The symbol at the root of a tree -/

/-- How an operator in front of its operand is written. -/
def UnaryOp.symbol : UnaryOp → Symbol
  | neg => .minus
  | pos => .plus
  | not => .bang

/-- How an operator between two operands is written. -/
def BinaryOp.symbol : BinaryOp → Symbol
  | add => .plus
  | sub => .minus
  | mul => .star
  | div => .slash
  | rem => .percent
  | pow => .starStar
  | lt => .lt
  | le => .le
  | gt => .gt
  | ge => .ge
  | looseEq => .eqEq
  | looseNe => .notEq
  | strictEq => .eqEqEq
  | strictNe => .notEqEq

/-- How a logical operator is written. -/
def LogicalOp.symbol : LogicalOp → Symbol
  | and => .andAnd
  | or => .orOr

namespace Expr

/-- The symbol of the operator at the root of a tree, if there is an operator. -/
def rootSymbol? : Expr → Option Symbol
  | unary op _ => some op.symbol
  | binary op _ _ => some op.symbol
  | logical op _ _ => some op.symbol
  | conditional .. => some .question
  | _ => none

end Expr

namespace Grammar

theorem Joins.rootSymbol?_eq {l : Level} {s : Symbol} {tree : Expr → Expr → Expr}
    (h : Joins l s tree) (lhs rhs : Expr) : (tree lhs rhs).rootSymbol? = some s := by
  cases h <;> rfl

theorem Prefixes.symbol_eq {s : Symbol} {op : UnaryOp} (h : Prefixes s op) : op.symbol = s := by
  cases h <;> rfl

/-- The operator at the root of a tree is among the tokens that the tree is derived from. -/
theorem Derives.symbol_mem {n : Nonterminal} {ts : List Token} {e : Expr} {s : Symbol}
    (h : Derives n ts e) (hroot : e.rootSymbol? = some s) : Token.symbol s ∈ ts := by
  induction h with
  | ofOr _ ih => exact ih hroot
  | conditional _ _ _ _ _ _ =>
    cases hroot
    simp
  | ofOperand _ ih => exact ih hroot
  | join _ hj _ _ _ =>
    rw [hj.rootSymbol?_eq] at hroot
    cases hroot
    simp
  | ofUnary _ ih => exact ih hroot
  | pow _ _ _ _ =>
    cases hroot
    simp [BinaryOp.symbol]
  | ofPrimary _ ih => exact ih hroot
  | sign hp _ _ =>
    cases hroot
    rw [hp.symbol_eq]
    exact List.mem_cons_self
  | number => cases hroot
  | text => cases hroot
  | isTrue => cases hroot
  | isFalse => cases hroot
  | name _ => cases hroot
  | parentheses _ ih =>
    apply List.mem_cons_of_mem
    exact List.mem_append_left _ (ih hroot)
  | constant _ => cases hroot
  | call _ _ _ _ => cases hroot

end Grammar

/-- The operator at the root of the tree of a source is written in the source. -/
theorem Expression.symbol_infix {source : String} {e : Expression} {s : Symbol}
    (h : compile source = .ok e) (hroot : e.tree.rootSymbol? = some s) :
    s.text.toList <:+: source.toList := by
  obtain ⟨-, hderives, -⟩ := compile_eq_ok_iff.1 h
  apply Token.infix_of_mem_scan
  exact hderives.symbol_mem hroot

/-! ### Values of a remainder -/

namespace Expr

theorem eq_binary_of_rootSymbol?_eq_percent {e : Expr} (h : e.rootSymbol? = some .percent) :
    ∃ lhs rhs, e = .binary .rem lhs rhs := by
  cases e with
  | binary op lhs rhs =>
    cases op <;> cases h
    exact ⟨lhs, rhs, rfl⟩
  | unary op operand => cases op <;> cases h
  | logical op lhs rhs => cases op <;> cases h
  | literal v => cases h
  | var name => cases h
  | call f args => cases h
  | conditional cond yes no => cases h

theorem eval_binary_eq_ok_iff {scope : Scope} {op : BinaryOp} {lhs rhs : Expr} {v : Value} :
    eval scope (.binary op lhs rhs) = .ok v ↔
      ∃ a b, eval scope lhs = .ok a ∧ eval scope rhs = .ok b ∧ op.apply a b = .ok v := by
  rw [eval]
  cases eval scope lhs with
  | error e => simp
  | ok a => cases eval scope rhs <;> simp

/-- A remainder is a number. -/
theorem exists_number_of_apply_rem {a b v : Value} (h : BinaryOp.rem.apply a b = .ok v) :
    ∃ x, v = .number x := by
  rw [BinaryOp.apply, BinaryOp.divisionLike] at h
  cases hb : b.toNumber with
  | error e => simp [hb] at h
  | ok y =>
    simp only [hb] at h
    split at h
    · cases h
    · cases ha : a.toNumber with
      | error e => simp [ha] at h
      | ok x =>
        simp only [ha] at h
        cases h
        exact ⟨_, rfl⟩

end Expr

/-- A source that is a remainder never has a text for its value. -/
theorem evaluate_ne_text_of_percent {source : String} {e : Expression}
    (hcompile : Expression.compile source = .ok e) (hroot : e.tree.rootSymbol? = some .percent)
    (scope : Scope) (text : String) : evaluate source scope ≠ .ok (.text text) := by
  intro h
  obtain ⟨e', hcompile', hvalue, -⟩ := evaluate_eq_ok_iff.1 h
  obtain ⟨lhs, rhs, htree⟩ := Expr.eq_binary_of_rootSymbol?_eq_percent hroot
  rw [hcompile] at hcompile'
  cases hcompile'
  rw [htree] at hvalue
  obtain ⟨a, b, -, -, hrem⟩ := Expr.eval_binary_eq_ok_iff.1 hvalue
  obtain ⟨x, hx⟩ := Expr.exists_number_of_apply_rem hrem
  cases hx

/-! ### Texts that look like expressions -/

namespace Symbol

/-- The arithmetic operators. -/
def arithmetic : List Symbol := [plus, minus, star, slash, percent, starStar]

/-- The comparisons. -/
def comparisons : List Symbol := [lt, le, gt, ge, eqEq, notEq, eqEqEq, notEqEq]

/-- Every one of these operators but that of the remainder has an operator character in it. -/
theorem any_operatorChars {s : Symbol} (h : s ∈ arithmetic ++ comparisons) (hs : s ≠ percent) :
    s.text.toList.any Generation.operatorChars.contains = true := by
  have hall : (arithmetic ++ comparisons).all (fun s =>
      s == percent || s.text.toList.any Generation.operatorChars.contains) = true := by
    decide +kernel
  have hsymbol := List.all_eq_true.1 hall s h
  rw [Bool.or_eq_true, beq_iff_eq] at hsymbol
  exact hsymbol.resolve_left hs

end Symbol

namespace Generation

theorem looksLikeExpression_of_infix {source : String} {s : Symbol}
    (h : s.text.toList <:+: source.toList) (hs : s ∈ Symbol.arithmetic ++ Symbol.comparisons)
    (hne : s ≠ .percent) : looksLikeExpression source = true := by
  obtain ⟨c, hc, hop⟩ := List.any_eq_true.1 (Symbol.any_operatorChars hs hne)
  have hany : source.toList.any operatorChars.contains = true :=
    List.any_eq_true.2 ⟨c, h.subset hc, hop⟩
  rw [looksLikeExpression, hany, Bool.true_or]

/-- An option that does not look like an expression and names no variable stands for itself. -/
theorem resolveOption_of_not_looksLikeExpression {source : String} {scope : Scope}
    (hlooks : looksLikeExpression source = false) (hnone : scope.get? source = none) :
    resolveOption (.text source) scope = .ok (.text source) := by
  rw [resolveOption, hlooks, hnone]
  rfl

/-- **Options with an operator at the root.** An option whose tree has an arithmetic operator or a
comparison at its root looks like an expression, unless the operator is that of the remainder. It
has the value of the expression in every scope exactly if it looks like one. A remainder that does
not look like an expression is handed out as it is written, wherever no variable has its text for a
name; the value of the expression is never a text. -/
theorem resolveOption_of_operator_root {source : String} {e : Expression} {s : Symbol}
    (hcompile : Expression.compile source = .ok e) (hroot : e.tree.rootSymbol? = some s)
    (hs : s ∈ Symbol.arithmetic ++ Symbol.comparisons) :
    (s ≠ .percent → looksLikeExpression source = true) ∧
      ((∀ scope, resolveOption (.text source) scope = evaluate source scope) ↔
        looksLikeExpression source = true) ∧
      (looksLikeExpression source = false → ∀ scope : Scope, scope.get? source = none →
        resolveOption (.text source) scope = .ok (.text source) ∧
          ∀ text, evaluate source scope ≠ .ok (.text text)) := by
  have hlooks : s ≠ .percent → looksLikeExpression source = true :=
    looksLikeExpression_of_infix (Expression.symbol_infix hcompile hroot) hs
  have hliteral : looksLikeExpression source = false → ∀ scope : Scope, scope.get? source = none →
      resolveOption (.text source) scope = .ok (.text source) ∧
        ∀ text, evaluate source scope ≠ .ok (.text text) := by
    intro hnot scope hnone
    have hpercent : s = .percent := by
      by_contra hne
      rw [hlooks hne] at hnot
      cases hnot
    rw [hpercent] at hroot
    exact ⟨resolveOption_of_not_looksLikeExpression hnot hnone,
      evaluate_ne_text_of_percent hcompile hroot scope⟩
  refine ⟨hlooks, ⟨?_, ?_⟩, hliteral⟩
  · intro hall
    by_contra hnot
    rw [Bool.not_eq_true] at hnot
    -- The empty scope has no variable that the text could name.
    obtain ⟨hresolved, hvalue⟩ := hliteral hnot .empty rfl
    apply hvalue source
    rw [← hall, hresolved]
  · intro h scope
    exact resolveOption_of_looksLikeExpression scope h

/-- A remainder. -/
def remainder : String := "x % 2"

/-- The tree of the remainder. -/
def remainderTree : Expr := .binary .rem (.var "x") (.literal (.number 2))

theorem compile_remainder : Expression.compile remainder = .ok ⟨remainder, remainderTree⟩ := by
  have htokens : Token.ofText remainder = [.ident "x", .symbol .percent, .number 2] := by
    decide +kernel
  have htree : Expr.ofTokens (Token.ofText remainder) = .ok remainderTree := by
    rw [htokens]
    cbv
  have hsafe : safetyFault? (Token.ofText remainder) = none := by
    rw [htokens]
    decide
  exact Expression.compile_eq_ok_iff.2 ⟨hsafe, Grammar.ofTokens_eq_ok_iff.1 htree, rfl⟩

/-- The option is its own text, and the value of the expression is another one. -/
theorem resolveOption_of_operator_root_remainder :
    resolveOption (.text remainder) (.ofList [("x", .number 5)]) = .ok (.text remainder) ∧
      evaluate remainder (.ofList [("x", .number 5)]) = .ok (.number 1) := by
  have hnot : looksLikeExpression remainder = false := by decide +kernel
  have hmem : Symbol.percent ∈ Symbol.arithmetic ++ Symbol.comparisons := by decide
  obtain ⟨-, -, hliteral⟩ := resolveOption_of_operator_root compile_remainder rfl hmem
  refine ⟨(hliteral hnot _ rfl).1, ?_⟩
  apply evaluate_eq_ok_iff.2
  refine ⟨_, compile_remainder, ?_, ?_⟩
  · decide +kernel
  · decide +kernel

theorem not_resolveOption_eq_evaluate :
    ¬ ∀ (source : String) (e : Expression) (s : Symbol), Expression.compile source = .ok e →
      e.tree.rootSymbol? = some s → s ∈ Symbol.arithmetic ++ Symbol.comparisons →
        looksLikeExpression source = true ∧
          ∀ scope, resolveOption (.text source) scope = evaluate source scope := by
  intro h
  have hlooks := (h _ _ .percent compile_remainder rfl (by decide)).1
  have hnot : looksLikeExpression remainder = false := by decide +kernel
  rw [hnot] at hlooks
  cases hlooks

end Generation
end QuizBank

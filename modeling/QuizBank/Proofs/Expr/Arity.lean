import QuizBank.Proofs.Expr.Visibility

/-!
# Calls have their arguments

The value of a function is total: NaN stands where a number of arguments is not taken. A function
that reads its arguments by position has no value there (`MathFunction.applyAt?`), and an evaluator
that calls it has to stop. `Expr.run` is that evaluator, and it keeps a list of the functions that
it applied:

* `Grammar.Derives.callsAccepted`: the grammar derives no call with a number of arguments that is
  not taken, at any depth.
* `Expr.run_agrees`: on a tree with no such call all arguments that are read are there, and the
  evaluator comes to what `Expr.eval` gives.
-/

namespace QuizBank

namespace MathFunction

/-- How many arguments the function reads by position. Those of any number of arguments go through
their list instead. -/
def indexed : MathFunction → Nat
  | hypot => 0
  | min => 0
  | max => 0
  | atan2 => 2
  | pow => 2
  | _ => 1

/-- The value of a function that reads its arguments by position. There is none if one of the
positions lies behind the end of the list. -/
def applyAt? (f : MathFunction) (args : List Float) : Option Float :=
  match f with
  | hypot => some (Number.hypot args)
  | min => some (Number.least args)
  | max => some (Number.greatest args)
  | atan2 =>
    match args[0]?, args[1]? with
    | some y, some x => some (Float.atan2 y x)
    | _, _ => none
  | pow =>
    match args[0]?, args[1]? with
    | some x, some y => some (Float.pow x y)
    | _, _ => none
  | f => args[0]?.map f.applyOne

/-- The value is there exactly if all arguments that are read by position are there. -/
theorem isSome_applyAt?_iff {f : MathFunction} {args : List Float} :
    (f.applyAt? args).isSome = true ↔ f.indexed ≤ args.length := by
  cases args with
  | nil => cases f <;> simp [applyAt?, indexed]
  | cons x rest =>
    cases rest with
    | nil => cases f <;> simp [applyAt?, indexed]
    | cons y rest => cases f <;> simp [applyAt?, indexed]

theorem applyAt?_of_accepts {f : MathFunction} {args : List Float}
    (h : f.accepts args.length = true) : f.applyAt? args = some (f.apply args) := by
  match args with
  | [] => cases f <;> first | rfl | nomatch h
  | [x] => cases f <;> first | rfl | nomatch h
  | [x, y] => cases f <;> first | rfl | nomatch h
  | x :: y :: z :: rest => cases f <;> first | rfl | simp [accepts, arity] at h

end MathFunction

/-! ### Calls of a tree -/

namespace Expr

mutual

/-- The calls in a tree, at any depth: each function with its arguments. -/
def calls : Expr → List (MathFunction × List Expr)
  | literal _ => []
  | var _ => []
  | call f args => (f, args) :: argCalls args
  | unary _ operand => operand.calls
  | binary _ lhs rhs => lhs.calls ++ rhs.calls
  | logical _ lhs rhs => lhs.calls ++ rhs.calls
  | conditional cond yes no => cond.calls ++ yes.calls ++ no.calls

/-- The calls in a list of arguments. -/
def argCalls : List Expr → List (MathFunction × List Expr)
  | [] => []
  | arg :: rest => arg.calls ++ argCalls rest

end

/-- Each of the calls has a number of arguments that its function takes. -/
def CallsAccepted (cs : List (MathFunction × List Expr)) : Prop :=
  ∀ c ∈ cs, c.1.accepts c.2.length = true

@[simp] theorem callsAccepted_nil : CallsAccepted [] := by
  simp [CallsAccepted]

@[simp] theorem callsAccepted_cons {c : MathFunction × List Expr}
    {cs : List (MathFunction × List Expr)} :
    CallsAccepted (c :: cs) ↔ c.1.accepts c.2.length = true ∧ CallsAccepted cs := by
  simp [CallsAccepted]

@[simp] theorem callsAccepted_append {cs ds : List (MathFunction × List Expr)} :
    CallsAccepted (cs ++ ds) ↔ CallsAccepted cs ∧ CallsAccepted ds := by
  simp only [CallsAccepted, List.mem_append, or_imp, forall_and]

theorem callsAccepted_argCalls {args : List Expr} (h : ∀ arg ∈ args, CallsAccepted arg.calls) :
    CallsAccepted (argCalls args) := by
  induction args with
  | nil => exact callsAccepted_nil
  | cons arg rest ih =>
    rw [argCalls, callsAccepted_append]
    exact ⟨h arg List.mem_cons_self, ih fun a ha => h a (List.mem_cons_of_mem arg ha)⟩

end Expr

namespace Grammar

/-- Joining two trees makes no call of its own. -/
theorem Joins.calls_eq {l : Level} {s : Symbol} {tree : Expr → Expr → Expr}
    (h : Joins l s tree) (lhs rhs : Expr) : (tree lhs rhs).calls = lhs.calls ++ rhs.calls := by
  cases h <;> rfl

/-- **No call is short of arguments**, or has too many. The induction is on the derivation; the only
production that makes a call is that of a member with arguments, which counts them. -/
theorem Derives.callsAccepted {n : Nonterminal} {ts : List Token} {e : Expr}
    (h : Derives n ts e) : Expr.CallsAccepted e.calls := by
  induction h with
  | ofOr _ ih => exact ih
  | conditional _ _ _ ih₁ ih₂ ih₃ =>
    rw [Expr.calls, Expr.callsAccepted_append, Expr.callsAccepted_append]
    exact ⟨⟨ih₁, ih₂⟩, ih₃⟩
  | ofOperand _ ih => exact ih
  | join _ hj _ ih₁ ih₂ =>
    rw [hj.calls_eq, Expr.callsAccepted_append]
    exact ⟨ih₁, ih₂⟩
  | ofUnary _ ih => exact ih
  | pow _ _ ih₁ ih₂ =>
    rw [Expr.calls, Expr.callsAccepted_append]
    exact ⟨ih₁, ih₂⟩
  | ofPrimary _ ih => exact ih
  | sign _ _ ih => exact ih
  | number => exact Expr.callsAccepted_nil
  | text => exact Expr.callsAccepted_nil
  | isTrue => exact Expr.callsAccepted_nil
  | isFalse => exact Expr.callsAccepted_nil
  | name _ => exact Expr.callsAccepted_nil
  | parentheses _ ih => exact ih
  | constant _ => exact Expr.callsAccepted_nil
  | @call _ f args _ hcount _ ih =>
    rw [Expr.calls, Expr.callsAccepted_cons, List.length_map]
    refine ⟨hcount, Expr.callsAccepted_argCalls ?_⟩
    intro tree htree
    obtain ⟨arg, harg, rfl⟩ := List.mem_map.1 htree
    exact ih arg harg

end Grammar

/-! ### Runs of the evaluator -/

/-- Why a run stops: an error of the language, or a function that reads behind the end of its
arguments. -/
inductive Stop
  | error (e : EvalError)
  | missing (f : MathFunction) (args : List Float)

/-- A run of the evaluator: the functions that it applied, each with its arguments, and what it came
to. -/
structure Run (α : Type) where
  applied : List (MathFunction × List Float)
  result : Except Stop α

namespace Run

variable {α β : Type}

/-- A run that applies no function. -/
def ofExcept (x : Except EvalError α) : Run α := ⟨[], x.mapError .error⟩

/-- One run after another, unless the first one stops. -/
def bind (r : Run α) (next : α → Run β) : Run β :=
  match r.result with
  | .error stop => ⟨r.applied, .error stop⟩
  | .ok a => ⟨r.applied ++ (next a).applied, (next a).result⟩

/-- The run that applies a function. -/
def apply (f : MathFunction) (args : List Float) : Run Value :=
  match f.applyAt? args with
  | some x => ⟨[(f, args)], .ok (.number x)⟩
  | none => ⟨[(f, args)], .error (.missing f args)⟩

/-- Each function was applied to a number of arguments that it takes, and the run came to the result
of an evaluation. -/
structure Agrees (r : Run α) (x : Except EvalError α) : Prop where
  accepted : ∀ a ∈ r.applied, a.1.accepts a.2.length = true
  result_eq : r.result = x.mapError .error

theorem agrees_ofExcept (x : Except EvalError α) : (ofExcept x).Agrees x := by
  refine ⟨?_, rfl⟩
  nofun

/-- Runs agree with an evaluation step by step. -/
theorem Agrees.bind {r : Run α} {x : Except EvalError α} {next : α → Run β}
    {f : α → Except EvalError β} (h : r.Agrees x)
    (hnext : ∀ a, x = .ok a → (next a).Agrees (f a)) : (r.bind next).Agrees (x.bind f) := by
  obtain ⟨haccepted, hresult⟩ := h
  cases x with
  | error e =>
    rw [Run.bind, hresult]
    exact ⟨haccepted, rfl⟩
  | ok a =>
    have hrest := hnext a rfl
    rw [Run.bind, hresult]
    refine ⟨?_, hrest.result_eq⟩
    intro b hb
    rcases List.mem_append.1 hb with hb | hb
    · exact haccepted b hb
    · exact hrest.accepted b hb

theorem agrees_apply {f : MathFunction} {args : List Float}
    (h : f.accepts args.length = true) : (apply f args).Agrees (.ok (.number (f.apply args))) := by
  rw [apply, MathFunction.applyAt?_of_accepts h]
  refine ⟨?_, rfl⟩
  intro a ha
  rw [List.mem_singleton.1 ha]
  exact h

end Run

namespace Expr

mutual

/-- The run of a tree in a scope. -/
def run (scope : Scope) : Expr → Run Value
  | literal v => .ofExcept (.ok v)
  | var name =>
    match scope.get? name with
    | some v => .ofExcept (.ok v)
    | none => .ofExcept (.error (.unknownIdentifier name))
  | call f args => (runNumbers scope args).bind (Run.apply f)
  | unary op operand => (run scope operand).bind fun v => .ofExcept (op.apply v)
  | binary op lhs rhs =>
    (run scope lhs).bind fun a => (run scope rhs).bind fun b => .ofExcept (op.apply a b)
  | logical op lhs rhs =>
    (run scope lhs).bind fun a => if op.decides a then .ofExcept (.ok a) else run scope rhs
  | conditional cond yes no =>
    (run scope cond).bind fun c => if c.truthy then run scope yes else run scope no

/-- The run of arguments, each of which is read as a number before the next one is looked at. -/
def runNumbers (scope : Scope) : List Expr → Run (List Float)
  | [] => .ofExcept (.ok [])
  | arg :: rest =>
    (run scope arg).bind fun v => (Run.ofExcept v.toNumber).bind fun x =>
      (runNumbers scope rest).bind fun xs => .ofExcept (.ok (x :: xs))

end

variable {scope : Scope}

/-! ### Evaluation step by step -/

theorem eval_call (f : MathFunction) (args : List Expr) :
    (call f args).eval scope =
      (evalNumbers scope args).bind fun xs => .ok (.number (f.apply xs)) := by
  rw [eval]
  cases evalNumbers scope args <;> rfl

theorem eval_unary (op : UnaryOp) (operand : Expr) :
    (unary op operand).eval scope = (operand.eval scope).bind op.apply := by
  rw [eval]
  cases operand.eval scope <;> rfl

theorem eval_binary (op : BinaryOp) (lhs rhs : Expr) :
    (binary op lhs rhs).eval scope =
      (lhs.eval scope).bind fun a => (rhs.eval scope).bind (op.apply a) := by
  rw [eval]
  cases lhs.eval scope <;> cases rhs.eval scope <;> rfl

theorem eval_logical (op : LogicalOp) (lhs rhs : Expr) :
    (logical op lhs rhs).eval scope =
      (lhs.eval scope).bind fun a => if op.decides a then .ok a else rhs.eval scope := by
  rw [eval]
  cases lhs.eval scope <;> rfl

theorem eval_conditional (cond yes no : Expr) :
    (conditional cond yes no).eval scope =
      (cond.eval scope).bind fun c => if c.truthy then yes.eval scope else no.eval scope := by
  rw [eval]
  cases cond.eval scope <;> rfl

theorem evalNumbers_cons (arg : Expr) (rest : List Expr) :
    evalNumbers scope (arg :: rest) = (arg.eval scope).bind fun v => v.toNumber.bind fun x =>
      (evalNumbers scope rest).bind fun xs => .ok (x :: xs) := by
  rw [evalNumbers]
  cases arg.eval scope with
  | error e => rfl
  | ok v =>
    show _ = v.toNumber.bind _
    dsimp only
    cases v.toNumber <;> cases evalNumbers scope rest <;> rfl

/-! ### Runs beside evaluations -/

theorem length_of_evalNumbers {args : List Expr} {xs : List Float}
    (h : evalNumbers scope args = .ok xs) : xs.length = args.length := by
  induction args generalizing xs with
  | nil =>
    cases h
    rfl
  | cons arg rest ih =>
    rw [evalNumbers] at h
    split at h
    · cases h
    · split at h
      · cases h
      · split at h
        · cases h
        · next xs' hxs =>
          cases h
          rw [List.length_cons, List.length_cons, ih hxs]

mutual

/-- **Runs agree with evaluation** on a tree whose calls have all their arguments. -/
theorem run_agrees {e : Expr} (h : CallsAccepted e.calls) :
    (e.run scope).Agrees (e.eval scope) := by
  match e with
  | literal v => exact Run.agrees_ofExcept _
  | var name =>
    rw [run, eval]
    cases scope.get? name with
    | some v => exact Run.agrees_ofExcept _
    | none => exact Run.agrees_ofExcept _
  | call f args =>
    rw [calls, callsAccepted_cons] at h
    rw [run, eval_call]
    apply (runNumbers_agrees h.2).bind
    intro xs hxs
    apply Run.agrees_apply
    rw [length_of_evalNumbers hxs]
    exact h.1
  | unary op operand =>
    rw [calls] at h
    rw [run, eval_unary]
    apply (run_agrees h).bind
    intro v _
    exact Run.agrees_ofExcept _
  | binary op lhs rhs =>
    rw [calls, callsAccepted_append] at h
    rw [run, eval_binary]
    apply (run_agrees h.1).bind
    intro a _
    apply (run_agrees h.2).bind
    intro b _
    exact Run.agrees_ofExcept _
  | logical op lhs rhs =>
    rw [calls, callsAccepted_append] at h
    rw [run, eval_logical]
    apply (run_agrees h.1).bind
    intro a _
    split
    · exact Run.agrees_ofExcept _
    · exact run_agrees h.2
  | conditional cond yes no =>
    rw [calls, callsAccepted_append, callsAccepted_append] at h
    rw [run, eval_conditional]
    apply (run_agrees h.1.1).bind
    intro c _
    split
    · exact run_agrees h.1.2
    · exact run_agrees h.2

theorem runNumbers_agrees {args : List Expr} (h : CallsAccepted (argCalls args)) :
    (runNumbers scope args).Agrees (evalNumbers scope args) := by
  match args with
  | [] => exact Run.agrees_ofExcept _
  | arg :: rest =>
    rw [argCalls, callsAccepted_append] at h
    rw [runNumbers, evalNumbers_cons]
    apply (run_agrees h.1).bind
    intro v _
    apply (Run.agrees_ofExcept _).bind
    intro x _
    apply (runNumbers_agrees h.2).bind
    intro xs _
    exact Run.agrees_ofExcept _

end

end Expr

/-- **No function reads behind the end of its arguments.** In a source that compiles each call, at
any depth, has a number of arguments that its function takes. So in any scope each function that the
evaluator applies gets at least the arguments that it reads by position, and has the value that it
has on them; the evaluator never stops for an argument that is missing and comes to the value or the
error of the source. -/
theorem Expression.calls_accepted {source : String} {e : Expression}
    (h : Expression.compile source = .ok e) :
    (∀ c ∈ e.tree.calls, c.1.accepts c.2.length = true) ∧
    ∀ scope : Scope,
      (∀ a ∈ (e.tree.run scope).applied, a.1.accepts a.2.length = true ∧
        a.1.indexed ≤ a.2.length ∧ a.1.applyAt? a.2 = some (a.1.apply a.2)) ∧
      (∀ f args, (e.tree.run scope).result ≠ .error (.missing f args)) ∧
      (e.tree.run scope).result = (e.tree.eval scope).mapError .error := by
  obtain ⟨-, hderives, -⟩ := Expression.compile_eq_ok_iff.1 h
  refine ⟨hderives.callsAccepted, ?_⟩
  intro scope
  obtain ⟨haccepted, hresult⟩ := @Expr.run_agrees scope _ hderives.callsAccepted
  refine ⟨?_, ?_, hresult⟩
  · intro a ha
    have hcount := haccepted a ha
    have hvalue := MathFunction.applyAt?_of_accepts hcount
    refine ⟨hcount, MathFunction.isSome_applyAt?_iff.1 ?_, hvalue⟩
    rw [hvalue]
    rfl
  · intro f args hmissing
    rw [hresult] at hmissing
    cases heval : e.tree.eval scope with
    | error fault =>
      rw [heval] at hmissing
      cases hmissing
    | ok v =>
      rw [heval] at hmissing
      cases hmissing

/-- Calls in the arguments of a call, in both branches of a conditional and behind a sign. -/
def nested : String := "b ? Math.max(Math.pow(x, y), Math.min()) : -Math.abs(Math.hypot(y))"

/-- Values for the variables of `nested`, with which its second branch is left out. -/
def nestedScope : Scope := .ofList [("b", .bool true), ("x", .number 2), ("y", .number 3)]

theorem calls_accepted_nested :
    ∃ e, Expression.compile nested = .ok e ∧
      e.tree.calls.map Prod.fst = [.max, .pow, .min, .abs, .hypot] ∧
      (∀ c ∈ e.tree.calls, c.1.accepts c.2.length = true) ∧
      (e.tree.run nestedScope).applied =
        [(.pow, [2, 3]), (.min, []), (.max, [Float.pow 2 3, Number.least []])] ∧
      ∀ f args, (e.tree.run nestedScope).result ≠ .error (.missing f args) := by
  have htokens : Token.ofText nested = [.ident "b", .symbol .question,
      .ident "Math", .symbol .dot, .ident "max", .symbol .lparen,
      .ident "Math", .symbol .dot, .ident "pow", .symbol .lparen, .ident "x", .symbol .comma,
      .ident "y", .symbol .rparen, .symbol .comma,
      .ident "Math", .symbol .dot, .ident "min", .symbol .lparen, .symbol .rparen, .symbol .rparen,
      .symbol .colon, .symbol .minus, .ident "Math", .symbol .dot, .ident "abs", .symbol .lparen,
      .ident "Math", .symbol .dot, .ident "hypot", .symbol .lparen, .ident "y", .symbol .rparen,
      .symbol .rparen] := by decide +kernel
  have htree : Expr.ofTokens (Token.ofText nested) = .ok (.conditional (.var "b")
      (.call .max [.call .pow [.var "x", .var "y"], .call .min []])
      (.unary .neg (.call .abs [.call .hypot [.var "y"]]))) := by
    rw [htokens]
    with_unfolding_all rfl
  have hsafe : safetyFault? (Token.ofText nested) = none := by
    rw [htokens]
    decide
  have hcompile : Expression.compile nested = .ok ⟨nested, _⟩ :=
    Expression.compile_eq_ok_iff.2 ⟨hsafe, Grammar.ofTokens_eq_ok_iff.1 htree, rfl⟩
  obtain ⟨hcalls, hruns⟩ := Expression.calls_accepted hcompile
  exact ⟨_, hcompile, rfl, hcalls, rfl, (hruns nestedScope).2.1⟩

end QuizBank

import QuizBank.Proofs.Expr.Grammar
import QuizBank.Proofs.Expr.Reading

/-!
# The parser and the grammar

The parser accepts exactly what the grammar derives, with the same tree.

* Soundness: what is read is what is gone from the front of the tokens, and the grammar derives it.
* Completeness: the parser is greedy, so a derivation is read back only in front of tokens that
  cannot go on with it. `Symbol.reach` says how far up the grammar a symbol goes on with a form, and
  `Stops` that the next token does not.
-/

namespace QuizBank

open Grammar

namespace Parse

/-! ### The tables of the parser and of the grammar -/

theorem combine?_eq_some_iff {l : Level} {s : Symbol} {tree : Expr → Expr → Expr} :
    l.combine? s = some tree ↔ Joins l s tree := by
  constructor
  · intro h
    unfold Level.combine? at h
    split at h <;> cases h <;> constructor
  · intro h
    cases h <;> rfl

theorem ofSymbol?_eq_some_iff {s : Symbol} {op : UnaryOp} :
    UnaryOp.ofSymbol? s = some op ↔ Prefixes s op := by
  constructor
  · intro h
    unfold UnaryOp.ofSymbol? at h
    split at h <;> cases h <;> constructor
  · intro h
    cases h <;> rfl

theorem ofCall_eq_ok_iff {f : MathFunction} {args : List Expr} {e : Expr} :
    ofCall f args = .ok e ↔ f.accepts args.length = true ∧ e = .call f args := by
  unfold ofCall MathFunction.accepts
  cases f.arity with
  | any => simp [eq_comm]
  | exactly n =>
    by_cases h : args.length = n
    · simp [h, eq_comm]
    · simp [h]

theorem ofName_of_isVariable {name : String} (h : IsVariable name) : ofName name = .var name := by
  rw [ofName, if_neg h.1, if_neg h.2.1]

theorem derives_ofName {name : String} (h : name ≠ "Math") :
    Derives .primary [.ident name] (ofName name) := by
  rw [ofName]
  split
  · next ht => exact ht ▸ .isTrue
  · split
    · next hf => exact hf ▸ .isFalse
    · next ht hf => exact .name ⟨ht, hf, h⟩

/-- What the parser of a nonterminal reads. -/
def ReadsAs : Nonterminal → List Token → Expr → List Token → Prop
  | .expr, ts, e, rest => Reads (expression ts) e rest
  | .chain l, ts, e, rest => Reads (chain l ts) e rest
  | .power, ts, e, rest => Reads (power ts) e rest
  | .unary, ts, e, rest => Reads (unary ts) e rest
  | .primary, ts, e, rest => Reads (primary ts) e rest

theorem operand_reads_iff_readsAs {l : Level} {ts rest : List Token} {e : Expr} :
    Reads (operand l ts) e rest ↔ ReadsAs (operandOf l) ts e rest := by
  cases l with
  | multiplicative => exact operand_multiplicative_reads_iff
  | _ => exact operand_reads_iff rfl

/-! ### Soundness -/

/-- Whatever the parser of a nonterminal reads from the tokens is derived from what it took. -/
def Sound (n : Nonterminal) (ts : List Token) : Prop :=
  ∀ e rest, ReadsAs n ts e rest → ∃ used, ts = used ++ rest ∧ Derives n used e

/-- What the rest of a chain takes makes a longer chain of the chain before it. -/
theorem chainRest_sound {l : Level} {ts rest : List Token} {lhs e : Expr}
    (hoperand : ∀ r : List Token, r.length < ts.length → Sound (operandOf l) r)
    (h : ReadsOn (chainRest l lhs ts) e rest) :
    ∃ used, ts = used ++ rest ∧
      ∀ before, Derives (.chain l) before lhs → Derives (.chain l) (before ++ used) e := by
  induction hn : ts.length using Nat.strongRecOn generalizing ts lhs with
  | ind n ih =>
    subst hn
    rcases chainRest_reads_iff.1 h with ⟨s, r, tree, rhs, r', rfl, hs, hrhs, hon⟩ | ⟨-, rfl, rfl⟩
    · -- The operand joins the chain before it, and the rest goes on from there.
      have hr : r.length < (Token.symbol s :: r).length := Nat.lt_succ_self _
      have hr' : r'.length < (Token.symbol s :: r).length := Nat.lt_trans hrhs.shorter hr
      obtain ⟨used₁, rfl, hd⟩ := hoperand r hr _ _ (operand_reads_iff_readsAs.1 hrhs)
      obtain ⟨used₂, rfl, hchain⟩ := ih r'.length hr'
        (fun r₂ hr₂ => hoperand r₂ (Nat.lt_trans hr₂ hr')) hon rfl
      refine ⟨.symbol s :: (used₁ ++ used₂), by simp, fun before hbefore => ?_⟩
      have := hchain _ (.join hbefore (combine?_eq_some_iff.1 hs) hd)
      simpa using this
    · exact ⟨[], rfl, fun before hbefore => by simpa using hbefore⟩

theorem argumentList_sound {ts rest : List Token} {args : List Expr}
    (hexpr : ∀ r : List Token, r.length ≤ ts.length → Sound .expr r)
    (h : Reads (argumentList ts) args rest) :
    ∃ parts : List (List Token × Expr),
      ts = commaSeparated (parts.map Prod.fst) ++ .symbol .rparen :: rest ∧
        args = parts.map Prod.snd ∧ parts ≠ [] ∧ ∀ part ∈ parts, Derives .expr part.1 part.2 := by
  induction hn : ts.length using Nat.strongRecOn generalizing ts args with
  | ind n ih =>
    subst hn
    obtain ⟨arg, r, harg, hr⟩ := argumentList_reads_iff.1 h
    obtain ⟨used, hts, hd⟩ := hexpr ts (Nat.le_refl _) _ _ harg
    rcases hr with ⟨r₂, args', rfl, hargs, rfl⟩ | ⟨rfl, rfl⟩
    · have hr₂ : r₂.length < ts.length := Nat.lt_trans (Nat.lt_succ_self _) harg.shorter
      obtain ⟨parts, rfl, rfl, hne, hparts⟩ := ih r₂.length hr₂
        (fun r₃ hr₃ => hexpr r₃ (Nat.le_trans hr₃ (Nat.le_of_lt hr₂))) hargs rfl
      obtain ⟨part, parts, rfl⟩ := List.exists_cons_of_ne_nil hne
      refine ⟨(used, arg) :: part :: parts, ?_, rfl, by simp, ?_⟩
      · simp [hts, commaSeparated_cons_cons]
      · intro p hp
        rcases List.mem_cons.1 hp with rfl | hp
        · exact hd
        · exact hparts p hp
    · refine ⟨[(used, arg)], by simp [hts], rfl, by simp, ?_⟩
      intro p hp
      rw [List.mem_singleton.1 hp]
      exact hd

section Sound

variable {ts : List Token} (ih : ∀ r : List Token, r.length < ts.length → ∀ n, Sound n r)
include ih

theorem primary_sound : Sound .primary ts := by
  intro e rest h
  rcases primary_reads_iff.1 h with ⟨x, rfl, rfl⟩ | ⟨s, rfl, rfl⟩ | ⟨name, rfl, hname, rfl⟩ |
    ⟨r, rfl, hmember⟩ | ⟨r, rfl, hinner⟩
  · exact ⟨[.number x], rfl, .number⟩
  · exact ⟨[.text s], rfl, .text⟩
  · exact ⟨[.ident name], rfl, derives_ofName hname⟩
  · rcases member_reads_iff.1 hmember with ⟨name, r, f, args, rfl, hf, hargs, he⟩ |
      ⟨name, x, rfl, -, hx, rfl⟩
    · obtain ⟨haccepts, rfl⟩ := ofCall_eq_ok_iff.1 he
      rcases arguments_reads_iff.1 hargs with ⟨rfl, rfl⟩ | ⟨-, hlist⟩
      · -- A call without arguments is derived from the empty list of them.
        have hnone : ∀ arg ∈ ([] : List (List Token × Expr)), Derives .expr arg.1 arg.2 := by simp
        exact ⟨_, rfl, .call hf haccepts hnone⟩
      · obtain ⟨parts, rfl, rfl, -, hparts⟩ :=
          argumentList_sound (fun r' hr' => ih r' (by simp; omega) .expr) hlist
        refine ⟨_, ?_, .call hf (by simpa using haccepts) hparts⟩
        simp
    · exact ⟨_, rfl, .constant hx⟩
  · obtain ⟨used, rfl, hd⟩ := ih r (by simp) .expr _ _ hinner
    exact ⟨.symbol .lparen :: (used ++ [.symbol .rparen]), by simp, .parentheses hd⟩

theorem unary_sound : Sound .unary ts := by
  intro e rest h
  rcases unary_reads_iff.1 h with ⟨s, op, r, e', rfl, hs, he, rfl⟩ | ⟨-, hprimary⟩
  · obtain ⟨used, rfl, hd⟩ := ih r (by simp) .unary _ _ he
    exact ⟨.symbol s :: used, rfl, .sign (ofSymbol?_eq_some_iff.1 hs) hd⟩
  · obtain ⟨used, hts, hd⟩ := primary_sound ih _ _ hprimary
    exact ⟨used, hts, .ofPrimary hd⟩

theorem power_sound : Sound .power ts := by
  intro e rest h
  obtain ⟨base, r, hbase, hr⟩ := power_reads_iff.1 h
  obtain ⟨used, hts, hd⟩ := unary_sound ih _ _ hbase
  rcases hr with ⟨r₂, exponent, rfl, hexponent, rfl⟩ | ⟨-, rfl, rfl⟩
  · have hr₂ : r₂.length < ts.length := Nat.lt_trans (Nat.lt_succ_self _) hbase.shorter
    obtain ⟨used₂, rfl, hd₂⟩ := ih r₂ hr₂ .power _ _ hexponent
    exact ⟨used ++ .symbol .starStar :: used₂, by simp [hts], .pow hd hd₂⟩
  · exact ⟨used, hts, .ofUnary hd⟩

theorem chain_sound {l : Level} (hoperand : Sound (operandOf l) ts) : Sound (.chain l) ts := by
  intro e rest h
  obtain ⟨lhs, r, hlhs, hon⟩ := chain_reads_iff.1 h
  obtain ⟨used, hts, hd⟩ := hoperand _ _ (operand_reads_iff_readsAs.1 hlhs)
  obtain ⟨used₂, rfl, hchain⟩ := chainRest_sound
    (fun r' hr' => ih r' (Nat.lt_trans hr' hlhs.shorter) (operandOf l)) hon
  exact ⟨used ++ used₂, by simp [hts], hchain used (.ofOperand hd)⟩

theorem expression_sound (hor : Sound (.chain .or) ts) : Sound .expr ts := by
  intro e rest h
  obtain ⟨cond, r, hcond, hr⟩ := expression_reads_iff.1 h
  obtain ⟨used, hts, hd⟩ := hor _ _ hcond
  rcases hr with ⟨r₂, yes, r₃, no, rfl, hyes, hno, rfl⟩ | ⟨-, rfl, rfl⟩
  · have hr₂ : r₂.length < ts.length := Nat.lt_trans (Nat.lt_succ_self _) hcond.shorter
    have hr₃ : r₃.length < ts.length :=
      Nat.lt_trans (Nat.lt_trans (Nat.lt_succ_self _) hyes.shorter) hr₂
    obtain ⟨used₂, rfl, hd₂⟩ := ih r₂ hr₂ .expr _ _ hyes
    obtain ⟨used₃, rfl, hd₃⟩ := ih r₃ hr₃ .expr _ _ hno
    exact ⟨used ++ .symbol .question :: (used₂ ++ .symbol .colon :: used₃), by simp [hts],
      .conditional hd hd₂ hd₃⟩
  · exact ⟨used, hts, .ofOr hd⟩

end Sound

/-- **Soundness**: what the parser of a nonterminal reads, the grammar derives from exactly the
tokens that were taken. The nonterminals follow each other on the same tokens from `primary` up to
`expr`; wherever the grammar goes round, tokens have been taken in between. -/
theorem sound (n : Nonterminal) (ts : List Token) : Sound n ts := by
  induction hn : ts.length using Nat.strongRecOn generalizing ts n with
  | ind k ih =>
    subst hn
    -- On fewer tokens every nonterminal may be used, on the same tokens the tighter ones.
    have ih' : ∀ r : List Token, r.length < ts.length → ∀ n, Sound n r :=
      fun r hr n => ih r.length hr n r rfl
    have hmultiplicative : Sound (.chain .multiplicative) ts := chain_sound ih' (power_sound ih')
    have hadditive : Sound (.chain .additive) ts := chain_sound ih' hmultiplicative
    have hcomparison : Sound (.chain .comparison) ts := chain_sound ih' hadditive
    have hequality : Sound (.chain .equality) ts := chain_sound ih' hcomparison
    have hand : Sound (.chain .and) ts := chain_sound ih' hequality
    have hor : Sound (.chain .or) ts := chain_sound ih' hand
    match n with
    | .expr => exact expression_sound ih' hor
    | .chain .or => exact hor
    | .chain .and => exact hand
    | .chain .equality => exact hequality
    | .chain .comparison => exact hcomparison
    | .chain .additive => exact hadditive
    | .chain .multiplicative => exact hmultiplicative
    | .power => exact power_sound ih'
    | .unary => exact unary_sound ih'
    | .primary => exact primary_sound ih'

/-! ### Completeness -/

end Parse

/-- How far up the grammar a symbol goes on with a form: a parenthesis makes a call of a name, an
operator of a chain goes on with every form that is no looser than its operands, and the symbols
that end an expression go on with nothing. -/
def Symbol.reach : Symbol → Nat
  | .lparen => 0
  | .starStar => 1
  | .star | .slash | .percent => 2
  | .plus | .minus => 3
  | .lt | .le | .gt | .ge => 4
  | .eqEq | .notEq | .eqEqEq | .notEqEq => 5
  | .andAnd => 6
  | .orOr => 7
  | .question => 8
  | _ => 9

namespace Grammar

/-- The place of a nonterminal among the symbols: those up to it go on with it. -/
def Nonterminal.height : Nonterminal → Nat
  | .expr => 8
  | .chain l => l.height + 1
  | .power => 1
  | .unary => 0
  | .primary => 0

/-- The tokens do not go on with a form of this height. -/
def Stops (height : Nat) (ts : List Token) : Prop :=
  ∀ s r, ts = .symbol s :: r → height < s.reach

theorem Stops.mono {m n : Nat} {ts : List Token} (h : Stops n ts) (hmn : m ≤ n) : Stops m ts :=
  fun s r hts => Nat.lt_of_le_of_lt hmn (h s r hts)

theorem Stops.ne {n : Nat} {ts : List Token} {s : Symbol} (h : Stops n ts) (hs : s.reach ≤ n)
    (r : List Token) : ts ≠ .symbol s :: r := by
  intro hts
  have := h s r hts
  omega

@[simp] theorem stops_symbol {n : Nat} {s : Symbol} {ts : List Token} :
    Stops n (.symbol s :: ts) ↔ n < s.reach := by
  constructor
  · intro h
    exact h s ts rfl
  · rintro h s' r ⟨⟩
    exact h

theorem stops_nil {n : Nat} : Stops n [] := by
  intro s r h
  cases h

theorem height_operandOf (l : Level) : (operandOf l).height = l.height := by
  cases l <;> rfl

theorem Joins.reach_eq {l : Level} {s : Symbol} {tree : Expr → Expr → Expr}
    (h : Joins l s tree) : s.reach = l.height + 1 := by
  cases h <;> rfl

/-- No form begins with a closing parenthesis. -/
theorem Derives.head_ne_rparen {n : Nonterminal} {ts : List Token} {e : Expr}
    (h : Derives n ts e) : ∃ token r, ts = token :: r ∧ token ≠ .symbol .rparen := by
  induction h with
  | ofOr _ ih => exact ih
  | ofOperand _ ih => exact ih
  | ofUnary _ ih => exact ih
  | ofPrimary _ ih => exact ih
  -- The other forms begin as their first part does.
  | conditional _ _ _ ih =>
    obtain ⟨token, r, rfl, htoken⟩ := ih
    exact ⟨token, _, rfl, htoken⟩
  | join _ _ _ ih =>
    obtain ⟨token, r, rfl, htoken⟩ := ih
    exact ⟨token, _, rfl, htoken⟩
  | pow _ _ ih =>
    obtain ⟨token, r, rfl, htoken⟩ := ih
    exact ⟨token, _, rfl, htoken⟩
  | sign hp => cases hp <;> exact ⟨_, _, rfl, by decide⟩
  | _ => exact ⟨_, _, rfl, by simp⟩

/-- A primary form does not begin with an operator. -/
theorem Derives.head_of_primary {ts : List Token} {e : Expr} (h : Derives .primary ts e) :
    ∃ token r, ts = token :: r ∧ ∀ s, token = .symbol s → UnaryOp.ofSymbol? s = none := by
  cases h with
  | parentheses _ =>
    refine ⟨_, _, rfl, fun s hs => ?_⟩
    cases hs
    rfl
  | _ => exact ⟨_, _, rfl, fun s hs => by cases hs⟩

end Grammar

namespace Parse

/-- A tree is read back in front of tokens that do not go on with it. A chain is read back in front
of more operators of its level, too, as the left operand of what follows. -/
def Complete : Nonterminal → List Token → Expr → Prop
  | .chain l, ts, e => ∀ rest e' rest', Stops l.height rest →
      ReadsOn (chainRest l e rest) e' rest' → Reads (chain l (ts ++ rest)) e' rest'
  | n, ts, e => ∀ rest, Stops n.height rest → ReadsAs n (ts ++ rest) e rest

theorem chainRest_stops {l : Level} {e : Expr} {rest : List Token} (h : Stops (l.height + 1) rest) :
    ReadsOn (chainRest l e rest) e rest := by
  refine chainRest_reads_iff.2 (.inr ⟨?_, rfl, rfl⟩)
  intro s r hrest
  cases hs : l.combine? s with
  | none => rfl
  | some tree =>
    have hreach := (combine?_eq_some_iff.1 hs).reach_eq
    have hstop := h s r hrest
    omega

theorem Complete.readsAs {n : Nonterminal} {ts rest : List Token} {e : Expr}
    (h : Complete n ts e) (hrest : Stops n.height rest) : ReadsAs n (ts ++ rest) e rest := by
  cases n with
  | chain l => exact h rest e rest (hrest.mono (Nat.le_succ _)) (chainRest_stops hrest)
  | _ => exact h rest hrest

theorem argumentList_complete {parts : List (List Token × Expr)} (hne : parts ≠ [])
    (h : ∀ part ∈ parts, Complete .expr part.1 part.2) (rest : List Token) :
    Reads (argumentList (commaSeparated (parts.map Prod.fst) ++ .symbol .rparen :: rest))
      (parts.map Prod.snd) rest := by
  match parts, h with
  | [part], h =>
    have hpart : ReadsAs .expr (part.1 ++ .symbol .rparen :: rest) part.2 _ :=
      (h part (by simp)).readsAs (stops_symbol.2 (by decide))
    refine argumentList_reads_iff.2 ⟨part.2, _, ?_, .inr ⟨rfl, rfl⟩⟩
    show ReadsAs .expr _ _ _
    simpa using hpart
  | part :: part' :: parts, h =>
    have hlist := argumentList_complete (List.cons_ne_nil part' parts)
      (fun p hp => h p (List.mem_cons_of_mem _ hp)) rest
    have hpart : ReadsAs .expr (part.1 ++ .symbol .comma ::
        (commaSeparated ((part' :: parts).map Prod.fst) ++ .symbol .rparen :: rest)) part.2 _ :=
      (h part (by simp)).readsAs (stops_symbol.2 (by decide))
    refine argumentList_reads_iff.2 ⟨part.2, _, ?_, .inl ⟨_, _, rfl, hlist, rfl⟩⟩
    show ReadsAs .expr _ _ _
    simpa [commaSeparated_cons_cons] using hpart

theorem arguments_complete {parts : List (List Token × Expr)}
    (hd : ∀ part ∈ parts, Derives .expr part.1 part.2)
    (h : ∀ part ∈ parts, Complete .expr part.1 part.2) (rest : List Token) :
    Reads (arguments (commaSeparated (parts.map Prod.fst) ++ .symbol .rparen :: rest))
      (parts.map Prod.snd) rest := by
  cases parts with
  | nil => exact arguments_reads_iff.2 (.inl ⟨rfl, rfl⟩)
  | cons part parts =>
    have hlist := argumentList_complete (List.cons_ne_nil part parts) h rest
    refine arguments_reads_iff.2 (.inr ⟨?_, hlist⟩)
    -- The first argument does not look like the end of an empty list.
    intro r hr
    obtain ⟨token, r', hpart, htoken⟩ := (hd part (by simp)).head_ne_rparen
    cases parts with
    | nil =>
      rw [List.map_singleton, commaSeparated_singleton, hpart] at hr
      exact htoken (List.cons.inj hr).1
    | cons part' parts =>
      rw [List.map_cons, List.map_cons, commaSeparated_cons_cons, hpart] at hr
      exact htoken (List.cons.inj hr).1

/-- **Completeness**: what the grammar derives is read back. The induction is on the derivation, and
the tokens behind a part of a production are those that the production puts there: an operator
looser than the part, a closing symbol, or what stops the whole. -/
theorem complete {n : Nonterminal} {ts : List Token} {e : Expr} (h : Derives n ts e) :
    Complete n ts e := by
  induction h with
  | ofOr _ ih =>
    intro rest hrest
    exact expression_reads_iff.2 ⟨_, rest, ih.readsAs (hrest.mono (by decide)),
      .inr ⟨hrest.ne (by decide), rfl, rfl⟩⟩
  | @conditional ts₁ ts₂ ts₃ cond yes no _ _ _ ih₁ ih₂ ih₃ =>
    intro rest hrest
    have hcond : ReadsAs (.chain .or)
        (ts₁ ++ .symbol .question :: (ts₂ ++ .symbol .colon :: (ts₃ ++ rest))) cond _ :=
      ih₁.readsAs (stops_symbol.2 (by decide))
    have hyes : ReadsAs .expr (ts₂ ++ .symbol .colon :: (ts₃ ++ rest)) yes _ :=
      ih₂.readsAs (stops_symbol.2 (by decide))
    refine expression_reads_iff.2
      ⟨cond, _, ?_, .inl ⟨_, yes, _, no, rfl, hyes, ih₃ rest hrest, rfl⟩⟩
    show ReadsAs (.chain .or) _ _ _
    simpa using hcond
  | ofOperand _ ih =>
    -- Here the chain begins; what reads on behind it is given.
    intro rest e' rest' hrest hon
    have hoperand := ih.readsAs (hrest.mono (Nat.le_of_eq (height_operandOf _)))
    exact chain_reads_iff.2 ⟨_, rest, operand_reads_iff_readsAs.2 hoperand, hon⟩
  | @join l ts₁ ts₂ s tree lhs rhs _ hj _ ih₁ ih₂ =>
    intro rest e' rest' hrest hon
    have hoperand := ih₂.readsAs (hrest.mono (Nat.le_of_eq (height_operandOf _)))
    -- The chain before the operator reads on with this step and then with what is left.
    have hstep : ReadsOn (chainRest l lhs (.symbol s :: (ts₂ ++ rest))) e' rest' :=
      chainRest_reads_iff.2 (.inl ⟨s, _, tree, rhs, rest, rfl, combine?_eq_some_iff.2 hj,
        operand_reads_iff_readsAs.2 hoperand, hon⟩)
    have hs : l.height < s.reach := by
      rw [hj.reach_eq]
      exact Nat.lt_succ_self _
    have hchain : ReadsAs (.chain l) _ e' rest' := ih₁ _ e' rest' (stops_symbol.2 hs) hstep
    show ReadsAs (.chain l) _ _ _
    simpa using hchain
  | ofUnary _ ih =>
    intro rest hrest
    exact power_reads_iff.2 ⟨_, rest, ih.readsAs (hrest.mono (by decide)),
      .inr ⟨hrest.ne (by decide), rfl, rfl⟩⟩
  | @pow ts₁ ts₂ base exponent _ _ ih₁ ih₂ =>
    intro rest hrest
    have hbase : ReadsAs .unary (ts₁ ++ .symbol .starStar :: (ts₂ ++ rest)) base _ :=
      ih₁.readsAs (stops_symbol.2 (by decide))
    refine power_reads_iff.2 ⟨base, _, ?_, .inl ⟨_, exponent, rfl, ih₂ rest hrest, rfl⟩⟩
    show ReadsAs .unary _ _ _
    simpa using hbase
  | ofPrimary hd ih =>
    -- The parser tries an operator in front first, and there is none.
    intro rest hrest
    obtain ⟨token, r, rfl, htoken⟩ := hd.head_of_primary
    refine unary_reads_iff.2 (.inr ⟨?_, ih rest hrest⟩)
    intro s r' hs
    exact htoken s (List.cons.inj hs).1
  | sign hp _ ih =>
    intro rest hrest
    exact unary_reads_iff.2
      (.inl ⟨_, _, _, _, rfl, ofSymbol?_eq_some_iff.2 hp, ih rest hrest, rfl⟩)
  | @number x =>
    intro rest _
    exact primary_reads_iff.2 (.inl ⟨x, rfl, rfl⟩)
  | @text s =>
    intro rest _
    exact primary_reads_iff.2 (.inr (.inl ⟨s, rfl, rfl⟩))
  | isTrue =>
    intro rest _
    exact primary_reads_iff.2 (.inr (.inr (.inl ⟨"true", rfl, by decide, rfl⟩)))
  | isFalse =>
    intro rest _
    exact primary_reads_iff.2 (.inr (.inr (.inl ⟨"false", rfl, by decide, rfl⟩)))
  | @name name hname =>
    intro rest _
    exact primary_reads_iff.2
      (.inr (.inr (.inl ⟨name, rfl, hname.2.2, (ofName_of_isVariable hname).symm⟩)))
  | @parentheses ts e _ ih =>
    intro rest _
    have hinner : ReadsAs .expr (ts ++ .symbol .rparen :: rest) e _ :=
      ih.readsAs (stops_symbol.2 (by decide))
    refine primary_reads_iff.2 (.inr (.inr (.inr (.inr ⟨_, ?_, hinner⟩))))
    simp
  | @constant name x hx =>
    -- A parenthesis behind the name would make it a call, but nothing goes on with a primary form.
    intro rest hrest
    have hmember :
        Reads (member (.symbol .dot :: .ident name :: rest)) (.literal (.number x)) rest :=
      member_reads_iff.2 (.inr ⟨name, x, rfl, hrest.ne (by decide), hx, rfl⟩)
    exact primary_reads_iff.2 (.inr (.inr (.inr (.inl ⟨_, rfl, hmember⟩))))
  | @call name f args hf haccepts hd ih =>
    intro rest _
    have hcall : ofCall f (args.map Prod.snd) = .ok (.call f (args.map Prod.snd)) :=
      ofCall_eq_ok_iff.2 ⟨by simpa using haccepts, rfl⟩
    refine primary_reads_iff.2 (.inr (.inr (.inr (.inl ⟨_, rfl, ?_⟩))))
    refine member_reads_iff.2 (.inl ⟨name, _, f, _, rfl, hf, ?_, hcall⟩)
    show Reads (arguments (commaSeparated (args.map Prod.fst) ++ [.symbol .rparen] ++ rest)) _ _
    rw [List.append_assoc]
    exact arguments_complete hd ih rest

end Parse

namespace Grammar

theorem ofTokens_eq_ok_iff_reads {ts : List Token} {e : Expr} :
    Expr.ofTokens ts = .ok e ↔ Parse.Reads (Parse.expression ts) e [] := by
  unfold Expr.ofTokens
  split
  · constructor
    · intro h
      cases h
    · intro h
      cases h.shorter
  · split
    · next error h => simp [h]
    · next e' _ h => simp [h, eq_comm]
    · next e' token r _ h => simp [h]

/-- The parser accepts what the grammar derives, and gives its tree. -/
theorem ofTokens_eq_ok_iff {ts : List Token} {e : Expr} :
    Expr.ofTokens ts = .ok e ↔ Derives .expr ts e := by
  rw [ofTokens_eq_ok_iff_reads]
  constructor
  · intro h
    obtain ⟨used, rfl, hd⟩ := Parse.sound .expr ts e [] h
    simpa using hd
  · intro h
    have hreads : Parse.ReadsAs .expr (ts ++ []) e [] := (Parse.complete h).readsAs stops_nil
    rwa [List.append_nil] at hreads

/-- **The parser is the grammar**: it accepts exactly the lists of tokens that the grammar derives
from `expr`, each with the tree of its derivation. So no list has two trees, and none is accepted
that holds a token which the grammar has no use for. -/
theorem ofTokens_iff_derives :
    (∀ (ts : List Token) (e : Expr), Expr.ofTokens ts = .ok e ↔ Derives .expr ts e) ∧
      (∀ (ts : List Token) (e₁ e₂ : Expr), Derives .expr ts e₁ → Derives .expr ts e₂ → e₁ = e₂) ∧
      ∀ (ts : List Token) (token : Token), token ∈ ts → IsForeign token →
        ∀ e, Expr.ofTokens ts ≠ .ok e := by
  refine ⟨fun ts e => ofTokens_eq_ok_iff, ?_, ?_⟩
  · intro ts e₁ e₂ h₁ h₂
    have h := ofTokens_eq_ok_iff.2 h₁
    rw [ofTokens_eq_ok_iff.2 h₂] at h
    exact (Except.ok.inj h).symm
  · intro ts token hmem hforeign e h
    exact (ofTokens_eq_ok_iff.1 h).not_isForeign token hmem hforeign

/-- Powers nest to the right, and an assignment is no expression. -/
theorem ofTokens_iff_derives_pow :
    Derives .expr [.ident "x", .symbol .starStar, .ident "y", .symbol .starStar, .ident "z"]
        (.binary .pow (.var "x") (.binary .pow (.var "y") (.var "z"))) ∧
      ∀ e, Expr.ofTokens [.ident "x", .symbol .assign, .ident "y"] ≠ .ok e := by
  obtain ⟨hiff, -, hforeign⟩ := ofTokens_iff_derives
  refine ⟨(hiff _ _).1 (by cbv), ?_⟩
  exact hforeign _ (.symbol .assign) (by simp) (by simp [IsForeign])

end Grammar
end QuizBank

import QuizBank.Expr.Parser

/-!
# What the parsers read

The results of the parsers without the proofs that they carry: `Reads` says that a parser reads a
value and leaves some tokens. For each parser there is one lemma, `…_reads_iff`, that says when it
reads what. Nothing behind these lemmas unfolds a parser.
-/

namespace QuizBank

namespace Parse

/-- The parser reads a value and leaves the tokens `rest`. -/
def Reads {α : Type} {ts : List Token} (outcome : Outcome α ts) (value : α) (rest : List Token) :
    Prop := ∃ h, outcome = .ok ⟨value, rest, h⟩

/-- The rest of a chain reads a tree and leaves the tokens `rest`. -/
def ReadsOn {ts : List Token} (outcome : Except ParseError (Chained ts)) (value : Expr)
    (rest : List Token) : Prop := ∃ h, outcome = .ok ⟨value, rest, h⟩

section Lemmas

variable {α : Type} {ts rest : List Token} {value : α} {e : Expr} {l : Level}

theorem Reads.shorter {outcome : Outcome α ts} (h : Reads outcome value rest) :
    rest.length < ts.length := h.1

@[simp] theorem reads_error {error : ParseError} :
    Reads (.error error : Outcome α ts) value rest ↔ False := by
  constructor
  · rintro ⟨_, h⟩
    cases h
  · exact False.elim

@[simp] theorem reads_ok {value' : α} {rest' : List Token} {h : rest'.length < ts.length} :
    Reads (.ok ⟨value', rest', h⟩ : Outcome α ts) value rest ↔ value = value' ∧ rest = rest' := by
  constructor
  · rintro ⟨_, h⟩
    cases h
    exact ⟨rfl, rfl⟩
  · rintro ⟨rfl, rfl⟩
    exact ⟨h, rfl⟩

@[simp] theorem readsOn_error {error : ParseError} :
    ReadsOn (.error error : Except ParseError (Chained ts)) e rest ↔ False := by
  constructor
  · rintro ⟨_, h⟩
    cases h
  · exact False.elim

@[simp] theorem readsOn_ok {e' : Expr} {rest' : List Token} {h : rest'.length ≤ ts.length} :
    ReadsOn (.ok ⟨e', rest', h⟩ : Except ParseError (Chained ts)) e rest ↔
      e = e' ∧ rest = rest' := by
  constructor
  · rintro ⟨_, h⟩
    cases h
    exact ⟨rfl, rfl⟩
  · rintro ⟨rfl, rfl⟩
    exact ⟨h, rfl⟩

/-! ### What each parser reads -/

theorem expect_reads_iff {s : Symbol} {context : ParseContext} :
    Reads (expect s context ts) () rest ↔ ts = .symbol s :: rest := by
  cases ts with
  | nil => simp [expect]
  | cons token r =>
    rw [expect]
    split
    · next h => simp [h, eq_comm]
    · next h => simp [h]

theorem not_symbol_of_expect_error {s : Symbol} {context : ParseContext} {error : ParseError}
    (h : expect s context ts = .error error) (r : List Token) : ts ≠ .symbol s :: r := by
  intro hts
  have hreads : Reads (expect s context ts) () r := expect_reads_iff.2 hts
  rw [h] at hreads
  exact reads_error.1 hreads

theorem expression_reads_iff :
    Reads (expression ts) e rest ↔
      ∃ cond r, Reads (chain .or ts) cond r ∧
        ((∃ r₂ yes r₃ no, r = .symbol .question :: r₂ ∧
            Reads (expression r₂) yes (.symbol .colon :: r₃) ∧ Reads (expression r₃) no rest ∧
            e = .conditional cond yes no) ∨
          ((∀ r₂, r ≠ .symbol .question :: r₂) ∧ e = cond ∧ rest = r)) := by
  rw [expression]
  split
  · next error h => simp [h]
  next cond r₁ h₁ hcond =>
  simp only [hcond, reads_ok, and_assoc, exists_and_left, exists_eq_left]
  split
  · next r₂ h₂ =>
    split
    · next error hyes => simp [hyes]
    next yes r₃ h₃ hyes =>
    split
    · next error hcolon =>
      have := not_symbol_of_expect_error hcolon
      grind [reads_ok, reads_error]
    next r₄ h₄ hcolon =>
    obtain rfl := expect_reads_iff.1 ⟨_, hcolon⟩
    split
    · next error hno => grind [reads_ok, reads_error]
    next no r₅ h₅ hno => grind [reads_ok]
  · next r' h' hr =>
    -- What `split` knows of the tokens is tied to their proof; free it from that.
    have hne : ∀ r₂, r₁ ≠ .symbol .question :: r₂ := by
      rintro r₂ rfl
      exact hr r₂ h₁ rfl HEq.rfl
    grind [reads_ok]

theorem chain_reads_iff :
    Reads (chain l ts) e rest ↔
      ∃ lhs r, Reads (operand l ts) lhs r ∧ ReadsOn (chainRest l lhs r) e rest := by
  rw [chain]
  split
  · next error h => simp [h]
  next lhs r h hlhs =>
  simp only [hlhs, reads_ok, and_assoc, exists_and_left, exists_eq_left]
  split
  · next error h' => simp [h']
  · next e' r' h' hrest => simp [hrest]

theorem operand_reads_iff {m : Level} (h : l.tighter? = some m) :
    Reads (operand l ts) e rest ↔ Reads (chain m ts) e rest := by
  rw [operand]
  split
  · next m' h' =>
    obtain rfl : m' = m := Option.some.inj (h'.symm.trans h)
    rfl
  · next h' => cases h'.symm.trans h

theorem operand_multiplicative_reads_iff :
    Reads (operand .multiplicative ts) e rest ↔ Reads (power ts) e rest := by
  rw [operand]
  split
  · next m h => cases h
  · rfl

theorem chainRest_reads_iff {lhs : Expr} :
    ReadsOn (chainRest l lhs ts) e rest ↔
      (∃ s r combine rhs r', ts = .symbol s :: r ∧ l.combine? s = some combine ∧
        Reads (operand l r) rhs r' ∧ ReadsOn (chainRest l (combine lhs rhs) r') e rest) ∨
      ((∀ s r, ts = .symbol s :: r → l.combine? s = none) ∧ e = lhs ∧ rest = ts) := by
  rw [chainRest.eq_def]
  split
  · next s r =>
    split
    · next combine hs =>
      split
      · next error h => grind [readsOn_error, reads_error]
      next rhs r' h' hrhs =>
      split
      · next error h => grind [readsOn_error, reads_ok]
      · next e' r'' h'' hrest =>
        constructor
        · intro he
          obtain ⟨rfl, rfl⟩ := readsOn_ok.1 he
          exact .inl ⟨s, r, combine, rhs, r', rfl, hs, ⟨h', hrhs⟩, ⟨h'', hrest⟩⟩
        · -- The parser is a function, so whatever was read is what it read.
          rintro (⟨s', r₁, combine', rhs', r₂, hts, hs', hrhs', hon⟩ | ⟨hnone, -, -⟩)
          · obtain ⟨rfl, rfl⟩ : s = s' ∧ r = r₁ := by simpa using hts
            obtain rfl : combine' = combine := Option.some.inj (hs'.symm.trans hs)
            obtain ⟨rfl, rfl⟩ := reads_ok.1 (hrhs ▸ hrhs')
            rw [hrest] at hon
            exact readsOn_ok.2 (readsOn_ok.1 hon)
          · cases (hnone s r rfl).symm.trans hs
    · next hs => grind [readsOn_ok]
  · next hts => grind [readsOn_ok]

theorem power_reads_iff :
    Reads (power ts) e rest ↔
      ∃ base r, Reads (unary ts) base r ∧
        ((∃ r₂ exponent, r = .symbol .starStar :: r₂ ∧ Reads (power r₂) exponent rest ∧
            e = .binary .pow base exponent) ∨
          ((∀ r₂, r ≠ .symbol .starStar :: r₂) ∧ e = base ∧ rest = r)) := by
  rw [power]
  split
  · next error h => simp [h]
  next base r₁ h₁ hbase =>
  simp only [hbase, reads_ok, and_assoc, exists_and_left, exists_eq_left]
  split
  · next r₂ h₂ =>
    split
    · next error h => grind [reads_error]
    · next exponent r₃ h₃ hexponent => grind [reads_ok]
  · next r' h' hr =>
    have hne : ∀ r₂, r₁ ≠ .symbol .starStar :: r₂ := by
      rintro r₂ rfl
      exact hr r₂ h₁ rfl HEq.rfl
    grind [reads_ok]

theorem unary_reads_iff :
    Reads (unary ts) e rest ↔
      (∃ s op r e', ts = .symbol s :: r ∧ UnaryOp.ofSymbol? s = some op ∧
        Reads (unary r) e' rest ∧ e = .unary op e') ∨
      ((∀ s r, ts = .symbol s :: r → UnaryOp.ofSymbol? s = none) ∧
        Reads (primary ts) e rest) := by
  rw [unary.eq_def]
  split
  · next s r =>
    split
    · next op hs =>
      split
      · next error h => grind [reads_error]
      · next e' r' h' he => grind [reads_ok]
    · next hs => grind
  · next hts => grind

theorem primary_reads_iff :
    Reads (primary ts) e rest ↔
      (∃ x, ts = .number x :: rest ∧ e = .literal (.number x)) ∨
      (∃ s, ts = .text s :: rest ∧ e = .literal (.text s)) ∨
      (∃ name, ts = .ident name :: rest ∧ name ≠ "Math" ∧ e = ofName name) ∨
      (∃ r, ts = .ident "Math" :: r ∧ Reads (member r) e rest) ∨
      (∃ r, ts = .symbol .lparen :: r ∧ Reads (expression r) e (.symbol .rparen :: rest)) := by
  rw [primary.eq_def]
  split
  · simp
  · next x r => grind [reads_ok]
  · next s r => grind [reads_ok]
  · next name r =>
    split
    · next hname =>
      subst hname
      split
      · next error h => grind [reads_error]
      · next e' r' h' he => grind [reads_ok]
    · next hname => grind [reads_ok]
  · next r =>
    split
    · next error h => grind [reads_error]
    next inner r₁ h₁ hinner =>
    split
    · next error hclose =>
      have := not_symbol_of_expect_error hclose
      grind [reads_error, reads_ok]
    next r₂ h₂ hclose =>
    obtain rfl := expect_reads_iff.1 ⟨_, hclose⟩
    grind [reads_ok]
  · next token r _ _ _ _ => grind [reads_error]

theorem member_reads_iff :
    Reads (member ts) e rest ↔
      (∃ name r f args, ts = .symbol .dot :: .ident name :: .symbol .lparen :: r ∧
        MathFunction.ofName? name = some f ∧ Reads (arguments r) args rest ∧
        ofCall f args = .ok e) ∨
      (∃ name x, ts = .symbol .dot :: .ident name :: rest ∧
        (∀ r, rest ≠ .symbol .lparen :: r) ∧ mathConstant? name = some x ∧
        e = .literal (.number x)) := by
  rw [member]
  split
  · next error hdot =>
    -- Both kinds of members begin with a point.
    have := not_symbol_of_expect_error hdot
    grind [reads_error]
  next r₁ h₁ hdot =>
  obtain rfl := expect_reads_iff.1 ⟨_, hdot⟩
  split
  · next name r₂ h₂ =>
    split
    · next hf => grind [reads_error]
    next f hf =>
    split
    · next error h => grind [reads_error]
    next args r₃ h₃ hargs =>
    split
    · next error h => grind [reads_error, reads_ok]
    · next e' he => grind [reads_ok]
  · next name r₂ _ _ hr =>
    have hne : ∀ r, r₂ ≠ .symbol .lparen :: r := by
      rintro r rfl
      exact hr r h₁ rfl HEq.rfl
    split
    · next x hx => grind [reads_ok]
    · next hx => grind [reads_error]
  · next r h hcall hconstant =>
    have hne : ∀ name r, r₁ ≠ .ident name :: r := by
      rintro name r rfl
      exact hconstant name r h₁ rfl HEq.rfl
    grind [reads_error]

theorem argumentList_reads_iff {args : List Expr} :
    Reads (argumentList ts) args rest ↔
      ∃ arg r, Reads (expression ts) arg r ∧
        ((∃ r₂ args', r = .symbol .comma :: r₂ ∧ Reads (argumentList r₂) args' rest ∧
            args = arg :: args') ∨
          (r = .symbol .rparen :: rest ∧ args = [arg])) := by
  rw [argumentList]
  split
  · next error h => simp [h]
  next arg r₁ h₁ harg =>
  simp only [harg, reads_ok, and_assoc, exists_and_left, exists_eq_left]
  split
  · next r₂ h₂ =>
    split
    · next error h => grind [reads_error]
    · next args' r₃ h₃ hargs => grind [reads_ok]
  · next r h hr =>
    have hne : ∀ r₂, r₁ ≠ .symbol .comma :: r₂ := by
      rintro r₂ rfl
      exact hr r₂ h₁ rfl HEq.rfl
    split
    · next error hclose =>
      have := not_symbol_of_expect_error hclose
      grind [reads_error]
    next r₂ h₂ hclose =>
    obtain rfl := expect_reads_iff.1 ⟨_, hclose⟩
    grind [reads_ok]

theorem arguments_reads_iff {args : List Expr} :
    Reads (arguments ts) args rest ↔
      (ts = .symbol .rparen :: rest ∧ args = []) ∨
      ((∀ r, ts ≠ .symbol .rparen :: r) ∧ Reads (argumentList ts) args rest) := by
  rw [arguments.eq_def]
  split
  · next r => grind [reads_ok]
  · next hts => grind

end Lemmas

end Parse
end QuizBank

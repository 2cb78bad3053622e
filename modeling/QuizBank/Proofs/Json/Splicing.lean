import QuizBank.Proofs.Json.Reading

/-!
# Texts inside texts

A JSON text can stand inside a longer one: what is behind a value does not change how the value is
read (`valueAt_append`). Only a number at the very end of a text could go on in what follows
(`Parted`).
-/

namespace QuizBank
namespace Json

/-! ### Pieces of text -/

/-- Dropping ends inside the text, or at its end because what follows begins with another kind of
character. -/
theorem dropWhile_append_of_parted {p : Char → Bool} {s u : List Char}
    (h : s.dropWhile p ≠ [] ∨ ∀ c ∈ u.head?, p c = false) :
    (s ++ u).dropWhile p = s.dropWhile p ++ u := by
  rw [List.dropWhile_append]
  split
  · next hnil =>
    rw [List.isEmpty_iff] at hnil
    have hhead : ∀ c ∈ u.head?, p c = false := h.resolve_left (fun hne => hne hnil)
    rw [hnil, List.nil_append]
    cases u with
    | nil => rfl
    | cons c r => rw [List.dropWhile_cons_of_neg (by simp [hhead c rfl])]
  · rfl

theorem takeWhile_append_of_parted {p : Char → Bool} {s u : List Char}
    (h : s.dropWhile p ≠ [] ∨ ∀ c ∈ u.head?, p c = false) :
    (s ++ u).takeWhile p = s.takeWhile p := by
  have hsplit := takeWhile_append_dropWhile_append p s u
  rw [dropWhile_append_of_parted h] at hsplit
  exact List.append_cancel_right hsplit

theorem skipBlanks_append {s t : List Char} {c : Char} (h : skipBlanks s = c :: t)
    (u : List Char) : skipBlanks (s ++ u) = c :: (t ++ u) := by
  have hne : skipBlanks s ≠ [] := by simp [h]
  rw [skipBlanks, dropWhile_append_of_parted (.inl hne), ← skipBlanks, h]
  rfl

section Pieces

variable {s rest : List Char} {ps : List Piece}

theorem pieces_unit {a b c d : Char} {n : Nat} (hn : hexUnit a b c d = some n)
    (hs : pieces s = some (ps, rest)) :
    pieces ('\\' :: 'u' :: a :: b :: c :: d :: s) = some (.unit n :: ps, rest) := by
  rw [pieces, hn, hs]

theorem pieces_escape {c e : Char} (he : shortEscape c = some e)
    (hs : pieces s = some (ps, rest)) : pieces ('\\' :: c :: s) = some (.char e :: ps, rest) := by
  have hc : c ≠ 'u' := by
    rintro rfl
    cases he
  rw [pieces, he, hs]
  exact fun _ _ _ _ _ heq => absurd heq hc

theorem pieces_char {c : Char} (hquote : c ≠ '"') (hplain : ¬(c = '\\' ∨ c.toNat < 32))
    (hs : pieces s = some (ps, rest)) : pieces (c :: s) = some (.char c :: ps, rest) := by
  have hback : c ≠ '\\' := fun h => hplain (.inl h)
  rw [pieces, if_neg hplain, hs]
  · exact hquote
  · exact fun _ _ _ _ _ heq => absurd heq hback
  · exact fun _ _ heq => absurd heq hback

theorem pieces_append (h : pieces s = some (ps, rest)) (u : List Char) :
    pieces (s ++ u) = some (ps, rest ++ u) := by
  fun_induction pieces s generalizing ps rest with
  | case1 => cases h
  | case2 =>
    cases h
    rfl
  | case3 a b c d s n ps' rest' hs hn ih =>
    cases h
    exact pieces_unit hn (ih hs)
  | case4 => cases h
  | case5 c s _ e ps' rest' hs he ih =>
    cases h
    exact pieces_escape he (ih hs)
  | case6 => cases h
  | case7 => cases h
  | case8 c s hquote _ _ hplain ps' rest' hs ih =>
    cases h
    exact pieces_char hquote hplain (ih hs)
  | case9 => cases h

end Pieces

theorem textAt_append {s rest : List Char} {value : Option String}
    (h : Finds (textAt s) value rest) (u : List Char) :
    Finds (textAt (s ++ u)) value (rest ++ u) := by
  obtain ⟨ps, hps, rfl⟩ := textAt_finds_iff.1 h
  exact textAt_finds_iff.2 ⟨ps, pieces_append hps u, rfl⟩

/-! ### Scalars -/

/-- Characters that a number may go on with: digits, the point, the letters of an exponent. -/
def goesOn (c : Char) : Bool := c.isDigit || c == '.' || c == 'e' || c == 'E'

/-- A number that leaves `rest` of its text does not go on into `u`: something is left before it, or
it begins with another kind of character. -/
def Parted (rest u : List Char) : Prop := rest ≠ [] ∨ ∀ c ∈ u.head?, goesOn c = false

namespace Parted

variable {rest u : List Char} (h : Parted rest u)
include h

theorem of_isDigit : rest ≠ [] ∨ ∀ c ∈ u.head?, c.isDigit = false := by
  refine h.imp_right ?_
  intro hu c hc
  have hgoes := hu c hc
  simp only [goesOn, Bool.or_eq_false_iff] at hgoes
  exact hgoes.1.1.1

/-- What is left and does not begin with a point still does not when it goes on. -/
theorem head_ne {d : Char} (hd : goesOn d = true) : rest = [] → ∀ r, u ≠ d :: r := by
  rintro hrest r rfl
  have hgoes : goesOn d = false := h.resolve_left (fun hne => hne hrest) d rfl
  rw [hd] at hgoes
  cases hgoes

end Parted

theorem signAt_append {s : List Char} (h : s ≠ []) (u : List Char) :
    signAt (s ++ u) = ((signAt s).1, (signAt s).2 ++ u) := by
  obtain ⟨c, r, rfl⟩ := List.exists_cons_of_ne_nil h
  by_cases hminus : c = '-'
  · subst hminus
    rfl
  by_cases hplus : c = '+'
  · subst hplus
    rfl
  have hother : ∀ r, signAt (c :: r) = (false, c :: r) := by
    intro r
    rw [signAt]
    · exact fun _ heq => hminus (List.cons.inj heq).1
    · exact fun _ heq => hplus (List.cons.inj heq).1
  rw [List.cons_append, hother, hother]
  rfl

theorem exponentOf_append {s rest u : List Char} {e : Int} (h : exponentOf s = some (e, rest))
    (hrest : Parted rest u) : exponentOf (s ++ u) = some (e, rest ++ u) := by
  have hs : s ≠ [] := by
    rintro rfl
    cases h
  unfold exponentOf at h ⊢
  rw [signAt_append hs]
  dsimp only at h ⊢
  split at h
  · cases h
  · next hdigits =>
    cases h
    rw [takeWhile_append_of_parted hrest.of_isDigit, if_neg hdigits,
      dropWhile_append_of_parted hrest.of_isDigit]

theorem exponentAt_of_ne {c : Char} (hc : ¬(c = 'e' ∨ c = 'E')) (r : List Char) :
    exponentAt (c :: r) = some (none, c :: r) := by
  rw [exponentAt, if_neg hc]

theorem exponentAt_append {s rest u : List Char} {e : Option Int}
    (h : exponentAt s = some (e, rest)) (hrest : Parted rest u) :
    exponentAt (s ++ u) = some (e, rest ++ u) := by
  cases s with
  | nil =>
    cases h
    cases u with
    | nil => rfl
    | cons c r =>
      apply exponentAt_of_ne
      rintro (rfl | rfl)
      · exact hrest.head_ne (by decide) rfl r rfl
      · exact hrest.head_ne (by decide) rfl r rfl
  | cons c r =>
    rw [exponentAt] at h
    rw [List.cons_append]
    split at h
    · next hc =>
      obtain ⟨⟨n, rest'⟩, hn, heq⟩ := Option.map_eq_some_iff.1 h
      cases heq
      rw [exponentAt, if_pos hc, exponentOf_append hn hrest]
      rfl
    · next hc =>
      cases h
      rw [exponentAt_of_ne hc]
      rfl

theorem fractionAt_of_ne {s : List Char} (h : ∀ r, s ≠ '.' :: r) : fractionAt s = (none, s) := by
  unfold fractionAt
  split
  · next r => exact absurd rfl (h r)
  · rfl

theorem fractionAt_append {s u : List Char} (hs : Parted s u) (hrest : Parted (fractionAt s).2 u) :
    fractionAt (s ++ u) = ((fractionAt s).1, (fractionAt s).2 ++ u) := by
  by_cases hpoint : ∃ r, s = '.' :: r
  · obtain ⟨r, rfl⟩ := hpoint
    have hdigits : r.dropWhile Char.isDigit ≠ [] ∨ ∀ c ∈ u.head?, c.isDigit = false :=
      hrest.of_isDigit
    rw [List.cons_append, fractionAt, takeWhile_append_of_parted hdigits,
      dropWhile_append_of_parted hdigits]
    rfl
  · have hnone : ∀ r, s ≠ '.' :: r := fun r h => hpoint ⟨r, h⟩
    rw [fractionAt_of_ne hnone, fractionAt_of_ne]
    intro r heq
    rcases List.append_eq_cons_iff.1 heq with ⟨hnil, hu⟩ | ⟨s', hs', -⟩
    · exact hs.head_ne (by decide) hnil r hu
    · exact hnone s' hs'

theorem unsignedNumber_append {negative : Bool} {s rest u : List Char} {j : Json}
    (h : unsignedNumber negative s = some (j, rest)) (hrest : Parted rest u) :
    unsignedNumber negative (s ++ u) = some (j, rest ++ u) := by
  unfold unsignedNumber at h ⊢
  dsimp only at h ⊢
  split at h
  · cases h
  next hwhole =>
  split at h
  · cases h
  next hfraction =>
  obtain ⟨⟨exponent, rest'⟩, hexponent, heq⟩ := Option.map_eq_some_iff.1 h
  cases heq
  -- If something is left at the end, something is left behind each part before it.
  have hrest₂ : Parted (fractionAt (s.dropWhile Char.isDigit)).2 u := by
    refine hrest.imp_left ?_
    intro hne hnil
    rw [hnil] at hexponent
    cases hexponent
    exact hne rfl
  have hrest₁ : Parted (s.dropWhile Char.isDigit) u := by
    refine hrest₂.imp_left ?_
    intro hne hnil
    rw [hnil] at hne
    exact hne rfl
  rw [takeWhile_append_of_parted hrest₁.of_isDigit, dropWhile_append_of_parted hrest₁.of_isDigit,
    if_neg hwhole, fractionAt_append hrest₁ hrest₂, if_neg hfraction,
    exponentAt_append hexponent hrest]
  rfl

theorem numberAt_of_ne {c : Char} (hc : c ≠ '-') (r : List Char) :
    numberAt (c :: r) = unsignedNumber false (c :: r) := by
  rw [numberAt]
  exact fun _ heq => hc (List.cons.inj heq).1

/-- A number begins with its sign or with a digit. -/
theorem head_of_numberAt {s rest : List Char} {j : Json} (h : numberAt s = some (j, rest)) :
    ∃ c r, s = c :: r ∧ (c = '-' ∨ c.isDigit = true) := by
  cases s with
  | nil => cases h
  | cons c r =>
    refine ⟨c, r, rfl, ?_⟩
    by_cases hc : c = '-'
    · exact .inl hc
    by_cases hdigit : c.isDigit = true
    · exact .inr hdigit
    · rw [numberAt_of_ne hc, unsignedNumber, List.takeWhile_cons_of_neg hdigit] at h
      cases h

theorem numberAt_append {s rest u : List Char} {j : Json} (h : numberAt s = some (j, rest))
    (hrest : Parted rest u) : numberAt (s ++ u) = some (j, rest ++ u) := by
  obtain ⟨c, r, rfl, -⟩ := head_of_numberAt h
  by_cases hc : c = '-'
  · subst hc
    exact unsignedNumber_append (s := r) h hrest
  · rw [numberAt_of_ne hc] at h
    rw [List.cons_append, numberAt_of_ne hc, ← List.cons_append]
    exact unsignedNumber_append h hrest

theorem scalarPart_null (r : List Char) : scalarPart ("null".toList ++ r) = some (null, r) := rfl

theorem scalarPart_true (r : List Char) : scalarPart ("true".toList ++ r) = some (bool true, r) :=
  rfl

theorem scalarPart_false (r : List Char) :
    scalarPart ("false".toList ++ r) = some (bool false, r) := rfl

/-- What begins like a number is no word. -/
theorem scalarPart_number {c : Char} (hc : c = '-' ∨ c.isDigit = true) (r : List Char) :
    scalarPart (c :: r) = numberAt (c :: r) := by
  have hne : ∀ d ∈ ['n', 't', 'f'], d ≠ c := by
    rintro d hd rfl
    simp only [List.mem_cons, List.not_mem_nil, or_false] at hd
    rcases hd with rfl | rfl | rfl <;> exact absurd hc (by decide)
  have hword : ∀ d ∈ ['n', 't', 'f'], ∀ word, ¬(d :: word).isPrefixOf (c :: r) = true := by
    intro d hd word h
    exact hne d hd (List.cons_prefix_cons.1 (List.isPrefixOf_iff_prefix.1 h)).1
  rw [scalarPart, if_neg, if_neg, if_neg]
  · exact hword 'f' (by simp) _
  · exact hword 't' (by simp) _
  · exact hword 'n' (by simp) _

theorem scalarPart_append {s rest u : List Char} {j : Json} (h : scalarPart s = some (j, rest))
    (hrest : Parted rest u) : scalarPart (s ++ u) = some (j, rest ++ u) := by
  by_cases hnull : "null".toList.isPrefixOf s = true
  · obtain ⟨r, rfl⟩ := List.isPrefixOf_iff_prefix.1 hnull
    cases h
    rw [List.append_assoc]
    exact scalarPart_null _
  by_cases htrue : "true".toList.isPrefixOf s = true
  · obtain ⟨r, rfl⟩ := List.isPrefixOf_iff_prefix.1 htrue
    cases h
    rw [List.append_assoc]
    exact scalarPart_true _
  by_cases hfalse : "false".toList.isPrefixOf s = true
  · obtain ⟨r, rfl⟩ := List.isPrefixOf_iff_prefix.1 hfalse
    cases h
    rw [List.append_assoc]
    exact scalarPart_false _
  rw [scalarPart, if_neg hnull, if_neg htrue, if_neg hfalse] at h
  -- It is no word, so it is a number, and with more behind it still no word.
  obtain ⟨c, r, rfl, hc⟩ := head_of_numberAt h
  rw [List.cons_append, scalarPart_number hc, ← List.cons_append]
  exact numberAt_append h hrest

theorem scalarAt_append {s rest u : List Char} {j : Json} (h : Finds (scalarAt s) j rest)
    (hrest : Parted rest u) : Finds (scalarAt (s ++ u)) j (rest ++ u) := by
  obtain ⟨hpart, hlt⟩ := scalarAt_finds_iff.1 h
  refine scalarAt_finds_iff.2 ⟨scalarPart_append hpart hrest, ?_⟩
  rw [List.length_append, List.length_append]
  exact Nat.add_lt_add_right hlt _

/-! ### Trees -/

/-- Arrays, objects and texts have an end of their own. -/
def IsClosed (s : List Char) : Prop :=
  ∀ c t, skipBlanks s = c :: t → c = '"' ∨ c = '[' ∨ c = '\x7b'

theorem ne_nil_of_skipBlanks {s t : List Char} {c : Char} (h : skipBlanks s = c :: t) : s ≠ [] := by
  rintro rfl
  cases h

/-- What begins with something else than a closing character does so, too, when it goes on. -/
theorem skipBlanks_append_ne {s : List Char} {c : Char} (hs : skipBlanks s ≠ [])
    (hne : ∀ t, skipBlanks s ≠ c :: t) (u t : List Char) : skipBlanks (s ++ u) ≠ c :: t := by
  obtain ⟨d, r, hd⟩ := List.exists_cons_of_ne_nil hs
  rw [skipBlanks_append hd]
  intro heq
  exact hne r (hd.trans (by rw [(List.cons.inj heq).1]))

theorem skipBlanks_ne_nil_of_items {s rest : List Char} {items : List Json}
    (h : Finds (itemsAt s) items rest) : skipBlanks s ≠ [] := by
  obtain ⟨item, r, hitem, -⟩ := itemsAt_finds_iff.1 h
  intro hnil
  rw [valueAt_nil hnil] at hitem
  exact finds_none.1 hitem

theorem skipBlanks_ne_nil_of_members {s rest : List Char} {members : List (Option String × Json)}
    (h : Finds (membersAt s) members rest) : skipBlanks s ≠ [] := by
  obtain ⟨t, name, r, v, value, r₂, ht, -⟩ := membersAt_finds_iff.1 h
  rw [ht]
  exact List.cons_ne_nil _ _

mutual

/-- **A value is read in front of any text**, unless it is a number at the end of its own text that
goes on. -/
theorem valueAt_append {s rest u : List Char} {j : Json} (h : Finds (valueAt s) j rest)
    (hend : Parted rest u ∨ IsClosed s) : Finds (valueAt (s ++ u)) j (rest ++ u) := by
  match hs : skipBlanks s with
  | [] =>
    rw [valueAt_nil hs] at h
    exact absurd h finds_none.1
  | c :: t =>
    have hs' := skipBlanks_append hs u
    have ht := length_lt_of_skipBlanks hs
    by_cases hquote : c = '"'
    · subst hquote
      obtain ⟨value, hvalue, rfl⟩ := (valueAt_quote_finds_iff hs).1 h
      exact (valueAt_quote_finds_iff hs').2 ⟨value, textAt_append hvalue u, rfl⟩
    by_cases hbracket : c = '['
    · subst hbracket
      rw [valueAt_bracket_finds_iff hs']
      rcases (valueAt_bracket_finds_iff hs).1 h with ⟨hclose, rfl⟩ | ⟨hopen, items, hitems, rfl⟩
      · exact .inl ⟨skipBlanks_append hclose u, rfl⟩
      · exact .inr ⟨skipBlanks_append_ne (skipBlanks_ne_nil_of_items hitems) hopen u,
          items, itemsAt_append hitems u, rfl⟩
    by_cases hbrace : c = '\x7b'
    · subst hbrace
      rw [valueAt_brace_finds_iff hs']
      rcases (valueAt_brace_finds_iff hs).1 h with ⟨hclose, rfl⟩ | ⟨hopen, members, hmembers, rfl⟩
      · exact .inl ⟨skipBlanks_append hclose u, rfl⟩
      · exact .inr ⟨skipBlanks_append_ne (skipBlanks_ne_nil_of_members hmembers) hopen u,
          members, membersAt_append hmembers u, rfl⟩
    have hc : c ≠ '"' ∧ c ≠ '[' ∧ c ≠ '\x7b' := ⟨hquote, hbracket, hbrace⟩
    -- A scalar is not closed, so it does not go on.
    have hrest : Parted rest u := hend.resolve_right fun hclosed => by
      rcases hclosed c t hs with h | h | h
      · exact hquote h
      · exact hbracket h
      · exact hbrace h
    rw [valueAt_scalar_finds_iff hs' hc, ← List.cons_append]
    exact scalarAt_append ((valueAt_scalar_finds_iff hs hc).1 h) hrest
termination_by (s.length, 0)

theorem itemsAt_append {s rest : List Char} {items : List Json} (h : Finds (itemsAt s) items rest)
    (u : List Char) : Finds (itemsAt (s ++ u)) items (rest ++ u) := by
  obtain ⟨item, r, hitem, hr⟩ := itemsAt_finds_iff.1 h
  rw [itemsAt_finds_iff]
  rcases hr with ⟨t, more, ht, hmore, rfl⟩ | ⟨hclose, rfl⟩
  · -- A comma follows the item, so the item does not end the text.
    have hlt := Nat.lt_trans (length_lt_of_skipBlanks ht) hitem.shorter
    exact ⟨item, r ++ u, valueAt_append hitem (.inl (.inl (ne_nil_of_skipBlanks ht))),
      .inl ⟨t ++ u, more, skipBlanks_append ht u, itemsAt_append hmore u, rfl⟩⟩
  · exact ⟨item, r ++ u, valueAt_append hitem (.inl (.inl (ne_nil_of_skipBlanks hclose))),
      .inr ⟨skipBlanks_append hclose u, rfl⟩⟩
termination_by (s.length, 1)

theorem membersAt_append {s rest : List Char} {members : List (Option String × Json)}
    (h : Finds (membersAt s) members rest) (u : List Char) :
    Finds (membersAt (s ++ u)) members (rest ++ u) := by
  obtain ⟨t, name, r, v, value, r₂, ht, hname, hr, hvalue, hr₂⟩ := membersAt_finds_iff.1 h
  have hv := Nat.lt_trans (length_lt_of_skipBlanks hr)
    (Nat.lt_trans hname.shorter (length_lt_of_skipBlanks ht))
  rw [membersAt_finds_iff]
  rcases hr₂ with ⟨w, more, hw, hmore, rfl⟩ | ⟨hclose, rfl⟩
  · have hlt := Nat.lt_trans (length_lt_of_skipBlanks hw) (Nat.lt_trans hvalue.shorter hv)
    exact ⟨t ++ u, name, r ++ u, v ++ u, value, r₂ ++ u, skipBlanks_append ht u,
      textAt_append hname u, skipBlanks_append hr u,
      valueAt_append hvalue (.inl (.inl (ne_nil_of_skipBlanks hw))),
      .inl ⟨w ++ u, more, skipBlanks_append hw u, membersAt_append hmore u, rfl⟩⟩
  · exact ⟨t ++ u, name, r ++ u, v ++ u, value, r₂ ++ u, skipBlanks_append ht u,
      textAt_append hname u, skipBlanks_append hr u,
      valueAt_append hvalue (.inl (.inl (ne_nil_of_skipBlanks hclose))),
      .inr ⟨skipBlanks_append hclose u, rfl⟩⟩
termination_by (s.length, 1)

end

/-! ### Texts of objects -/

/-- A numeral is read as a number, or is out of range. -/
theorem numberOf_cases (negative : Bool) (whole : List Char) (fraction : Option (List Char))
    (exponent : Option Int) :
    (∃ n, numberOf negative whole fraction exponent = number n) ∨
      numberOf negative whole fraction exponent = unrepresentable := by
  unfold numberOf
  dsimp only
  split
  · split
    · split <;> exact .inl ⟨_, rfl⟩
    · exact .inl ⟨_, rfl⟩
  · split
    · exact .inl ⟨_, rfl⟩
    · exact .inr rfl

theorem numberOf_ne_object {negative : Bool} {whole : List Char} {fraction : Option (List Char)}
    {exponent : Option Int} {members : List (String × Json)} :
    numberOf negative whole fraction exponent ≠ object members := by
  intro h
  rcases numberOf_cases negative whole fraction exponent with ⟨n, hn⟩ | hn
  · cases hn.symm.trans h
  · cases hn.symm.trans h

theorem scalarPart_ne_object {s rest : List Char} {members : List (String × Json)} :
    scalarPart s ≠ some (object members, rest) := by
  intro h
  unfold scalarPart at h
  split at h
  · cases h
  split at h
  · cases h
  split at h
  · cases h
  have hunsigned : ∀ negative r, unsignedNumber negative r ≠ some (object members, rest) := by
    intro negative r hr
    unfold unsignedNumber at hr
    dsimp only at hr
    split at hr
    · cases hr
    split at hr
    · cases hr
    obtain ⟨_, -, heq⟩ := Option.map_eq_some_iff.1 hr
    exact numberOf_ne_object (congrArg Prod.fst heq)
  unfold numberAt at h
  split at h
  · exact hunsigned _ _ h
  · exact hunsigned _ _ h

/-- Every object begins with a brace. -/
theorem isClosed_of_object {s rest : List Char} {members : List (String × Json)}
    (h : Finds (valueAt s) (object members) rest) : IsClosed s := by
  intro c t hs
  by_cases hc : c ≠ '"' ∧ c ≠ '[' ∧ c ≠ '\x7b'
  · have hpart := (scalarAt_finds_iff.1 ((valueAt_scalar_finds_iff hs hc).1 h)).1
    exact absurd hpart scalarPart_ne_object
  · by_cases hquote : c = '"'
    · exact .inl hquote
    by_cases hbracket : c = '['
    · exact .inr (.inl hbracket)
    by_cases hbrace : c = '\x7b'
    · exact .inr (.inr hbrace)
    exact absurd ⟨hquote, hbracket, hbrace⟩ hc

theorem parse?_eq_some_iff {s : String} {j : Json} :
    parse? s = some j ↔ ∃ rest, Finds (valueAt s.toList) j rest ∧ skipBlanks rest = [] := by
  unfold parse?
  split
  · next f hf =>
    simp only [hf, finds_some, List.isEmpty_iff]
    split
    · next hrest =>
      constructor
      · intro h
        exact ⟨f.rest, ⟨Option.some.inj h, rfl⟩, hrest⟩
      · rintro ⟨rest, ⟨hvalue, -⟩, -⟩
        exact congrArg some hvalue
    · next hrest =>
      constructor
      · intro h
        cases h
      · rintro ⟨rest, ⟨-, rfl⟩, h⟩
        exact absurd h hrest
  · next h => simp [h]

/-- The text of an object is read in front of any text. What is left of it then is blanks. -/
theorem valueAt_object_append {s : String} {members : List (String × Json)}
    (h : parse? s = some (object members)) {u t : List Char} {c : Char}
    (hu : skipBlanks u = c :: t) :
    ∃ rest, Finds (valueAt (s.toList ++ u)) (object members) rest ∧ skipBlanks rest = c :: t := by
  obtain ⟨rest, hfinds, hblank⟩ := parse?_eq_some_iff.1 h
  refine ⟨rest ++ u, valueAt_append hfinds (.inr (isClosed_of_object hfinds)), ?_⟩
  rw [skipBlanks, List.dropWhile_append, ← skipBlanks, if_pos (by rw [hblank]; rfl)]
  exact hu

end Json
end QuizBank

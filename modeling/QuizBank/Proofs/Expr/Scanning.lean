import QuizBank.Expr.Lexer

/-!
# Scanning a text in two pieces

A text that is cut where a token begins anyway is scanned piece by piece (`scan_append`). `Cut`
says when the scanner cannot go on across a cut: the text behind it does not continue a number, a
symbol or a name. Only a text literal that is left open swallows what follows, so the piece in front
must not have one.
-/

namespace QuizBank
namespace Token

/-! ### The steps of the scanner -/

/-- The characters of a number make a number or a malformed number. -/
theorem ofNumberPart_ne {token : Token} (hnumber : ∀ x, number x ≠ token)
    (hmalformed : ∀ t, invalid (.malformedNumber t) ≠ token) (s : List Char) :
    ofNumberPart s ≠ token := by
  unfold ofNumberPart
  split
  · exact hnumber _
  · exact hmalformed _

section Steps

variable {c : Char} {rest after : List Char}

theorem scan_nil : scan [] = [] := by
  rw [scan]

theorem scan_of_isBlank (hb : Text.isBlank c = true) : scan (c :: rest) = scan rest := by
  rw [scan, if_pos hb]

theorem scan_of_startsNumber (hb : ¬Text.isBlank c = true) (hn : startsNumber c rest = true) :
    scan (c :: rest) =
      ofNumberPart (numberPart (c :: rest)).1 :: scan (numberPart (c :: rest)).2 := by
  rw [scan, if_neg hb, dif_pos hn]

theorem scan_of_startsName (hb : ¬Text.isBlank c = true) (hn : ¬startsNumber c rest = true)
    (hname : startsName c = true) :
    scan (c :: rest) =
      ident (String.ofList (c :: rest.takeWhile isNameChar)) ::
        scan (rest.dropWhile isNameChar) := by
  rw [scan, if_neg hb, dif_neg hn, if_pos hname]

theorem scan_of_textPart {content : List Char} (hb : ¬Text.isBlank c = true)
    (hn : ¬startsNumber c rest = true) (hname : ¬startsName c = true)
    (hq : c = '"' ∨ c = apostrophe) (ht : textPart c rest = some (content, after)) :
    scan (c :: rest) = text (String.ofList content) :: scan after := by
  rw [scan, if_neg hb, dif_neg hn, if_neg hname, if_pos hq]
  split
  · next content' after' h =>
    rw [ht] at h
    cases h
    rfl
  · next h =>
    rw [ht] at h
    cases h

theorem scan_of_textPart_eq_none (hb : ¬Text.isBlank c = true)
    (hn : ¬startsNumber c rest = true) (hname : ¬startsName c = true)
    (hq : c = '"' ∨ c = apostrophe) (ht : textPart c rest = none) :
    scan (c :: rest) = [invalid .unterminatedText] := by
  rw [scan, if_neg hb, dif_neg hn, if_neg hname, if_pos hq]
  split
  · next content after h =>
    rw [ht] at h
    cases h
  · rfl

theorem scan_of_symbolPart {s : Symbol} (hb : ¬Text.isBlank c = true)
    (hn : ¬startsNumber c rest = true) (hname : ¬startsName c = true)
    (hq : ¬(c = '"' ∨ c = apostrophe)) (hs : symbolPart c rest = some (s, after)) :
    scan (c :: rest) = symbol s :: scan after := by
  rw [scan, if_neg hb, dif_neg hn, if_neg hname, if_neg hq]
  split
  · next s' after' h =>
    rw [hs] at h
    cases h
    rfl
  · next h =>
    rw [hs] at h
    cases h

theorem scan_of_symbolPart_eq_none (hb : ¬Text.isBlank c = true)
    (hn : ¬startsNumber c rest = true) (hname : ¬startsName c = true)
    (hq : ¬(c = '"' ∨ c = apostrophe)) (hs : symbolPart c rest = none) :
    scan (c :: rest) = invalid (.unexpectedCharacter c) :: scan rest := by
  rw [scan, if_neg hb, dif_neg hn, if_neg hname, if_neg hq]
  split
  · next s' after' h =>
    rw [hs] at h
    cases h
  · rfl

end Steps

/-! ### What is left is the end of the text -/

theorem signPart_suffix (s : List Char) : (signPart s).2 <:+ s := by
  unfold signPart
  split
  · exact List.suffix_cons _ _
  · exact List.suffix_cons _ _
  · exact List.suffix_refl s

theorem exponentPart_suffix (s : List Char) : (exponentPart s).2 <:+ s := by
  unfold exponentPart
  split
  · next e rest =>
    have hsign : (signPart rest).2 <:+ e :: rest :=
      (signPart_suffix rest).trans (List.suffix_cons e rest)
    split
    · dsimp only
      split
      · exact (List.dropWhile_suffix _).trans hsign
      · exact List.suffix_refl _
    · exact List.suffix_refl _
  · exact List.suffix_refl _

theorem numberPart_suffix (s : List Char) : (numberPart s).2 <:+ s :=
  (exponentPart_suffix _).trans (List.dropWhile_suffix _)

section TextPart

variable {quote : Char} {rest content after : List Char}

theorem textPart_quote : textPart quote (quote :: rest) = some ([], rest) := by
  unfold textPart
  rw [if_pos rfl]

theorem textPart_backslash {e : Char} (hq : '\\' ≠ quote)
    (h : textPart quote rest = some (content, after)) :
    textPart quote ('\\' :: e :: rest) = some (unescape e :: content, after) := by
  unfold textPart
  simp only [if_neg hq, if_true, h]

theorem textPart_other {c : Char} (hq : ¬c = quote) (hb : ¬c = '\\')
    (h : textPart quote rest = some (content, after)) :
    textPart quote (c :: rest) = some (c :: content, after) := by
  unfold textPart
  simp only [if_neg hq, if_neg hb, h]

end TextPart

theorem textPart_suffix {quote : Char} {s content after : List Char}
    (h : textPart quote s = some (content, after)) : after <:+ s := by
  fun_induction textPart quote s generalizing content after with
  | case1 => cases h
  | case2 rest =>
    cases h
    exact List.suffix_cons _ _
  | case3 => cases h
  | case4 e rest content' after' ht _ ih =>
    cases h
    exact ((ih ht).trans (List.suffix_cons _ _)).trans (List.suffix_cons _ _)
  | case5 => cases h
  | case6 c rest hq hb content' after' ht ih =>
    cases h
    exact (ih ht).trans (List.suffix_cons _ _)
  | case7 => cases h

theorem symbolPart_suffix {c : Char} {s after : List Char} {sym : Symbol}
    (h : symbolPart c s = some (sym, after)) : after <:+ s := by
  unfold symbolPart at h
  split at h <;> cases h
  all_goals first
    | exact List.suffix_refl _
    | exact List.suffix_cons _ _
    | exact (List.suffix_cons _ _).trans (List.suffix_cons _ _)

/-! ### Cuts -/

/-- Characters that go on with a number or with a symbol in front of them. -/
def continues (c : Char) : Bool := isNumberChar c || ['+', '-', '*', '=', '>', '&', '|'].contains c

/-- No token of `s` goes on in `t`, unless it is a text literal. -/
structure Cut (s t : List Char) : Prop where
  head : ∀ d ∈ t.head?, continues d = false
  name : ∀ c, [c] <:+ s → isNameChar c = true → ∀ d ∈ t.head?, isNameChar d = false
  exponent : exponentPart t = ([], t)

namespace Cut

variable {s s' t : List Char}

/-- A cut behind a text is one behind every end of the text. -/
theorem of_suffix (h : Cut s t) (hs : s' <:+ s) : Cut s' t where
  head := h.head
  name := fun c hc => h.name c (hc.trans hs)
  exponent := h.exponent

theorem isNumberChar_eq_false (h : Cut s t) : ∀ d ∈ t.head?, isNumberChar d = false := by
  intro d hd
  have := h.head d hd
  rw [continues, Bool.or_eq_false_iff] at this
  exact this.1

theorem isDigit_eq_false (h : Cut s t) : ∀ d ∈ t.head?, d.isDigit = false := by
  intro d hd
  have := h.isNumberChar_eq_false d hd
  rw [isNumberChar, Bool.or_eq_false_iff] at this
  exact this.1

theorem head_ne (h : Cut s t) {c : Char} (hc : continues c = true) (r : List Char) :
    t ≠ c :: r := by
  rintro rfl
  have := h.head c rfl
  rw [hc] at this
  cases this

end Cut

/-! ### The parts of a text in front of a cut -/

theorem takeWhile_append_of_cut {p : Char → Bool} {s t : List Char}
    (h : (∀ c ∈ s.getLast?, p c = true) → ∀ d ∈ t.head?, p d = false) :
    (s ++ t).takeWhile p = s.takeWhile p := by
  induction s with
  | nil =>
    have ht := h (by simp)
    cases t with
    | nil => rfl
    | cons d r => simp [ht d rfl]
  | cons c s ih =>
    rw [List.cons_append, List.takeWhile_cons, List.takeWhile_cons]
    split
    · next hc =>
      -- The last character stays the last, unless `c` itself is it.
      refine congrArg (c :: ·) (ih fun hs => h ?_)
      cases s with
      | nil => simpa using hc
      | cons c' s => simpa using hs
    · rfl

theorem dropWhile_append_of_cut {p : Char → Bool} {s t : List Char}
    (h : (∀ c ∈ s.getLast?, p c = true) → ∀ d ∈ t.head?, p d = false) :
    (s ++ t).dropWhile p = s.dropWhile p ++ t := by
  have hsplit := takeWhile_append_dropWhile_append p s t
  rw [takeWhile_append_of_cut h] at hsplit
  exact List.append_cancel_left hsplit

theorem append_ne_cons {s t : List Char} {d : Char} (hs : ∀ r, s = d :: r → False)
    (ht : ∀ r, t ≠ d :: r) : ∀ r, s ++ t = d :: r → False := by
  intro r hr
  rcases List.append_eq_cons_iff.1 hr with ⟨-, hr⟩ | ⟨s', hs', -⟩
  · exact ht r hr
  · exact hs s' hs'

section Parts

variable {s t : List Char} (h : Cut s t)
include h

theorem signPart_append : signPart (s ++ t) = ((signPart s).1, (signPart s).2 ++ t) := by
  cases s with
  | nil =>
    rw [List.nil_append]
    unfold signPart
    split
    · exact absurd rfl (h.head_ne (by decide) _)
    · exact absurd rfl (h.head_ne (by decide) _)
    · rfl
  | cons c s =>
    unfold signPart
    grind

theorem startsDigits_append {digits : List Char} :
    ((digits ++ t).head?.map Char.isDigit).getD false =
      (digits.head?.map Char.isDigit).getD false := by
  cases digits with
  | nil =>
    cases t with
    | nil => rfl
    | cons d r => simpa using h.isDigit_eq_false d rfl
  | cons d digits => rfl

theorem exponentPart_append :
    exponentPart (s ++ t) = ((exponentPart s).1, (exponentPart s).2 ++ t) := by
  cases s with
  | nil => exact h.exponent
  | cons e rest =>
    -- Sign and digits may each end at the cut, which goes on with neither.
    have hsign := signPart_append (h.of_suffix (List.suffix_cons e rest))
    rw [List.cons_append]
    simp only [exponentPart, hsign, startsDigits_append h]
    split
    · split
      · rw [takeWhile_append_of_cut fun _ => h.isDigit_eq_false,
          dropWhile_append_of_cut fun _ => h.isDigit_eq_false]
      · rfl
    · rfl

theorem numberPart_append :
    numberPart (s ++ t) = ((numberPart s).1, (numberPart s).2 ++ t) := by
  have hrest : Cut (s.dropWhile isNumberChar) t := h.of_suffix (List.dropWhile_suffix _)
  simp only [numberPart]
  rw [takeWhile_append_of_cut fun _ => h.isNumberChar_eq_false,
    dropWhile_append_of_cut fun _ => h.isNumberChar_eq_false, exponentPart_append hrest]

theorem symbolPart_append {c : Char} :
    symbolPart c (s ++ t) = (symbolPart c s).map fun p => (p.1, p.2 ++ t) := by
  have hstar := h.head_ne (c := '*') (by decide)
  have heq := h.head_ne (c := '=') (by decide)
  have hgt := h.head_ne (c := '>') (by decide)
  have hand := h.head_ne (c := '&') (by decide)
  have hor := h.head_ne (c := '|') (by decide)
  -- The cases named here are those in which the scanner looks for more of the symbol in vain.
  fun_cases symbolPart c s
  case case3 r hr => exact symbolPart.eq_3 _ (append_ne_cons hr heq)
  case case6 r hr => exact symbolPart.eq_6 _ (append_ne_cons hr heq)
  case case13 hr => exact symbolPart.eq_13 _ (append_ne_cons hr hstar)
  case case16 hr =>
    have hone := append_ne_cons hr heq
    exact symbolPart.eq_16 _ (fun r => hone ('=' :: r)) hone
  case case17 hr => exact symbolPart.eq_17 _ (append_ne_cons hr heq)
  case case18 hr => exact symbolPart.eq_18 _ (append_ne_cons hr heq)
  case case25 hr hr' =>
    have hone := append_ne_cons hr heq
    exact symbolPart.eq_25 _ (fun r => hone ('=' :: r)) hone (append_ne_cons hr' hgt)
  case case31 hr hr' =>
    have hand' : ∀ r, c = '&' → s ++ t = '&' :: r → False :=
      fun r hc => append_ne_cons (fun r' => hr r' hc) hand r
    have hor' : ∀ r, c = '|' → s ++ t = '|' :: r → False :=
      fun r hc => append_ne_cons (fun r' => hr' r' hc) hor r
    apply symbolPart.eq_31
    all_goals first
      | assumption
      | exact fun r hc => absurd hc ‹_›
  all_goals rfl

end Parts

theorem startsNumber_append {c : Char} {s t : List Char} (h : Cut (c :: s) t) :
    startsNumber c (s ++ t) = startsNumber c s := by
  unfold startsNumber
  rw [startsDigits_append h]

/-- A letter is a letter or a number. -/
theorem isLetterOrNumber_of_isLetter {c : Char} (h : Text.isLetter c = true) :
    Text.isLetterOrNumber c = true := by
  unfold Text.isLetter at h
  unfold Text.isLetterOrNumber
  split
  · next hc =>
    rw [if_pos hc] at h
    rw [Char.isAlphanum, h, Bool.true_or]
  · next hc =>
    rw [if_neg hc] at h
    rw [h, Bool.true_or]

theorem isNameChar_of_startsName {c : Char} (h : startsName c = true) : isNameChar c = true := by
  simp only [startsName, Bool.or_eq_true] at h
  simp only [isNameChar, Bool.or_eq_true]
  exact h.imp_left (Or.imp_left isLetterOrNumber_of_isLetter)

/-- The rest of a name ends at a cut. -/
theorem Cut.name_rest {c : Char} {s t : List Char} (h : Cut (c :: s) t) (hc : isNameChar c = true)
    (hs : ∀ d ∈ s.getLast?, isNameChar d = true) : ∀ d ∈ t.head?, isNameChar d = false := by
  cases s with
  | nil => exact h.name c (List.suffix_refl _) hc
  | cons d s =>
    -- Its last character is then the last before the cut.
    have hlast : (d :: s).getLast? = some ((d :: s).getLast (by simp)) :=
      List.getLast?_eq_some_getLast _
    have hend : [(d :: s).getLast (by simp)] <:+ d :: s :=
      List.singleton_suffix_iff_getLast?_eq_some.2 hlast
    exact h.name _ (hend.trans (List.suffix_cons c _)) (hs _ hlast)

theorem textPart_append {quote : Char} {s content after : List Char} (t : List Char)
    (h : textPart quote s = some (content, after)) :
    textPart quote (s ++ t) = some (content, after ++ t) := by
  fun_induction textPart quote s generalizing content after with
  | case1 => cases h
  | case2 rest =>
    cases h
    exact textPart_quote
  | case3 => cases h
  | case4 e rest content' after' ht hq ih =>
    cases h
    rw [List.cons_append, List.cons_append, textPart_backslash hq (ih ht)]
  | case5 => cases h
  | case6 c rest hq hb content' after' ht ih =>
    cases h
    rw [List.cons_append, textPart_other hq hb (ih ht)]
  | case7 => cases h

/-! ### The whole text -/

/-- **A text is scanned piece by piece** when it is cut where a token begins, unless the first piece
leaves a text literal open. The induction follows the scanner through the first piece; the cut stays
a cut behind every end of it. -/
theorem scan_append {s t : List Char} (hcut : Cut s t)
    (hopen : invalid .unterminatedText ∉ scan s) : scan (s ++ t) = scan s ++ scan t := by
  induction hn : s.length using Nat.strongRecOn generalizing s with
  | ind n ih =>
    subst hn
    match s with
    | [] => rw [scan_nil, List.nil_append, List.nil_append]
    | c :: rest =>
      -- What the scanner leaves of the first piece is scanned piece by piece.
      have hleft : ∀ r, r <:+ c :: rest → r.length < (c :: rest).length →
          (∀ token ∈ scan r, token ∈ scan (c :: rest)) → scan (r ++ t) = scan r ++ scan t :=
        fun r hr hlt hmem => ih r.length hlt (hcut.of_suffix hr) (fun h => hopen (hmem _ h)) rfl
      -- One token comes first, and then what is left.
      have hstep : ∀ token r, scan (c :: rest) = token :: scan r → r <:+ c :: rest →
          r.length < (c :: rest).length → token :: scan (r ++ t) = scan (c :: rest) ++ scan t := by
        intro token r hscan hr hlt
        have hmem : ∀ token' ∈ scan r, token' ∈ scan (c :: rest) := by
          rw [hscan]
          exact fun _ => List.mem_cons_of_mem token
        rw [hscan, List.cons_append, hleft r hr hlt hmem]
      have hrest : rest <:+ c :: rest := List.suffix_cons c rest
      have hcut' : Cut rest t := hcut.of_suffix hrest
      have hn' : startsNumber c (rest ++ t) = startsNumber c rest := startsNumber_append hcut
      rw [List.cons_append]
      -- The cases are the branches of the scanner, in its order.
      by_cases hb : Text.isBlank c = true
      · rw [scan_of_isBlank hb, scan_of_isBlank hb]
        refine hleft rest hrest (Nat.lt_succ_self _) ?_
        rw [scan_of_isBlank hb]
        exact fun _ h => h
      by_cases hn : startsNumber c rest = true
      · have hpart := numberPart_append hcut
        rw [List.cons_append] at hpart
        rw [scan_of_startsNumber hb (hn'.trans hn), hpart]
        exact hstep _ _ (scan_of_startsNumber hb hn) (numberPart_suffix _) (length_numberPart_lt hn)
      have hn₂ : ¬startsNumber c (rest ++ t) = true := by rwa [hn']
      by_cases hname : startsName c = true
      · have hend := hcut.name_rest (isNameChar_of_startsName hname)
        rw [scan_of_startsName hb hn₂ hname, takeWhile_append_of_cut hend,
          dropWhile_append_of_cut hend]
        exact hstep _ _ (scan_of_startsName hb hn hname) ((List.dropWhile_suffix _).trans hrest)
          (Nat.lt_succ_of_le (length_dropWhile_le isNameChar rest))
      by_cases hq : c = '"' ∨ c = apostrophe
      · cases ht : textPart c rest with
        | none =>
          -- This is the one token that would swallow the second piece.
          rw [scan_of_textPart_eq_none hb hn hname hq ht] at hopen
          exact absurd (List.mem_singleton.2 rfl) hopen
        | some p =>
          rw [scan_of_textPart hb hn₂ hname hq (textPart_append t ht)]
          exact hstep _ _ (scan_of_textPart hb hn hname hq ht) ((textPart_suffix ht).trans hrest)
            (Nat.lt_succ_of_lt (length_lt_of_textPart ht))
      have hs := symbolPart_append hcut' (c := c)
      cases hsymbol : symbolPart c rest with
      | none =>
        rw [hsymbol] at hs
        rw [scan_of_symbolPart_eq_none hb hn₂ hname hq hs]
        exact hstep _ _ (scan_of_symbolPart_eq_none hb hn hname hq hsymbol) hrest
          (Nat.lt_succ_self _)
      | some p =>
        rw [hsymbol] at hs
        rw [scan_of_symbolPart hb hn₂ hname hq hs]
        exact hstep _ _ (scan_of_symbolPart hb hn hname hq hsymbol)
          ((symbolPart_suffix hsymbol).trans hrest)
          (Nat.lt_succ_of_le (length_le_of_symbolPart hsymbol))

end Token
end QuizBank

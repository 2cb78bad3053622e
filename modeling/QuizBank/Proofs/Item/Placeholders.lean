import QuizBank.Item.Rendering
import QuizBank.Proofs.Expr.Names

/-!
# Names in placeholders

A stem has names of its own: those that a placeholder can hold are not quite those that the scanner
of expressions reads. Which placeholder is read for a name of the scanner is told by
`Placeholder.read?_name`; the text around it is copied (`renderChars_append`). So such a name is
filled in if it is one of both kinds, and one that starts with an accented letter is not.
-/

namespace QuizBank

namespace Text

theorem isWord_of_isBlank {c : Char} (h : isBlank c = true) : isWord c = false := by
  have hwide : ∀ n ∈ wideBlanks, ((Ranges.contain Ranges.alphabetic n ||
      Ranges.contain Ranges.wordOnly n) && !Ranges.contain Ranges.newest n) = false := by
    decide +kernel
  have hneither := isLetterOrNumber_of_isBlank h
  unfold isLetterOrNumber at hneither
  unfold isWord
  split at hneither
  · next hascii =>
    rw [if_pos hascii, hneither, Bool.false_or, beq_eq_false_iff_ne]
    rintro rfl
    exact absurd h (by decide)
  · next hascii =>
    rw [if_neg hascii]
    obtain hcode | hcode | hcode := toNat_of_isBlank h
    · omega
    · omega
    · exact hwide _ hcode

end Text

namespace Rendering

namespace Placeholder

/-- Can a placeholder hold the name? -/
def isName : List Char → Bool
  | [] => false
  | c :: rest => startsName c && rest.all Text.isWord

/-- The characters of a name between the braces of a placeholder. -/
def around (name : List Char) : List Char := '\x7b' :: '\x7b' :: (name ++ ['\x7d', '\x7d'])

theorem read?_of_ne {c : Char} {s : List Char} (h : c ≠ '\x7b') : read? (c :: s) = none := by
  unfold read?
  split
  · next heq =>
    cases heq
    exact absurd rfl h
  · rfl

theorem read?_of_second_ne {c d : Char} {s : List Char} (h : d ≠ '\x7b') :
    read? (c :: d :: s) = none := by
  unfold read?
  split
  · next heq =>
    cases heq
    exact absurd rfl h
  · rfl

theorem isBlank_of_startsName {c : Char} (h : startsName c = true) : Text.isBlank c = false := by
  rw [Bool.eq_false_iff]
  intro hblank
  rw [startsName, Bool.or_eq_true, beq_iff_eq] at h
  obtain h | rfl := h
  · have halnum : c.isAlphanum = true := by simp [Char.isAlphanum, h]
    have hascii : c.toNat < 128 := by
      have := Text.toNat_of_isAlphanum halnum
      omega
    have hneither := Text.isLetterOrNumber_of_isBlank hblank
    simp [Text.isLetterOrNumber, hascii, halnum] at hneither
  · exact absurd hblank (by decide)

/-- The parts of a placeholder are told apart: each of them stops where the next one begins. -/
theorem read?_of_parts {before name after : List Char}
    (hbefore : ∀ c ∈ before, Text.isBlank c = true) (hname : isName name = true)
    (hafter : ∀ c ∈ after, Text.isBlank c = true) (s : List Char) :
    read? ('\x7b' :: '\x7b' :: (before ++ name ++ after ++ ['\x7d', '\x7d']) ++ s) =
      some ⟨before, name, after, s⟩ := by
  cases name with
  | nil => cases hname
  | cons c tail =>
    rw [isName, Bool.and_eq_true, List.all_eq_true] at hname
    obtain ⟨hstart, hword⟩ := hname
    have hfront : ∀ d ∈ (c :: (tail ++ (after ++ '\x7d' :: '\x7d' :: s))).head?,
        Text.isBlank d = false := by
      rintro d ⟨⟩
      exact isBlank_of_startsName hstart
    have hstop : ∀ d ∈ (after ++ '\x7d' :: '\x7d' :: s).head?, Text.isWord d = false := by
      cases after with
      | nil =>
        rintro d ⟨⟩
        decide
      | cons a after =>
        rintro d ⟨⟩
        exact Text.isWord_of_isBlank (hafter _ List.mem_cons_self)
    have hback : ∀ d ∈ ('\x7d' :: '\x7d' :: s).head?, Text.isBlank d = false := by
      rintro d ⟨⟩
      decide
    simp only [List.cons_append, List.append_assoc, List.nil_append, read?]
    rw [takeWhile_append_of_stop hbefore hfront, dropWhile_append_of_stop hbefore hfront]
    simp only [hstart, if_true]
    rw [takeWhile_append_of_stop hword hstop, dropWhile_append_of_stop hword hstop,
      takeWhile_append_of_stop hafter hback, dropWhile_append_of_stop hafter hback]
    rfl

/-- A name that a placeholder can hold is read to its end. -/
theorem read?_of_isName {name : List Char} (hname : isName name = true) (s : List Char) :
    read? (around name ++ s) = some ⟨[], name, [], s⟩ := by
  have hread := read?_of_parts (List.forall_mem_nil _) hname (List.forall_mem_nil _) s
  rwa [List.nil_append, List.append_nil] at hread

/-- Where a name goes on with a character that is neither of a word nor a blank, nothing is read. -/
theorem read?_of_not_isName {c : Char} {rest : List Char} (hblank : Text.isBlank c = false)
    (s : List Char) (hrest : ∀ d ∈ rest, Text.isBlank d = false ∧ d ≠ '\x7d')
    (hname : isName (c :: rest) = false) : read? (around (c :: rest) ++ s) = none := by
  by_cases hstart : startsName c = true
  · -- The word ends in front of a character of the name, where neither blanks nor braces stand.
    have hshort : rest.dropWhile Text.isWord ≠ [] := by
      rw [isName, hstart, Bool.true_and] at hname
      intro hnil
      have hall := List.takeWhile_append_dropWhile (p := Text.isWord) (l := rest)
      rw [hnil, List.append_nil] at hall
      rw [← hall, List.all_takeWhile] at hname
      cases hname
    obtain ⟨d, r, hd⟩ := List.exists_cons_of_ne_nil hshort
    have hmem : d ∈ rest := (List.dropWhile_suffix _).subset (hd ▸ List.mem_cons_self)
    obtain ⟨hdblank, hbrace⟩ := hrest d hmem
    have hdrop : (rest ++ '\x7d' :: '\x7d' :: s).dropWhile Text.isWord =
        d :: (r ++ '\x7d' :: '\x7d' :: s) := by
      rw [List.dropWhile_append, hd]
      rfl
    simp [around, read?, hblank, hstart, hdrop, hdblank, hbrace]
  · simp [around, read?, hblank, hstart]

/-- Between the braces a name of the scanner is read if a placeholder can hold it, and else nothing
is read. -/
theorem read?_name {name : List Char} (hname : Token.isName name = true) (s : List Char) :
    read? (around name ++ s) = if isName name = true then some ⟨[], name, [], s⟩ else none := by
  have hchars := Token.isNameChar_of_isName hname
  cases name with
  | nil => cases hname
  | cons c rest =>
    have hblank := Token.isBlank_of_isNameChar (hchars c List.mem_cons_self)
    split
    · next hheld => exact read?_of_isName hheld s
    · next hheld =>
      refine read?_of_not_isName hblank s ?_ (Bool.eq_false_iff.2 hheld)
      intro d hd
      have hnamed := hchars d (List.mem_cons_of_mem c hd)
      refine ⟨Token.isBlank_of_isNameChar hnamed, ?_⟩
      rintro rfl
      exact absurd hnamed (by decide)

end Placeholder

variable {scope : Scope}

/-! ### Steps of rendering -/

theorem renderChars_nil : renderChars scope [] = [] := by
  rw [renderChars]
  rfl

theorem renderChars_of_read? {s : List Char} {p : Placeholder}
    (h : Placeholder.read? s = some p) :
    renderChars scope s = p.fill scope ++ renderChars scope p.rest := by
  rw [renderChars]
  split
  · next p' hp =>
    rw [h] at hp
    cases hp
    rfl
  · next hnone =>
    rw [h] at hnone
    cases hnone

theorem renderChars_of_read?_eq_none {c : Char} {s : List Char}
    (h : Placeholder.read? (c :: s) = none) :
    renderChars scope (c :: s) = c :: renderChars scope s := by
  rw [renderChars]
  split
  · next p hp =>
    rw [h] at hp
    cases hp
  · rfl

/-- A text without an opening brace is copied. -/
theorem renderChars_append {a : List Char} (ha : '\x7b' ∉ a) (s : List Char) :
    renderChars scope (a ++ s) = a ++ renderChars scope s := by
  induction a with
  | nil => rfl
  | cons c a ih =>
    rw [List.mem_cons, not_or] at ha
    rw [List.cons_append, renderChars_of_read?_eq_none (Placeholder.read?_of_ne (Ne.symm ha.1)),
      ih ha.2, List.cons_append]

theorem renderChars_of_not_mem {a : List Char} (ha : '\x7b' ∉ a) : renderChars scope a = a := by
  have h := @renderChars_append scope a ha []
  rwa [renderChars_nil, List.append_nil] at h

/-! ### A placeholder in a text -/

theorem not_mem_of_isName {name : List Char} (hname : Token.isName name = true) :
    '\x7b' ∉ name := by
  intro hmem
  exact absurd (Token.isNameChar_of_isName hname _ hmem) (by decide)

section Around

variable {name a b : List Char} {v : Value} (hname : Token.isName name = true)
  (ha : '\x7b' ∉ a) (hb : '\x7b' ∉ b)
include hname ha hb

theorem renderChars_of_held (hheld : Placeholder.isName name = true)
    (hv : scope.get? (String.ofList name) = some v) :
    renderChars scope (a ++ (Placeholder.around name ++ b)) = a ++ (v.display.toList ++ b) := by
  have hread := Placeholder.read?_name hname b
  rw [if_pos hheld] at hread
  rw [renderChars_append ha, renderChars_of_read? hread, renderChars_of_not_mem hb,
    Placeholder.fill, hv]

theorem renderChars_of_not_held (hheld : Placeholder.isName name = false) :
    renderChars scope (a ++ (Placeholder.around name ++ b)) =
      a ++ (Placeholder.around name ++ b) := by
  -- Nothing is read at either of the two braces, and behind them no other one stands.
  have hfirst : Placeholder.read? ('\x7b' :: '\x7b' :: (name ++ ['\x7d', '\x7d'] ++ b)) = none :=
    (Placeholder.read?_name hname b).trans (if_neg (Bool.eq_false_iff.1 hheld))
  have hsecond : Placeholder.read? ('\x7b' :: (name ++ ['\x7d', '\x7d'] ++ b)) = none := by
    cases name with
    | nil => cases hname
    | cons c rest =>
      refine Placeholder.read?_of_second_ne ?_
      rintro rfl
      exact not_mem_of_isName hname List.mem_cons_self
  have hinner : '\x7b' ∉ name ++ ['\x7d', '\x7d'] ++ b := by
    simp [not_mem_of_isName hname, hb]
  rw [renderChars_append ha]
  refine congrArg (a ++ ·) ?_
  show renderChars scope ('\x7b' :: '\x7b' :: (name ++ ['\x7d', '\x7d'] ++ b)) = _
  rw [renderChars_of_read?_eq_none hfirst, renderChars_of_read?_eq_none hsecond,
    renderChars_of_not_mem hinner]
  rfl

end Around

/-- The names of ASCII characters are of both kinds, unless they hold a dollar sign. -/
theorem isName_of_ascii {name : List Char} (hname : Token.isName name = true)
    (hascii : ∀ c ∈ name, c.toNat < 128 ∧ c ≠ '$') : Placeholder.isName name = true := by
  cases name with
  | nil => cases hname
  | cons c rest =>
    rw [Token.isName, Bool.and_eq_true, List.all_eq_true] at hname
    rw [Placeholder.isName, Bool.and_eq_true, List.all_eq_true]
    refine ⟨?_, fun d hd => ?_⟩
    · obtain ⟨hc, hdollar⟩ := hascii c List.mem_cons_self
      simpa [Token.startsName, Text.isLetter, hc, hdollar, Placeholder.startsName] using hname.1
    · obtain ⟨hd', hdollar⟩ := hascii d (List.mem_cons_of_mem c hd)
      simpa [Token.isNameChar, Text.isLetterOrNumber, hd', hdollar, Text.isWord] using hname.2 d hd

/-- A name in a placeholder, with a text in front of it and one behind it. -/
def withPlaceholder (a name b : String) : String :=
  a ++ "\x7b\x7b" ++ name ++ "\x7d\x7d" ++ b

theorem toList_withPlaceholder (a name b : String) :
    (withPlaceholder a name b).toList =
      a.toList ++ (Placeholder.around name.toList ++ b.toList) := by
  simp [withPlaceholder, Placeholder.around]

/-- **Which names are filled in.** Let a name of the scanner stand in a placeholder, with a value in
the scope, between texts without opening braces. If a placeholder can hold the name, then its value
is put in place of the placeholder, and otherwise nothing is changed. So the value appears exactly
if a placeholder can hold the name, as it can hold every name of ASCII characters other than the
dollar sign, or if the value happens to read like the placeholder. -/
theorem render_withPlaceholder {scope : Scope} {name a b : String} {v : Value}
    (hname : Token.ofText name = [.ident name]) (hv : scope.get? name = some v)
    (ha : '\x7b' ∉ a.toList) (hb : '\x7b' ∉ b.toList) :
    render (withPlaceholder a name b) scope =
      (if Placeholder.isName name.toList = true then a ++ v.display ++ b
        else withPlaceholder a name b) ∧
    (render (withPlaceholder a name b) scope = a ++ v.display ++ b ↔
      Placeholder.isName name.toList = true ∨ v.display = withPlaceholder "" name "") ∧
    ((∀ c ∈ name.toList, c.toNat < 128 ∧ c ≠ '$') → Placeholder.isName name.toList = true) := by
  have hname := Token.isName_of_ofText hname
  have hrender : render (withPlaceholder a name b) scope =
      if Placeholder.isName name.toList = true then a ++ v.display ++ b
        else withPlaceholder a name b := by
    rw [render, toList_withPlaceholder]
    split
    · next hheld =>
      rw [renderChars_of_held hname ha hb hheld (by rw [String.ofList_toList, hv])]
      simp [String.append_assoc]
    · next hheld =>
      rw [renderChars_of_not_held hname ha hb (Bool.eq_false_iff.2 hheld),
        ← toList_withPlaceholder, String.ofList_toList]
  refine ⟨hrender, ?_, isName_of_ascii hname⟩
  rw [hrender]
  split
  · next hheld => simp [hheld]
  · next hheld =>
    rw [or_iff_right hheld, ← String.toList_inj, ← String.toList_inj, eq_comm]
    simp only [toList_withPlaceholder, String.toList_append, String.toList_empty, List.append_assoc,
      List.nil_append, List.append_nil, List.append_cancel_left_eq, List.append_cancel_right_eq]

/-- Two variables with an accented letter in their names. -/
def accented : Scope := .ofList [("é", .text "acute"), ("xé", .text "both")]

theorem render_withPlaceholder_accented :
    Token.ofText "xé" = [.ident "xé"] ∧
      render (withPlaceholder "It is " "xé" ".") accented = "It is both." := by
  have hname : Token.ofText "xé" = [.ident "xé"] := by decide +kernel
  have hv : accented.get? "xé" = some (.text "both") := by decide +kernel
  exact ⟨hname, (render_withPlaceholder hname hv (by decide +kernel) (by decide +kernel)).1⟩

/-- A name that starts with an accented letter is one of the scanner and has a value, but no
placeholder can hold it. -/
theorem render_accented :
    Token.ofText "é" = [.ident "é"] ∧ accented.get? "é" = some (.text "acute") ∧
      '\x7b' ∉ "".toList ∧ '\x7d' ∉ "".toList ∧
      render (withPlaceholder "" "é" "") accented = "\x7b\x7bé\x7d\x7d" ∧
      "" ++ (Value.text "acute").display ++ "" = "acute" := by
  refine ⟨by decide +kernel, by decide +kernel, by decide, by decide, by decide +kernel, rfl⟩

end Rendering
end QuizBank

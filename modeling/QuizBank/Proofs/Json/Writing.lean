import QuizBank.Proofs.Json.Numerals

/-!
# Reading what was written

Every tree that is written without spaces is read back (`parse?_compact`). Texts and words come back
as they were, in the same arrays and objects, and a number as what the reader makes of its digits.
-/

namespace QuizBank
namespace Json

/-! ### Texts -/

/-- A unit that is no half of a pair stands for a character. -/
theorem assemble_unit {n : Nat} (hn : n < 0xd800) (ps : List Piece) :
    assemble (.unit n :: ps) = (assemble ps).map (Char.ofNat n :: ·) := by
  have hlow : ¬(0xd800 ≤ n ∧ n < 0xdc00) := by omega
  have hhigh : ¬(0xdc00 ≤ n ∧ n < 0xe000) := by omega
  have hhalf : ¬(0xd800 ≤ n ∧ n < 0xe000) := by omega
  cases ps with
  | nil => simp only [assemble, if_neg hhalf]
  | cons p ps =>
    cases p with
    | char c => simp only [assemble, if_neg hhalf]
    | unit m => rw [assemble, if_neg hlow, if_neg hhigh]

theorem hexDigit?_digitChar : ∀ n < 16, Text.hexDigit? (Nat.digitChar n) = some n := by
  decide

/-- A control character is read from its two digits. -/
theorem hexUnit_hexDigits {n : Nat} (hn : n < 32) :
    hexUnit '0' '0' (Nat.digitChar (n / 16)) (Nat.digitChar (n % 16)) = some n := by
  have hzero : Text.hexDigit? '0' = some 0 := rfl
  have hfirst := hexDigit?_digitChar (n / 16) (by omega)
  have hsecond := hexDigit?_digitChar (n % 16) (by omega)
  rw [hexUnit, hzero, hfirst, hsecond]
  show some (((0 * 16 + 0) * 16 + n / 16) * 16 + n % 16) = some n
  congr 1
  omega

/-- A character is escaped by one letter, by its number, or not at all. -/
theorem escapeChar_cases (c : Char) :
    (∃ e, shortEscape e = some c ∧ escapeChar c = ['\\', e]) ∨
      (c.toNat < 32 ∧ escapeChar c = '\\' :: 'u' :: '0' :: '0' :: hexDigits c.toNat) ∨
      (c ≠ '"' ∧ ¬(c = '\\' ∨ c.toNat < 32) ∧ escapeChar c = [c]) := by
  rw [escapeChar]
  split_ifs with hquote hback h₁ h₂ h₃ h₄ h₅ hcontrol
  · exact .inl ⟨'"', by rw [hquote]; rfl, rfl⟩
  · exact .inl ⟨'\\', by rw [hback]; rfl, rfl⟩
  · exact .inl ⟨'b', h₁ ▸ rfl, rfl⟩
  · exact .inl ⟨'f', h₂ ▸ rfl, rfl⟩
  · exact .inl ⟨'n', h₃ ▸ rfl, rfl⟩
  · exact .inl ⟨'r', h₄ ▸ rfl, rfl⟩
  · exact .inl ⟨'t', h₅ ▸ rfl, rfl⟩
  · exact .inr (.inl ⟨hcontrol, rfl⟩)
  · exact .inr (.inr ⟨hquote, fun h => h.elim hback hcontrol, rfl⟩)

/-- An escaped character is read as one piece, and the piece stands for the character. -/
theorem pieces_escapeChar (c : Char) {s rest : List Char} {ps : List Piece}
    (hs : pieces s = some (ps, rest)) :
    ∃ p, pieces (escapeChar c ++ s) = some (p :: ps, rest) ∧
      ∀ qs, assemble (p :: qs) = (assemble qs).map (c :: ·) := by
  rcases escapeChar_cases c with ⟨e, he, heq⟩ | ⟨hcontrol, heq⟩ | ⟨hquote, hplain, heq⟩
  · rw [heq]
    exact ⟨.char c, pieces_escape he hs, fun _ => rfl⟩
  · rw [heq]
    refine ⟨.unit c.toNat, pieces_unit (hexUnit_hexDigits hcontrol) hs, ?_⟩
    intro qs
    rw [assemble_unit (by omega), Char.ofNat_toNat]
  · rw [heq]
    exact ⟨.char c, pieces_char hquote hplain hs, fun _ => rfl⟩

theorem pieces_escaped (cs rest : List Char) :
    ∃ ps, pieces (cs.flatMap escapeChar ++ '"' :: rest) = some (ps, rest) ∧
      assemble ps = some cs := by
  induction cs with
  | nil => exact ⟨[], rfl, rfl⟩
  | cons c cs ih =>
    obtain ⟨ps, hps, htext⟩ := ih
    obtain ⟨p, hp, hpiece⟩ := pieces_escapeChar c hps
    refine ⟨p :: ps, ?_, ?_⟩
    · rw [List.flatMap_cons, List.append_assoc]
      exact hp
    · rw [hpiece, htext]
      rfl

/-- A quoted text is read back. -/
theorem textAt_quoted (s : String) (rest : List Char) :
    Finds (textAt (s.toList.flatMap escapeChar ++ '"' :: rest)) (some s) rest := by
  obtain ⟨ps, hps, htext⟩ := pieces_escaped s.toList rest
  refine textAt_finds_iff.2 ⟨ps, hps, ?_⟩
  rw [htext, Option.map_some, String.ofList_toList]

theorem quote_append (s : String) (u : List Char) :
    quote s ++ u = '"' :: (s.toList.flatMap escapeChar ++ '"' :: u) := by
  rw [quote, List.cons_append, List.append_assoc]
  rfl

/-! ### Trees -/

mutual

/-- The tree that the text of a tree is read as. -/
def reread : Json → Json
  | null => null
  | bool b => bool b
  | number n => n.reread
  | text s => text s
  | array items => array (rereadItems items)
  | object members => object (rereadMembers members)
  | unrepresentable => null

/-- `reread` for every item of an array. -/
def rereadItems : List Json → List Json
  | [] => []
  | item :: rest => reread item :: rereadItems rest

/-- `reread` for the value of every member of an object. -/
def rereadMembers : List (String × Json) → List (String × Json)
  | [] => []
  | (name, value) :: rest => (name, reread value) :: rereadMembers rest

end

theorem rereadItems_eq_map (items : List Json) : rereadItems items = items.map reread := by
  induction items with
  | nil => rfl
  | cons item rest ih => rw [rereadItems, ih, List.map_cons]

theorem rereadMembers_eq_map (members : List (String × Json)) :
    rereadMembers members = members.map fun m => (m.1, m.2.reread) := by
  induction members with
  | nil => rfl
  | cons m rest ih => rw [rereadMembers, ih, List.map_cons]

/-- The characters that a number or a word begins with. -/
def opensScalar (c : Char) : Bool := c == '-' || c.isDigit || c == 'n' || c == 't' || c == 'f'

theorem head_of_scalarPart {s rest : List Char} {j : Json} (h : scalarPart s = some (j, rest)) :
    ∃ c r, s = c :: r ∧ opensScalar c = true := by
  by_cases hnull : "null".toList.isPrefixOf s = true
  · obtain ⟨r, rfl⟩ := List.isPrefixOf_iff_prefix.1 hnull
    exact ⟨_, _, rfl, rfl⟩
  by_cases htrue : "true".toList.isPrefixOf s = true
  · obtain ⟨r, rfl⟩ := List.isPrefixOf_iff_prefix.1 htrue
    exact ⟨_, _, rfl, rfl⟩
  by_cases hfalse : "false".toList.isPrefixOf s = true
  · obtain ⟨r, rfl⟩ := List.isPrefixOf_iff_prefix.1 hfalse
    exact ⟨_, _, rfl, rfl⟩
  rw [scalarPart, if_neg hnull, if_neg htrue, if_neg hfalse] at h
  obtain ⟨c, r, rfl, hc⟩ := head_of_numberAt h
  refine ⟨c, r, rfl, ?_⟩
  rcases hc with rfl | hc
  · rfl
  · simp [opensScalar, hc]

/-- A text does not begin with a blank. -/
theorem skipBlanks_of_not_blank {c : Char} (hc : isBlank c = false) (r : List Char) :
    skipBlanks (c :: r) = c :: r := by
  rw [skipBlanks, List.dropWhile_cons_of_neg (by simp [hc])]

theorem isBlank_of_opensScalar {c : Char} (hc : opensScalar c = true) : isBlank c = false := by
  cases hblank : isBlank c with
  | false => rfl
  | true =>
    simp only [isBlank, Bool.or_eq_true, beq_iff_eq] at hblank
    rcases hblank with ((rfl | rfl) | rfl) | rfl
    all_goals cases hc

/-- A scalar that is read to its end is a value in front of what cannot belong to it. -/
theorem valueAt_of_scalarPart {s u : List Char} {j : Json} (h : scalarPart s = some (j, []))
    (hu : ∀ c ∈ u.head?, goesOn c = false) : Finds (valueAt (s ++ u)) j u := by
  obtain ⟨c, r, rfl, hc⟩ := head_of_scalarPart h
  have hother : c ≠ '"' ∧ c ≠ '[' ∧ c ≠ '\x7b' := by
    refine ⟨?_, ?_, ?_⟩
    all_goals
      rintro rfl
      cases hc
  have hblank := skipBlanks_of_not_blank (isBlank_of_opensScalar hc) (r ++ u)
  rw [List.cons_append, valueAt_scalar_finds_iff hblank hother]
  refine scalarAt_finds_iff.2 ⟨?_, ?_⟩
  · have happend := scalarPart_append (u := u) h (.inr hu)
    rwa [List.cons_append, List.nil_append] at happend
  · rw [List.length_cons, List.length_append]
    omega

/-- A written tree begins with a character that is neither blank nor closes an array. -/
theorem head_compactChars (j : Json) :
    ∃ c r, j.compactChars = c :: r ∧ isBlank c = false ∧ c ≠ ']' := by
  have hscalar : ∀ {s j}, scalarPart s = some (j, []) →
      ∃ c r, s = c :: r ∧ isBlank c = false ∧ c ≠ ']' := by
    intro s j h
    obtain ⟨c, r, hs, hc⟩ := head_of_scalarPart h
    refine ⟨c, r, hs, isBlank_of_opensScalar hc, ?_⟩
    rintro rfl
    cases hc
  cases j with
  | null => exact hscalar (scalarPart_null [])
  | bool b =>
    cases b with
    | true => exact hscalar (scalarPart_true [])
    | false => exact hscalar (scalarPart_false [])
  | number n => exact hscalar (scalarPart_chars n)
  | text s => exact ⟨_, _, rfl, rfl, by decide⟩
  | array items => exact ⟨_, _, rfl, rfl, by decide⟩
  | object members => exact ⟨_, _, rfl, rfl, by decide⟩
  | unrepresentable => exact hscalar (scalarPart_null [])

theorem compactItems_cons_cons (item next : Json) (rest : List Json) :
    compactItems (item :: next :: rest) = compactChars item ++ ',' :: compactItems (next :: rest) :=
  rfl

theorem compactMembers_cons_cons (name : String) (value : Json) (next : String × Json)
    (rest : List (String × Json)) :
    compactMembers ((name, value) :: next :: rest) =
      quote name ++ ':' :: (compactChars value ++ ',' :: compactMembers (next :: rest)) := rfl

/-- Members as the reader gives them, where every name is a text. -/
def named (m : String × Json) : Option String × Json := (some m.1, m.2)

theorem objectOf_map_named (members : List (String × Json)) :
    objectOf (members.map named) = object members := by
  have hnames : (members.map named).mapM (fun m => m.1.map fun name => (name, m.2)) =
      some members := by
    induction members with
    | nil => rfl
    | cons m rest ih =>
      rw [List.map_cons, List.mapM_cons, ih]
      rfl
  rw [objectOf, hnames]

/-- A number ends before a character that it cannot go on with. -/
theorem ends_cons {c : Char} (hc : goesOn c = false) (u : List Char) :
    ∀ d ∈ (c :: u).head?, goesOn d = false := by
  rintro d hd
  cases hd
  exact hc

mutual

/-- **A written tree is read back**, in front of everything that a number cannot go on with. -/
theorem valueAt_compactChars (j : Json) {u : List Char} (hu : ∀ c ∈ u.head?, goesOn c = false) :
    Finds (valueAt (j.compactChars ++ u)) j.reread u := by
  match j with
  | null =>
    rw [compactChars, reread]
    exact valueAt_of_scalarPart (scalarPart_null []) hu
  | unrepresentable =>
    rw [compactChars, reread]
    exact valueAt_of_scalarPart (scalarPart_null []) hu
  | bool true =>
    rw [compactChars, reread]
    exact valueAt_of_scalarPart (scalarPart_true []) hu
  | bool false =>
    rw [compactChars, reread]
    exact valueAt_of_scalarPart (scalarPart_false []) hu
  | number n =>
    rw [compactChars, reread]
    exact valueAt_of_scalarPart (scalarPart_chars n) hu
  | text s =>
    rw [compactChars, reread, quote_append]
    exact (valueAt_quote_finds_iff (skipBlanks_of_not_blank rfl _)).2
      ⟨some s, textAt_quoted s u, rfl⟩
  | array [] =>
    rw [compactChars, reread]
    exact (valueAt_bracket_finds_iff (skipBlanks_of_not_blank rfl _)).2 (.inl ⟨rfl, rfl⟩)
  | array (item :: rest) =>
    rw [compactChars, reread, List.cons_append, List.append_assoc]
    have hitems := itemsAt_compactItems (item :: rest) (List.cons_ne_nil _ _) u
    refine (valueAt_bracket_finds_iff (skipBlanks_of_not_blank rfl _)).2
      (.inr ⟨?_, _, hitems, rfl⟩)
    -- The bracket behind the opening one would have to begin the first item.
    obtain ⟨c, r, hchars, hblank, hc⟩ := head_compactChars item
    obtain ⟨r', htail⟩ : ∃ r', compactItems (item :: rest) ++ (']' :: u) = c :: r' := by
      cases rest with
      | nil => exact ⟨r ++ ']' :: u, by rw [compactItems, hchars]; rfl⟩
      | cons next rest => exact ⟨_, by rw [compactItems_cons_cons, hchars]; rfl⟩
    intro v hv
    rw [List.singleton_append, htail, skipBlanks_of_not_blank hblank] at hv
    exact hc (List.cons.inj hv).1
  | object [] =>
    rw [compactChars, reread]
    exact (valueAt_brace_finds_iff (skipBlanks_of_not_blank rfl _)).2 (.inl ⟨rfl, rfl⟩)
  | object ((name, value) :: rest) =>
    rw [compactChars, reread, List.cons_append, List.append_assoc]
    have hmembers := membersAt_compactMembers ((name, value) :: rest) (List.cons_ne_nil _ _) u
    refine (valueAt_brace_finds_iff (skipBlanks_of_not_blank rfl _)).2
      (.inr ⟨?_, _, hmembers, (objectOf_map_named _).symm⟩)
    obtain ⟨r', htail⟩ :
        ∃ r', compactMembers ((name, value) :: rest) ++ ('\x7d' :: u) = '"' :: r' := by
      cases rest with
      | nil => exact ⟨_, rfl⟩
      | cons next rest => exact ⟨_, rfl⟩
    intro v hv
    rw [List.singleton_append, htail, skipBlanks_of_not_blank rfl] at hv
    exact absurd (List.cons.inj hv).1 (by decide)

theorem itemsAt_compactItems (items : List Json) (hne : items ≠ []) (u : List Char) :
    Finds (itemsAt (compactItems items ++ ']' :: u)) (rereadItems items) u := by
  match items with
  | [] => exact absurd rfl hne
  | [item] =>
    rw [compactItems, rereadItems, rereadItems]
    exact itemsAt_finds_iff.2 ⟨_, _, valueAt_compactChars item (ends_cons rfl _),
      .inr ⟨skipBlanks_of_not_blank rfl _, rfl⟩⟩
  | item :: next :: rest =>
    have hrest := itemsAt_compactItems (next :: rest) (List.cons_ne_nil _ _) u
    rw [compactItems_cons_cons, rereadItems, List.append_assoc]
    exact itemsAt_finds_iff.2 ⟨_, _, valueAt_compactChars item (ends_cons rfl _),
      .inl ⟨_, _, skipBlanks_of_not_blank rfl _, hrest, rfl⟩⟩

theorem membersAt_compactMembers (members : List (String × Json)) (hne : members ≠ [])
    (u : List Char) :
    Finds (membersAt (compactMembers members ++ '\x7d' :: u))
      ((rereadMembers members).map named) u := by
  match members with
  | [] => exact absurd rfl hne
  | [(name, value)] =>
    rw [compactMembers, rereadMembers, rereadMembers, List.append_assoc, quote_append]
    exact membersAt_finds_iff.2 ⟨_, _, _, _, _, _, skipBlanks_of_not_blank rfl _,
      textAt_quoted name _, skipBlanks_of_not_blank rfl _,
      valueAt_compactChars value (ends_cons rfl _), .inr ⟨skipBlanks_of_not_blank rfl _, rfl⟩⟩
  | (name, value) :: next :: rest =>
    have hrest := membersAt_compactMembers (next :: rest) (List.cons_ne_nil _ _) u
    rw [compactMembers_cons_cons, rereadMembers, List.append_assoc, quote_append,
      List.cons_append, List.append_assoc]
    exact membersAt_finds_iff.2 ⟨_, _, _, _, _, _, skipBlanks_of_not_blank rfl _,
      textAt_quoted name _, skipBlanks_of_not_blank rfl _,
      valueAt_compactChars value (ends_cons rfl _),
      .inl ⟨_, _, skipBlanks_of_not_blank rfl _, hrest, rfl⟩⟩

end

/-- **Every tree that is written without spaces is read back.** -/
theorem parse?_compact (j : Json) : parse? j.compact = some j.reread := by
  have h := valueAt_compactChars j (u := []) (by simp)
  rw [List.append_nil] at h
  refine parse?_eq_some_iff.2 ⟨[], ?_, rfl⟩
  rwa [compact, String.toList_ofList]

end Json
end QuizBank

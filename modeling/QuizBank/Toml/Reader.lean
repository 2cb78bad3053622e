import QuizBank.Toml.Quoted
import QuizBank.Toml.Scalar

/-!
# Reading TOML

`Toml.parse?` reads a whole text: it takes the text apart into statements, one a line, and builds
the tree from them.
-/

namespace QuizBank
namespace Toml

/-! ### Blanks, comments and line ends -/

/-- The text behind its leading blanks. -/
def skipBlanks (s : List Char) : List Char := s.dropWhile fun c => c == ' ' || c == '\t'

theorem length_skipBlanks_le (s : List Char) : (skipBlanks s).length ≤ s.length :=
  length_dropWhile_le _ s

theorem length_le_of_skipBlanks {s t : List Char} (h : skipBlanks s = t) : t.length ≤ s.length := by
  rw [← h]
  exact length_skipBlanks_le s

theorem length_lt_of_skipBlanks {s t : List Char} {c : Char} (h : skipBlanks s = c :: t) :
    t.length < s.length := by
  have := length_skipBlanks_le s
  simp only [h, List.length_cons] at this
  omega

/-- The text behind blanks, comments and line ends. There is none if a comment holds a control
character or a carriage return stands alone. -/
def skipGap (inComment : Bool) : List Char → Option (List Char)
  | [] => some []
  | c :: rest =>
    if c = '\n' then skipGap false rest
    else if c = '\r' then if rest.head? = some '\n' then skipGap false rest else none
    else if inComment then if isPlain c then skipGap true rest else none
    else if c = ' ' ∨ c = '\t' then skipGap false rest
    else if c = '#' then skipGap true rest
    else some (c :: rest)

theorem length_le_of_skipGap {b : Bool} {s t : List Char} (h : skipGap b s = some t) :
    t.length ≤ s.length := by
  fun_induction skipGap b s generalizing t <;> grind

/-- The text behind the end of a line, in front of which only blanks and a comment stand. -/
def skipLineEnd (inComment : Bool) : List Char → Option (List Char)
  | [] => some []
  | c :: rest =>
    if c = '\n' then some rest
    else if c = '\r' then if rest.head? = some '\n' then skipLineEnd false rest else none
    else if inComment then if isPlain c then skipLineEnd true rest else none
    else if c = ' ' ∨ c = '\t' then skipLineEnd false rest
    else if c = '#' then skipLineEnd true rest
    else none

theorem length_le_of_skipLineEnd {b : Bool} {s t : List Char} (h : skipLineEnd b s = some t) :
    t.length ≤ s.length := by
  fun_induction skipLineEnd b s generalizing t <;> grind

/-- The text behind an equals sign and the gaps on both sides of it. -/
def skipEquals (s : List Char) : Option (List Char) :=
  match skipGap false s with
  | some ('=' :: t) => skipGap false t
  | _ => none

theorem length_lt_of_skipEquals {s t : List Char} (h : skipEquals s = some t) :
    t.length < s.length := by
  unfold skipEquals at h
  split at h
  · next u hu =>
    have h1 := length_le_of_skipGap hu
    have h2 := length_le_of_skipGap h
    simp only [List.length_cons] at h1
    omega
  · simp at h

/-! ### Keys -/

/-- The characters of a key without quotes. -/
def isKeyChar (c : Char) : Bool := c.isAlphanum || c == '-' || c == '_'

/-- A key. -/
def keyAt (s : List Char) : Option (Found String s) :=
  match quotedAt s with
  | some key => some key
  | none =>
    if h : (s.dropWhile isKeyChar).length < s.length then
      some ⟨String.ofList (s.takeWhile isKeyChar), s.dropWhile isKeyChar, h⟩
    else none

/-- Keys with dots between them: those before the last, and the last. -/
def pathAt (s : List Char) : Option (Found (List String × String) s) :=
  match keyAt (skipBlanks s) with
  | none => none
  | some key =>
    have hk := Nat.lt_of_lt_of_le key.shorter (length_skipBlanks_le s)
    match h : skipBlanks key.rest with
    | '.' :: t =>
      have ht := Nat.lt_trans (length_lt_of_skipBlanks h) hk
      (pathAt t).map fun p =>
        (p.map fun (path, last) => (key.value :: path, last)).within (Nat.le_of_lt ht)
    | t =>
      some ⟨([], key.value), t, Nat.lt_of_le_of_lt (length_le_of_skipBlanks h) hk⟩
termination_by s.length

/-! ### Values -/

/-- How many arrays and tables may stand inside each other in a value. -/
def maxDepth : Nat := 80

/-- The characters of a word: all that do not end it. -/
def isWordChar (c : Char) : Bool := !" \t\r\n,[]{}#".toList.contains c

/-- A value that is a word. A date and a time may have a blank between them. -/
def wordAt (s : List Char) : Option (Found Toml s) :=
  let word := s.takeWhile isWordChar
  let rest := s.dropWhile isWordChar
  let (word, rest) : List Char × List Char := match afterDate? word, rest with
    | some [], ' ' :: c :: more =>
      if c.isDigit then
        (word ++ ' ' :: c :: more.takeWhile isWordChar, more.dropWhile isWordChar)
      else (word, rest)
    | _, _ => (word, rest)
  if h : rest.length < s.length then (ofWord? word).map fun value => ⟨value, rest, h⟩ else none

/-- The table of a list of assignments between braces. -/
def ofMembers (members : List ((List String × String) × Toml)) : Option Toml :=
  members.foldlM (fun t m => assign m.1.1 m.1.2 m.2 t) (table .braces [])

mutual

/-- A value, with the blanks before it. -/
def valueAt (room : Nat) (s : List Char) : Option (Found Toml s) :=
  match h : skipBlanks s with
  | '[' :: t =>
    if room = 0 then none
    else
      (itemsAt (room - 1) t).map fun f =>
        (f.map (array false)).within (Nat.le_of_lt (length_lt_of_skipBlanks h))
  | '\x7b' :: t =>
    if room = 0 then none
    else
      match membersAt (room - 1) t with
      | none => none
      | some f =>
        (ofMembers f.value).map fun value =>
          (f.map fun _ => value).within (Nat.le_of_lt (length_lt_of_skipBlanks h))
  | t =>
    have ht : t.length ≤ s.length := length_le_of_skipBlanks h
    match textAt t with
    | some f => some ((f.map text).within ht)
    | none => (wordAt t).map (·.within ht)
termination_by 2 * s.length
decreasing_by
  all_goals
    have := length_lt_of_skipBlanks h
    omega

/-- Items with commas between them, up to the closing bracket. The last may have a comma too. -/
def itemsAt (room : Nat) (s : List Char) : Option (Found (List Toml) s) :=
  match h : skipGap false s with
  | none => none
  | some (']' :: u) => some ⟨[], u, Nat.lt_of_succ_le (length_le_of_skipGap h)⟩
  | some t =>
    have ht := length_le_of_skipGap h
    match valueAt room t with
    | none => none
    | some f =>
      have hf := Nat.lt_of_lt_of_le f.shorter ht
      match h' : skipGap false f.rest with
      | some (',' :: u) =>
        have hu : u.length < s.length := by
          have := length_le_of_skipGap h'; simp only [List.length_cons] at this; omega
        (itemsAt room u).map fun g =>
          (g.map (f.value :: ·)).within (Nat.le_of_lt hu)
      | some (']' :: u) =>
        some ⟨[f.value], u, by
          have := length_le_of_skipGap h'; simp only [List.length_cons] at this; omega⟩
      | _ => none
termination_by 2 * s.length + 1
decreasing_by all_goals omega

/-- Assignments with commas between them, up to the closing brace. The last may have a comma too.
Lines may end on either side of an equals sign. -/
def membersAt (room : Nat) (s : List Char) :
    Option (Found (List ((List String × String) × Toml)) s) :=
  match h : skipGap false s with
  | none => none
  | some ('\x7d' :: u) => some ⟨[], u, Nat.lt_of_succ_le (length_le_of_skipGap h)⟩
  | some t =>
    have ht := length_le_of_skipGap h
    match pathAt t with
    | none => none
    | some path =>
      match hp : skipEquals path.rest with
      | some u =>
        have hu : u.length < s.length := by
          have := path.shorter; have := length_lt_of_skipEquals hp; omega
        match valueAt room u with
        | none => none
        | some f =>
          have hf := Nat.lt_trans f.shorter hu
          match h' : skipGap false f.rest with
          | some (',' :: v) =>
            have hv : v.length < s.length := by
              have := length_le_of_skipGap h'; simp only [List.length_cons] at this; omega
            (membersAt room v).map fun g =>
              (g.map ((path.value, f.value) :: ·)).within (Nat.le_of_lt hv)
          | some ('\x7d' :: v) =>
            some ⟨[(path.value, f.value)], v, by
              have := length_le_of_skipGap h'; simp only [List.length_cons] at this; omega⟩
          | _ => none
      | none => none
termination_by 2 * s.length + 1
decreasing_by all_goals omega

end

/-! ### Statements -/

/-- The statement at the front of a text. -/
def statementAt (s : List Char) : Option (Found Statement s) :=
  match s with
  | '[' :: '[' :: t =>
    match pathAt t with
    | none => none
    | some path =>
      match h : path.rest with
      | ']' :: ']' :: u =>
        some ⟨.element path.value.1 path.value.2, u, by
          have := path.shorter; simp only [h, List.length_cons] at this ⊢; omega⟩
      | _ => none
  | '[' :: t =>
    match pathAt t with
    | none => none
    | some path =>
      match h : path.rest with
      | ']' :: u =>
        some ⟨.table path.value.1 path.value.2, u, by
          have := path.shorter; simp only [h, List.length_cons] at this ⊢; omega⟩
      | _ => none
  | s =>
    match pathAt s with
    | none => none
    | some path =>
      match h : path.rest with
      | '=' :: u =>
        (valueAt maxDepth u).map fun f =>
          (f.map (.assign path.value.1 path.value.2)).within (by
            have := path.shorter; simp only [h, List.length_cons] at this; omega)
      | _ => none

/-- The statements of a text. -/
def statementsAt (s : List Char) : Option (List Statement) :=
  match _h : skipGap false s with
  | none => none
  | some [] => some []
  | some t =>
    match statementAt t with
    | none => none
    | some f =>
      match _h' : skipLineEnd false f.rest with
      | none => none
      | some u => (statementsAt u).map (f.value :: ·)
termination_by s.length
decreasing_by
  have := length_le_of_skipGap _h
  have := f.shorter
  have := length_le_of_skipLineEnd _h'
  omega

/-- The tree of a text. A byte order mark may stand in front. -/
def parse? (s : String) : Option Toml :=
  let chars := match s.toList with
    | '\ufeff' :: rest => rest
    | chars => chars
  (statementsAt chars).bind ofStatements

end Toml
end QuizBank

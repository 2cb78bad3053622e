import Mathlib.Data.List.TakeWhile
import QuizBank.Proofs.File.Growth

/-!
# Spellings of a path

Many texts denote one path: slashes may be repeated, a `.` may stand anywhere. What is left of a
path without them are its names. Whether a path leads up, what the name at its end is and which
extension that has depends on the names alone. So does the place that the path leads to:
`Path.follow` goes from a place along names with no file system to look at, and a walk that succeeds
comes to where `follow` goes.
-/

namespace QuizBank
namespace Path

variable {p : Path} {name : String}

/-! ### Names -/

/-- The names on a path that lead somewhere: all but `.`. -/
def names (p : Path) : List String := p.segments.filter (· != ".")

theorem mem_names : name ∈ p.names ↔ name ∈ p.segments ∧ name ≠ "." := by
  simp [names]

theorem components_eq (p : Path) :
    p.components =
      if p.absolute = false ∧ p.segments.head? = some "." then "." :: p.names else p.names := by
  rw [components, names]
  split
  · next rest habsolute hsegments => simp [habsolute, hsegments]
  · next hdot =>
    rw [if_neg]
    rintro ⟨habsolute, hhead⟩
    obtain ⟨rest, hsegments⟩ := List.head?_eq_some_iff.1 hhead
    exact hdot rest habsolute hsegments

theorem leadsUp_eq_false_iff : p.leadsUp = false ↔ ".." ∉ p.names := by
  rw [leadsUp, components_eq]
  split <;> simp

theorem getLast?_components_eq_some_iff (hname : name ≠ ".") :
    p.components.getLast? = some name ↔ p.names.getLast? = some name := by
  rw [components_eq]
  split
  · rw [List.getLast?_cons]
    cases p.names.getLast? <;> simp [hname.symm]
  · rfl

/-- The name at the end is the last of the names, unless it is `..`. -/
theorem fileName?_eq_some_iff :
    p.fileName? = some name ↔ p.names.getLast? = some name ∧ name ≠ ".." := by
  constructor
  · intro h
    rw [fileName?] at h
    split at h
    · next last hlast =>
      split at h
      · cases h
      · next hplain =>
        cases h
        obtain ⟨hdot, hup⟩ := not_or.1 hplain
        exact ⟨(getLast?_components_eq_some_iff hdot).1 hlast, hup⟩
    · cases h
  · rintro ⟨hlast, hup⟩
    have hdot := (mem_names.1 (List.mem_of_getLast? hlast)).2
    rw [fileName?, (getLast?_components_eq_some_iff hdot).2 hlast]
    simp [hdot, hup]

theorem extensionOf?_append {stem e : List Char} (he : '.' ∉ e) :
    extensionOf? (stem ++ '.' :: e) = if stem = [] then none else some e := by
  have hnot : ∀ c ∈ e.reverse, (c != '.') = true := by
    intro c hc
    rw [bne_iff_ne]
    rintro rfl
    exact he (List.mem_reverse.1 hc)
  have hreverse : (stem ++ '.' :: e).reverse = e.reverse ++ '.' :: stem.reverse := by simp
  rw [extensionOf?, hreverse, List.dropWhile_append_of_pos hnot, List.takeWhile_append_of_pos hnot]
  by_cases hstem : stem = []
  · simp [hstem]
  · obtain ⟨c, rest, hrest⟩ := List.exists_cons_of_ne_nil (mt List.reverse_eq_nil_iff.1 hstem)
    simp [hrest, hstem]

/-- An extension stands behind the last point, and something stands before the point. -/
theorem extensionOf?_eq_some_iff {s e : List Char} :
    extensionOf? s = some e ↔ ∃ stem, stem ≠ [] ∧ s = stem ++ '.' :: e ∧ '.' ∉ e := by
  constructor
  · intro h
    by_cases hpoint : '.' ∈ s
    · -- The first point of the reversed name is its last.
      obtain ⟨behind, before, hsplit, hbehind⟩ :=
        List.eq_append_cons_of_mem (List.mem_reverse.2 hpoint)
      have hs : s = before.reverse ++ '.' :: behind.reverse := by
        simpa using congrArg List.reverse hsplit
      have hlast : '.' ∉ behind.reverse := mt List.mem_reverse.1 hbehind
      rw [hs, extensionOf?_append hlast] at h
      split at h
      · cases h
      · next hbefore =>
        cases h
        exact ⟨before.reverse, hbefore, hs, hlast⟩
    · have hnil : s.reverse.dropWhile (· != '.') = [] := by
        rw [List.dropWhile_eq_nil_iff]
        intro c hc
        rw [bne_iff_ne]
        rintro rfl
        exact hpoint (List.mem_reverse.1 hc)
      rw [extensionOf?, hnil] at h
      cases h
  · rintro ⟨stem, hstem, rfl, he⟩
    rw [extensionOf?_append he, if_neg hstem]

theorem extension?_eq_some_iff {ext : String} : p.extension? = some ext ↔
    ∃ above name stem, p.names = above ++ [name] ∧ name ≠ ".." ∧ stem ≠ [] ∧
      name.toList = stem ++ '.' :: ext.toList ∧ '.' ∉ ext.toList := by
  simp only [extension?, Option.bind_eq_some_iff, Option.map_eq_some_iff, fileName?_eq_some_iff,
    List.getLast?_eq_some_iff, extensionOf?_eq_some_iff]
  constructor
  · rintro ⟨name, ⟨⟨above, habove⟩, hup⟩, e, ⟨stem, hstem, hname, he⟩, rfl⟩
    rw [String.toList_ofList]
    exact ⟨above, name, stem, habove, hup, hstem, hname, he⟩
  · rintro ⟨above, name, stem, habove, hup, hstem, hname, he⟩
    exact ⟨name, ⟨⟨above, habove⟩, hup⟩, ext.toList, ⟨stem, hstem, hname, he⟩, String.ofList_toList⟩

/-! ### The plain spelling -/

/-- The names with one slash between each two. -/
def plain (p : Path) : String := "/".intercalate p.names

/-- Names without slashes are read back from their plain spelling. -/
theorem ofText_intercalate {l : List String} (hl : l ≠ [])
    (hplain : ∀ name ∈ l, name ≠ "" ∧ '/' ∉ name.toList) :
    ofText ("/".intercalate l) = ⟨false, l, false, ("/".intercalate l).utf8ByteSize⟩ := by
  have hpieces : pieces ("/".intercalate l).toList = l.map String.toList := by
    rw [String.toList_intercalate, pieces_eq_splitOn]
    refine List.splitOn_intercalate '/' ?_ (by simpa using hl)
    intro chars hchars
    obtain ⟨name, hname, rfl⟩ := List.mem_map.1 hchars
    exact (hplain name hname).2
  have hne : [] ∉ pieces ("/".intercalate l).toList := by
    rw [hpieces]
    intro hnil
    obtain ⟨name, hname, hempty⟩ := List.mem_map.1 hnil
    exact (hplain name hname).1 (String.toList_eq_nil_iff.1 hempty)
  rw [ofText_of_nil_not_mem_pieces hne, hpieces]
  simp

/-- A path that does not start at the root has the names of its plain spelling, if it has any. -/
theorem ofText_plain {text : String} (h : (ofText text).names ≠ []) :
    ofText (ofText text).plain =
      ⟨false, (ofText text).names, false, (ofText text).plain.utf8ByteSize⟩ :=
  ofText_intercalate h fun _ hname => ne_empty_of_mem_segments (mem_names.1 hname).1

theorem names_plain {text : String} (h : (ofText text).names ≠ []) :
    (ofText (ofText text).plain).names = (ofText text).names := by
  rw [ofText_plain h]
  simp [names]

/-! ### Joined paths -/

/-- Only the empty text leads nowhere. -/
theorem isEmpty_ofText_iff {text : String} : (ofText text).isEmpty = true ↔ text = "" := by
  constructor
  · intro hempty
    cases htext : text.toList with
    | nil => exact String.toList_eq_nil_iff.1 htext
    | cons c rest =>
      by_cases hc : c = '/'
      · simp [isEmpty, ofText, htext, hc] at hempty
      · cases hpieces : pieces rest with
        | nil => exact absurd (pieces_eq_splitOn rest ▸ hpieces) (List.splitOn_ne_nil _ _)
        | cons piece more => simp [isEmpty, ofText, htext, pieces, hc, hpieces] at hempty
  · rintro rfl
    rfl

theorem join_eq (base : Path) (h : p.absolute = false) (hsegments : p.segments ≠ []) :
    base.join p = ⟨base.absolute, base.segments ++ p.segments, p.endsInSlash,
      base.sizeInFront + p.size⟩ := by
  rw [join, h, if_neg Bool.false_ne_true, if_neg (mt List.isEmpty_iff.1 hsegments)]

/-- What stands between a text and what is joined to it: a slash, unless the text ends in one. -/
def separator (text : String) : String := if (ofText text).endsInSlash then "" else "/"

theorem sizeInFront_ofText {text : String} (h : text ≠ "") :
    (ofText text).sizeInFront = (text ++ separator text).utf8ByteSize := by
  have hsize : (ofText text).size ≠ 0 := mt String.utf8ByteSize_eq_zero_iff.1 h
  rw [String.utf8ByteSize_append, sizeInFront, separator]
  cases (ofText text).endsInSlash with
  | true => rfl
  | false => simp only [Bool.false_or, beq_iff_eq, if_neg hsize, Bool.false_eq_true, if_false]; rfl

/-- The names of a text do not change when it gets a slash at its end, or a second one. -/
theorem filter_pieces_append_separator (base : String) (rest : List Char) :
    (pieces ((base ++ separator base).toList ++ rest)).filter (!·.isEmpty) =
      (pieces base.toList).filter (!·.isEmpty) ++ (pieces rest).filter (!·.isEmpty) := by
  rw [separator]
  split
  · next hslash =>
    obtain ⟨front, hfront⟩ := List.getLast?_eq_some_iff.1 (beq_iff_eq.1 hslash)
    rw [String.append_empty, hfront, List.append_assoc, List.singleton_append,
      pieces_append_slash, pieces_append_slash]
    simp [pieces]
  · rw [String.toList_append, List.append_assoc]
    change (pieces (base.toList ++ '/' :: rest)).filter _ = _
    rw [pieces_append_slash, List.filter_append]

/-- A slash at the end makes a path longer and changes no name. -/
theorem ofText_append_slash {text : String} (h : text ≠ "") :
    ofText (text ++ "/") =
      { ofText text with endsInSlash := true, size := text.utf8ByteSize + 1 } := by
  have hchars : (text ++ "/").toList = text.toList ++ ['/'] := String.toList_append
  have hhead : (text.toList ++ ['/']).head? = text.toList.head? :=
    List.head?_append_of_ne_nil _ (mt String.toList_eq_nil_iff.1 h)
  have hsize : (text ++ "/").utf8ByteSize = text.utf8ByteSize + 1 := String.utf8ByteSize_append
  have hnil : (pieces []).filter (!·.isEmpty) = [] := rfl
  simp only [ofText, hchars, hhead, hsize, pieces_append_slash, List.filter_append, hnil,
    List.append_nil, List.getLast?_concat, beq_self_eq_true]

theorem ofText_append_slashes {text : String} (h : text ≠ "") (n : Nat) :
    ofText (text ++ String.ofList (List.replicate (n + 1) '/')) =
      { ofText text with endsInSlash := true, size := text.utf8ByteSize + (n + 1) } := by
  induction n with
  | zero => exact ofText_append_slash h
  | succ n ih =>
    have hlast : text ++ String.ofList (List.replicate (n + 2) '/') =
        text ++ String.ofList (List.replicate (n + 1) '/') ++ "/" := by
      rw [List.replicate_succ', String.ofList_append, ← String.append_assoc]
    have hne : text ++ String.ofList (List.replicate (n + 1) '/') ≠ "" := by
      simp [String.append_eq_empty_iff, h]
    have hsize := congrArg Path.size ih
    rw [hlast, ofText_append_slash hne, ih]
    exact congrArg _ (congrArg (· + 1) hsize)

/-- A joined path is the one whose text is both texts, with a slash between unless the first ends in
one. -/
theorem join_ofText_ofText {base text : String} (hbase : base ≠ "")
    (hrelative : (ofText text).absolute = false) (hsegments : (ofText text).segments ≠ []) :
    (ofText base).join (ofText text) = ofText (base ++ separator base ++ text) := by
  have hbase' : base.toList ≠ [] := mt String.toList_eq_nil_iff.1 hbase
  have htext : text.toList ≠ [] := by
    intro hnil
    exact hsegments (by simp [ofText, hnil, pieces])
  have hchars : (base ++ separator base ++ text).toList =
      (base ++ separator base).toList ++ text.toList := String.toList_append
  have hhead : ((base ++ separator base).toList ++ text.toList).head? = base.toList.head? := by
    rw [String.toList_append, List.append_assoc, List.head?_append_of_ne_nil _ hbase']
  have hlast : ((base ++ separator base).toList ++ text.toList).getLast? = text.toList.getLast? :=
    List.getLast?_append_of_ne_nil _ htext
  have hsize : (base ++ separator base ++ text).utf8ByteSize =
      (ofText base).sizeInFront + (ofText text).size := by
    rw [String.utf8ByteSize_append, sizeInFront_ofText hbase]
    rfl
  rw [join_eq _ hrelative hsegments, ← hsize]
  simp only [ofText, hchars, hhead, hlast, filter_pieces_append_separator, List.map_append]

theorem names_join (base : Path) (h : p.absolute = false) :
    (base.join p).names = base.names ++ p.names := by
  rw [join, h, if_neg Bool.false_ne_true]
  split
  · next hnil => simp [names, List.isEmpty_iff.1 hnil]
  · simp [names]

theorem absolute_join (base : Path) (h : p.absolute = false) :
    (base.join p).absolute = base.absolute := by
  rw [join, h, if_neg Bool.false_ne_true]
  split <;> rfl

/-- The components of a joined path are those of the directory and the names behind it. -/
theorem components_join {base : Path} (hbase : base.isEmpty = false) (h : p.absolute = false) :
    (base.join p).components = base.components ++ p.names := by
  have hhead : base.absolute = false → (base.join p).segments.head? = base.segments.head? := by
    intro hrelative
    have hsegments : base.segments ≠ [] := by simpa [isEmpty, hrelative] using hbase
    rw [join, h, if_neg Bool.false_ne_true]
    split
    · rfl
    · exact List.head?_append_of_ne_nil _ hsegments
  rw [components_eq, components_eq, absolute_join base h, names_join base h]
  cases hbase' : base.absolute with
  | true => simp
  | false =>
    rw [hhead hbase']
    split <;> simp

/-! ### Following names -/

/-- The place that a name leads to from a place: `.` stays, `..` goes up, any other goes down. -/
def step (place : List String) (name : String) : List String :=
  if name = "." then place else if name = ".." then place.dropLast else place ++ [name]

/-- The place that names lead to from a place. -/
def follow (place names : List String) : List String := names.foldl step place

theorem follow_cons (place : List String) (name : String) (rest : List String) :
    follow place (name :: rest) = follow (step place name) rest :=
  rfl

/-- Where a path starts, seen from a place: there, or at the root. -/
def start (p : Path) (place : List String) : List String := if p.absolute then [] else place

/-- A path that is followed from a place never leaves it, and ends at its own names below it. -/
structure StaysBelow (p : Path) (place : List String) : Prop where
  onTheWay : ∀ walked, walked <+: p.segments → place <+: follow (p.start place) walked
  atTheEnd : follow (p.start place) p.segments = place ++ p.names

/-- Without a `..` there is only one way: down. -/
theorem follow_of_not_mem {place names : List String} (h : ".." ∉ names) :
    follow place names = place ++ names.filter (· != ".") := by
  induction names generalizing place with
  | nil => simp [follow]
  | cons name rest ih =>
    obtain ⟨hname, hrest⟩ := not_or.1 (mt List.mem_cons.2 h)
    rw [follow_cons, ih hrest, step]
    by_cases hdot : name = "."
    · simp [hdot]
    · simp [hdot, Ne.symm hname]

theorem staysBelow (hrelative : p.absolute = false) (hup : ".." ∉ p.names) (place : List String) :
    p.StaysBelow place := by
  have hup' : ".." ∉ p.segments := fun hmem => hup (mem_names.2 ⟨hmem, by decide⟩)
  have hstart : p.start place = place := by rw [start, hrelative, if_neg Bool.false_ne_true]
  refine ⟨?_, ?_⟩
  · intro walked hwalked
    rw [hstart, follow_of_not_mem fun hmem => hup' (hwalked.subset hmem)]
    exact List.prefix_append _ _
  · rw [hstart, follow_of_not_mem hup', names]

end Path

namespace FileSystem

variable {fs : FileSystem} {p : Path} {place place' names : List String}

/-- A walk comes to where its names lead. -/
theorem eq_follow_of_walk (h : fs.walk place names = .ok place') :
    place' = Path.follow place names := by
  induction names generalizing place with
  | nil =>
    cases h
    rfl
  | cons name rest ih =>
    obtain ⟨es, -, ⟨rfl, hrest⟩ | ⟨rfl, hrest⟩ | ⟨⟨hdot, hup⟩, -, -, hrest⟩⟩ :=
      walk_cons_eq_ok_iff.1 h
    · rw [Path.follow_cons, ih hrest]
      rfl
    · rw [Path.follow_cons, ih hrest]
      rfl
    · rw [Path.follow_cons, ih hrest, Path.step, if_neg hdot, if_neg hup]

/-- What a joined path leads to is reached by its second part from where the first leads to. -/
theorem resolve_join {base : Path} (hbase : base.isEmpty = false) (hrelative : p.absolute = false)
    (hsegments : p.segments ≠ []) (h : fs.resolve (base.join p) = .ok place) :
    ∃ between, fs.resolve base = .ok between ∧ fs.walk between p.segments = .ok place := by
  obtain ⟨hbad, hfits, -⟩ := resolve_eq_ok_iff.1 h
  have hwalk := walk_segments_of_resolve h
  rw [Path.join_eq base hrelative hsegments] at hbad hfits hwalk
  obtain ⟨between, hfirst, hsecond⟩ := walk_append_eq_ok_iff.1 hwalk
  refine ⟨between, resolve_eq_ok_iff.2 ⟨?_, ?_, hbase, ?_⟩, hsecond⟩
  · simp only [hasBadName, List.any_append, Bool.or_eq_false_iff] at hbad
    exact hbad.1
  · exact base.size_le_sizeInFront.trans ((Nat.le_add_right _ _).trans hfits)
  · change fs.walk (fs.start base) _ = _ at hfirst
    split
    · -- The names of `p` are looked up there, so it is a directory, and a slash leads to it too.
      obtain ⟨name, rest, hnames⟩ := List.exists_cons_of_ne_nil hsegments
      rw [hnames] at hsecond
      obtain ⟨es, hes, -⟩ := walk_cons_eq_ok_iff.1 hsecond
      have hdot : fs.walk between ["."] = .ok between :=
        walk_cons_eq_ok_iff.2 ⟨es, hes, .inl ⟨rfl, rfl⟩⟩
      exact walk_append_eq_ok_iff.2 ⟨between, hfirst, hdot⟩
    · exact hfirst

end FileSystem
end QuizBank

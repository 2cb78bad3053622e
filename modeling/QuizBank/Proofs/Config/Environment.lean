import QuizBank.Config.Reader
import QuizBank.Proofs.Toml.Building
import QuizBank.Proofs.Toml.Reading

/-!
# Environment variables in a configuration

The value of a variable is put into the text of a configuration before the text is read, so it is
read as part of the text. Between the quotes of a data directory the value reaches the configuration
as it is exactly if each of its characters stands for itself there (`ofText_dataDir_reference`). Any
other value stands for another directory, or for other settings too, or the text is not well formed.
-/

namespace QuizBank

/-! ### Pieces of a text -/

namespace TextPiece

theorem ofChars_append {s : List Char} (h : '$' ∉ s) (t : List Char) :
    ofChars (s ++ t) = s.map char ++ ofChars t := by
  induction s with
  | nil => rfl
  | cons c s ih =>
    obtain ⟨hc, hs⟩ := List.ne_and_not_mem_of_not_mem_cons h
    rw [List.cons_append, ofChars, ih hs]
    · rfl
    · rintro rest rfl
      exact absurd rfl hc

theorem flatMap_expand_char (env : Environment) (s : List Char) :
    (s.map char).flatMap (expand env) = s := by
  induction s with
  | nil => rfl
  | cons c s ih => exact congrArg (c :: ·) ih

theorem ofChars_reference {name : List Char} (hne : name ≠ []) (hname : '\x7d' ∉ name)
    (t : List Char) : ofChars ((reference name).toChars ++ t) = reference name :: ofChars t := by
  have hinside : ∀ c ∈ name, (c != '\x7d') = true :=
    fun c hc => bne_iff_ne.2 (ne_of_mem_of_not_mem hc hname)
  have htake := takeWhile_append_of_stop (t := '\x7d' :: t) hinside (by simp)
  have hdrop := dropWhile_append_of_stop (t := '\x7d' :: t) hinside (by simp)
  obtain ⟨c, more, rfl⟩ := List.exists_cons_of_ne_nil hne
  have hchars : (reference (c :: more)).toChars ++ t =
      '$' :: '\x7b' :: (c :: more ++ '\x7d' :: t) := by
    simp [toChars]
  rw [hchars, ofChars]
  split
  · next htake' hdrop' =>
    cases htake.symm.trans htake'
    cases hdrop.symm.trans hdrop'
    rfl
  · next hnone => exact (hnone c more '\x7d' t htake hdrop).elim

/-- The pieces of a text, one behind the other, are the text. -/
theorem flatMap_toChars (s : List Char) : (ofChars s).flatMap toChars = s := by
  fun_induction ofChars s with
  | case1 => rfl
  | case2 rest c name brace after hdrop htake ih =>
    have hsplit := List.takeWhile_append_dropWhile (p := (· != '\x7d')) (l := rest)
    have hbrace : brace = '\x7d' := by
      have hhead := List.head?_dropWhile_not (· != '\x7d') rest
      simpa [hdrop] using hhead
    rw [List.flatMap_cons, ih, ← hsplit, htake, hdrop, hbrace]
    simp [toChars]
  | case3 rest _ ih =>
    rw [List.flatMap_cons, ih]
    rfl
  | case4 c rest _ ih =>
    rw [List.flatMap_cons, ih]
    rfl

end TextPiece

namespace Environment

variable {env : Environment}

/-- A reference to a variable, as it is written. -/
def reference (name : String) : String := "$\x7b" ++ name ++ "\x7d"

/-- Without variables a text stays as it is. -/
theorem expand_nil (text : String) : expand [] text = text := by
  have hpiece : TextPiece.expand [] = TextPiece.toChars := by
    funext piece
    cases piece <;> rfl
  rw [expand, hpiece, TextPiece.flatMap_toChars, String.ofList_toList]

/-- One reference in a text is replaced by the value of its variable. -/
theorem expand_reference {before after name value : String} (hbefore : '$' ∉ before.toList)
    (hafter : '$' ∉ after.toList) (hne : name ≠ "") (hname : '\x7d' ∉ name.toList)
    (hvalue : env.lookup name = some value) :
    env.expand (before ++ reference name ++ after) = before ++ value ++ after := by
  have htext : (before ++ reference name ++ after).toList =
      before.toList ++ ((TextPiece.reference name.toList).toChars ++ after.toList) := by
    simp [reference, TextPiece.toChars, String.toList_append]
  have hpiece : TextPiece.expand env (.reference name.toList) = value.toList := by
    simp [TextPiece.expand, TextPiece.name?, hvalue]
  have hafter := TextPiece.ofChars_append hafter []
  rw [List.append_nil, TextPiece.ofChars, List.append_nil] at hafter
  rw [expand, htext, TextPiece.ofChars_append hbefore,
    TextPiece.ofChars_reference (mt String.toList_eq_nil_iff.1 hne) hname, hafter,
    List.flatMap_append, List.flatMap_cons, TextPiece.flatMap_expand_char, hpiece,
    TextPiece.flatMap_expand_char, ← String.toList_append, ← String.toList_append,
    String.ofList_toList, String.append_assoc]

end Environment

/-! ### Records -/

namespace Toml

section Records

variable {ρ : Type} {assign : ρ → String → Toml → Option ρ} {P : ρ → Prop} {r r' : ρ}
  {entries : List (String × Toml)} {key : String} {value : Toml} {keys : List String} {needed : Nat}

theorem of_foldlM (hkeep : ∀ e ∈ entries, ∀ r r', assign r e.1 e.2 = some r' → P r → P r')
    (hr : P r) (h : entries.foldlM (fun r e => assign r e.1 e.2) r = some r') : P r' := by
  induction entries generalizing r with
  | nil =>
    cases h
    exact hr
  | cons e entries ih =>
    obtain ⟨hfirst, hmore⟩ := List.forall_mem_cons.1 hkeep
    obtain ⟨r₁, hr₁, hrest⟩ := Option.bind_eq_some_iff.1 h
    exact ih hmore (hfirst r r₁ hr₁ hr) hrest

/-- What no key of a record undoes holds behind the whole record. -/
theorem of_readRecord (hkeep : ∀ key value r r', assign r key value = some r' → P r → P r')
    (hr : P r) (h : value.readRecord keys needed assign r = some r') : P r' := by
  unfold readRecord at h
  split at h
  · exact of_foldlM (fun e _ => hkeep e.1 e.2) hr h
  · split at h
    · cases h
    · exact of_foldlM (fun e _ => hkeep e.1 e.2) hr h
  · cases h
    exact hr
  · cases h

/-- What the value of a key brings about holds behind the whole record, if the other keys do not undo
it. -/
theorem of_readRecord_of_leads {w : String} {path : List String}
    (hset : ∀ value r r', Leads (text w) path value → assign r key value = some r' → P r')
    (hkeep : ∀ k value r r', k ≠ key → assign r k value = some r' → P r → P r')
    (hleads : Leads (text w) (key :: path) value)
    (h : value.readRecord keys needed assign r = some r') : P r' := by
  cases value with
  | table origin entries =>
    have hgives : Gives key (Leads (text w) path) entries := hleads
    have hall : ∀ e ∈ entries, ∀ r r', assign r e.1 e.2 = some r' → P r ∨ e.1 = key → P r' := by
      rintro ⟨k, v⟩ he r r' hr' hr
      by_cases hk : k = key
      · subst hk
        exact hset v r r' (hgives.of_mem _ he rfl) hr'
      · exact hkeep k v r r' hk hr' (hr.resolve_right hk)
    -- The record is split at an entry of the key: behind it, the others do not undo what it does.
    obtain ⟨e, he, hkey⟩ := hgives.exists_mem
    obtain ⟨before, after, rfl⟩ := List.append_of_mem he
    rw [readRecord, List.foldlM_append] at h
    obtain ⟨r₁, -, h⟩ := Option.bind_eq_some_iff.1 h
    rw [List.foldlM_cons] at h
    obtain ⟨r₂, hr₂, h⟩ := Option.bind_eq_some_iff.1 h
    refine of_foldlM ?_ (hall e he r₁ r₂ hr₂ (.inr hkey)) h
    intro e' he' r r' hr' hr
    exact hall e' (List.mem_append_right _ (List.mem_cons_of_mem _ he')) r r' hr' (.inl hr)
  | _ => exact hleads.elim

end Records

end Toml

namespace Config

open Json (Finds)
open Toml (Gives IsVerbatim Leads statementsAt text textAt)

/-! ### The tree of a text with a data directory -/

/-- The text of a configuration that sets the data directory and nothing else. -/
def dataDirText (written : String) : String := "[bank]\ndata_dir = \"" ++ written ++ "\"\n"

/-- The tree of a configuration that sets the data directory and nothing else. -/
def dataDirTree (dataDir : String) : Toml :=
  .table .header [("bank", .table .header [("data_dir", text dataDir)])]

theorem toList_dataDirText (written : String) : (dataDirText written).toList =
    "[bank]\ndata_dir = \"".toList ++ (written.toList ++ ['"', '\n']) := by
  unfold dataDirText
  simp

/-- The first two lines are read off, the second up to the end of its text. -/
theorem statementsAt_dataDir_iff {s : List Char} {statements : List Toml.Statement} :
    statementsAt ("[bank]\ndata_dir = \"".toList ++ s) = some statements ↔
      ∃ w rest next more, Finds (textAt ('"' :: s)) w rest ∧
        Toml.skipLineEnd false rest = some next ∧ statementsAt next = some more ∧
        statements = .table [] "bank" :: .assign [] "data_dir" (text w) :: more := by
  have hfront : "[bank]\ndata_dir = \"".toList ++ s = '[' :: (['b', 'a', 'n', 'k'] ++ ']' :: '\n' ::
      (['d', 'a', 't', 'a', '_', 'd', 'i', 'r'] ++ ' ' :: '=' :: ' ' :: '"' :: s)) := by
    simp
  have hbank : Toml.IsBareKey ['b', 'a', 'n', 'k'] := by decide
  have hdataDir : Toml.IsBareKey ['d', 'a', 't', 'a', '_', 'd', 'i', 'r'] := by decide
  rw [hfront, Toml.statementsAt_eq_some_iff rfl]
  constructor
  · rintro ⟨header, behind, next, more, hheader, hnext, hmore, rfl⟩
    obtain ⟨rfl, rfl⟩ := hheader.unique (Toml.statementAt_header_finds hbank _)
    cases hnext
    rw [Toml.statementsAt_eq_some_iff rfl] at hmore
    obtain ⟨assignment, behind, next, more, hassign, hnext, hmore, rfl⟩ := hmore
    obtain ⟨w, hw, rfl⟩ := (Toml.statementAt_quote_finds_iff hdataDir).1 hassign
    exact ⟨w, behind, next, more, hw, hnext, hmore, rfl⟩
  · rintro ⟨w, behind, next, more, hw, hnext, hmore, rfl⟩
    have hassign := (Toml.statementAt_quote_finds_iff hdataDir).2 ⟨w, hw, rfl⟩
    refine ⟨_, _, _, _, Toml.statementAt_header_finds hbank _, rfl, ?_, rfl⟩
    rw [Toml.statementsAt_eq_some_iff rfl]
    exact ⟨_, _, _, _, hassign, hnext, hmore, rfl⟩

/-- The text of a data directory sets it to what stands between the quotes. What is left of the text
is read behind it. -/
theorem parse?_dataDirText_iff {written : String} {t : Toml} :
    Toml.parse? (dataDirText written) = some t ↔
      ∃ w rest next more way, Finds (textAt ('"' :: (written.toList ++ ['"', '\n']))) w rest ∧
        Toml.skipLineEnd false rest = some next ∧ statementsAt next = some more ∧
        more.foldlM Toml.run (dataDirTree w, ["bank"]) = some (t, way) := by
  have hparse : Toml.parse? (dataDirText written) =
      (statementsAt ("[bank]\ndata_dir = \"".toList ++ (written.toList ++ ['"', '\n']))).bind
        Toml.ofStatements := by
    rw [Toml.parse?, toList_dataDirText]
    rfl
  have hrun (w : String) (more : List Toml.Statement) :
      Toml.ofStatements (.table [] "bank" :: .assign [] "data_dir" (text w) :: more) =
        (more.foldlM Toml.run (dataDirTree w, ["bank"])).map Prod.fst := rfl
  rw [hparse, Option.bind_eq_some_iff]
  simp only [statementsAt_dataDir_iff]
  constructor
  · rintro ⟨_, ⟨w, rest, next, more, hw, hnext, hmore, rfl⟩, ht⟩
    rw [hrun] at ht
    obtain ⟨⟨_, way⟩, hstate, rfl⟩ := Option.map_eq_some_iff.1 ht
    exact ⟨w, rest, next, more, way, hw, hnext, hmore, hstate⟩
  · rintro ⟨w, rest, next, more, way, hw, hnext, hmore, hstate⟩
    refine ⟨_, ⟨w, rest, next, more, hw, hnext, hmore, rfl⟩, ?_⟩
    rw [hrun, hstate]
    rfl

/-! ### The settings of a tree -/

variable {c c' : Config} {key : String} {value : Toml}

theorem dataDir_of_ignore (h : value.ignore c = some c') : c'.dataDir = c.dataDir := by
  unfold Toml.ignore at h
  split at h
  · cases h
    rfl
  · cases h

theorem dataDir_of_map {α : Type} {read : Option α} {f : α → Config} (h : read.map f = some c')
    (hf : ∀ a, (f a).dataDir = c.dataDir) : c'.dataDir = c.dataDir := by
  obtain ⟨a, -, rfl⟩ := Option.map_eq_some_iff.1 h
  exact hf a

theorem dataDir_of_assignValidate (h : assignValidate c key value = some c') :
    c'.dataDir = c.dataDir := by
  unfold assignValidate at h
  split at h
  · exact dataDir_of_map h fun _ => rfl
  · exact dataDir_of_map h fun _ => rfl
  · exact dataDir_of_ignore h

theorem dataDir_of_assignSnapshot (h : assignSnapshot c key value = some c') :
    c'.dataDir = c.dataDir := by
  unfold assignSnapshot at h
  split at h
  · exact dataDir_of_map h fun _ => rfl
  · exact dataDir_of_map h fun _ => rfl
  · exact dataDir_of_map h fun _ => rfl
  · exact dataDir_of_ignore h

theorem dataDir_of_assignBank (hkey : key ≠ "data_dir") (h : assignBank c key value = some c') :
    c'.dataDir = c.dataDir := by
  unfold assignBank at h
  split at h
  · exact absurd rfl hkey
  · exact dataDir_of_map h fun _ => rfl
  · exact dataDir_of_ignore h

/-- Only the table of the banks has the data directory. -/
theorem dataDir_of_assignTable (hkey : key ≠ "bank") (h : assignTable c key value = some c') :
    c'.dataDir = c.dataDir := by
  unfold assignTable at h
  split at h
  · exact absurd rfl hkey
  · exact Toml.of_readRecord (P := fun r => r.dataDir = c.dataDir)
      (fun _ _ _ _ h hr => (dataDir_of_assignValidate h).trans hr) rfl h
  · exact Toml.of_readRecord (P := fun r => r.dataDir = c.dataDir)
      (fun _ _ _ _ h hr => (dataDir_of_assignSnapshot h).trans hr) rfl h
  · exact dataDir_of_ignore h

/-- A text at its place in the tree is the data directory. -/
theorem dataDir_of_ofToml {w : String} {t : Toml} (hleads : Leads (text w) ["bank", "data_dir"] t)
    (h : ofToml t = some c) : c.dataDir = w := by
  refine Toml.of_readRecord_of_leads (P := fun c => c.dataDir = w) ?_ ?_ hleads h
  · intro bank c c' hbank h
    refine Toml.of_readRecord_of_leads (P := fun c => c.dataDir = w) ?_ ?_ hbank h
    · rintro _ c c' rfl h
      cases h
      rfl
    · exact fun k value c c' hk h hc => (dataDir_of_assignBank hk h).trans hc
  · exact fun k value c c' hk h hc => (dataDir_of_assignTable hk h).trans hc

/-! ### Values in quotes -/

theorem ofText_reference {env : Environment} {name value : String} (hne : name ≠ "")
    (hname : '\x7d' ∉ name.toList) (hvalue : env.lookup name = some value) :
    ofText env (dataDirText (Environment.reference name)) = ofText [] (dataDirText value) := by
  have hexpand : env.expand (dataDirText (Environment.reference name)) = dataDirText value :=
    Environment.expand_reference (by decide) (by decide) hne hname hvalue
  rw [ofText, ofText, hexpand, Environment.expand_nil]

/-- What is read between the quotes is the data directory, if only the end of the line follows. -/
theorem ofText_dataDirText {written w : String}
    (h : Finds (textAt ('"' :: (written.toList ++ ['"', '\n']))) w ['\n']) :
    ofText [] (dataDirText written) = .ok { Config.default with dataDir := w } := by
  have hparse : Toml.parse? (dataDirText written) = some (dataDirTree w) :=
    parse?_dataDirText_iff.2 ⟨w, _, [], [], _, h, rfl, by rw [Toml.statementsAt]; rfl, rfl⟩
  rw [ofText, Environment.expand_nil, hparse]
  rfl

theorem isVerbatim_of_ofText {value : String} (h : ofText [] (dataDirText value) = .ok c)
    (hc : c.dataDir = value) : ∀ c ∈ value.toList, IsVerbatim c := by
  rw [ofText, Environment.expand_nil] at h
  split at h
  · cases h
  · next t ht =>
    split at h
    · cases h
    · next c' hc' =>
      cases h
      -- A value may close the quotes and go on with lines of its own. They do not change what was
      -- read between the quotes.
      obtain ⟨w, rest, next, more, way, hw, -, -, hmore⟩ := parse?_dataDirText_iff.1 ht
      have hleads : Leads (text w) ["bank", "data_dir"] (dataDirTree w) :=
        Gives.singleton (Gives.singleton rfl)
      obtain rfl : w = value := (dataDir_of_ofToml (hleads.foldlM_run hmore) hc').symm.trans hc
      exact Toml.textAt_finds_self_iff.1 ⟨rest, hw⟩

/-- **What a value of a variable stands for.** Let a variable be set, with a name that a reference
can hold, and let the data directory of a configuration be a reference to it, between quotes. Then
the configuration is read as if the value stood there itself, references in it left alone. All is
well exactly if each character of the value stands for itself between double quotes: it is no quote,
no backslash and no control character other than the tab. Then the value is the data directory and
all other settings are the default ones, and otherwise the value is not the data directory. -/
theorem ofText_dataDir_reference {env : Environment} {name value : String} (hne : name ≠ "")
    (hname : '\x7d' ∉ name.toList) (hvalue : env.lookup name = some value) :
    ofText env (dataDirText (Environment.reference name)) = ofText [] (dataDirText value) ∧
    (ofText env (dataDirText (Environment.reference name)) =
        .ok { Config.default with dataDir := value } ↔ ∀ c ∈ value.toList, IsVerbatim c) ∧
    ((∃ c, ofText env (dataDirText (Environment.reference name)) = .ok c ∧ c.dataDir = value) ↔
      ∀ c ∈ value.toList, IsVerbatim c) := by
  have hverbatim : (∀ c ∈ value.toList, IsVerbatim c) →
      ofText [] (dataDirText value) = .ok { Config.default with dataDir := value } :=
    fun h => ofText_dataDirText (Toml.textAt_finds_verbatim h)
  rw [ofText_reference hne hname hvalue]
  refine ⟨rfl, ⟨fun h => isVerbatim_of_ofText h rfl, hverbatim⟩, ?_, ?_⟩
  · rintro ⟨c, h, hc⟩
    exact isVerbatim_of_ofText h hc
  · exact fun h => ⟨_, hverbatim h, rfl⟩

/-- A path of the usual kind reaches the configuration. -/
theorem ofText_dataDir_reference_path :
    ofText [("BANK_DIR", "/srv/banks")] "[bank]\ndata_dir = \"$\x7bBANK_DIR\x7d\"\n" =
      .ok { Config.default with dataDir := "/srv/banks" } := by
  have hvalue : List.lookup "BANK_DIR" [("BANK_DIR", "/srv/banks")] = some "/srv/banks" := rfl
  have hverbatim : ("/srv/banks".toList.all fun c => decide (IsVerbatim c)) = true := by decide
  refine (ofText_dataDir_reference (by decide) (by decide) hvalue).2.1.2 fun c hc => ?_
  exact of_decide_eq_true (List.all_eq_true.1 hverbatim c hc)

/-- A backslash in a value is read as the start of an escape: the data directory is another one. -/
theorem ofText_dataDir_backslash :
    List.lookup "V" [("V", "C:\\new")] = some "C:\\new" ∧
    ofText [("V", "C:\\new")] "[bank]\ndata_dir = \"$\x7bV\x7d\"\n" =
      .ok { Config.default with dataDir := "C:\new" } ∧
    "C:\new" ≠ "C:\\new" := by
  have hvalue : List.lookup "V" [("V", "C:\\new")] = some "C:\\new" := rfl
  have hread : Finds (textAt ('"' :: ("C:\\new".toList ++ ['"', '\n']))) "C:\new" ['\n'] :=
    ⟨⟨_, _, by decide⟩, by with_unfolding_all rfl, rfl, rfl⟩
  refine ⟨hvalue, ?_, by decide⟩
  exact (ofText_reference (by decide) (by decide) hvalue).trans (ofText_dataDirText hread)

end Config
end QuizBank

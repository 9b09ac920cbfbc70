import TagVocab.Proofs.FileStore.Replacing
import TagVocab.Proofs.Generation
import TagVocab.Proofs.Session.AllOrNothing
import TagVocab.Proofs.Settings
import TagVocab.Proofs.SymbolTable.Distinct

/-!
# Validity of settings

Settings are accepted exactly if they are safe: identifiers and paths are what generated code can
hold, and each document has a file name of its own. Which settings these are is said here without
the checks. Refused settings are told by the first one that is not as it should be; names are looked
at one after the other, so an induction passes over those that fit.
-/

namespace TagVocab.Settings

variable {cs : List Char} {parts : List (List Char)} {s : Settings} {d : Defect}
  {name : String} {earlier names : List String}

/-! ### Identifiers and paths -/

def StartsIdentifier (c : Char) : Prop :=
  'A' ≤ c ∧ c ≤ 'Z' ∨ 'a' ≤ c ∧ c ≤ 'z' ∨ c = '_'

/-- Identifiers are made of ASCII letters, digits and underscores, and do not start with a digit. -/
inductive IsIdentifier : List Char → Prop where
  | mk {c : Char} {cs : List Char} (hc : StartsIdentifier c)
      (hcs : ∀ d ∈ cs, StartsIdentifier d ∨ '0' ≤ d ∧ d ≤ '9') : IsIdentifier (c :: cs)

/-- `parts` are identifiers, at least one, and a path is what a double colon joins them to. -/
structure Segments (parts : List (List Char)) (path : List Char) : Prop where
  ne_nil : parts ≠ []
  isIdentifier : ∀ part ∈ parts, IsIdentifier part
  intercalate_eq : [':', ':'].intercalate parts = path

def IsPath (path : List Char) : Prop :=
  ∃ parts, Segments parts path

theorem startsIdentifier_iff (c : Char) : StartsIdentifier c ↔ (c.isAlpha || c = '_') = true := by
  have hupper : c.isUpper = decide ('A' ≤ c ∧ c ≤ 'Z') := rfl
  have hlower : c.isLower = (decide ('a' ≤ c) && decide (c ≤ 'z')) := rfl
  have halpha : c.isAlpha = (c.isUpper || c.isLower) := rfl
  rw [halpha, hupper, hlower]
  simp only [StartsIdentifier, Bool.or_eq_true, Bool.and_eq_true, decide_eq_true_eq, or_assoc]

theorem startsIdentifier_or_isDigit_iff (c : Char) :
    (StartsIdentifier c ∨ '0' ≤ c ∧ c ≤ '9') ↔ (c.isAlphanum || c = '_') = true := by
  have hdigit : c.isDigit = (decide ('0' ≤ c) && decide (c ≤ '9')) := rfl
  have halphanum : c.isAlphanum = (c.isAlpha || c.isDigit) := rfl
  rw [startsIdentifier_iff, halphanum, hdigit, Bool.or_right_comm]
  simp only [Bool.or_eq_true, Bool.and_eq_true, decide_eq_true_eq]

theorem isIdentifier_iff : isIdentifier cs = true ↔ IsIdentifier cs := by
  cases cs with
  | nil =>
    constructor
    · intro h
      cases h
    · intro h
      cases h
  | cons c cs =>
    simp only [isIdentifier, Bool.and_eq_true, List.all_eq_true, ← startsIdentifier_or_isDigit_iff,
      ← startsIdentifier_iff]
    constructor
    · rintro ⟨hc, hcs⟩
      exact .mk hc hcs
    · rintro ⟨hc, hcs⟩
      exact ⟨hc, hcs⟩

theorem IsIdentifier.colon_not_mem (h : IsIdentifier cs) : ':' ∉ cs := by
  intro hmem
  have hchar := isIdentifierChar_of_isIdentifier (isIdentifier_iff.mpr h) ':' hmem
  exact absurd hchar (by decide)

theorem pathSegments_cons {c : Char} (hc : c ≠ ':') (cs : List Char) :
    pathSegments (c :: cs) = (pathSegments cs).modifyHead (c :: ·) := by
  rw [pathSegments]
  exact fun _ h => absurd h hc

theorem pathSegments_append {part : List Char} (h : ':' ∉ part) (cs : List Char) :
    pathSegments (part ++ ':' :: ':' :: cs) = part :: pathSegments cs := by
  induction part with
  | nil => rfl
  | cons c part ih =>
    obtain ⟨hc, hpart⟩ := not_or.mp (mt List.mem_cons.mpr h)
    rw [List.cons_append, pathSegments_cons (Ne.symm hc), ih hpart, List.modifyHead_cons]

theorem pathSegments_of_not_mem (h : ':' ∉ cs) : pathSegments cs = [cs] := by
  induction cs with
  | nil => rfl
  | cons c cs ih =>
    obtain ⟨hc, hcs⟩ := not_or.mp (mt List.mem_cons.mpr h)
    rw [pathSegments_cons (Ne.symm hc), ih hcs, List.modifyHead_cons]

/-- Parts without colons are read back from the path that they are joined to. -/
theorem pathSegments_intercalate (hne : parts ≠ []) (h : ∀ part ∈ parts, ':' ∉ part) :
    pathSegments ([':', ':'].intercalate parts) = parts := by
  induction parts with
  | nil => exact absurd rfl hne
  | cons part parts ih =>
    obtain ⟨hpart, hparts⟩ := List.forall_mem_cons.mp h
    cases parts with
    | nil => rw [List.intercalate_singleton, pathSegments_of_not_mem hpart]
    | cons next parts =>
      rw [List.intercalate_cons_cons, List.append_assoc, List.cons_append, List.cons_append,
        List.nil_append, pathSegments_append hpart, ih (List.cons_ne_nil _ _) hparts]

theorem intercalate_pathSegments (cs : List Char) :
    [':', ':'].intercalate (pathSegments cs) = cs := by
  fun_induction pathSegments cs with
  | case1 => rfl
  | case2 cs ih =>
    obtain ⟨first, others, hp⟩ := List.exists_cons_of_ne_nil (pathSegments_ne_nil cs)
    rw [hp] at ih ⊢
    rw [List.intercalate_cons_cons, ih]
    rfl
  | case3 c cs hne ih =>
    obtain ⟨first, others, hp⟩ := List.exists_cons_of_ne_nil (pathSegments_ne_nil cs)
    rw [hp] at ih ⊢
    rw [List.modifyHead_cons]
    cases others with
    | nil =>
      rw [List.intercalate_singleton] at ih ⊢
      rw [ih]
    | cons next others =>
      rw [List.intercalate_cons_cons] at ih ⊢
      rw [List.cons_append, List.cons_append, ih]

theorem Segments.eq_pathSegments (h : Segments parts cs) : parts = pathSegments cs := by
  rw [← h.intercalate_eq, pathSegments_intercalate h.ne_nil]
  exact fun part hpart => (h.isIdentifier part hpart).colon_not_mem

theorem isModulePath_iff : isModulePath cs = true ↔ IsPath cs := by
  rw [isModulePath, List.all_eq_true]
  constructor
  · intro h
    exact ⟨pathSegments cs, pathSegments_ne_nil cs,
      fun part hpart => isIdentifier_iff.mp (h part hpart), intercalate_pathSegments cs⟩
  · rintro ⟨parts, h⟩
    rw [← h.eq_pathSegments]
    exact fun part hpart => isIdentifier_iff.mpr (h.isIdentifier part hpart)

/-! ### File names -/

/-- A plain name, on systems with backslashes too. -/
structure IsFileName (name : String) : Prop extends Path.IsPlain name where
  no_backslash : '\\' ∉ name.toList

theorem isPlainFileName_iff : isPlainFileName name = true ↔ IsFileName name := by
  constructor
  · intro h
    refine ⟨Path.isPlain_of_isPlainFileName h, fun hmem => ?_⟩
    simp only [isPlainFileName, Bool.and_eq_true, Bool.not_eq_true', List.any_eq_false] at h
    exact h.1.1.2 _ hmem (by decide)
  · intro h
    simp only [isPlainFileName, Bool.and_eq_true, Bool.not_eq_true', bne_iff_ne, List.any_eq_false,
      Bool.or_eq_true, decide_eq_true_eq, not_or]
    refine ⟨⟨⟨by simpa using h.ne_empty, fun c hc => ⟨?_, ?_⟩⟩, h.ne_dot⟩, h.ne_dots⟩
    · rintro rfl
      exact h.no_slash hc
    · rintro rfl
      exact h.no_backslash hc

/-- Names of files that are told apart, also from those that are in use already. -/
structure NamesFit (used names : List String) : Prop where
  isFileName : ∀ name ∈ names, IsFileName name
  nodup : names.Nodup
  unused : ∀ name ∈ names, name ∉ used

/-- What is wrong with a name, if other names are in use already. That it is no name of a file comes
first. -/
inductive NameDefect (used : List String) (name : String) : Defect → Prop where
  | notPlain (h : ¬ IsFileName name) : NameDefect used name (.notPlain name)
  | usedTwice (hname : IsFileName name) (h : name ∈ used) : NameDefect used name (.usedTwice name)

theorem namesFit_nil (used : List String) : NamesFit used [] := by
  constructor <;> simp

theorem namesFit_cons_iff : NamesFit earlier (name :: names) ↔
    IsFileName name ∧ name ∉ earlier ∧ NamesFit (earlier ++ [name]) names := by
  constructor
  · rintro ⟨hnames, hnodup, hunused⟩
    obtain ⟨hname, hnames⟩ := List.forall_mem_cons.mp hnames
    obtain ⟨hnew, hunused⟩ := List.forall_mem_cons.mp hunused
    obtain ⟨hnot, hnodup⟩ := List.nodup_cons.mp hnodup
    refine ⟨hname, hnew, hnames, hnodup, fun other hother => ?_⟩
    rw [List.mem_append, List.mem_singleton, not_or]
    refine ⟨hunused other hother, ?_⟩
    rintro rfl
    exact hnot hother
  · rintro ⟨hname, hnew, hfit⟩
    have hapart : ∀ other ∈ names, other ∉ earlier ∧ other ≠ name := by
      intro other hother
      simpa using hfit.unused other hother
    refine ⟨List.forall_mem_cons.mpr ⟨hname, hfit.isFileName⟩,
      List.nodup_cons.mpr ⟨fun hmem => (hapart name hmem).2 rfl, hfit.nodup⟩,
      List.forall_mem_cons.mpr ⟨hnew, fun other hother => (hapart other hother).1⟩⟩

theorem checkNames_cons_of_fit (hname : IsFileName name) (hnew : name ∉ earlier) :
    checkNames earlier (name :: names) = checkNames (earlier ++ [name]) names := by
  rw [checkNames, isPlainFileName_iff.mpr hname]
  exact if_neg hnew

theorem checkNames_cons_of_defect (h : NameDefect earlier name d) :
    checkNames earlier (name :: names) = .error d := by
  cases h with
  | notPlain h =>
    rw [checkNames, Bool.eq_false_iff.mpr (mt isPlainFileName_iff.mp h)]
    rfl
  | usedTwice hname h =>
    rw [checkNames, isPlainFileName_iff.mpr hname]
    exact if_pos h

theorem fits_or_defect (earlier : List String) (name : String) :
    (IsFileName name ∧ name ∉ earlier) ∨ ∃ d, NameDefect earlier name d := by
  by_cases hname : IsFileName name
  · by_cases hnew : name ∈ earlier
    · exact Or.inr ⟨_, .usedTwice hname hnew⟩
    · exact Or.inl ⟨hname, hnew⟩
  · exact Or.inr ⟨_, .notPlain hname⟩

/-- Names that fit are passed over. -/
theorem checkNames_append (h : NamesFit earlier names) (rest : List String) :
    checkNames earlier (names ++ rest) = checkNames (earlier ++ names) rest := by
  induction names generalizing earlier with
  | nil => rw [List.nil_append, List.append_nil]
  | cons name names ih =>
    obtain ⟨hname, hnew, hfit⟩ := namesFit_cons_iff.mp h
    rw [List.cons_append, checkNames_cons_of_fit hname hnew, ih hfit, ← List.append_cons]

theorem namesFit_or_defect (earlier names : List String) : NamesFit earlier names ∨
    ∃ before name after d, names = before ++ name :: after ∧ NamesFit earlier before ∧
      NameDefect (earlier ++ before) name d := by
  induction names generalizing earlier with
  | nil => exact Or.inl (namesFit_nil earlier)
  | cons name names ih =>
    obtain ⟨hname, hnew⟩ | ⟨d, hd⟩ := fits_or_defect earlier name
    · obtain hfit | ⟨before, other, after, d, rfl, hfit, hd⟩ := ih (earlier ++ [name])
      · exact Or.inl (namesFit_cons_iff.mpr ⟨hname, hnew, hfit⟩)
      · refine Or.inr ⟨name :: before, other, after, d, rfl,
          namesFit_cons_iff.mpr ⟨hname, hnew, hfit⟩, ?_⟩
        rwa [List.append_cons]
    · refine Or.inr ⟨[], name, names, d, rfl, namesFit_nil earlier, ?_⟩
      rwa [List.append_nil]

/-- The first name that does not fit to those before it is reported. -/
theorem checkNames_eq_error_iff : checkNames earlier names = .error d ↔
    ∃ before name after, names = before ++ name :: after ∧ NamesFit earlier before ∧
      NameDefect (earlier ++ before) name d := by
  constructor
  · intro h
    obtain hfit | ⟨before, name, after, d', rfl, hfit, hd⟩ := namesFit_or_defect earlier names
    · rw [← List.append_nil names, checkNames_append hfit] at h
      cases h
    · rw [checkNames_append hfit, checkNames_cons_of_defect hd] at h
      exact ⟨before, name, after, rfl, hfit, Except.error.inj h ▸ hd⟩
  · rintro ⟨before, name, after, rfl, hfit, hd⟩
    rw [checkNames_append hfit, checkNames_cons_of_defect hd]

theorem checkNames_eq_ok_iff : checkNames earlier names = .ok () ↔ NamesFit earlier names := by
  constructor
  · intro h
    obtain hfit | ⟨before, name, after, d, hsplit, hfit, hd⟩ := namesFit_or_defect earlier names
    · exact hfit
    · have herror := checkNames_eq_error_iff.mpr ⟨before, name, after, hsplit, hfit, hd⟩
      rw [h] at herror
      cases herror
  · intro hfit
    rw [← List.append_nil names, checkNames_append hfit]
    rfl

/-! ### All settings -/

/-- Settings with which no document comes out unusable, and no file lands on another one or outside
the output directory. -/
structure Safe (s : Settings) : Prop where
  lead : IsIdentifier s.lead.toList
  runtime : IsPath s.runtime.toList
  tagEnum : IsPath s.tagEnum.toList
  grammarModule : IsPath s.grammarModule.toList
  isFileName : ∀ name ∈ s.outputs.toList, IsFileName name
  names_nodup : s.outputs.toList.Nodup

/-- The first setting, in their order, that keeps settings from being safe, and what is wrong with
it. -/
inductive FirstDefect (s : Settings) : Defect → Prop where
  | lead (h : ¬ IsIdentifier s.lead.toList) : FirstDefect s (.badLead s.lead)
  | path {before after : List (String × String)} {key path : String}
      (hlead : IsIdentifier s.lead.toList) (hpaths : s.paths = before ++ (key, path) :: after)
      (hbefore : ∀ entry ∈ before, IsPath entry.2.toList) (h : ¬ IsPath path.toList) :
      FirstDefect s (.badPath key path)
  | name {before after : List String} {name : String} {d : Defect}
      (hlead : IsIdentifier s.lead.toList) (hpaths : ∀ entry ∈ s.paths, IsPath entry.2.toList)
      (hnames : s.outputs.toList = before ++ name :: after) (hbefore : NamesFit [] before)
      (h : NameDefect before name d) : FirstDefect s d

theorem forall_paths_iff : (∀ entry ∈ s.paths, IsPath entry.2.toList) ↔
    IsPath s.runtime.toList ∧ IsPath s.tagEnum.toList ∧ IsPath s.grammarModule.toList := by
  simp [paths]

theorem validate_eq_ok_iff_safe : s.validate = .ok () ↔ Safe s := by
  have hpaths : (∀ entry ∈ s.paths, isModulePath entry.2.toList = true) ↔
      ∀ entry ∈ s.paths, IsPath entry.2.toList :=
    forall₂_congr fun entry _ => isModulePath_iff
  rw [validate_eq_ok_iff, isIdentifier_iff, hpaths, forall_paths_iff, checkNames_eq_ok_iff]
  constructor
  · rintro ⟨hlead, ⟨hruntime, henum, hmodule⟩, hfit⟩
    exact ⟨hlead, hruntime, henum, hmodule, hfit.isFileName, hfit.nodup⟩
  · intro h
    exact ⟨h.lead, ⟨h.runtime, h.tagEnum, h.grammarModule⟩, h.isFileName, h.names_nodup, by simp⟩

theorem validate_of_path {key path : String} (hlead : isIdentifier s.lead.toList = true)
    (h : s.paths.find? (fun entry => !isModulePath entry.2.toList) = some (key, path)) :
    s.validate = .error (.badPath key path) := by
  unfold validate
  rw [hlead, Bool.not_true, if_neg Bool.false_ne_true]
  split
  · next hfind =>
    obtain ⟨rfl, rfl⟩ := Prod.mk.inj (Option.some.inj (hfind.symm.trans h))
    rfl
  · next hfind => cases hfind.symm.trans h

theorem validate_of_paths (hlead : isIdentifier s.lead.toList = true)
    (h : s.paths.find? (fun entry => !isModulePath entry.2.toList) = none) :
    s.validate = checkNames [] s.outputs.toList := by
  unfold validate
  rw [hlead, Bool.not_true, if_neg Bool.false_ne_true]
  split
  · next hfind => cases hfind.symm.trans h
  · rfl

theorem validate_of_firstDefect (h : FirstDefect s d) : s.validate = .error d := by
  cases h with
  | lead h =>
    rw [validate, Bool.eq_false_iff.mpr (mt isIdentifier_iff.mp h)]
    rfl
  | @path before after key path hlead hpaths hbefore h =>
    refine validate_of_path (isIdentifier_iff.mpr hlead) (List.find?_eq_some_iff_append.mpr ?_)
    refine ⟨by simpa using mt isModulePath_iff.mp h, before, after, hpaths, fun entry hentry => ?_⟩
    simpa using isModulePath_iff.mpr (hbefore entry hentry)
  | @name before after name d hlead hpaths hnames hbefore h =>
    rw [validate_of_paths (isIdentifier_iff.mpr hlead)]
    · exact checkNames_eq_error_iff.mpr ⟨before, name, after, hnames, hbefore, h⟩
    · refine List.find?_eq_none.mpr fun entry hentry => ?_
      simpa using isModulePath_iff.mpr (hpaths entry hentry)

theorem firstDefect_of_validate (h : s.validate = .error d) : FirstDefect s d := by
  unfold validate at h
  by_cases hlead : IsIdentifier s.lead.toList
  · rw [isIdentifier_iff.mpr hlead, Bool.not_true, if_neg Bool.false_ne_true] at h
    split at h
    · next key path hfind =>
      obtain ⟨hbad, before, after, hpaths, hbefore⟩ := List.find?_eq_some_iff_append.mp hfind
      obtain rfl := Except.error.inj h
      have hnot : ¬ IsPath path.toList := mt isModulePath_iff.mpr (by simpa using hbad)
      refine .path hlead hpaths (fun entry hentry => ?_) hnot
      exact isModulePath_iff.mp (by simpa using hbefore entry hentry)
    · next hfind =>
      obtain ⟨before, name, after, hnames, hfit, hd⟩ := checkNames_eq_error_iff.mp h
      refine .name hlead (fun entry hentry => ?_) hnames hfit hd
      exact isModulePath_iff.mp (by simpa using List.find?_eq_none.mp hfind entry hentry)
  · rw [Bool.eq_false_iff.mpr (mt isIdentifier_iff.mp hlead)] at h
    obtain rfl := Except.error.inj h
    exact .lead hlead

theorem kind_failure (d : Defect) : d.failure.kind = .configInvalid := by
  cases d <;> rfl

/-- Joined to the path of a directory, the name is the last one of the new path, and in every store
this is the path of the entry of that name in the directory that the old path leads to. -/
def NamesChild (name : String) : Prop :=
  ∀ dir, Path.names (Path.join dir name) = Path.names dir ++ [name] ∧
    ∀ (store : FileStore) (loc : Location) (entry : String),
      store.IsEntry (Path.join dir name) loc entry ↔
        name = entry ∧ Path.check (Path.join dir name) = .ok () ∧ store.reached dir = .ok loc ∧
          store.hasDirectory loc = true ∧ name.utf8ByteSize ≤ Path.nameLimit

theorem IsFileName.namesChild (h : IsFileName name) : NamesChild name := fun dir =>
  ⟨h.toIsPlain.names_join dir, fun _ _ _ => FileStore.isEntry_join_iff h.toIsPlain⟩

theorem map_name_of_ofBoth {ast grammar : String} {artifacts : List Artifact}
    (h : Generation.ofBoth s ast grammar = .ok artifacts) :
    artifacts.map (·.name) = s.outputs.toList := by
  obtain ⟨a, g, ha, hg, rfl⟩ := Generation.ofBoth_eq_ok_iff.mp h
  rw [List.map_append, Generation.map_name_of_ofAst ha, Generation.map_name_of_ofGrammar hg]
  rfl

theorem safe_of_ofBoth {ast grammar : String} {artifacts : List Artifact}
    (h : Generation.ofBoth s ast grammar = .ok artifacts) : Safe s := by
  obtain ⟨a, g, -, hg, -⟩ := Generation.ofBoth_eq_ok_iff.mp h
  exact validate_eq_ok_iff_safe.mp (Generation.eq_of_ofGrammar hg).1

/-- Validation accepts safe settings and no others, and it reports the first setting that is not as
it should be. A path is joined from its identifiers in one way only. So the documents of a
generation have names that are told apart and that name children of whatever directory they are put
into. -/
theorem validate_exact (s : Settings) :
    (s.validate = .ok () ↔ Safe s) ∧
    (∀ d, s.validate = .error d ↔ FirstDefect s d) ∧
    (∀ d, s.validate = .error d → d.failure.kind = .configInvalid) ∧
    (∀ parts parts' path, Segments parts path → Segments parts' path → parts = parts') ∧
    ∀ ast grammar artifacts, Generation.ofBoth s ast grammar = .ok artifacts →
      artifacts.map (·.name) = s.outputs.toList ∧ (artifacts.map (·.name)).Nodup ∧
        ∀ a ∈ artifacts, NamesChild a.name := by
  refine ⟨validate_eq_ok_iff_safe, fun d => ⟨firstDefect_of_validate, validate_of_firstDefect⟩,
    fun d _ => kind_failure d, ?_, ?_⟩
  · intro parts parts' path h h'
    rw [h.eq_pathSegments, h'.eq_pathSegments]
  · intro ast grammar artifacts h
    have hnames := map_name_of_ofBoth h
    have hsafe := safe_of_ofBoth h
    refine ⟨hnames, hnames ▸ hsafe.names_nodup, fun a ha => ?_⟩
    have hname : a.name ∈ s.outputs.toList := hnames ▸ List.mem_map_of_mem ha
    exact (hsafe.isFileName a.name hname).namesChild

end TagVocab.Settings

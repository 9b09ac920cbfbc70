import TagVocab.Settings

/-!
# Valid settings

What validation promises of the lead and of the paths: a fixed alphabet, without blanks and without
the punctuation around the places where documents hold them.
-/

namespace TagVocab.Settings

theorem validate_eq_ok_iff (s : Settings) :
    s.validate = .ok () ↔ isIdentifier s.lead.toList ∧
      (∀ entry ∈ s.paths, isModulePath entry.2.toList) ∧
      checkNames [] s.outputs.toList = .ok () := by
  unfold validate
  by_cases hl : isIdentifier s.lead.toList
  · simp only [hl, Bool.not_true, Bool.false_eq_true, if_false, true_and]
    split
    · next key path hf =>
      have he : ¬ isModulePath path.toList := by simpa using List.find?_some hf
      simp only [reduceCtorEq, false_iff, not_and]
      intro hp
      exact absurd (hp (key, path) (List.mem_of_find?_eq_some hf)) he
    · next hf =>
      have hp : ∀ entry ∈ s.paths, isModulePath entry.2.toList := fun entry he => by
        simpa using List.find?_eq_none.mp hf entry he
      exact (and_iff_right hp).symm
  · simp [hl]

def isIdentifierChar (c : Char) : Bool :=
  c.isAlphanum || c = '_'

def isPathChar (c : Char) : Bool :=
  c = ':' || isIdentifierChar c

theorem isIdentifierChar_of_isIdentifier {cs : List Char} (h : isIdentifier cs) :
    ∀ c ∈ cs, isIdentifierChar c := by
  cases cs with
  | nil => exact nomatch h
  | cons d ds =>
    simp only [isIdentifier, Bool.and_eq_true, Bool.or_eq_true, decide_eq_true_eq] at h
    obtain ⟨hd, hds⟩ := h
    intro c hc
    rcases List.mem_cons.mp hc with rfl | hc
    · rcases hd with ha | rfl
      · simp [isIdentifierChar, Char.isAlphanum, ha]
      · decide
    · exact List.all_eq_true.mp hds c hc

theorem pathSegments_ne_nil (cs : List Char) : pathSegments cs ≠ [] := by
  fun_induction pathSegments cs with
  | case1 => simp
  | case2 => simp
  | case3 d cs hne ih => simpa using ih

/-- A path is made of the characters of its segments, and of colons. -/
theorem isPathChar_of_pathSegments {cs : List Char}
    (h : ∀ segment ∈ pathSegments cs, ∀ c ∈ segment, isIdentifierChar c) :
    ∀ c ∈ cs, isPathChar c := by
  fun_induction pathSegments cs with
  | case1 => simp
  | case2 cs ih =>
    have hcs := ih fun segment hs => h segment (List.mem_cons_of_mem [] hs)
    simp only [List.forall_mem_cons]
    exact ⟨by decide, by decide, hcs⟩
  | case3 d cs hne ih =>
    obtain ⟨first, others, hp⟩ := List.exists_cons_of_ne_nil (pathSegments_ne_nil cs)
    rw [hp] at h ih
    rw [List.modifyHead_cons, List.forall_mem_cons, List.forall_mem_cons] at h
    obtain ⟨⟨hd, hfirst⟩, hothers⟩ := h
    rw [List.forall_mem_cons]
    refine ⟨by simp [isPathChar, hd], ih ?_⟩
    rw [List.forall_mem_cons]
    exact ⟨hfirst, hothers⟩

theorem isPathChar_of_isModulePath {cs : List Char} (h : isModulePath cs) :
    ∀ c ∈ cs, isPathChar c :=
  isPathChar_of_pathSegments fun segment hs =>
    isIdentifierChar_of_isIdentifier (List.all_eq_true.mp h segment hs)

theorem bne_of_isPathChar {cs : List Char} (h : ∀ c ∈ cs, isPathChar c) {d : Char}
    (hd : isPathChar d = false) : ∀ c ∈ cs, (c != d) = true := by
  intro c hc
  rw [bne_iff_ne]
  rintro rfl
  exact absurd (h c hc) (by simp [hd])

theorem isPathChar_of_validate {s : Settings} (h : s.validate = .ok ()) {entry : String × String}
    (he : entry ∈ s.paths) : ∀ c ∈ entry.2.toList, isPathChar c :=
  isPathChar_of_isModulePath (((validate_eq_ok_iff s).mp h).2.1 entry he)

theorem isPathChar_runtime {s : Settings} (h : s.validate = .ok ()) :
    ∀ c ∈ s.runtime.toList, isPathChar c :=
  @isPathChar_of_validate s h ("runtime_crate", s.runtime) List.mem_cons_self

theorem isPathChar_tagEnum {s : Settings} (h : s.validate = .ok ()) :
    ∀ c ∈ s.tagEnum.toList, isPathChar c :=
  @isPathChar_of_validate s h ("ast_tag_enum", s.tagEnum) (List.mem_cons_of_mem _ List.mem_cons_self)

theorem isPathChar_grammarModule {s : Settings} (h : s.validate = .ok ()) :
    ∀ c ∈ s.grammarModule.toList, isPathChar c :=
  @isPathChar_of_validate s h ("grammar_module", s.grammarModule) (by simp [paths])

end TagVocab.Settings

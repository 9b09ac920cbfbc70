import TagVocab.Generation
import TagVocab.Proofs.AstTags
import TagVocab.Proofs.SymbolTable

/-!
# The combined run and the separate runs

Generating all four documents at once is the grammar's run, then the enumeration's: it comes out
exactly if both do, and otherwise fails as the first of them that fails. Which failures a run can
end in with valid settings is settled here too.
-/

namespace TagVocab

namespace AstTags

theorem exists_route_of_mem_names {lead text tag : String} (h : tag ∈ (ofText lead text).names) :
    ∃ r, route lead tag = .ok r := by
  obtain ⟨word, hne, -, htag⟩ := eq_append_of_mem_names h
  cases word with
  | nil => exact absurd rfl hne
  | cons c cs =>
    unfold route
    rw [htag, afterLead?_append]
    exact ⟨_, rfl⟩

theorem kind_of_routesAfter_error {lead : String} {done : List Route} {tags : List String}
    {fault : RouteFault} (htags : ∀ tag ∈ tags, ∃ r, route lead tag = .ok r)
    (h : routesAfter lead done tags = .error fault) :
    fault.failure.kind = .invariantViolation := by
  induction tags generalizing done with
  | nil => exact nomatch h
  | cons tag tags ih =>
    obtain ⟨r, hr⟩ := htags tag List.mem_cons_self
    rw [routesAfter, hr] at h
    dsimp only at h
    by_cases hnew : r.visitName ∈ reservedMethods
    · rw [if_pos hnew, Except.error.injEq] at h
      rw [← h]
      rfl
    · rw [if_neg hnew] at h
      cases hf : done.find? (·.stem = r.stem) with
      | some other =>
        rw [hf, Except.error.injEq] at h
        rw [← h]
        rfl
      | none =>
        rw [hf] at h
        exact ih (fun t ht => htags t (List.mem_cons_of_mem tag ht)) h

end AstTags

namespace Generation

variable (s : Settings) (ast grammar : String)

theorem ofBoth_eq_bind : ofBoth s ast grammar =
    (ofGrammar s grammar).bind fun g => (ofAst s ast).map fun a => a ++ g := by
  unfold ofBoth ofGrammar ofAst
  cases validSettings s with
  | error f => rfl
  | ok u =>
    cases hspaces : assignedSpaces (GrammarSymbols.ofText grammar) with
    | error f => simp only [hspaces, bind, Except.bind]
    | ok spaces =>
      cases foundRoutes s ast <;>
        simp only [hspaces, bind, Except.bind, pure, Except.pure, Except.map]

variable {s ast grammar}

theorem ofBoth_eq_ok_iff {artifacts : List Artifact} :
    ofBoth s ast grammar = .ok artifacts ↔
      ∃ a g, ofAst s ast = .ok a ∧ ofGrammar s grammar = .ok g ∧ artifacts = a ++ g := by
  rw [ofBoth_eq_bind]
  cases ofGrammar s grammar <;> cases ofAst s ast <;> simp [Except.bind, Except.map, eq_comm]

theorem ofBoth_of_ofGrammar_error {f : Failure} (h : ofGrammar s grammar = .error f) :
    ofBoth s ast grammar = .error f := by
  rw [ofBoth_eq_bind, h]
  rfl

theorem ofBoth_of_ofAst_error {f : Failure} {g : List Artifact} (hg : ofGrammar s grammar = .ok g)
    (h : ofAst s ast = .error f) : ofBoth s ast grammar = .error f := by
  rw [ofBoth_eq_bind, hg, h]
  rfl

theorem ofAst_of_defect {defect : Settings.Defect} (h : s.validate = .error defect) :
    ofAst s ast = .error defect.failure := by
  rw [ofAst, validSettings, h]
  rfl

theorem ofGrammar_of_defect {defect : Settings.Defect} (h : s.validate = .error defect) :
    ofGrammar s grammar = .error defect.failure := by
  rw [ofGrammar, validSettings, h]
  rfl

theorem kind_of_ofAst_error (hs : s.validate = .ok ()) {f : Failure}
    (h : ofAst s ast = .error f) : f.kind = .invariantViolation := by
  rw [ofAst, validSettings, hs, foundRoutes] at h
  cases hroutes : (AstTags.ofText s.lead ast).routes with
  | ok routes =>
    rw [hroutes] at h
    exact nomatch h
  | error fault =>
    rw [hroutes] at h
    have hf : fault.failure = f := Except.error.inj h
    rw [← hf]
    exact AstTags.kind_of_routesAfter_error
      (fun tag htag => AstTags.exists_route_of_mem_names htag) hroutes

theorem kind_of_ofGrammar_error (hs : s.validate = .ok ()) {f : Failure}
    (h : ofGrammar s grammar = .error f) : f.kind = .rangeOverflow := by
  rw [ofGrammar_of_validate hs, assignedSpaces] at h
  cases hspaces : TagSpaces.assign (GrammarSymbols.ofText grammar).tokens.size
      (GrammarSymbols.ofText grammar).productions.size with
  | ok spaces =>
    rw [hspaces] at h
    cases h
  | error overflow =>
    rw [hspaces] at h
    have hf : overflow.failure = f := Except.error.inj h
    rw [← hf]
    rfl

/-- One run of both sources agrees with a run of each: in its documents, and in the failure that
is reported. -/
theorem ofBoth_agrees (s : Settings) (ast grammar : String) :
    (∀ artifacts, ofBoth s ast grammar = .ok artifacts ↔
      ∃ a g, ofAst s ast = .ok a ∧ ofGrammar s grammar = .ok g ∧ artifacts = a ++ g) ∧
    (∀ defect, s.validate = .error defect →
      ofAst s ast = .error defect.failure ∧ ofGrammar s grammar = .error defect.failure ∧
        ofBoth s ast grammar = .error defect.failure) ∧
    (s.validate = .ok () →
      (∀ f, ofGrammar s grammar = .error f →
        f.kind = .rangeOverflow ∧ ofBoth s ast grammar = .error f) ∧
      (∀ f, ofAst s ast = .error f → f.kind = .invariantViolation ∧
        ∀ g, ofGrammar s grammar = .ok g → ofBoth s ast grammar = .error f)) := by
  refine ⟨fun artifacts => ofBoth_eq_ok_iff, ?_, ?_⟩
  · intro defect h
    have hg : ofGrammar s grammar = .error defect.failure := ofGrammar_of_defect h
    exact ⟨ofAst_of_defect h, hg, ofBoth_of_ofGrammar_error hg⟩
  · intro hs
    constructor
    · intro f hf
      exact ⟨kind_of_ofGrammar_error hs hf, ofBoth_of_ofGrammar_error hf⟩
    · intro f hf
      exact ⟨kind_of_ofAst_error hs hf, fun g hg => ofBoth_of_ofAst_error hg hf⟩

/-- Two tags of one method beside a sound grammar, and settings without a lead. -/
theorem ofBoth_agrees_colliding :
    (∃ f, ofAst {} "AST_A,\nAST_a,\n" = .error f ∧ f.kind = .invariantViolation ∧
      ofBoth {} "AST_A,\nAST_a,\n" "unit\n" = .error f) ∧
    ofBoth { lead := "" } "AST_A,\nAST_a,\n" "unit\n" =
      .error (Settings.Defect.badLead "").failure := by
  have hnames : (AstTags.ofText "AST_" "AST_A,\nAST_a,\n").names = ["AST_A", "AST_a"] := by
    rw [AstTags.names_ofText]
    decide
  have hroutes : (AstTags.ofText "AST_" "AST_A,\nAST_a,\n").routes =
      .error (.collides "AST_A" "AST_a" "visit_a") := by
    rw [AstTags.routes, hnames]
    rfl
  have hast : ofAst {} "AST_A,\nAST_a,\n" =
      .error (RouteFault.collides "AST_A" "AST_a" "visit_a").failure := by
    have hlead : ({} : Settings).lead = "AST_" := rfl
    rw [ofAst, foundRoutes, hlead, hroutes]
    rfl
  obtain ⟨g, hg⟩ : ∃ g, ofGrammar {} "unit\n" = .ok g := by
    rw [ofGrammar_of_validate rfl, assignedSpaces_of_le]
    · exact ⟨_, rfl⟩
    · rw [← SymbolList.length_names, GrammarSymbols.tokens_names_ofText]
      decide
  obtain ⟨hkind, hboth⟩ :=
    ((ofBoth_agrees {} "AST_A,\nAST_a,\n" "unit\n").2.2 rfl).2 _ hast
  have hdefect := (ofBoth_agrees { lead := "" } "AST_A,\nAST_a,\n" "unit\n").2.1 (.badLead "") rfl
  exact ⟨⟨_, hast, hkind, hboth g hg⟩, hdefect.2.2⟩

end Generation

end TagVocab

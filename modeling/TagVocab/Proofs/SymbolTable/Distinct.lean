import TagVocab.Proofs.Generation

/-!
# Symbols of one name

A symbol table tells its symbols apart by name exactly if no name belongs to a token and to a
production. Nothing keeps a grammar from giving one name to both.
-/

namespace TagVocab

open GrammarSymbols

namespace GrammarTable

/-- Whether all symbols of a table have names of their own: as variants, in the name table, and for
those who look tags up. -/
structure Distinguishes (t : GrammarTable) : Prop where
  variants_nodup : (t.variants.map (·.name)).Nodup
  names_nodup : t.names.Nodup
  lookUp_inj : ∀ tag tag' name, t.lookUp tag = .ok (some name) →
    t.lookUp tag' = .ok (some name) → tag = tag'

theorem map_name_written (range : SymbolRange) (l : SymbolList) :
    (l.toList.map (written range)).map (·.name) = l.names := by
  rw [List.map_map]
  rfl

theorem map_name_variants (symbols : GrammarSymbols) (spaces : TagSpaces) :
    (ofSymbols symbols spaces).variants.map (·.name) = symbols.names := by
  rw [ofSymbols, List.map_append, map_name_written, map_name_written]
  rfl

theorem nodup_names_iff (symbols : GrammarSymbols) :
    symbols.names.Nodup ↔ symbols.tokens.names.Disjoint symbols.productions.names := by
  rw [GrammarSymbols.names, List.nodup_append']
  simp [SymbolList.names_nodup]

theorem lookUp_inj {symbols : GrammarSymbols} (hmax : symbols.tokens.size ≤ 742)
    (h : symbols.names.Nodup) {tag tag' : Tag} {name : String}
    (ht : (ofSymbols symbols (.ofCounts symbols.tokens.size symbols.productions.size)).lookUp tag =
      .ok (some name))
    (ht' : (ofSymbols symbols (.ofCounts symbols.tokens.size symbols.productions.size)).lookUp tag' =
      .ok (some name)) : tag = tag' := by
  rw [lookUp_eq_ok_some_iff hmax, values_ofSymbols] at ht ht'
  have hkeys : (symbols.tokens.names.zipIdx 258 ++
      symbols.productions.names.zipIdx 1000).map Prod.fst = symbols.names := by
    rw [List.map_append, List.zipIdx_map_fst, List.zipIdx_map_fst]
    rfl
  have hpair := List.inj_on_of_nodup_map (hkeys ▸ h) ht ht' rfl
  exact UInt32.toNat_inj.mp (congrArg Prod.snd hpair)

theorem distinguishes_ofSymbols_iff {symbols : GrammarSymbols} (hmax : symbols.tokens.size ≤ 742) :
    (ofSymbols symbols (.ofCounts symbols.tokens.size symbols.productions.size)).Distinguishes ↔
      symbols.tokens.names.Disjoint symbols.productions.names := by
  rw [← nodup_names_iff]
  constructor
  · exact fun h => h.names_nodup
  · intro h
    constructor
    case variants_nodup => rwa [map_name_variants]
    case names_nodup => exact h
    case lookUp_inj => exact fun tag tag' name => lookUp_inj hmax h

end GrammarTable

namespace Generation

theorem eq_of_ofGrammar {s : Settings} {grammar : String} {artifacts : List Artifact}
    (h : ofGrammar s grammar = .ok artifacts) :
    s.validate = .ok () ∧ (GrammarSymbols.ofText grammar).tokens.size ≤ 742 ∧
      artifacts = [grammarArtifact s (GrammarSymbols.ofText grammar)
        (.ofCounts (GrammarSymbols.ofText grammar).tokens.size
          (GrammarSymbols.ofText grammar).productions.size)] := by
  cases hs : s.validate with
  | error defect =>
    rw [ofGrammar_of_defect hs] at h
    exact nomatch h
  | ok u =>
    rw [ofGrammar_of_validate hs] at h
    have hmax : (GrammarSymbols.ofText grammar).tokens.size ≤ 742 := by
      rw [← exists_assignedSpaces_iff]
      cases ha : assignedSpaces (GrammarSymbols.ofText grammar) with
      | error f => simp [ha, Except.map] at h
      | ok spaces => exact ⟨spaces, rfl⟩
    rw [assignedSpaces_of_le hmax] at h
    exact ⟨rfl, hmax, (Except.ok.inj h).symm⟩

theorem exists_table_of_ofGrammar {s : Settings} {grammar : String} {artifacts : List Artifact}
    (h : ofGrammar s grammar = .ok artifacts) :
    (GrammarSymbols.ofText grammar).tokens.size ≤ 742 ∧
    ∃ contents, artifacts = [⟨s.outputs.grammarSymbols, contents⟩] ∧
      GrammarTable.ofText? contents = some (.ofSymbols (GrammarSymbols.ofText grammar)
        (.ofCounts (GrammarSymbols.ofText grammar).tokens.size
          (GrammarSymbols.ofText grammar).productions.size)) := by
  obtain ⟨hs, hmax, hartifacts⟩ := eq_of_ofGrammar h
  refine ⟨hmax, _, hartifacts, ?_⟩
  exact Document.ofText?_symbolTable s _ _ (Settings.isPathChar_runtime hs)
    (plain_of_mem_toList fun _ => plain_of_mem_tokens)
    (plain_of_mem_toList fun _ => plain_of_mem_productions)

theorem exists_ofGrammar {s : Settings} (hs : s.validate = .ok ()) {grammar : String}
    (h : (declaredTokens grammar).eraseDups.length ≤ 742) :
    ∃ artifacts, ofGrammar s grammar = .ok artifacts := by
  rw [← tokens_names_ofText, SymbolList.length_names] at h
  rw [ofGrammar_of_validate hs, assignedSpaces_of_le h]
  exact ⟨_, rfl⟩

theorem disjoint_names_iff (grammar : String) :
    (GrammarSymbols.ofText grammar).tokens.names.Disjoint
        (GrammarSymbols.ofText grammar).productions.names ↔
      (declaredTokens grammar).Disjoint (declaredProductions grammar) := by
  rw [tokens_names_ofText, productions_names_ofText]
  simp only [List.Disjoint, List.mem_eraseDups]

/-- The symbol table of a grammar tells its symbols apart exactly if no name is declared as a token
and as a production. -/
theorem ofGrammar_distinguishes_iff {s : Settings} {grammar : String} {artifacts : List Artifact}
    (h : ofGrammar s grammar = .ok artifacts) :
    ∃ contents table, artifacts = [⟨s.outputs.grammarSymbols, contents⟩] ∧
      GrammarTable.ofText? contents = some table ∧
      (table.Distinguishes ↔ (declaredTokens grammar).Disjoint (declaredProductions grammar)) := by
  obtain ⟨hmax, contents, hartifacts, hread⟩ := exists_table_of_ofGrammar h
  refine ⟨contents, _, hartifacts, hread, ?_⟩
  rw [GrammarTable.distinguishes_ofSymbols_iff hmax, disjoint_names_iff]

theorem ofGrammar_distinguishes_default :
    ∃ artifacts contents table,
      ofGrammar {} "%token ID '+'\nexpr // ID\n%token <t> ID\n" = .ok artifacts ∧
      artifacts = [⟨"grammar_symbols.rs", contents⟩] ∧
      GrammarTable.ofText? contents = some table ∧ table.Distinguishes := by
  have ht : declaredTokens "%token ID '+'\nexpr // ID\n%token <t> ID\n" = ["ID", "'+'", "ID"] := by
    decide
  have hp : declaredProductions "%token ID '+'\nexpr // ID\n%token <t> ID\n" = ["expr"] := by
    decide
  obtain ⟨artifacts, h⟩ := @exists_ofGrammar {} rfl "%token ID '+'\nexpr // ID\n%token <t> ID\n"
    (by rw [ht]; decide)
  obtain ⟨contents, table, hartifacts, hread, hiff⟩ := ofGrammar_distinguishes_iff h
  rw [ht, hp] at hiff
  exact ⟨artifacts, contents, table, h, hartifacts, hread, hiff.mpr (by simp)⟩

/-- A token and a production of one name are not told apart. -/
theorem not_forall_ofGrammar_distinguishes :
    ¬ ∀ (s : Settings) (grammar contents : String) (table : GrammarTable),
      ofGrammar s grammar = .ok [⟨s.outputs.grammarSymbols, contents⟩] →
        GrammarTable.ofText? contents = some table → table.Distinguishes := by
  intro hall
  have ht : declaredTokens "%token expr\nexpr\n" = ["expr"] := by decide
  have hp : declaredProductions "%token expr\nexpr\n" = ["expr"] := by decide
  obtain ⟨artifacts, h⟩ := @exists_ofGrammar {} rfl "%token expr\nexpr\n" (by rw [ht]; decide)
  obtain ⟨hmax, contents, rfl, hread⟩ := exists_table_of_ofGrammar h
  have hdisjoint := (GrammarTable.distinguishes_ofSymbols_iff hmax).mp (hall _ _ _ _ h hread)
  rw [disjoint_names_iff, ht, hp] at hdisjoint
  exact hdisjoint List.mem_cons_self List.mem_cons_self

end Generation

end TagVocab

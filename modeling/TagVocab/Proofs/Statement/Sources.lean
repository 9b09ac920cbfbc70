import TagVocab.Proofs.Document.NameCode
import TagVocab.Proofs.Document.VisitorRun
import TagVocab.Proofs.Statement.Visiting
import TagVocab.Settings.FromToml
import TagVocab.Statement.Sources
import TagVocab.Statement.Stats
import TagVocab.Statement.Vocabulary

/-!
# The documents of the statement language

The tables of the statement language are what its sources declare. The documents that are generated
from these sources hold code that visits and names as the language's visitors and printers do.
-/

namespace TagVocab.Statement

open Document Text GrammarSymbols

theorem oneLine_astLines : ∀ l ∈ astLines, OneLine l.toList :=
  Starts.oneLine (by repeat constructor) (by decide)

theorem oneLine_grammarLines : ∀ l ∈ grammarLines, OneLine l.toList :=
  Starts.oneLine (by repeat constructor) (by decide)

theorem declaredTags_astLines :
    AstTags.declaredTags "AST_" (text astLines) = AstTag.all.map AstTag.name := by
  -- Texts are slow to evaluate, so the lines are turned into characters first.
  rw [AstTags.declaredTags, lines_text _ oneLine_astLines, astLines,
    Starts.map_toList (by repeat constructor) (by decide)]
  decide +kernel

theorem declaredTokens_grammarLines : declaredTokens (text grammarLines) = tokenNames := by
  rw [declaredTokens, lines_text _ oneLine_grammarLines, grammarLines,
    Starts.map_toList (by repeat constructor) (by decide)]
  decide +kernel

theorem declaredProductions_grammarLines :
    declaredProductions (text grammarLines) = productionNames := by
  rw [declaredProductions, lines_text _ oneLine_grammarLines, grammarLines,
    Starts.map_toList (by repeat constructor) (by decide)]
  decide +kernel

theorem ofToml_settingsLines : (Settings.ofToml (text settingsLines)).toOption = some {} := by
  rw [Settings.ofToml, Toml.read?, toList_text, settingsLines,
    Starts.map_toList (by repeat constructor) (by decide)]
  decide +kernel

def statedValue? (tag line : List Char) : Option Nat := do
  let rest ← AstTags.afterLead? tag (trim line)
  let rest ← AstTags.afterLead? ['='] (skipBlanks rest)
  let (value, _) ← readNumber? (skipBlanks rest)
  return value

/-- The variants that the lines of an enumeration declare, with the values that they state. -/
def enumVariants (lead text : String) : List TableVariant :=
  (lines text.toList).filterMap fun line => (AstTags.lineTag? lead.toList line).map
    fun tag => ⟨String.ofList tag, statedValue? tag line⟩

theorem values_astLines : GrammarTable.valuesFrom 0 (enumVariants "AST_" (text astLines)) =
    AstTag.all.map fun a => (a.name, a.tag.toNat) := by
  rw [enumVariants, lines_text _ oneLine_astLines, astLines,
    Starts.map_toList (by repeat constructor) (by decide)]
  decide +kernel

/-- Variants have the values that their enumeration gives them. -/
def Numbered (value : String → Tag) : Prop :=
  ∀ v ∈ GrammarTable.valuesFrom 0 (enumVariants "AST_" (text astLines)),
    value (variantPath {} v.1) = UInt32.ofNat v.2

theorem exists_numbered : ∃ value, Numbered value := by
  let variant? := fun path => AstTag.all.find? fun a => variantPath {} a.name = path
  refine ⟨fun path => ((variant? path).map AstTag.tag).getD 0, ?_⟩
  rw [Numbered, values_astLines]
  decide +kernel

theorem Numbered.value_name {value : String → Tag} (h : Numbered value) (a : AstTag) :
    value (variantPath {} a.name) = a.tag := by
  have ha : (a.name, a.tag.toNat) ∈
      GrammarTable.valuesFrom 0 (enumVariants "AST_" (text astLines)) := by
    rw [values_astLines]
    exact List.mem_map_of_mem (AstTag.mem_all a)
  rw [h _ ha, UInt32.ofNat_toNat]

def AstTag.route (a : AstTag) : Route :=
  ⟨a.name, a.stem⟩

theorem Numbered.routedBy_eq {value : String → Tag} (h : Numbered value) :
    routedBy {} AstTag.route AstTag.all value = AstTag.ofTag? := by
  funext t
  refine List.find?_congr fun a _ => ?_
  rw [AstTag.route, h.value_name]

theorem names_astLines :
    (AstTags.ofText "AST_" (text astLines)).names = AstTag.all.map AstTag.name := by
  rw [AstTags.names_ofText, declaredTags_astLines]
  decide

theorem routes_astLines :
    (AstTags.ofText "AST_" (text astLines)).routes = .ok (AstTag.all.map AstTag.route) := by
  rw [AstTags.routes, names_astLines]
  rfl

theorem tokens_grammarLines :
    (GrammarSymbols.ofText (text grammarLines)).tokens.names = tokenNames := by
  rw [tokens_names_ofText, declaredTokens_grammarLines]
  decide

theorem productions_grammarLines :
    (GrammarSymbols.ofText (text grammarLines)).productions.names = productionNames := by
  rw [productions_names_ofText, declaredProductions_grammarLines]
  decide

def declared : GrammarSymbols :=
  .ofText (text grammarLines)

theorem size_tokens : declared.tokens.size = tokenNames.length := by
  rw [← SymbolList.length_names, declared, tokens_grammarLines]

theorem size_productions : declared.productions.size = productionNames.length := by
  rw [← SymbolList.length_names, declared, productions_grammarLines]

/-- The look-up of the language is the one that its grammar gives. -/
theorem symbols_eq : symbols =
    ⟨.ofCounts declared.tokens.size declared.productions.size, declared.names⟩ := by
  rw [size_tokens, size_productions, GrammarSymbols.names, declared, tokens_grammarLines,
    productions_grammarLines]
  rfl

theorem ofBoth_sources : Generation.ofBoth {} (text astLines) (text grammarLines) =
    .ok (Generation.astArtifacts {} (AstTag.all.map AstTag.route) ++
      [Generation.grammarArtifact {} declared symbols.spaces]) := by
  have hvalid : ({} : Settings).validate = .ok () := rfl
  have hlead : ({} : Settings).lead = "AST_" := rfl
  have hfew : declared.tokens.size ≤ 742 := by
    rw [size_tokens]
    decide
  have hspaces := Generation.assignedSpaces_of_le hfew
  rw [symbols_eq, Generation.ofBoth, Generation.validSettings, Generation.foundRoutes, hvalid,
    hlead, routes_astLines, ← declared]
  dsimp only
  rw [hspaces]
  rfl

theorem routed_astLines :
    AstTags.Routed "AST_" (AstTag.all.map AstTag.name) (AstTag.all.map AstTag.route) := by
  rw [← names_astLines]
  exact AstTags.routed_routes routes_astLines

theorem nameLike_route : ∀ r ∈ AstTag.all.map AstTag.route, r.NameLike := by
  have hrouted := routed_astLines
  rw [← names_astLines] at hrouted
  exact Generation.nameLike_of_routes (s := {}) rfl hrouted

/-- The visitor documents of the language visit its trees as the traversal does that the statistics
and every other visitor of the language are made with. -/
theorem sources_traverse : ∃ visitor walk others code,
    Generation.ofBoth {} (text astLines) (text grammarLines) =
      .ok (⟨"ast_visitor.rs", visitor⟩ :: ⟨"ast_visitor_walk.rs", walk⟩ :: others) ∧
    visitorCode? visitor walk = some code ∧
    ∀ (σ : Type) (value : String → Tag) (o : Overrides AstTag σ), Numbered value →
      (∃ names : VisitorNames σ, names.Resolve code value (o.own AstTag.route AstTag.all)) ∧
      ∀ names : VisitorNames σ, names.Resolve code value (o.own AstTag.route AstTag.all) →
        ∀ n, names.method "visit" n = o.visitor.visit AstTag.ofTag? n := by
  have hcode := visitorCode?_documents {} nameLike_route (Settings.isPathChar_runtime (s := {}) rfl)
    (Settings.isPathChar_tagEnum (s := {}) rfl)
  refine ⟨_, _, _, _, ofBoth_sources, hcode, fun σ value o hvalue => ?_⟩
  have htraverses := routed_astLines.traverses {} σ value o
  rwa [hvalue.routedBy_eq] at htraverses

def ProgramStats.overrides : Overrides AstTag ProgramStats where
  method?
    | .assignment => some fun n walk _ => (Walk.update (enterAssignment n)).andThen walk
    | .whileStatement => some fun _ walk _ =>
      ((Walk.update enterLoop).andThen walk).andThen (Walk.update leaveLoop)
    | _ => none
  token? := some fun _ => Walk.update countToken

theorem ProgramStats.visitor_overrides : overrides.visitor = visitor := by
  unfold Overrides.visitor visitor
  congr 1
  funext k n walk kids
  cases k <;> rfl

/-- By the code of the documents, too, the statistics of a program are those of its traversal. -/
theorem sources_visit : ∃ visitor walk others code,
    Generation.ofBoth {} (text astLines) (text grammarLines) =
      .ok (⟨"ast_visitor.rs", visitor⟩ :: ⟨"ast_visitor_walk.rs", walk⟩ :: others) ∧
    visitorCode? visitor walk = some code ∧
    ∀ (value : String → Tag) (names : VisitorNames ProgramStats), Numbered value →
      names.Resolve code value (ProgramStats.overrides.own AstTag.route AstTag.all) →
      names.method "visit" = ProgramStats.visit := by
  obtain ⟨visitor, walk, others, code, hrun, hcode, htraverses⟩ := sources_traverse
  refine ⟨visitor, walk, others, code, hrun, hcode, fun value names hvalue hnames => ?_⟩
  funext n
  rw [(htraverses ProgramStats value ProgramStats.overrides hvalue).2 names hnames n,
    ProgramStats.visitor_overrides, ProgramStats.visit]

theorem values_declared : (GrammarTable.ofSymbols declared symbols.spaces).values.map
    (fun (name, value) => ("NODE_" ++ name, some (UInt32.ofNat value))) = symbolVariants := by
  rw [GrammarTable.values_ofSymbols, declared, tokens_grammarLines, productions_grammarLines]
  decide +kernel

theorem lookUp_declared (tag : Tag) :
    (GrammarTable.ofSymbols declared symbols.spaces).lookUp tag = .ok (symbols.name? tag) := by
  have hword : declared.tokens.size + 2 ^ 32 ≤ 2 ^ 64 := by
    rw [size_tokens]
    decide
  rw [symbols_eq]
  exact GrammarTable.lookUp_ofSymbols declared hword tag

theorem name?_nameCode_all {value : String → Tag} (h : Numbered value) (tag : Tag) :
    (nameCode {} (AstTag.all.map AstTag.name)).name? value symbols.name? tag = astTagName? tag := by
  have hfind : (AstTag.all.map AstTag.name).find? (fun name => value (variantPath {} name) = tag) =
      (AstTag.ofTag? tag).map AstTag.name := by
    rw [List.find?_map, AstTag.ofTag?]
    refine congrArg (Option.map _) (List.find?_congr fun a _ => ?_)
    rw [Function.comp_apply, h.value_name]
  rw [NameCode.name?_nameCode, hfind, astTagName?]
  cases AstTag.ofTag? tag <;> rfl

/-- The documents of names name tags as the tables and the printers of the language do. -/
theorem sources_name : ∃ visitor walk names table code t unnamed,
    Generation.ofBoth {} (text astLines) (text grammarLines) =
      .ok [visitor, walk, ⟨"ast_tags.rs", names⟩, ⟨"grammar_symbols.rs", table⟩] ∧
    nameCode? names = some code ∧ GrammarTable.ofText? table = some t ∧
    defaultName? table = some unnamed ∧
    t.values.map (fun (name, value) => ("NODE_" ++ name, some (UInt32.ofNat value))) =
      symbolVariants ∧
    ∀ tag, t.lookUp tag = .ok (symbols.name? tag) ∧
      parseTreePrinter.name tag = (symbols.name? tag).getD unnamed ∧
      ∀ value, Numbered value →
        astTagName? tag = code.name? value symbols.name? tag ∧
        astPrinter.name tag = code.shown value symbols.name? parseTreePrinter.name tag := by
  have hr := Settings.isPathChar_runtime (s := {}) rfl
  have htags : ∀ tag ∈ AstTag.all.map AstTag.name, ∀ c ∈ tag.toList, isNameLike c := by
    rw [List.forall_mem_map]
    exact fun a _ => (nameLike_route a.route (List.mem_map_of_mem (AstTag.mem_all a))).tag
  have ht : ∀ symbol ∈ declared.tokens.toList, Plain symbol.name :=
    plain_of_mem_toList fun _ => plain_of_mem_tokens
  have hp : ∀ symbol ∈ declared.productions.toList, Plain symbol.name :=
    plain_of_mem_toList fun _ => plain_of_mem_productions
  have hcode := nameCode?_astNames {} hr (Settings.isPathChar_tagEnum (s := {}) rfl)
    (Settings.isPathChar_grammarModule (s := {}) rfl) htags
  have htable := ofText?_symbolTable {} declared symbols.spaces hr ht hp
  have hunnamed := defaultName?_symbolTable {} hr declared symbols.spaces ht hp
  refine ⟨_, _, _, _, _, _, _, ofBoth_sources, hcode, htable, hunnamed, values_declared,
    fun tag => ⟨lookUp_declared tag, rfl, fun value hvalue => ?_⟩⟩
  have hname := name?_nameCode_all hvalue tag
  have hshown : astPrinter.name tag = (astTagName? tag).getD (parseTreePrinter.name tag) := rfl
  refine ⟨hname.symm, ?_⟩
  rw [NameCode.shown, hname, hshown]
  cases astTagName? tag <;> rfl

end TagVocab.Statement

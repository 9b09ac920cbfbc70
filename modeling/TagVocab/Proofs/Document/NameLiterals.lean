import TagVocab.Proofs.SymbolTable.Distinct
import TagVocab.Proofs.Visitor

/-!
# Names written as literals

Two documents hold names as literals: the name table of the grammar's symbols, on a line for each,
and the function that names tags, in an arm for each. Whatever characters the names hold, the
literals stand on those lines alone, in order, and are decoded to the names.
-/

namespace TagVocab

open Document GrammarSymbols Text

namespace Document

/-- The length that the name table is declared with, and the lines of its elements. -/
structure NameBlock where
  size : Nat
  elements : List String

def nameBlock? (contents : String) : Option NameBlock := do
  let (size, doc) ← locate? "static GRAMMAR_SYMBOL_NAMES: [&str; " (linesOf contents)
  let (size, opening) ← readNumber? size
  let (elements, _) ← block? "];" doc
  if opening = "] = [".toList then some ⟨size, elements⟩ else none

/-- Whether the elements are the literals of `names`: as many as declared, each on a line with four
spaces in front of it and a comma behind it. -/
structure NameBlock.Spells (block : NameBlock) (literals : List (List Char))
    (names : List String) : Prop where
  length_elements : block.elements.length = block.size
  elements_eq : block.elements =
    literals.map fun literal => "    " ++ String.ofList literal ++ ","
  decode_eq : literals.map decodeLiteral = names.map fun name => some name.toList

def armStart : String :=
  "        ast_tag_values::"

def nameArm? (line : String) : Option (String × List Char) := do
  let cs ← after? armStart line
  let tag ← upTo? ' ' cs
  let cs ← AstTags.afterLead? " => Some(".toList (cs.dropWhile (· != ' '))
  return (tag, ← endingIn? "),".toList cs)

def opensArm (line : String) : Bool :=
  (after? armStart line).isSome

/-- All arms of a document. Every line that starts as an arm has to be one. -/
def nameArms? (contents : String) : Option (List (String × List Char)) :=
  ((linesOf contents).filter opensArm).mapM nameArm?

section

variable (s : Settings) (symbols : GrammarSymbols) (spaces : TagSpaces)

theorem after?_symbolEnum :
    ∀ l ∈ symbolEnum s symbols spaces, after? "static GRAMMAR_SYMBOL_NAMES: [&str; " l = none := by
  have hvariants : ∀ (range : SymbolRange) (declared : List TagSymbol),
      ∀ l ∈ declared.map (variant range),
        after? "static GRAMMAR_SYMBOL_NAMES: [&str; " l = none := by
    intro range declared
    rw [List.forall_mem_map]
    intro symbol _
    unfold variant
    simp only [String.append_assoc]
    split
    · exact after?_of_clash (by decide) _
    · exact after?_of_clash (by decide) _
  unfold symbolEnum
  simp only [List.forall_mem_append, String.append_assoc]
  exact ⟨⟨⟨⟨⟨⟨Starts.after?_eq_none (by repeat constructor) (by decide),
    GrammarTable.forall_mem_ite_nil (Starts.after?_eq_none (by repeat constructor) (by decide))⟩,
    Starts.after?_eq_none (by repeat constructor) (by decide)⟩, hvariants _ _⟩, hvariants _ _⟩,
    Starts.after?_eq_none (by repeat constructor) (by decide)⟩,
    GrammarTable.forall_mem_ite_nil (Starts.after?_eq_none (by repeat constructor) (by decide))⟩

theorem after?_rangeConstants :
    ∀ l ∈ rangeConstants s spaces, after? "static GRAMMAR_SYMBOL_NAMES: [&str; " l = none := by
  unfold rangeConstants rangeConstant
  simp only [List.forall_mem_append, String.append_assoc]
  exact ⟨⟨Starts.after?_eq_none (by repeat constructor) (by decide),
    Starts.after?_eq_none (by repeat constructor) (by decide)⟩,
    Starts.after?_eq_none (by repeat constructor) (by decide)⟩

theorem locate?_symbolTable :
    locate? "static GRAMMAR_SYMBOL_NAMES: [&str; " (symbolTable s symbols spaces) =
      locate? "static GRAMMAR_SYMBOL_NAMES: [&str; "
        (nameTable symbols ++ "" :: (nameLookup s ++ "" :: parseTreePrinter s)) := by
  have hsections : symbolTable s symbols spaces =
      header ++ (symbolEnum s symbols spaces ++ "" :: (rangeConstants s spaces ++ "" ::
        (nameTable symbols ++ "" :: (nameLookup s ++ "" :: parseTreePrinter s)))) := by
    simp [symbolTable]
  rw [hsections, locate?_append (Starts.after?_eq_none (by repeat constructor) (by decide)),
    locate?_append (after?_symbolEnum s symbols spaces), locate?_empty,
    locate?_append (after?_rangeConstants s spaces), locate?_empty]

theorem nameBlock?_symbolTable (hrt : OneLine s.runtime.toList)
    (ht : ∀ symbol ∈ symbols.tokens.toList, Plain symbol.name)
    (hp : ∀ symbol ∈ symbols.productions.toList, Plain symbol.name) :
    nameBlock? (text (symbolTable s symbols spaces)) =
      some ⟨symbols.size, symbols.names.map nameElement⟩ := by
  have hlines := linesOf_text _ (oneLine_symbolTable s symbols spaces hrt ht hp)
  rw [nameBlock?, hlines, locate?_symbolTable, GrammarTable.locate?_nameTable]
  simp only [Option.bind_eq_bind, Option.bind_some, GrammarTable.readNumber?_size,
    GrammarTable.block?_nameElement]
  rw [if_pos trivial]

end

theorem spells_nameElement (symbols : GrammarSymbols) :
    (NameBlock.mk symbols.size (symbols.names.map nameElement)).Spells
      (symbols.names.map fun name => encodeLiteral name.toList) symbols.names := by
  constructor
  case length_elements => rw [List.length_map, symbols.length_names]
  case elements_eq =>
    rw [List.map_map]
    rfl
  case decode_eq =>
    rw [List.map_map]
    exact List.map_congr_left fun name _ => decodeLiteral_encodeLiteral name.toList

theorem nameArm?_nameArm {tag : String} (h : ∀ c ∈ tag.toList, isNameLike c) :
    nameArm? (nameArm tag) = some (tag, encodeLiteral tag.toList) := by
  have htag := ne_of_isNameLike h (by decide : isNameLike ' ' = false)
  have hcs : (tag ++ (" => Some(" ++ (quote tag ++ "),"))).toList =
      tag.toList ++ ' ' :: ("=> Some(".toList ++ (encodeLiteral tag.toList ++ "),".toList)) := by
    simp [quote]
  have hdrop : (tag.toList ++ ' ' :: ("=> Some(".toList ++
      (encodeLiteral tag.toList ++ "),".toList))).dropWhile (· != ' ') =
        " => Some(".toList ++ (encodeLiteral tag.toList ++ "),".toList) :=
    dropWhile_append_cons (fun c hc => bne_iff_ne.mpr (htag c hc)) (by decide) _
  unfold nameArm
  simp only [String.append_assoc]
  rw [nameArm?, armStart, after?_append, hcs]
  simp only [Option.bind_eq_bind, Option.bind_some]
  rw [upTo?_append htag, hdrop, AstTags.afterLead?_append]
  simp only [Option.bind_some]
  rw [endingIn?_append, String.ofList_toList]
  rfl

section

variable (s : Settings) {tags : List String}

theorem oneLine_astNames (hr : ∀ c ∈ s.runtime.toList, Settings.isPathChar c)
    (he : ∀ c ∈ s.tagEnum.toList, Settings.isPathChar c)
    (hg : ∀ c ∈ s.grammarModule.toList, Settings.isPathChar c)
    (h : ∀ tag ∈ tags, ∀ c ∈ tag.toList, isNameLike c) :
    ∀ l ∈ astNames s tags, OneLine l.toList := by
  have hrt : OneLine s.runtime.toList := oneLine_of_forall (by decide) (by decide) hr
  have hgm : OneLine s.grammarModule.toList := oneLine_of_forall (by decide) (by decide) hg
  have harms : ∀ l ∈ tags.map nameArm, OneLine l.toList := by
    rw [List.forall_mem_map]
    intro tag hmem
    have htag := oneLine_of_isNameLike (h tag hmem)
    have hquote := oneLine_quote tag
    unfold nameArm
    simp only [String.toList_append, oneLine_append, htag, hquote, and_true]
    and_intros <;> exact oneLine_ofList (by decide)
  have hbody : ∀ l ∈ nameBody s tags, OneLine l.toList := by
    unfold nameBody
    split
    · simp only [List.forall_mem_cons, List.not_mem_nil, false_implies, implies_true,
        String.toList_append, oneLine_append, hgm, and_true]
      and_intros <;> exact oneLine_ofList (by decide)
    · simp only [List.forall_mem_append, List.forall_mem_cons, List.not_mem_nil, false_implies,
        implies_true, String.toList_append, oneLine_append, hgm, and_true]
      refine ⟨⟨oneLine_ofList (by decide), harms⟩, ?_⟩
      and_intros <;> exact oneLine_ofList (by decide)
  unfold astNames
  simp only [List.forall_mem_append, List.forall_mem_cons, List.not_mem_nil, false_implies,
    implies_true, String.toList_append, oneLine_append, hrt, hgm, and_true]
  refine ⟨⟨⟨⟨oneLine_header, oneLine_tagModule s hr he (by decide) h false⟩, ?_⟩, hbody⟩, ?_⟩
  · and_intros <;> exact oneLine_ofList (by decide)
  · and_intros <;> exact oneLine_ofList (by decide)

end

theorem Starts.filter_opensArm {ls : List String} {starts : List LineStart} (hs : Starts ls starts)
    (h : ∀ start ∈ starts, start.lacks armStart.toList) : ls.filter opensArm = [] := by
  rw [List.filter_eq_nil_iff]
  intro l hl
  have hnone := hs.after?_eq_none h l hl
  rw [String.ofList_toList] at hnone
  simp [opensArm, hnone]

theorem opensArm_nameArm (tag : String) : opensArm (nameArm tag) := by
  unfold nameArm
  simp only [String.append_assoc]
  rw [opensArm, armStart, after?_append]
  rfl

section

variable (s : Settings) (tags : List String)

theorem filter_opensArm_tagModule :
    (tagModule "ast_tag_values" s tags false).filter opensArm = [] := by
  have hconstants : (tags.map (tagConstant s)).filter opensArm = [] := by
    rw [List.filter_eq_nil_iff, List.forall_mem_map]
    intro tag _
    unfold tagConstant
    simp only [String.append_assoc]
    rw [opensArm, armStart, after?_of_clash (by decide) _]
    simp
  have hopening : ["mod ast_tag_values \x7b"].filter opensArm = [] :=
    Starts.filter_opensArm (by repeat constructor) (by decide)
  have hclosing : ["\x7d", ""].filter opensArm = [] :=
    Starts.filter_opensArm (by repeat constructor) (by decide)
  unfold tagModule
  split
  · rfl
  · rw [List.filter_append, List.filter_append, List.filter_append, hconstants, hclosing]
    exact hopening

section

variable (hg : ∀ c ∈ s.grammarModule.toList, Settings.isPathChar c)

include hg

/-- A path holds no space, so that the only line of an empty table is not indented far enough. -/
theorem opensArm_pathCall :
    opensArm ("    " ++ (s.grammarModule ++ "::grammar_symbol_name(tag)")) = false := by
  cases hafter : after? armStart ("    " ++ (s.grammarModule ++ "::grammar_symbol_name(tag)")) with
  | none => rw [opensArm, hafter, Option.isSome_none]
  | some rest =>
    have hline := AstTags.eq_append_of_afterLead? hafter
    rw [String.toList_append, String.toList_append] at hline
    have hbehind : s.grammarModule.toList ++ "::grammar_symbol_name(tag)".toList =
        ' ' :: ("   ast_tag_values::".toList ++ rest) :=
      (List.append_right_inj "    ".toList).mp hline
    have hspace : ' ' ∈ s.grammarModule.toList ++ "::grammar_symbol_name(tag)".toList := by
      rw [hbehind]
      exact List.mem_cons_self
    rcases List.mem_append.mp hspace with hpath | hcall
    · exact absurd (hg _ hpath) (by decide)
    · exact absurd hcall (by decide)

theorem filter_opensArm_nameBody : (nameBody s tags).filter opensArm = tags.map nameArm := by
  have harms : (tags.map nameArm).filter opensArm = tags.map nameArm := by
    rw [List.filter_eq_self, List.forall_mem_map]
    exact fun tag _ => opensArm_nameArm tag
  have hopening : ["    match tag \x7b"].filter opensArm = [] :=
    Starts.filter_opensArm (by repeat constructor) (by decide)
  have hclosing : ["        // not an AST tag, so assume it's a parse tree node",
      "        _ => " ++ (s.grammarModule ++ "::grammar_symbol_name(tag),"), "    \x7d"].filter
        opensArm = [] :=
    Starts.filter_opensArm (by repeat constructor) (by decide)
  unfold nameBody
  simp only [String.append_assoc]
  split
  · next hempty =>
    rw [List.isEmpty_iff.mp hempty, List.filter_cons_of_neg (by simp [opensArm_pathCall s hg])]
    rfl
  · rw [List.filter_append, List.filter_append, hopening, harms, hclosing, List.nil_append,
      List.append_nil]

theorem filter_opensArm_astNames : (astNames s tags).filter opensArm = tags.map nameArm := by
  have hheader : header.filter opensArm = [] :=
    Starts.filter_opensArm (by repeat constructor) (by decide)
  unfold astNames
  simp only [List.filter_append, hheader, filter_opensArm_tagModule,
    filter_opensArm_nameBody s tags hg, String.append_assoc, List.nil_append]
  rw [Starts.filter_opensArm (by repeat constructor) (by decide),
    Starts.filter_opensArm (by repeat constructor) (by decide), List.nil_append, List.append_nil]

end

end

theorem nameArms?_astNames (s : Settings) {tags : List String}
    (hr : ∀ c ∈ s.runtime.toList, Settings.isPathChar c)
    (he : ∀ c ∈ s.tagEnum.toList, Settings.isPathChar c)
    (hg : ∀ c ∈ s.grammarModule.toList, Settings.isPathChar c)
    (h : ∀ tag ∈ tags, ∀ c ∈ tag.toList, isNameLike c) :
    nameArms? (text (astNames s tags)) =
      some (tags.map fun tag => (tag, encodeLiteral tag.toList)) := by
  rw [nameArms?, linesOf_text _ (oneLine_astNames s hr he hg h), filter_opensArm_astNames s tags hg]
  exact mapM_map_some fun tag hmem => nameArm?_nameArm (h tag hmem)

end Document

namespace Generation

theorem exists_of_ofAst {s : Settings} {ast : String} {artifacts : List Artifact}
    (h : ofAst s ast = .ok artifacts) :
    ∃ visitor walk, artifacts = [visitor, walk, ⟨s.outputs.astTags,
      text (astNames s (AstTags.ofText s.lead ast).names)⟩] := by
  obtain ⟨-, routes, hroutes, rfl⟩ := exists_routes_of_ofAst h
  have htags : routes.map (·.tag) = (AstTags.ofText s.lead ast).names :=
    (AstTags.routed_routes hroutes).tags_eq
  rw [astArtifacts, htags]
  exact ⟨_, _, rfl⟩

theorem exists_block_of_ofGrammar {s : Settings} {grammar : String} {artifacts : List Artifact}
    (h : ofGrammar s grammar = .ok artifacts) :
    ∃ contents block literals, artifacts = [⟨s.outputs.grammarSymbols, contents⟩] ∧
      nameBlock? contents = some block ∧
      block.Spells literals ((GrammarSymbols.ofText grammar).tokens.names ++
        (GrammarSymbols.ofText grammar).productions.names) := by
  obtain ⟨hs, -, rfl⟩ := eq_of_ofGrammar h
  have hrt := oneLine_of_forall (by decide) (by decide) (Settings.isPathChar_runtime hs)
  have hblock := nameBlock?_symbolTable s (GrammarSymbols.ofText grammar)
    (.ofCounts (GrammarSymbols.ofText grammar).tokens.size
      (GrammarSymbols.ofText grammar).productions.size) hrt
    (plain_of_mem_toList fun _ => plain_of_mem_tokens)
    (plain_of_mem_toList fun _ => plain_of_mem_productions)
  exact ⟨_, _, _, rfl, hblock, spells_nameElement (GrammarSymbols.ofText grammar)⟩

theorem exists_nameArms {s : Settings} (hs : s.validate = .ok ()) (ast : String) :
    ∃ arms, nameArms? (text (astNames s (AstTags.ofText s.lead ast).names)) = some arms ∧
      arms.map (·.1) = (AstTags.ofText s.lead ast).names ∧
      ∀ arm ∈ arms, decodeLiteral arm.2 = some arm.1.toList := by
  have hlead := Settings.isIdentifierChar_of_isIdentifier
    ((Settings.validate_eq_ok_iff s).mp hs).1
  have htags : ∀ tag ∈ (AstTags.ofText s.lead ast).names, ∀ c ∈ tag.toList, isNameLike c :=
    fun _ => AstTags.isNameLike_of_mem_names hlead
  have harms := nameArms?_astNames s (Settings.isPathChar_runtime hs)
    (Settings.isPathChar_tagEnum hs) (Settings.isPathChar_grammarModule hs) htags
  refine ⟨_, harms, ?_, ?_⟩
  · rw [List.map_map]
    exact List.map_id _
  · rw [List.forall_mem_map]
    exact fun tag _ => decodeLiteral_encodeLiteral tag.toList

/-- Literals are decoded to the names that they were written for: in the name table of a grammar,
which has as many elements as it says, and in the arms for the tags of an enumeration, whether or
not the tags can be routed. -/
theorem nameLiterals_decode {s : Settings} (hs : s.validate = .ok ()) (ast grammar : String) :
    (∀ artifacts, ofGrammar s grammar = .ok artifacts →
      ∃ contents block literals, artifacts = [⟨s.outputs.grammarSymbols, contents⟩] ∧
        nameBlock? contents = some block ∧
        block.Spells literals ((GrammarSymbols.ofText grammar).tokens.names ++
          (GrammarSymbols.ofText grammar).productions.names)) ∧
    (∀ artifacts, ofAst s ast = .ok artifacts → ∃ visitor walk, artifacts = [visitor, walk,
      ⟨s.outputs.astTags, text (astNames s (AstTags.ofText s.lead ast).names)⟩]) ∧
    ∃ arms, nameArms? (text (astNames s (AstTags.ofText s.lead ast).names)) = some arms ∧
      arms.map (·.1) = (AstTags.ofText s.lead ast).names ∧
      ∀ arm ∈ arms, decodeLiteral arm.2 = some arm.1.toList :=
  ⟨fun _ => exists_block_of_ofGrammar, fun _ => exists_of_ofAst, exists_nameArms hs ast⟩

/-- Tokens that hold a quote, a backslash, a combining character, one that is not assigned and a
control character, and a tag beyond ASCII. -/
theorem nameLiterals_decode_default :
    (∃ contents block literals,
      ofGrammar {} "%token '\"' '\\' e\u0301 \u0378 '\x01'\nexpr\n" =
        .ok [⟨"grammar_symbols.rs", contents⟩] ∧
      nameBlock? contents = some block ∧
      block.Spells literals ["'\"'", "'\\'", "e\u0301", "\u0378", "'\x01'", "expr"]) ∧
    ∃ arms, nameArms? (text (astNames {}
        (AstTags.ofText "AST_" "AST_Ärger = 3,\nAST_ü,\n").names)) = some arms ∧
      arms.map (·.1) = ["AST_Ärger", "AST_ü"] ∧
      ∀ arm ∈ arms, decodeLiteral arm.2 = some arm.1.toList := by
  have ht : declaredTokens "%token '\"' '\\' e\u0301 \u0378 '\x01'\nexpr\n" =
      ["'\"'", "'\\'", "e\u0301", "\u0378", "'\x01'"] := by decide
  have hp : declaredProductions "%token '\"' '\\' e\u0301 \u0378 '\x01'\nexpr\n" = ["expr"] := by
    decide
  have hnames : (AstTags.ofText "AST_" "AST_Ärger = 3,\nAST_ü,\n").names =
      ["AST_Ärger", "AST_ü"] := by
    rw [AstTags.names_ofText]
    decide
  obtain ⟨artifacts, hrun⟩ :=
    @exists_ofGrammar {} rfl "%token '\"' '\\' e\u0301 \u0378 '\x01'\nexpr\n" (by rw [ht]; decide)
  obtain ⟨hgrammar, -, arms, harms, htags, hdecode⟩ := @nameLiterals_decode {} rfl
    "AST_Ärger = 3,\nAST_ü,\n" "%token '\"' '\\' e\u0301 \u0378 '\x01'\nexpr\n"
  obtain ⟨contents, block, literals, rfl, hblock, hspells⟩ := hgrammar artifacts hrun
  rw [tokens_names_ofText, productions_names_ofText, ht, hp] at hspells
  exact ⟨⟨contents, block, literals, hrun, hblock, hspells⟩, arms, harms, htags.trans hnames,
    hdecode⟩

end Generation

end TagVocab

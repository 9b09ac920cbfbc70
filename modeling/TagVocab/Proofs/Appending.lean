import TagVocab.Proofs.Layout
import TagVocab.Proofs.SymbolTable.Distinct

/-!
# Lines at the end

Lines that are put behind a text declare what they do on their own, so their new symbols come behind
those of the text. Symbols of the text keep their ordinals, and with them their tags. They keep their
names too: where there are more tokens, the names of productions stand further down in the table, and
are looked for as much further down.
-/

namespace TagVocab

open Text

theorem toList_append_lines (text others : String) :
    (text ++ "\n" ++ others).toList = text.toList ++ '\n' :: others.toList := by
  simp

namespace AstTags

theorem ignoresLineEnds_lineTag? (lead : List Char) :
    IgnoresLineEnds fun line => (lineTag? lead line).toList := by
  constructor
  case carriageReturn =>
    intro line
    rw [lineTag?_eq, lineTag?_eq, trim_concat_blank line (by decide)]
  case nil => cases lead <;> rfl

theorem declaredTags_append (lead text others : String) :
    declaredTags lead (text ++ "\n" ++ others) =
      declaredTags lead text ++ declaredTags lead others := by
  have hlines := (ignoresLineEnds_lineTag? lead.toList).flatMap_lines_append text.toList
    others.toList
  simp only [← List.filterMap_eq_flatMap_toList] at hlines
  rw [declaredTags, toList_append_lines, hlines, List.map_append, declaredTags, declaredTags]

theorem prolongs_tags (lead text others : String) :
    (ofText lead (text ++ "\n" ++ others)).tags.Prolongs (ofText lead text).tags
      (ofText lead others).tags := by
  have h := SymbolList.prolongs_pushAll_append .astNode (declaredTags lead text)
    (declaredTags lead others)
  rwa [← declaredTags_append] at h

end AstTags

namespace GrammarSymbols

theorem declaredTokens_append (text others : String) :
    declaredTokens (text ++ "\n" ++ others) = declaredTokens text ++ declaredTokens others := by
  rw [declaredTokens, toList_append_lines]
  exact indifferent_lineTokens.ignoresLineEnds.flatMap_lines_append text.toList others.toList

theorem declaredProductions_append (text others : String) :
    declaredProductions (text ++ "\n" ++ others) =
      declaredProductions text ++ declaredProductions others := by
  rw [declaredProductions, toList_append_lines]
  exact indifferent_lineProductions.ignoresLineEnds.flatMap_lines_append text.toList others.toList

theorem prolongs_tokens (text others : String) :
    (ofText (text ++ "\n" ++ others)).tokens.Prolongs (ofText text).tokens
      (ofText others).tokens := by
  rw [ofText_eq, ofText_eq, ofText_eq, declaredTokens_append]
  exact SymbolList.prolongs_pushAll_append .token _ _

theorem prolongs_productions (text others : String) :
    (ofText (text ++ "\n" ++ others)).productions.Prolongs (ofText text).productions
      (ofText others).productions := by
  rw [ofText_eq, ofText_eq, ofText_eq, declaredProductions_append]
  exact SymbolList.prolongs_pushAll_append .production _ _

end GrammarSymbols

theorem SymbolRange.valueOf?_of_le {base tag : Tag} {count count' i : Nat} (h : count ≤ count')
    (hv : valueOf? ⟨base, count⟩ i = some tag) : valueOf? ⟨base, count'⟩ i = some tag := by
  rw [valueOf?, Option.ite_none_right_eq_some] at hv ⊢
  exact ⟨Nat.lt_of_lt_of_le hv.1 h, hv.2⟩

theorem SymbolList.Prolongs.zipIdx_subset {longer l other : SymbolList} (h : longer.Prolongs l other)
    (first : Nat) : l.names.zipIdx first ⊆ longer.names.zipIdx first := by
  rw [h.names_eq, List.zipIdx_append]
  exact List.subset_append_left _ _

namespace GrammarTable

/-- Whether a longer table keeps what another one says: the tags of its symbols, by their ordinals and
in the enumeration, and the names of tags. -/
structure Keeps (longer t : GrammarTable) : Prop where
  value : ∀ space i tag, t.spaces.valueOf? space i = some tag →
    longer.spaces.valueOf? space i = some tag
  values : t.values ⊆ longer.values
  lookUp : ∀ tag name, t.lookUp tag = .ok (some name) → longer.lookUp tag = .ok (some name)

theorem keeps_ofSymbols {symbols others longer : GrammarSymbols}
    (ht : longer.tokens.Prolongs symbols.tokens others.tokens)
    (hp : longer.productions.Prolongs symbols.productions others.productions)
    (hmax : longer.tokens.size ≤ 742) :
    (ofSymbols longer (.ofCounts longer.tokens.size longer.productions.size)).Keeps
      (ofSymbols symbols (.ofCounts symbols.tokens.size symbols.productions.size)) := by
  have hvalues : (ofSymbols symbols
      (.ofCounts symbols.tokens.size symbols.productions.size)).values ⊆
        (ofSymbols longer (.ofCounts longer.tokens.size longer.productions.size)).values := by
    rw [values_ofSymbols, values_ofSymbols]
    exact List.append_subset.mpr
      ⟨List.subset_append_of_subset_left _ (ht.zipIdx_subset _),
        List.subset_append_of_subset_right _ (hp.zipIdx_subset _)⟩
  constructor
  case value =>
    intro space i tag h
    cases space with
    | token => exact SymbolRange.valueOf?_of_le ht.size_le h
    | production => exact SymbolRange.valueOf?_of_le hp.size_le h
    | astNode => exact nomatch h
  case values => exact hvalues
  case lookUp =>
    intro tag name h
    rw [lookUp_eq_ok_some_iff (Nat.le_trans ht.size_le hmax)] at h
    rw [lookUp_eq_ok_some_iff hmax]
    exact hvalues h

end GrammarTable

namespace Generation

def Tabulates (s : Settings) (grammar : String) (table : GrammarTable) : Prop :=
  ∃ contents, ofGrammar s grammar = .ok [⟨s.outputs.grammarSymbols, contents⟩] ∧
    GrammarTable.ofText? contents = some table

theorem tabulates_ofSymbols {s : Settings} (hs : s.validate = .ok ()) {grammar : String}
    (h : (GrammarSymbols.ofText grammar).tokens.size ≤ 742) :
    Tabulates s grammar (.ofSymbols (GrammarSymbols.ofText grammar)
      (.ofCounts (GrammarSymbols.ofText grammar).tokens.size
        (GrammarSymbols.ofText grammar).productions.size)) := by
  rw [← SymbolList.length_names, GrammarSymbols.tokens_names_ofText] at h
  obtain ⟨artifacts, hrun⟩ := exists_ofGrammar hs h
  obtain ⟨-, contents, rfl, hread⟩ := exists_table_of_ofGrammar hrun
  exact ⟨contents, hrun, hread⟩

/-- Lines behind a text add the symbols that the text lacks, behind its own, which keep their
ordinals. If the longer grammar can be given tags, so can the shorter one: its symbols have the same
tags in both, and its tags the same names. -/
theorem ofGrammar_append_lines (grammar others : String) :
    (GrammarSymbols.ofText (grammar ++ "\n" ++ others)).tokens.Prolongs
      (GrammarSymbols.ofText grammar).tokens (GrammarSymbols.ofText others).tokens ∧
    (GrammarSymbols.ofText (grammar ++ "\n" ++ others)).productions.Prolongs
      (GrammarSymbols.ofText grammar).productions (GrammarSymbols.ofText others).productions ∧
    (∀ lead ast more, (AstTags.ofText lead (ast ++ "\n" ++ more)).tags.Prolongs
      (AstTags.ofText lead ast).tags (AstTags.ofText lead more).tags) ∧
    ∀ (s : Settings) (spaces : TagSpaces), s.validate = .ok () →
      TagSpaces.assign (GrammarSymbols.ofText (grammar ++ "\n" ++ others)).tokens.size
        (GrammarSymbols.ofText (grammar ++ "\n" ++ others)).productions.size = .ok spaces →
      ∃ table longer,
        TagSpaces.assign (GrammarSymbols.ofText grammar).tokens.size
          (GrammarSymbols.ofText grammar).productions.size = .ok table.spaces ∧
        longer.spaces = spaces ∧ Tabulates s grammar table ∧
        Tabulates s (grammar ++ "\n" ++ others) longer ∧ longer.Keeps table := by
  have ht := GrammarSymbols.prolongs_tokens grammar others
  have hp := GrammarSymbols.prolongs_productions grammar others
  refine ⟨ht, hp, AstTags.prolongs_tags, fun s spaces hs hassign => ?_⟩
  obtain ⟨hmax, rfl⟩ := TagSpaces.assign_eq_ok_iff.mp hassign
  have hmax' := Nat.le_trans ht.size_le hmax
  exact ⟨_, _, TagSpaces.assign_eq_ok_iff.mpr ⟨hmax', rfl⟩, rfl, tabulates_ofSymbols hs hmax',
    tabulates_ofSymbols hs hmax, GrammarTable.keeps_ofSymbols ht hp hmax⟩

/-- A grammar that ends within a line, in a carriage return, and lines that repeat one of its tokens
and add one, so that the names of its productions move down in the table. -/
theorem ofGrammar_append_lines_default :
    TagSpaces.assign
        (GrammarSymbols.ofText ("unit\n%token ID '+'\r" ++ "\n" ++ "%token NUM ID\nexpr")).tokens.size
        (GrammarSymbols.ofText
          ("unit\n%token ID '+'\r" ++ "\n" ++ "%token NUM ID\nexpr")).productions.size =
      .ok (.ofCounts 3 2) ∧
    ∃ table longer, longer.spaces = .ofCounts 3 2 ∧
      Tabulates {} "unit\n%token ID '+'\r" table ∧
      Tabulates {} ("unit\n%token ID '+'\r" ++ "\n" ++ "%token NUM ID\nexpr") longer ∧
      longer.Keeps table := by
  have ht : (GrammarSymbols.ofText
      ("unit\n%token ID '+'\r" ++ "\n" ++ "%token NUM ID\nexpr")).tokens.size = 3 := by
    rw [← SymbolList.length_names, GrammarSymbols.tokens_names_ofText,
      GrammarSymbols.declaredTokens_append]
    decide
  have hp : (GrammarSymbols.ofText
      ("unit\n%token ID '+'\r" ++ "\n" ++ "%token NUM ID\nexpr")).productions.size = 2 := by
    rw [← SymbolList.length_names, GrammarSymbols.productions_names_ofText,
      GrammarSymbols.declaredProductions_append]
    decide
  have hassign : TagSpaces.assign 3 2 = .ok (.ofCounts 3 2) := rfl
  obtain ⟨-, -, -, h⟩ := ofGrammar_append_lines "unit\n%token ID '+'\r" "%token NUM ID\nexpr"
  rw [ht, hp] at h ⊢
  obtain ⟨table, longer, -, hspaces, htable, hlonger, hkeeps⟩ := h {} _ rfl hassign
  exact ⟨hassign, table, longer, hspaces, htable, hlonger, hkeeps⟩

end Generation

end TagVocab

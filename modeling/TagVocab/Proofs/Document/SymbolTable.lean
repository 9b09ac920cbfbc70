import TagVocab.Proofs.Document.GrammarTableReading

/-!
# Symbol tables are read back

Every line of a symbol table is one line, so its text is cut into the lines that were written, and
the table that the text declares is the one that it was written from.
-/

namespace TagVocab.Document

open Text GrammarSymbols

theorem oneLine_of_plain {name : String} (h : Plain name) : OneLine name.toList := by
  constructor
  · intro hc
    exact absurd (h _ hc) (by decide)
  · intro hc
    exact absurd (h _ hc) (by decide)

theorem oneLine_quote (text : String) : OneLine (quote text).toList := by
  rw [quote, String.toList_ofList]
  exact oneLine_encodeLiteral _

theorem oneLine_variant (range : SymbolRange) {symbol : TagSymbol} (h : Plain symbol.name) :
    OneLine (variant range symbol).toList := by
  have hn := oneLine_of_plain h
  have hb := oneLine_toString range.base.toNat
  unfold variant
  split
  · simp only [String.toList_append, oneLine_append]
    exact ⟨⟨⟨⟨oneLine_ofList (by decide), hn⟩, oneLine_ofList (by decide)⟩, hb⟩,
      oneLine_ofList (by decide)⟩
  · simp only [String.toList_append, oneLine_append]
    exact ⟨⟨oneLine_ofList (by decide), hn⟩, oneLine_ofList (by decide)⟩

section

variable (s : Settings) (symbols : GrammarSymbols) (spaces : TagSpaces)

theorem oneLine_symbolEnum (hrt : OneLine s.runtime.toList)
    (ht : ∀ symbol ∈ symbols.tokens.toList, Plain symbol.name)
    (hp : ∀ symbol ∈ symbols.productions.toList, Plain symbol.name) :
    ∀ l ∈ symbolEnum s symbols spaces, OneLine l.toList := by
  have hvariants : ∀ l ∈ symbols.tokens.toList.map (variant spaces.tokens), OneLine l.toList := by
    simp only [List.forall_mem_map]
    exact fun symbol hs => oneLine_variant spaces.tokens (ht symbol hs)
  have hvariants' : ∀ l ∈ symbols.productions.toList.map (variant spaces.productions),
      OneLine l.toList := by
    simp only [List.forall_mem_map]
    exact fun symbol hs => oneLine_variant spaces.productions (hp symbol hs)
  unfold symbolEnum
  simp only [List.forall_mem_append]
  refine ⟨⟨⟨⟨⟨⟨Starts.oneLine (by repeat constructor) (by decide),
    GrammarTable.forall_mem_ite_nil (Starts.oneLine (by repeat constructor) (by decide))⟩,
    Starts.oneLine (by repeat constructor) (by decide)⟩, hvariants⟩, hvariants'⟩,
    Starts.oneLine (by repeat constructor) (by decide)⟩, GrammarTable.forall_mem_ite_nil ?_⟩
  simp only [List.forall_mem_cons, List.not_mem_nil, false_implies, implies_true,
    String.toList_append, oneLine_append, hrt, and_true]
  and_intros <;> exact oneLine_ofList (by decide)

theorem oneLine_rangeConstant (hrt : OneLine s.runtime.toList) {name what : String}
    (hname : OneLine name.toList) (hwhat : OneLine what.toList) (range : SymbolRange) :
    ∀ l ∈ rangeConstant s name what range, OneLine l.toList := by
  have hnumber := oneLine_toString
  unfold rangeConstant
  simp only [List.forall_mem_cons, List.not_mem_nil, false_implies, implies_true,
    String.toList_append, oneLine_append, hnumber, hname, hwhat, hrt, and_true]
  and_intros <;> exact oneLine_ofList (by decide)

theorem oneLine_rangeConstants (hrt : OneLine s.runtime.toList) :
    ∀ l ∈ rangeConstants s spaces, OneLine l.toList := by
  unfold rangeConstants
  simp only [List.forall_mem_append]
  refine ⟨⟨oneLine_rangeConstant s hrt (by decide) (by decide) _,
    oneLine_rangeConstant s hrt (by decide) (by decide) _⟩, ?_⟩
  simp only [List.forall_mem_cons, List.not_mem_nil, false_implies, implies_true,
    String.toList_append, oneLine_append, hrt, and_true]
  and_intros <;> exact oneLine_ofList (by decide)

theorem oneLine_nameElement (name : String) : OneLine (nameElement name).toList := by
  unfold nameElement
  simp only [String.toList_append, oneLine_append]
  exact ⟨⟨oneLine_ofList (by decide), oneLine_quote name⟩, oneLine_ofList (by decide)⟩

theorem oneLine_nameTable : ∀ l ∈ nameTable symbols, OneLine l.toList := by
  have hnumber := oneLine_toString
  unfold nameTable
  simp only [List.forall_mem_append, List.forall_mem_map, List.forall_mem_cons,
    List.not_mem_nil, false_implies, implies_true, String.toList_append, oneLine_append, hnumber,
    oneLine_nameElement, and_true]
  and_intros <;> exact oneLine_ofList (by decide)

theorem oneLine_nameLookup (hrt : OneLine s.runtime.toList) :
    ∀ l ∈ nameLookup s, OneLine l.toList := by
  unfold nameLookup
  simp only [List.forall_mem_cons, List.not_mem_nil, false_implies, implies_true,
    String.toList_append, oneLine_append, hrt, and_true]
  and_intros <;> exact oneLine_ofList (by decide)

theorem oneLine_parseTreePrinter (hrt : OneLine s.runtime.toList) :
    ∀ l ∈ parseTreePrinter s, OneLine l.toList := by
  have hunknown := oneLine_quote unknownTagName
  unfold parseTreePrinter
  simp only [List.forall_mem_cons, List.not_mem_nil, false_implies, implies_true,
    String.toList_append, oneLine_append, hrt, hunknown, and_true]
  and_intros <;> exact oneLine_ofList (by decide)

theorem oneLine_symbolTable (hrt : OneLine s.runtime.toList)
    (ht : ∀ symbol ∈ symbols.tokens.toList, Plain symbol.name)
    (hp : ∀ symbol ∈ symbols.productions.toList, Plain symbol.name) :
    ∀ l ∈ symbolTable s symbols spaces, OneLine l.toList := by
  have hempty : ∀ l ∈ [""], OneLine l.toList := by decide
  unfold symbolTable
  simp only [List.forall_mem_append]
  exact ⟨⟨⟨⟨⟨⟨⟨⟨⟨oneLine_header, oneLine_symbolEnum s symbols spaces hrt ht hp⟩, hempty⟩,
    oneLine_rangeConstants s spaces hrt⟩, hempty⟩, oneLine_nameTable symbols⟩, hempty⟩,
    oneLine_nameLookup s hrt⟩, hempty⟩, oneLine_parseTreePrinter s hrt⟩

theorem ofText?_symbolTable (hr : ∀ c ∈ s.runtime.toList, Settings.isPathChar c)
    (ht : ∀ symbol ∈ symbols.tokens.toList, Plain symbol.name)
    (hp : ∀ symbol ∈ symbols.productions.toList, Plain symbol.name) :
    GrammarTable.ofText? (text (symbolTable s symbols spaces)) =
      some (.ofSymbols symbols spaces) := by
  have hrt : OneLine s.runtime.toList := oneLine_of_forall (by decide) (by decide) hr
  have hlines := linesOf_text _ (oneLine_symbolTable s symbols spaces hrt ht hp)
  -- Each section is found behind the one before it, and an empty line is passed over.
  obtain ⟨lookUp, hlookUp⟩ : ∃ rest, rest = "" :: (nameLookup s ++ "" :: parseTreePrinter s) :=
    ⟨_, rfl⟩
  obtain ⟨names, hnames⟩ : ∃ rest, rest = nameTable symbols ++ lookUp := ⟨_, rfl⟩
  obtain ⟨assertion, hassertion⟩ : ∃ rest,
      rest = GrammarTable.rangeAssertion s ++ "" :: names := ⟨_, rfl⟩
  obtain ⟨enum, henum, hskip⟩ := GrammarTable.readEnum?_symbolEnum s symbols spaces
    ("" :: (rangeConstants s spaces ++ "" :: names)) ht hp
  have hmark : GrammarTable.constant? "TOKEN_RANGE" = locate? "pub const TOKEN_RANGE: " := rfl
  have hreadRanges : GrammarTable.readRanges? enum =
      some (spaces.tokens, spaces.productions, spaces, assertion) := by
    rw [hassertion, ← GrammarTable.readRanges?_rangeConstants s spaces ("" :: names) hr]
    unfold GrammarTable.readRanges?
    rw [hskip, hmark, locate?_empty]
  have hreadNames : GrammarTable.readNames? assertion = some (symbols.names, lookUp) := by
    rw [← GrammarTable.readNames?_nameTable, ← hnames, hassertion]
    unfold GrammarTable.readNames?
    rw [GrammarTable.locate?_rangeAssertion, locate?_empty]
  have hreadLookUp : GrammarTable.readLookUp? lookUp = some lookUpSteps := by
    rw [hlookUp, ← GrammarTable.readLookUp?_nameLookup s ("" :: parseTreePrinter s)]
    unfold GrammarTable.readLookUp?
    rw [locate?_empty]
  have hsections : symbolTable s symbols spaces =
      header ++ (symbolEnum s symbols spaces ++ "" :: (rangeConstants s spaces ++ "" :: names)) := by
    rw [hnames, hlookUp]
    simp [symbolTable]
  unfold GrammarTable.ofText?
  rw [hlines, hsections, henum]
  simp only [Option.bind_eq_bind, Option.bind_some, hreadRanges, hreadNames, hreadLookUp]
  rfl

end

end TagVocab.Document

import TagVocab.Proofs.Document.GrammarTable
import TagVocab.Proofs.GrammarSymbols
import TagVocab.Proofs.Settings

/-!
# Reading back what is written

A written symbol table is read back to the symbols and ranges that it was written from.
-/

namespace TagVocab

open Document Text AstTags GrammarSymbols

namespace GrammarTable

/-- What the line of a symbol declares: only the first of a space states its value. -/
def written (range : SymbolRange) (symbol : TagSymbol) : TableVariant :=
  ⟨symbol.name, if symbol.ordinal = 0 then some range.base.toNat else none⟩

def ofSymbols (symbols : GrammarSymbols) (spaces : TagSpaces) : GrammarTable where
  variants := symbols.tokens.toList.map (written spaces.tokens) ++
    symbols.productions.toList.map (written spaces.productions)
  tokens := spaces.tokens
  productions := spaces.productions
  spaces := spaces
  names := symbols.names
  steps := lookUpSteps

theorem bne_space_of_plain {name : String} (h : Plain name) :
    ∀ c ∈ name.toList, (c != ' ') = true := by
  intro c hc
  rw [bne_iff_ne]
  rintro rfl
  exact absurd (h _ hc) (by decide)

theorem variant?_variant (range : SymbolRange) {symbol : TagSymbol} (h : Plain symbol.name) :
    variant? (variant range symbol) = some (written range symbol) := by
  have hs := bne_space_of_plain h
  unfold variant written
  by_cases h0 : symbol.ordinal = 0
  · have ha : after? "    NODE_"
        ("    NODE_" ++ symbol.name ++ " = " ++ toString range.base.toNat ++ ",") =
        some (symbol.name.toList ++ ' ' :: '=' :: ' ' ::
          (Nat.toDigits 10 range.base.toNat ++ [','])) := by
      simp only [String.append_assoc, after?_append]
      simp
    have hn := readNumber?_toDigits range.base.toNat (by decide : ','.isDigit = false) []
    rw [if_pos h0, if_pos h0, variant?, ha]
    simp only [Option.bind_eq_bind, Option.bind_some]
    rw [dropWhile_append_cons hs (by decide), takeWhile_append_cons hs (by decide)]
    simp [afterLead?, hn]
  · have ha : after? "    NODE_" ("    NODE_" ++ symbol.name ++ ",") =
        some (symbol.name.toList ++ [',']) := by
      simp only [String.append_assoc, after?_append]
      simp
    have hd : (symbol.name.toList ++ [',']).dropWhile (· != ' ') = [] := by
      rw [List.dropWhile_append_of_pos hs]
      rfl
    rw [if_neg h0, if_neg h0, variant?, ha]
    simp [hd]

theorem variant_ne_brace (range : SymbolRange) (symbol : TagSymbol) :
    variant range symbol ≠ "\x7d" := by
  intro h
  have hl := congrArg String.toList h
  unfold variant at hl
  split at hl <;> simp at hl

theorem forall_mem_ite_nil {c : Prop} [Decidable c] {P : String → Prop} {ls : List String}
    (h : ∀ l ∈ ls, P l) : ∀ l ∈ (if c then [] else ls), P l := by
  split
  · simp
  · exact h

section

variable (s : Settings) (symbols : GrammarSymbols) (spaces : TagSpaces) (rest : List String)

theorem readEnum?_symbolEnum (ht : ∀ symbol ∈ symbols.tokens.toList, Plain symbol.name)
    (hp : ∀ symbol ∈ symbols.productions.toList, Plain symbol.name) :
    ∃ doc, readEnum? (header ++ (symbolEnum s symbols spaces ++ rest)) =
        some (symbols.tokens.toList.map (written spaces.tokens) ++
          symbols.productions.toList.map (written spaces.productions), doc) ∧
      constant? "TOKEN_RANGE" doc = constant? "TOKEN_RANGE" rest := by
  have hbody : ∀ l ∈ symbols.tokens.toList.map (variant spaces.tokens) ++
      symbols.productions.toList.map (variant spaces.productions), l ≠ "\x7d" := by
    simp only [List.mem_append, List.mem_map]
    rintro l (⟨symbol, -, rfl⟩ | ⟨symbol, -, rfl⟩)
    · exact variant_ne_brace _ _
    · exact variant_ne_brace _ _
  have hvariants := mapM_map_some fun symbol hs => variant?_variant spaces.tokens (ht symbol hs)
  have hvariants' := mapM_map_some fun symbol hs =>
    variant?_variant spaces.productions (hp symbol hs)
  apply Exists.intro
  constructor
  · unfold readEnum? symbolEnum
    simp only [List.append_assoc]
    rw [locate?_append (Starts.after?_eq_none (by repeat constructor) (by decide)),
      locate?_append (Starts.after?_eq_none (by repeat constructor) (by decide)),
      locate?_append (forall_mem_ite_nil (Starts.after?_eq_none (by repeat constructor)
        (by decide))), List.cons_append, locate?_skip (after?_ofList (by decide)),
      List.cons_append, locate?_skip (after?_ofList (by decide)), List.cons_append,
      locate?_cons rfl]
    simp only [Option.bind_eq_bind, Option.bind_some, List.nil_append]
    rw [← List.append_assoc, List.cons_append, block?_append hbody]
    simp only [Option.bind_some, List.mapM_append, hvariants, hvariants']
    rfl
  · have hmark : constant? "TOKEN_RANGE" = locate? "pub const TOKEN_RANGE: " := rfl
    rw [List.nil_append, hmark]
    simp only [String.append_assoc]
    exact locate?_append (forall_mem_ite_nil (Starts.after?_eq_none (by repeat constructor)
      (by decide))) rest

theorem range?_written (hr : ∀ d ∈ s.runtime.toList, Settings.isPathChar d) (range : SymbolRange) :
    range? (s.runtime ++ ("::SymbolRange = " ++ (s.runtime ++ ("::SymbolRange::new(" ++
      (toString range.base.toNat ++ (", " ++ (toString range.count ++ ");"))))))).toList =
      some range := by
  have hd := Settings.bne_of_isPathChar hr (by decide : Settings.isPathChar '(' = false)
  have hparen : ∀ cs, ("::SymbolRange::new(".toList ++ cs).dropWhile (· != '(') = '(' :: cs :=
    fun _ => rfl
  have hb := readNumber?_toDigits range.base.toNat (by decide : ','.isDigit = false)
  have hc := readNumber?_toDigits range.count (by decide : ')'.isDigit = false) [';']
  have hskip : ((s.runtime ++ ("::SymbolRange = " ++ (s.runtime ++ ("::SymbolRange::new(" ++
      (toString range.base.toNat ++ (", " ++ (toString range.count ++ ");"))))))).toList.dropWhile
        (· != '(')).drop 1 =
      Nat.toDigits 10 range.base.toNat ++ ',' :: ' ' ::
        (Nat.toDigits 10 range.count ++ [')', ';']) := by
    simp only [String.toList_append]
    rw [List.dropWhile_append_of_pos hd,
      List.dropWhile_append_of_pos (List.all_eq_true.mp (by decide)),
      List.dropWhile_append_of_pos hd, hparen]
    simp
  have hcomma : ∀ cs, afterLead? [',', ' '] (',' :: ' ' :: cs) = some cs := fun _ => rfl
  unfold range?
  rw [hskip, hb]
  simp only [Option.bind_eq_bind, Option.bind_some, hcomma, hc]
  rw [if_pos ⟨trivial, range.base.toNat_lt⟩, UInt32.ofNat_toNat]

theorem constant?_skip {line : String} (h : after? "pub const " line = none) (name : String) :
    constant? name (line :: rest) = constant? name rest := by
  rw [constant?, String.append_assoc]
  exact locate?_skip (after?_eq_none_of_append h _) rest

theorem constant?_cons (name tail : String) :
    constant? name (("pub const " ++ (name ++ (": " ++ tail))) :: rest) =
      some (tail.toList, rest) := by
  simp only [← String.append_assoc]
  exact locate?_cons (after?_append _ tail) rest

theorem spaces?_written (hr : ∀ d ∈ s.runtime.toList, Settings.isPathChar d)
    (tokens productions : SymbolRange) :
    spaces? [("TOKEN_RANGE", tokens), ("PRODUCTION_RANGE", productions)]
      (s.runtime ++ ("::TagSpaces = " ++ (s.runtime ++
        "::TagSpaces \x7b tokens: TOKEN_RANGE, productions: PRODUCTION_RANGE \x7d;"))).toList =
      some ⟨tokens, productions⟩ := by
  have hd := Settings.bne_of_isPathChar hr (by decide : Settings.isPathChar '\x7b' = false)
  unfold spaces?
  simp only [String.toList_append]
  rw [List.dropWhile_append_of_pos hd,
    List.dropWhile_append_of_pos (List.all_eq_true.mp (by decide)),
    List.dropWhile_append_of_pos hd]
  rfl

def rangeAssertion : List String :=
  ["",
   "const _: () = assert!(",
   "    TOKEN_RANGE.base == " ++ s.runtime ++ "::TOKEN_BASE && PRODUCTION_RANGE.base == "
     ++ s.runtime ++ "::PRODUCTION_BASE,",
   "    \"grammar symbols were generated against different tag anchors\"",
   ");"]

theorem readRanges?_rangeConstants (hr : ∀ d ∈ s.runtime.toList, Settings.isPathChar d) :
    readRanges? (rangeConstants s spaces ++ rest) =
      some (spaces.tokens, spaces.productions, spaces, rangeAssertion s ++ rest) := by
  have hspaces : "pub const TAG_SPACES: " = "pub const " ++ ("TAG_SPACES" ++ ": ") := rfl
  unfold readRanges? rangeConstants rangeConstant rangeAssertion
  simp only [String.append_assoc, List.cons_append, List.nil_append]
  rw [constant?_skip _ (after?_of_clash (by decide) _), constant?_cons]
  simp only [Option.bind_eq_bind, Option.bind_some]
  rw [range?_written s hr, Option.bind_some, constant?_skip _ (after?_of_clash (by decide) _),
    constant?_cons, Option.bind_some, range?_written s hr, Option.bind_some,
    constant?_skip _ (after?_ofList (by decide)), hspaces, String.append_assoc,
    String.append_assoc, constant?_cons, Option.bind_some, spaces?_written s hr]
  rfl

theorem locate?_rangeAssertion :
    locate? "static GRAMMAR_SYMBOL_NAMES: [&str; " (rangeAssertion s ++ rest) =
      locate? "static GRAMMAR_SYMBOL_NAMES: [&str; " rest := by
  unfold rangeAssertion
  simp only [String.append_assoc]
  exact locate?_append (Starts.after?_eq_none (by repeat constructor) (by decide)) rest

theorem name?_nameElement (name : String) : name? (nameElement name) = some name := by
  have ha : after? "    " (nameElement name) = some (encodeLiteral name.toList ++ [',']) := by
    simp only [nameElement, String.append_assoc, after?_append]
    simp [quote]
  rw [name?, ha]
  simp [decodeLiteral_encodeLiteral]

theorem nameElement_ne_bracket (name : String) : nameElement name ≠ "];" := by
  intro h
  have hl := congrArg String.toList h
  simp [nameElement] at hl

theorem locate?_nameTable :
    locate? "static GRAMMAR_SYMBOL_NAMES: [&str; " (nameTable symbols ++ rest) =
      some (Nat.toDigits 10 symbols.size ++ "] = [".toList,
        symbols.names.map nameElement ++ "];" :: rest) := by
  unfold nameTable
  simp only [String.append_assoc, List.append_assoc, List.cons_append, List.nil_append]
  rw [locate?_skip (after?_ofList (by decide)), locate?_cons (after?_append _ _)]
  simp

theorem readNumber?_size :
    readNumber? (Nat.toDigits 10 symbols.size ++ "] = [".toList) =
      some (symbols.size, "] = [".toList) :=
  readNumber?_toDigits symbols.size (by decide : ']'.isDigit = false) " = [".toList

theorem block?_nameElement (names : List String) :
    block? "];" (names.map nameElement ++ "];" :: rest) = some (names.map nameElement, rest) := by
  have helements : ∀ l ∈ names.map nameElement, l ≠ "];" := by
    rw [List.forall_mem_map]
    exact fun name _ => nameElement_ne_bracket name
  exact block?_append helements rest

theorem readNames?_nameTable :
    readNames? (nameTable symbols ++ rest) = some (symbols.names, rest) := by
  have hnames := mapM_map_some fun name (_ : name ∈ symbols.names) => name?_nameElement name
  rw [readNames?, locate?_nameTable]
  simp only [Option.bind_eq_bind, Option.bind_some, readNumber?_size, block?_nameElement, hnames]
  simp [GrammarSymbols.length_names]

def lookUpBody : List String :=
  ["    if tag < TOKEN_RANGE.base \x7b",
   "        return None;",
   "    \x7d",
   "",
   "    if tag < PRODUCTION_RANGE.base \x7b",
   "        // must be a token",
   "        let which_token = (tag - TOKEN_RANGE.base) as usize;",
   "        if which_token >= TOKEN_RANGE.count \x7b",
   "            return None;",
   "        \x7d",
   "        return Some(GRAMMAR_SYMBOL_NAMES[which_token]);",
   "    \x7d",
   "",
   "    let which_production = (tag - PRODUCTION_RANGE.base) as usize;",
   "    if which_production >= PRODUCTION_RANGE.count \x7b",
   "        return None;",
   "    \x7d",
   "    Some(GRAMMAR_SYMBOL_NAMES[TOKEN_RANGE.count + which_production])"]

theorem lookUpSteps?_lookUpBody :
    lookUpSteps? (lookUpBody.map String.toList) = some lookUpSteps := by
  rw [lookUpBody, Starts.map_toList (by repeat constructor) (by decide)]
  rfl

theorem readLookUp?_nameLookup : readLookUp? (nameLookup s ++ rest) = some lookUpSteps := by
  have hbrace : ∀ l ∈ lookUpBody, l ≠ "\x7d" := fun l hl =>
    ne_of_after?_eq_none (Starts.after?_eq_none (by repeat constructor) (by decide) l hl)
  have hbody : block? "\x7d" (lookUpBody ++ "\x7d" :: rest) = some (lookUpBody, rest) :=
    block?_append hbrace rest
  have hfound : locate? "pub fn grammar_symbol_name(tag: " (nameLookup s ++ rest) =
      some ((s.runtime ++ "::NodeTag) -> Option<&'static str> \x7b").toList,
        lookUpBody ++ "\x7d" :: rest) := by
    unfold nameLookup lookUpBody
    simp only [String.append_assoc, List.cons_append, List.nil_append]
    rw [locate?_skip (after?_ofList (by decide)), locate?_skip (after?_ofList (by decide)),
      locate?_skip (after?_ofList (by decide)), locate?_skip (after?_ofList (by decide)),
      locate?_cons (after?_append _ _)]
  -- Each part is taken from the one before as a fact, not by evaluation of the text.
  exact Option.bind_eq_some_iff.mpr ⟨_, hfound,
    Option.bind_eq_some_iff.mpr ⟨_, hbody, lookUpSteps?_lookUpBody⟩⟩

end

end GrammarTable

end TagVocab

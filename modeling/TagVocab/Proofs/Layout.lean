import TagVocab.Generation
import TagVocab.Proofs.AstTags.TagLine
import TagVocab.Proofs.GrammarSymbols.SymbolLine
import TagVocab.Proofs.Text.Layout

/-!
# Layout does not matter

No line of an enumeration or of a grammar is read differently with a trail behind it, and no line of
an enumeration with blanks in front. So texts that differ in layout only give the same documents, or
the same failure.
-/

namespace TagVocab

open Text

theorem Settings.not_isBlank_of_isIdentifierChar {c : Char} (h : isIdentifierChar c) :
    isBlank c = false := by
  have hblanks : ∀ range ∈ blankRanges, ∀ k < range.2 + 1 - range.1,
      isIdentifierChar (Char.ofNat (range.1 + k)) = false := by
    decide
  rw [Bool.eq_false_iff]
  intro hb
  obtain ⟨range, hmem, hlo, hhi⟩ := CharClass.exists_range_of_has hb
  have hc := hblanks range hmem (c.toNat - range.1) (by omega)
  rw [Nat.add_sub_cancel' hlo, Char.ofNat_toNat, h] at hc
  exact Bool.noConfusion hc

namespace AstTags

variable {lead : List Char}

theorem afterLead?_append_of_blank (hlead : ∀ c ∈ lead, isBlank c = false) {b : Char}
    (hb : isBlank b) (cs rest : List Char) :
    afterLead? lead (cs ++ b :: rest) = (afterLead? lead cs).map (· ++ b :: rest) := by
  induction lead generalizing cs with
  | nil => rfl
  | cons l lead ih =>
    rw [List.forall_mem_cons] at hlead
    cases cs with
    | nil =>
      have hne : l ≠ b := by
        rintro rfl
        rw [hlead.1] at hb
        exact Bool.false_ne_true hb
      simp [afterLead?, hne]
    | cons c cs =>
      rw [List.cons_append, afterLead?, afterLead?]
      split
      · exact ih hlead.2 cs
      · rfl

/-- Whether `cs` is a comma with nothing behind it but blanks and a comment. -/
def closesAtComma : List Char → Bool
  | ',' :: cs => endsLine (skipBlanks cs)
  | _ => false

def closesTag (cs : List Char) : Bool :=
  (skipValue? (skipBlanks cs)).any closesAtComma

theorem tagAt?_eq (lead cs : List Char) : tagAt? lead cs =
    (afterLead? lead cs).bind fun rest =>
      if (rest.takeWhile isWordChar).isEmpty then none
      else if closesTag (rest.dropWhile isWordChar) then some (lead ++ rest.takeWhile isWordChar)
      else none := by
  unfold tagAt? closesTag
  cases afterLead? lead cs with
  | none => rfl
  | some rest =>
    simp only [Option.bind_eq_bind, Option.bind_some]
    cases (rest.takeWhile isWordChar).isEmpty with
    | true => simp
    | false =>
      cases skipValue? (skipBlanks (rest.dropWhile isWordChar)) with
      | none => simp
      | some tail =>
        rw [Option.bind_some, if_neg Bool.false_ne_true, if_neg Bool.false_ne_true, Option.any_some]
        cases tail with
        | nil => rfl
        | cons c cs =>
          by_cases hc : c = ','
          · subst c
            rfl
          · simp [closesAtComma, hc]

theorem endsLine_cons_cons (c d : Char) (cs : List Char) :
    endsLine (c :: d :: cs) = (c = '/' && d = '/') := by
  unfold endsLine
  split <;> simp_all

variable {trail : List Char} (ht : Trail trail)

include ht

theorem endsLine_append_trail (cs : List Char) :
    endsLine (skipBlanks (cs ++ trail)) = endsLine (skipBlanks cs) := by
  obtain ⟨hs, h⟩ | ⟨hs, ds, h, -⟩ | ⟨d, ds, hs, h⟩ := ht.skipBlanks_append cs
  · rw [hs, h]
  · rw [hs, h]
    rfl
  · rw [hs, h]
    cases ds with
    | nil =>
      obtain ⟨b, rest, rfl, hb⟩ := ht.exists_blank_cons
      have hslash : b ≠ '/' := by
        rintro rfl
        exact absurd hb (by decide)
      simp [endsLine, hslash]
    | cons e es => simp [endsLine_cons_cons]

theorem closesAtComma_append_trail (c : Char) (cs : List Char) :
    closesAtComma (c :: (cs ++ trail)) = closesAtComma (c :: cs) := by
  by_cases hc : c = ','
  · subst c
    exact endsLine_append_trail ht cs
  · simp [closesAtComma, hc]

theorem closesAtComma_skipBlanks (cs : List Char) :
    closesAtComma (skipBlanks (cs ++ trail)) = closesAtComma (skipBlanks cs) := by
  obtain ⟨hs, h⟩ | ⟨hs, ds, h, -⟩ | ⟨c, ds, hs, h⟩ := ht.skipBlanks_append cs
  · rw [hs, h]
  · rw [hs, h]
    rfl
  · rw [hs, h]
    exact closesAtComma_append_trail ht c ds

theorem closesAtComma_value_append_trail (cs : List Char) :
    (skipValue? ('=' :: (cs ++ trail))).any closesAtComma =
      (skipValue? ('=' :: cs)).any closesAtComma := by
  have hdigit : StopsRun isDecimalDigit trail := ht.stopsRun fun c => not_isDecimalDigit_of_isBlank
  simp only [skipValue?]
  obtain ⟨hs, h⟩ | ⟨hs, ds, h, -⟩ | ⟨d, ds, hs, h⟩ := ht.skipBlanks_append cs
  · rw [hs, h]
  · have hslash : isDecimalDigit '/' = false := by decide
    simp [hs, h, hslash]
  · rw [hs, h, List.head?_cons, List.head?_cons, Option.any_some]
    split
    · rw [Option.any_some, Option.any_some, ← List.cons_append,
        dropWhile_append_of_stopsRun (d :: ds) hdigit]
      exact closesAtComma_skipBlanks ht _
    · rfl

theorem closesTag_append_trail (cs : List Char) : closesTag (cs ++ trail) = closesTag cs := by
  unfold closesTag
  obtain ⟨hs, h⟩ | ⟨hs, ds, h, -⟩ | ⟨c, ds, hs, h⟩ := ht.skipBlanks_append cs
  · rw [hs, h]
  · rw [hs, h]
    rfl
  · rw [hs, h]
    by_cases hc : c = '='
    · subst c
      exact closesAtComma_value_append_trail ht ds
    · have hcomma := closesAtComma_append_trail ht c ds
      simpa [skipValue?, hc] using hcomma

theorem tagAt?_append_trail (hlead : ∀ c ∈ lead, isBlank c = false) (cs : List Char) :
    tagAt? lead (cs ++ trail) = tagAt? lead cs := by
  have hword : StopsRun isWordChar trail := ht.stopsRun fun c => not_isWordChar_of_isBlank
  have hafter : afterLead? lead (cs ++ trail) = (afterLead? lead cs).map (· ++ trail) := by
    obtain ⟨b, rest, rfl, hb⟩ := ht.exists_blank_cons
    exact afterLead?_append_of_blank hlead hb cs rest
  rw [tagAt?_eq, tagAt?_eq, hafter, Option.bind_map]
  congr 1
  funext rest
  dsimp only [Function.comp]
  rw [takeWhile_append_of_stopsRun rest hword, dropWhile_append_of_stopsRun rest hword,
    closesTag_append_trail ht]

omit ht

theorem tagAt?_append_blanks (hlead : ∀ c ∈ lead, isBlank c = false) (cs : List Char)
    {blanks : List Char} (hb : ∀ c ∈ blanks, isBlank c) :
    tagAt? lead (cs ++ blanks) = tagAt? lead cs := by
  by_cases hne : blanks = []
  · rw [hne, List.append_nil]
  · exact tagAt?_append_trail (.blanks hne hb) hlead cs

/-- Of the blanks that are trimmed off a line, those at its end would not matter anyway. -/
theorem lineTag?_eq_skipBlanks (hlead : ∀ c ∈ lead, isBlank c = false) (line : List Char) :
    lineTag? lead line = tagAt? lead (skipBlanks line) := by
  obtain ⟨blanks, hblanks, hline⟩ := exists_trim_append line
  rw [lineTag?_eq, hline, tagAt?_append_blanks hlead _ hblanks]

/-- A comment declares no tag unless the lead itself starts with a slash. -/
theorem tagAt?_slash (hlead : '/' ∉ lead) (cs : List Char) : tagAt? lead ('/' :: cs) = none := by
  have hslash : isWordChar '/' = false := by decide
  rw [tagAt?_eq]
  cases lead with
  | nil => simp [afterLead?, hslash]
  | cons l lead =>
    have hl : l ≠ '/' := fun heq => hlead (heq ▸ List.mem_cons_self)
    simp [afterLead?, hl]

theorem lineTag?_append_trail (hlead : ∀ c ∈ lead, isBlank c = false) (hslash : '/' ∉ lead)
    (ht : Trail trail) (line : List Char) : lineTag? lead (line ++ trail) = lineTag? lead line := by
  rw [lineTag?_eq_skipBlanks hlead, lineTag?_eq_skipBlanks hlead]
  obtain ⟨hs, h⟩ | ⟨hs, ds, h, -⟩ | ⟨c, ds, hs, h⟩ := ht.skipBlanks_append line
  · rw [hs, h]
  · rw [hs, h, tagAt?_slash hslash]
    cases lead <;> rfl
  · rw [hs, h]
    exact tagAt?_append_trail ht hlead (c :: ds)

theorem lineTag?_append_indent (lead : List Char) {indent : List Char}
    (hi : ∀ c ∈ indent, isBlank c) (line : List Char) :
    lineTag? lead (indent ++ line) = lineTag? lead line := by
  have hskip : skipBlanks (indent ++ line) = skipBlanks line := List.dropWhile_append_of_pos hi
  rw [lineTag?_eq, lineTag?_eq, trim, trim, hskip]

theorem indifferent_lineTag? (hlead : ∀ c ∈ lead, isBlank c = false) (hslash : '/' ∉ lead) :
    Indifferent true fun line => (lineTag? lead line).toList := by
  constructor
  case trail =>
    intro line trail ht _
    rw [lineTag?_append_trail hlead hslash ht]
  case indent =>
    intro _ line indent hi
    rw [lineTag?_append_indent lead hi]
  case nil => cases lead <;> rfl

theorem ofText_of_relaid {lead text text' : String} (hlead : Settings.isIdentifier lead.toList)
    (ht : Relaid true text text') : ofText lead text' = ofText lead text := by
  have hid := Settings.isIdentifierChar_of_isIdentifier hlead
  have hblank : ∀ c ∈ lead.toList, isBlank c = false := fun c hc =>
    Settings.not_isBlank_of_isIdentifierChar (hid c hc)
  have hslash : '/' ∉ lead.toList := fun hc => absurd (hid _ hc) (by decide)
  have hlines := (indifferent_lineTag? hblank hslash).flatMap_lines_of_relaid ht
  rw [← List.filterMap_eq_flatMap_toList, ← List.filterMap_eq_flatMap_toList] at hlines
  rw [ofText, ofText, hlines]

end AstTags

namespace GrammarSymbols

theorem beforeComment_of_blanks {cs : List Char} (h : ∀ c ∈ cs, isBlank c) (rest : List Char) :
    beforeComment (cs ++ rest) = cs ++ beforeComment rest := by
  induction cs with
  | nil => rfl
  | cons c cs ih =>
    rw [List.forall_mem_cons] at h
    have hc : c ≠ '/' := by
      rintro rfl
      exact absurd h.1 (by decide)
    have hopens : opensComment (c :: cs ++ rest) = false := by
      unfold opensComment
      split <;> simp_all
    rw [List.cons_append] at hopens
    rw [List.cons_append, beforeComment, hopens, if_neg Bool.false_ne_true, ih h.2, List.cons_append]

theorem afterType_append_blanks (cs : List Char) {blanks : List Char}
    (hb : ∀ c ∈ blanks, isBlank c) : afterType (cs ++ blanks) = afterType cs ++ blanks := by
  have hclose : blanks.dropWhile (· != '>') = [] := by
    have hrun : ∀ c ∈ blanks, c != '>' := by
      intro c hc
      rw [bne_iff_ne]
      rintro rfl
      exact absurd (hb _ hc) (by decide)
    simpa using dropWhile_run hrun stopsRun_nil
  unfold afterType
  rw [List.dropWhile_append]
  cases cs.dropWhile (· != '>') with
  | nil => simp [hclose]
  | cons c rest => rfl

variable {trail : List Char} (ht : Trail trail)

include ht

theorem opensComment_append_trail (c : Char) (cs : List Char) :
    opensComment (c :: (cs ++ trail)) = opensComment (c :: cs) := by
  obtain ⟨b, rest, rfl, hb⟩ := ht.exists_blank_cons
  cases cs with
  | nil =>
    have hslash : b ≠ '/' := by
      rintro rfl
      exact absurd hb (by decide)
    have hstar : b ≠ '*' := by
      rintro rfl
      exact absurd hb (by decide)
    rw [List.nil_append, opensComment_cons_cons]
    simp [opensComment, hslash, hstar]
  | cons d ds =>
    rw [List.cons_append, opensComment_cons_cons, opensComment_cons_cons]

theorem productionName?_append_trail (hn : '\n' ∉ trail) (line : List Char) :
    productionName? (line ++ trail) = productionName? line := by
  have hname : StopsRun isNameChar trail := ht.stopsRun fun c => not_isNameChar_of_isBlank
  unfold productionName?
  rw [takeWhile_append_of_stopsRun line hname, dropWhile_append_of_stopsRun line hname]
  obtain ⟨hs, h⟩ | ⟨hs, ds, h, hds⟩ | ⟨c, ds, hs, h⟩ :=
    ht.skipBlanks_append (line.dropWhile isNameChar)
  · rw [hs, h]
  · have hns : '\n' ∉ ds := fun hmem => hn (hds hmem)
    simp [hs, h, opensComment, hns]
  · have hcontains : (c :: (ds ++ trail)).contains '\n' = (c :: ds).contains '\n' := by
      simp [hn]
    rw [hs, h]
    dsimp only
    rw [opensComment_append_trail ht c ds, hcontains]
    rfl

theorem beforeComment_append_trail (cs : List Char) : ∃ blanks, (∀ c ∈ blanks, isBlank c) ∧
    beforeComment (cs ++ trail) = beforeComment cs ++ blanks := by
  induction cs with
  | nil =>
    cases ht with
    | blanks hne hbs =>
      have hblanks := beforeComment_of_blanks hbs []
      rw [List.append_nil] at hblanks
      exact ⟨trail, hbs, hblanks.trans (List.append_nil trail)⟩
    | @comment bs hne hbs cs =>
      exact ⟨bs, hbs, by simp [beforeComment_of_blanks hbs, beforeComment, opensComment]⟩
  | cons c cs ih =>
    obtain ⟨blanks, hblanks, heq⟩ := ih
    rw [List.cons_append, beforeComment, beforeComment, opensComment_append_trail ht c cs]
    by_cases ho : opensComment (c :: cs)
    · rw [if_pos ho, if_pos ho]
      exact ⟨[], by simp, rfl⟩
    · rw [if_neg ho, if_neg ho, heq]
      exact ⟨blanks, hblanks, rfl⟩

theorem afterTokenWord?_append_trail (line : List Char) :
    afterTokenWord? (line ++ trail) = (afterTokenWord? line).map (· ++ trail) := by
  obtain ⟨b, rest, rfl, hb⟩ := ht.exists_blank_cons
  have hall : "%token".toList.all fun c => !isBlank c := by decide
  have hword : ∀ c ∈ "%token".toList, isBlank c = false := fun c hc => by
    simpa using List.all_eq_true.mp hall c hc
  rw [afterTokenWord?_eq, afterTokenWord?_eq, AstTags.afterLead?_append_of_blank hword hb]
  cases AstTags.afterLead? "%token".toList line with
  | none => rfl
  | some after =>
    rw [Option.map_some, Option.bind_some, Option.bind_some]
    cases after with
    | nil => simp [tokenRest?, endsTokenWord, hb]
    | cons c cs =>
      rw [List.cons_append, tokenRest?, tokenRest?]
      split <;> rfl

theorem tokenNames?_append_trail (line : List Char) :
    tokenNames? (line ++ trail) = tokenNames? line := by
  unfold tokenNames?
  rw [afterTokenWord?_append_trail ht, Option.map_map]
  congr 1
  funext rest
  obtain ⟨blanks, hblanks, heq⟩ := beforeComment_append_trail ht rest
  dsimp only [Function.comp]
  rw [heq, afterType_append_blanks _ hblanks, words_append_blanks _ hblanks]

omit ht

theorem indifferent_lineTokens : Indifferent false lineTokens := by
  constructor
  case trail =>
    intro line trail ht hn
    rw [lineTokens, lineTokens, productionName?_append_trail ht hn, tokenNames?_append_trail ht]
  case indent =>
    intro h
    cases h
  case nil => rfl

theorem indifferent_lineProductions : Indifferent false lineProductions := by
  constructor
  case trail =>
    intro line trail ht hn
    rw [lineProductions, lineProductions, productionName?_append_trail ht hn]
  case indent =>
    intro h
    cases h
  case nil => rfl

theorem ofText_of_relaid {text text' : String} (ht : Relaid false text text') :
    ofText text' = ofText text := by
  rw [ofText_eq, ofText_eq, declaredTokens, declaredTokens, declaredProductions,
    declaredProductions, indifferent_lineTokens.flatMap_lines_of_relaid ht,
    indifferent_lineProductions.flatMap_lines_of_relaid ht]

end GrammarSymbols

namespace Generation

theorem ofBoth_of_relaid (s : Settings) {ast ast' grammar grammar' : String}
    (ha : Relaid true ast ast') (hg : Relaid false grammar grammar') :
    ofBoth s ast' grammar' = ofBoth s ast grammar := by
  unfold ofBoth validSettings foundRoutes
  cases hs : s.validate with
  | error defect => rfl
  | ok u =>
    have hlead := ((Settings.validate_eq_ok_iff s).mp hs).1
    rw [AstTags.ofText_of_relaid hlead ha, GrammarSymbols.ofText_of_relaid hg]

/-- Neither trails behind the lines of the two texts nor blanks in front of the lines of the
enumeration change what is generated, and nor do carriage returns at all line ends. -/
theorem ofBoth_ignores_layout (s : Settings) (ast grammar : String) :
    (∀ ast' grammar', Relaid true ast ast' → Relaid false grammar grammar' →
      ofBoth s ast' grammar' = ofBoth s ast grammar) ∧
    ofBoth s (withReturns ast) grammar = ofBoth s ast grammar ∧
    ofBoth s ast (withReturns grammar) = ofBoth s ast grammar := by
  refine ⟨fun ast' grammar' ha hg => ofBoth_of_relaid s ha hg, ?_, ?_⟩
  · exact ofBoth_of_relaid s (relaid_withReturns true ast) (.refl false grammar)
  · exact ofBoth_of_relaid s (.refl true ast) (relaid_withReturns false grammar)

theorem ofBoth_ignores_layout_default :
    Relaid true "AST_A,\nAST_B" "\u00A0AST_A,\t// AST_C,\r\nAST_B // ," ∧
      Relaid false "%token <t\nunit /* > */" "%token <t // >\nunit /* > */ //\r" ∧
      ofBoth {} "\u00A0AST_A,\t// AST_C,\r\nAST_B // ," "%token <t // >\nunit /* > */ //\r" =
        ofBoth {} "AST_A,\nAST_B" "%token <t\nunit /* > */" := by
  have ha : Relaid true "AST_A,\nAST_B" "\u00A0AST_A,\t// AST_C,\r\nAST_B // ," := by
    have hfirst := @RelaidLine.mk true ['\u00A0'] "AST_A,".toList "\t// AST_C,\r".toList []
      (by simp) (List.forall_mem_singleton.mpr rfl) (by decide)
      (Or.inr (trail_comment (by decide) " AST_C,\r".toList)) (by decide)
      (Or.inl rfl)
    have hsecond := @RelaidLine.append true "AST_B".toList " // ,".toList
      (Or.inr (trail_comment (by decide) " ,".toList)) (by decide)
    exact .cons hfirst (.cons hsecond .nil)
  have hg : Relaid false "%token <t\nunit /* > */" "%token <t // >\nunit /* > */ //\r" := by
    have hfirst := @RelaidLine.append false "%token <t".toList " // >".toList
      (Or.inr (trail_comment (by decide) " >".toList)) (by decide)
    have hsecond := @RelaidLine.append false "unit /* > */".toList " //\r".toList
      (Or.inr (trail_comment (by decide) "\r".toList)) (by decide)
    exact .cons hfirst (.cons hsecond .nil)
  exact ⟨ha, hg, (ofBoth_ignores_layout {} _ _).1 _ _ ha hg⟩

end Generation

end TagVocab

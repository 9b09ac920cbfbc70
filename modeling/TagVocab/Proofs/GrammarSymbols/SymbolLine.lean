import TagVocab.Proofs.AstTags
import TagVocab.Proofs.Document.Reading
import TagVocab.Proofs.GrammarSymbols
import TagVocab.Proofs.Text.Words

/-!
# The lines that declare symbols

The grammar of the lines that declare a production or tokens, written as the parts that such lines
are made of. A line declares a symbol if and only if it has such parts, no line has the parts of
both kinds, and a text declares what its lines do.
-/

namespace TagVocab.GrammarSymbols

open Text

def Commented (cs : List Char) : Prop :=
  cs = [] ∨ opensComment cs

/-- Whether a line declares the production `name`: it starts with the name, and behind it come
blanks and perhaps a comment. -/
inductive ProductionLine : List Char → List Char → Prop where
  | mk {name gap comment : List Char} (hne : name ≠ []) (hname : ∀ c ∈ name, isNameChar c)
    (hgap : ∀ c ∈ gap, isBlank c) (hcomment : Commented comment) :
    ProductionLine (name ++ (gap ++ comment)) name

/-- Whether `code` and `comment` are what stands in front of the first comment of `cs`, and the rest
from there on. -/
structure CommentCut (cs code comment : List Char) : Prop where
  append : cs = code ++ comment
  commented : Commented comment
  first : ∀ before behind, cs = before ++ behind → opensComment behind → code.length ≤ before.length

/-- Whether `rest` is what follows the first closing angle bracket of a text, or all of it if there
is none. -/
inductive BehindType : List Char → List Char → Prop where
  | typed {type rest : List Char} (h : '>' ∉ type) : BehindType (type ++ '>' :: rest) rest
  | untyped {rest : List Char} (h : '>' ∉ rest) : BehindType rest rest

def endsTokenWord (c : Char) : Bool :=
  isBlank c || c = '<'

/-- Whether a line declares the tokens `names`: it starts with the word for that, and behind the
type the names are all that stands there, up to a comment. -/
inductive TokenLine : List Char → List (List Char) → Prop where
  | mk {rest code comment body : List Char} {names : List (List Char)}
    (hrest : StopsRun (!endsTokenWord ·) rest) (hcut : CommentCut rest code comment)
    (hbody : BehindType code body) (hnames : Spaced names body) :
    TokenLine ("%token".toList ++ rest) names

theorem opensComment_cons_cons (c d : Char) (cs : List Char) :
    opensComment (c :: d :: cs) = (c = '/' && (d = '/' || d = '*')) := by
  unfold opensComment
  split <;> simp_all

theorem Commented.stopsRun {p : Char → Bool} {cs : List Char} (h : Commented cs)
    (hp : p '/' = false) : StopsRun p cs := by
  rcases h with rfl | h
  · exact stopsRun_nil
  · unfold opensComment at h
    split at h
    · exact stopsRun_cons.mpr hp
    · exact stopsRun_cons.mpr hp
    · exact nomatch h

section

variable {line name : List Char}

theorem ProductionLine.productionName?_eq (h : ProductionLine line name) (hn : '\n' ∉ line) :
    productionName? line = some name := by
  obtain @⟨_, gap, comment, hne, hname, hgap, hcomment⟩ := h
  have hbehind : StopsRun isNameChar (gap ++ comment) :=
    StopsRun.append (fun c hc => not_isNameChar_of_isBlank (hgap c hc))
      (hcomment.stopsRun (by decide))
  have hrest : skipBlanks (gap ++ comment) = comment :=
    dropWhile_run hgap (hcomment.stopsRun (by decide))
  have hfeed : '\n' ∉ comment := fun hmem => hn (by simp [hmem])
  unfold productionName?
  rw [takeWhile_run hname hbehind, dropWhile_run hname hbehind, hrest]
  rcases hcomment with rfl | hcomment
  · simp [hne]
  · simp [hne, hcomment, hfeed]

theorem productionLine_of_productionName? (h : productionName? line = some name) :
    ProductionLine line name := by
  obtain ⟨gap, hgap, hbehind⟩ := exists_blanks (line.dropWhile isNameChar)
  unfold productionName? at h
  dsimp only at h
  split_ifs at h with hempty hends
  obtain rfl := Option.some.inj h
  have hcomment : Commented (skipBlanks (line.dropWhile isNameChar)) := by
    rw [Bool.or_eq_true, Bool.and_eq_true, List.isEmpty_iff] at hends
    exact hends.imp_right And.left
  have hline : line = line.takeWhile isNameChar ++ (gap ++ skipBlanks (line.dropWhile isNameChar)) := by
    rw [← hbehind, List.takeWhile_append_dropWhile]
  have hmk := ProductionLine.mk (by simpa using hempty) (List.all_eq_true.mp List.all_takeWhile) hgap
    hcomment
  rwa [← hline] at hmk

end

section

variable {cs code comment : List Char}

theorem exists_commentCut (cs : List Char) : ∃ comment, CommentCut cs (beforeComment cs) comment := by
  induction cs with
  | nil => exact ⟨[], rfl, Or.inl rfl, fun before behind _ _ => Nat.zero_le before.length⟩
  | cons c cs ih =>
    rw [beforeComment]
    by_cases ho : opensComment (c :: cs)
    · rw [if_pos ho]
      exact ⟨c :: cs, rfl, Or.inr ho, fun before behind _ _ => Nat.zero_le before.length⟩
    · rw [if_neg ho]
      obtain ⟨comment, happend, hcomment, hfirst⟩ := ih
      refine ⟨comment, congrArg (c :: ·) happend, hcomment, ?_⟩
      intro before behind heq hbehind
      cases before with
      | nil =>
        rw [List.nil_append] at heq
        exact absurd (heq ▸ hbehind) ho
      | cons b before =>
        exact Nat.succ_le_succ (hfirst before behind (List.cons.inj heq).2 hbehind)

theorem CommentCut.length_le (h : CommentCut cs code comment) {code' comment' : List Char}
    (h' : CommentCut cs code' comment') : code.length ≤ code'.length := by
  rcases h'.commented with hnil | hopens
  · have hcode : cs = code' := by rw [h'.append, hnil, List.append_nil]
    have hlength := congrArg List.length h.append
    rw [List.length_append, hcode] at hlength
    omega
  · exact h.first code' comment' h'.append hopens

theorem beforeComment_eq_iff : beforeComment cs = code ↔ ∃ comment, CommentCut cs code comment := by
  constructor
  · rintro rfl
    exact exists_commentCut cs
  · rintro ⟨comment, h⟩
    obtain ⟨comment', h'⟩ := exists_commentCut cs
    have hlength := Nat.le_antisymm (h'.length_le h) (h.length_le h')
    exact (List.append_inj (h'.append.symm.trans h.append) hlength).1

end

theorem bne_of_not_mem {cs : List Char} {d : Char} (h : d ∉ cs) : ∀ c ∈ cs, (c != d) = true := by
  intro c hc
  rw [bne_iff_ne]
  rintro rfl
  exact h hc

theorem BehindType.afterType_eq {cs rest : List Char} (h : BehindType cs rest) :
    afterType cs = rest := by
  unfold afterType
  cases h with
  | typed h => rw [dropWhile_run (bne_of_not_mem h) (stopsRun_cons.mpr (by decide))]
  | untyped h =>
    have hdrop := dropWhile_run (bne_of_not_mem h) stopsRun_nil
    rw [List.append_nil] at hdrop
    rw [hdrop]

theorem behindType_afterType (cs : List Char) : BehindType cs (afterType cs) := by
  obtain ⟨type, htype, hcs⟩ := exists_run (· != '>') cs
  have hnone : '>' ∉ type := fun hmem => absurd (htype _ hmem) (by decide)
  have hstop : StopsRun (· != '>') (cs.dropWhile (· != '>')) := stopsRun_dropWhile
  unfold afterType
  cases hd : cs.dropWhile (· != '>') with
  | nil =>
    rw [hd, List.append_nil] at hcs
    exact .untyped (hcs ▸ hnone)
  | cons c rest =>
    have hc : c = '>' := by
      rw [hd, stopsRun_cons] at hstop
      simpa using hstop
    rw [hd, hc] at hcs
    rw [hcs]
    exact .typed hnone

def tokenRest? : List Char → Option (List Char)
  | [] => some []
  | c :: cs => if endsTokenWord c then some (c :: cs) else none

theorem afterTokenWord?_eq (line : List Char) :
    afterTokenWord? line = (AstTags.afterLead? "%token".toList line).bind tokenRest? := by
  unfold afterTokenWord?
  split
  · next rest =>
    cases rest <;> rfl
  · next hne =>
    cases h : AstTags.afterLead? "%token".toList line with
    | none => rfl
    | some rest => exact absurd (AstTags.eq_append_of_afterLead? h) (hne rest)

theorem tokenRest?_eq_some_iff {cs rest : List Char} :
    tokenRest? cs = some rest ↔ cs = rest ∧ StopsRun (!endsTokenWord ·) rest := by
  cases cs with
  | nil =>
    rw [tokenRest?, Option.some.injEq]
    constructor
    · rintro rfl
      exact ⟨rfl, stopsRun_nil⟩
    · exact And.left
  | cons c cs =>
    rw [tokenRest?, Option.ite_none_right_eq_some, Option.some.injEq, and_comm]
    constructor
    · rintro ⟨rfl, hc⟩
      exact ⟨rfl, stopsRun_cons.mpr (by simpa using hc)⟩
    · rintro ⟨rfl, hstop⟩
      exact ⟨rfl, by simpa using stopsRun_cons.mp hstop⟩

theorem afterTokenWord?_eq_some_iff {line rest : List Char} :
    afterTokenWord? line = some rest ↔
      line = "%token".toList ++ rest ∧ StopsRun (!endsTokenWord ·) rest := by
  rw [afterTokenWord?_eq, Option.bind_eq_some_iff]
  constructor
  · rintro ⟨after, hafter, hrest⟩
    obtain ⟨rfl, hstop⟩ := tokenRest?_eq_some_iff.mp hrest
    exact ⟨AstTags.eq_append_of_afterLead? hafter, hstop⟩
  · rintro ⟨rfl, hstop⟩
    exact ⟨rest, AstTags.afterLead?_append _ rest, tokenRest?_eq_some_iff.mpr ⟨rfl, hstop⟩⟩

theorem tokenNames?_eq_some_iff {line : List Char} {names : List (List Char)} :
    tokenNames? line = some names ↔ TokenLine line names := by
  unfold tokenNames?
  rw [Option.map_eq_some_iff]
  constructor
  · rintro ⟨rest, hrest, hnames⟩
    obtain ⟨rfl, hstop⟩ := afterTokenWord?_eq_some_iff.mp hrest
    obtain ⟨comment, hcut⟩ := exists_commentCut rest
    exact .mk hstop hcut (behindType_afterType _) (words_eq_iff.mp hnames)
  · rintro @⟨rest, code, comment, body, _, hstop, hcut, hbody, hnames⟩
    have hcode := beforeComment_eq_iff.mpr ⟨comment, hcut⟩
    refine ⟨rest, afterTokenWord?_eq_some_iff.mpr ⟨rfl, hstop⟩, ?_⟩
    rw [hcode, hbody.afterType_eq, hnames.words_eq]

theorem ProductionLine.not_tokenLine {line name : List Char} (h : ProductionLine line name)
    (names : List (List Char)) : ¬ TokenLine line names := by
  obtain @⟨_, gap, comment, hne, hname, -, -⟩ := h
  obtain ⟨c, cs, rfl⟩ := List.exists_cons_of_ne_nil hne
  have hc : isNameChar c := hname c List.mem_cons_self
  intro ht
  generalize hline : c :: cs ++ (gap ++ comment) = line at ht
  cases ht
  obtain rfl := (List.cons.inj hline).1
  exact absurd hc (by decide)

theorem lineProductions_eq_nil {line : List Char} (h : ∀ name, ¬ ProductionLine line name) :
    lineProductions line = [] := by
  unfold lineProductions
  cases hp : productionName? line with
  | none => rfl
  | some name => exact absurd (productionLine_of_productionName? hp) (h name)

theorem lineTokens_eq_nil {line : List Char} (h : ∀ names, ¬ TokenLine line names) :
    lineTokens line = [] := by
  unfold lineTokens
  cases ht : tokenNames? line with
  | none => simp
  | some names => exact absurd (tokenNames?_eq_some_iff.mp ht) (h names)

theorem TokenLine.lineTokens_eq {line : List Char} {names : List (List Char)}
    (h : TokenLine line names) : lineTokens line = names.map String.ofList := by
  have hnone : productionName? line = none := by
    cases hp : productionName? line with
    | none => rfl
    | some name => exact absurd h ((productionLine_of_productionName? hp).not_tokenLine names)
  rw [lineTokens, hnone, tokenNames?_eq_some_iff.mpr h]
  rfl

/-- The productions and the tokens of a text are the first occurrences, each among their own kind,
of those that its lines declare. A line of the form of a production declares its name alone, one of
the form of tokens declares its words alone, no line has both forms, and all others declare
nothing. -/
theorem ofText_reads_symbolLines (text : String) :
    (ofText text).productions.names =
      ((lines text.toList).flatMap lineProductions).eraseDups ∧
    (ofText text).tokens.names = ((lines text.toList).flatMap lineTokens).eraseDups ∧
    ∀ line ∈ lines text.toList,
      (∀ name, ProductionLine line name → lineProductions line = [String.ofList name]) ∧
      (∀ names, TokenLine line names → lineTokens line = names.map String.ofList) ∧
      ((∀ name, ¬ ProductionLine line name) → lineProductions line = []) ∧
      ((∀ names, ¬ TokenLine line names) → lineTokens line = []) ∧
      ∀ name names, ProductionLine line name → ¬ TokenLine line names := by
  refine ⟨productions_names_ofText text, tokens_names_ofText text, fun line hline => ?_⟩
  have hfeed := lineFeed_not_mem_of_mem_lines hline
  refine ⟨fun name h => ?_, fun names h => h.lineTokens_eq, lineProductions_eq_nil,
    lineTokens_eq_nil, fun name names h => h.not_tokenLine names⟩
  rw [lineProductions, h.productionName?_eq hfeed]
  rfl

theorem ofText_reads_symbolLines_shared :
    ("expr// e".toList ∈ lines "expr// e\n%token <t>expr B// > C".toList ∧
      ProductionLine "expr// e".toList "expr".toList) ∧
    ("%token <t>expr B// > C".toList ∈ lines "expr// e\n%token <t>expr B// > C".toList ∧
      TokenLine "%token <t>expr B// > C".toList ["expr".toList, "B".toList]) ∧
    lineProductions "expr// e".toList = ["expr"] ∧
    lineTokens "%token <t>expr B// > C".toList = ["expr", "B"] := by
  obtain ⟨-, -, h⟩ := ofText_reads_symbolLines "expr// e\n%token <t>expr B// > C"
  have hp : "expr// e".toList ∈ lines "expr// e\n%token <t>expr B// > C".toList := by decide
  have ht : "%token <t>expr B// > C".toList ∈ lines "expr// e\n%token <t>expr B// > C".toList := by
    decide
  have hproduction : ProductionLine "expr// e".toList "expr".toList :=
    productionLine_of_productionName? (by decide)
  have htokens : TokenLine "%token <t>expr B// > C".toList ["expr".toList, "B".toList] :=
    tokenNames?_eq_some_iff.mp (by decide)
  exact ⟨⟨hp, hproduction⟩, ⟨ht, htokens⟩, (h _ hp).1 _ hproduction, (h _ ht).2.1 _ htokens⟩

-- A comment is cut off before the type is looked for, and hides a closing angle bracket.
example : tokenNames? "%token<a b>/x>c/* > */".toList = some ["/x>c".toList] := by
  decide

end TagVocab.GrammarSymbols

import Mathlib.Tactic.SplitIfs
import TagVocab.GrammarSymbols
import TagVocab.Proofs.SymbolList

/-!
# The symbols that a grammar declares

What each line declares, and the symbols of a text as the first occurrences of what its lines
declare. No name holds a blank.
-/

namespace TagVocab

namespace Text

theorem not_of_mem_splitOnPPrepend {p : Char → Bool} {cs begun : List Char}
    (hb : ∀ c ∈ begun, p c = false) :
    ∀ w ∈ cs.splitOnPPrepend p begun, ∀ c ∈ w, p c = false := by
  induction cs generalizing begun with
  | nil =>
    intro w hw
    rw [List.splitOnPPrepend_nil, List.mem_singleton] at hw
    simpa [hw] using hb
  | cons d cs ih =>
    intro w hw
    rw [List.splitOnPPrepend_cons_eq_if] at hw
    split at hw
    · rcases List.mem_cons.mp hw with rfl | hw
      · simpa using hb
      · exact ih (by simp) w hw
    · next hd =>
      refine ih ?_ w hw
      rw [List.forall_mem_cons]
      exact ⟨by simpa using hd, hb⟩

theorem not_isBlank_of_mem_words {cs w : List Char} (hw : w ∈ words cs) :
    ∀ c ∈ w, isBlank c = false :=
  not_of_mem_splitOnPPrepend (by simp) w (List.mem_filter.mp hw).1

theorem lineFeed_not_mem_of_mem_lines {cs line : List Char} (h : line ∈ lines cs) :
    '\n' ∉ line := by
  have hpiece : ∀ piece ∈ cs.splitOn '\n', '\n' ∉ piece := by
    intro piece hp hmem
    exact absurd (not_of_mem_splitOnPPrepend (by simp) piece hp _ hmem) (by decide)
  rcases List.mem_append.mp h with h | h
  · obtain ⟨piece, hp, rfl⟩ := List.mem_map.mp h
    have hfeed := hpiece piece (List.dropLast_subset _ hp)
    unfold dropReturn
    split
    · exact fun hmem => hfeed (List.dropLast_subset _ hmem)
    · exact hfeed
  · rw [Option.mem_toList, Option.filter_eq_some_iff] at h
    exact hpiece line (List.mem_of_getLast? h.1)

end Text

open Text

namespace GrammarSymbols

def lineProductions (line : List Char) : List String :=
  (productionName? line).toList.map String.ofList

def lineTokens (line : List Char) : List String :=
  if (productionName? line).isSome then []
  else ((tokenNames? line).getD []).map String.ofList

def declaredTokens (text : String) : List String :=
  (lines text.toList).flatMap lineTokens

def declaredProductions (text : String) : List String :=
  (lines text.toList).flatMap lineProductions

theorem addLine_eq (s : GrammarSymbols) (line : List Char) :
    s.addLine line = ⟨s.tokens.pushAll (lineTokens line),
      s.productions.pushAll (lineProductions line)⟩ := by
  unfold addLine lineTokens lineProductions
  cases productionName? line with
  | some name => rfl
  | none => cases tokenNames? line <;> rfl

theorem foldl_addLine (s : GrammarSymbols) (ls : List (List Char)) :
    ls.foldl addLine s = ⟨s.tokens.pushAll (ls.flatMap lineTokens),
      s.productions.pushAll (ls.flatMap lineProductions)⟩ := by
  induction ls generalizing s with
  | nil => rfl
  | cons l ls ih =>
    rw [List.foldl_cons, ih, addLine_eq]
    simp only [List.flatMap_cons, SymbolList.pushAll_append]

theorem ofText_eq (text : String) :
    ofText text = ⟨(SymbolList.empty .token).pushAll (declaredTokens text),
      (SymbolList.empty .production).pushAll (declaredProductions text)⟩ :=
  foldl_addLine {} (lines text.toList)

theorem tokens_names_ofText (text : String) :
    (ofText text).tokens.names = (declaredTokens text).eraseDups := by
  rw [ofText_eq]
  exact SymbolList.names_pushAll_empty .token _

theorem productions_names_ofText (text : String) :
    (ofText text).productions.names = (declaredProductions text).eraseDups := by
  rw [ofText_eq]
  exact SymbolList.names_pushAll_empty .production _

theorem length_names (s : GrammarSymbols) : s.names.length = s.size := by
  rw [names, size, List.length_append, SymbolList.length_names, SymbolList.length_names]

/-- Without blanks, and so on one line. -/
def Plain (name : String) : Prop :=
  ∀ c ∈ name.toList, isBlank c = false

theorem not_isBlank_of_isNameChar {c : Char} (h : isNameChar c) : isBlank c = false := by
  simp only [isNameChar, Bool.or_eq_true, Bool.and_eq_true, decide_eq_true_eq] at h
  rcases h with rfl | ⟨ha, hz⟩
  · decide
  · have hlo : 97 ≤ c.toNat := ha
    have hhi : c.toNat ≤ 122 := hz
    simp [isBlank, blankRanges, CharClass.has]
    omega

theorem not_isNameChar_of_isBlank {c : Char} (h : isBlank c) : isNameChar c = false := by
  rw [Bool.eq_false_iff]
  intro hc
  rw [not_isBlank_of_isNameChar hc] at h
  exact Bool.false_ne_true h

theorem plain_of_mem_lineTokens {line : List Char} {name : String} (h : name ∈ lineTokens line) :
    Plain name := by
  unfold lineTokens at h
  split at h
  · simp at h
  · obtain ⟨w, hw, rfl⟩ := List.mem_map.mp h
    rw [Plain, String.toList_ofList]
    unfold tokenNames? at hw
    cases ha : afterTokenWord? line with
    | none => simp [ha] at hw
    | some rest =>
      rw [ha, Option.map_some, Option.getD_some] at hw
      exact not_isBlank_of_mem_words hw

theorem plain_of_mem_lineProductions {line : List Char} {name : String}
    (h : name ∈ lineProductions line) : Plain name := by
  obtain ⟨w, hw, rfl⟩ := List.mem_map.mp h
  rw [Option.mem_toList, productionName?] at hw
  rw [Plain, String.toList_ofList]
  intro c hc
  have hw' : w = line.takeWhile isNameChar := by
    split_ifs at hw
    exact (Option.some.inj hw).symm
  rw [hw'] at hc
  exact not_isBlank_of_isNameChar (List.all_eq_true.mp List.all_takeWhile c hc)

theorem plain_of_mem_declaredTokens {text name : String} (h : name ∈ declaredTokens text) :
    Plain name := by
  obtain ⟨line, -, hn⟩ := List.mem_flatMap.mp h
  exact plain_of_mem_lineTokens hn

theorem plain_of_mem_declaredProductions {text name : String}
    (h : name ∈ declaredProductions text) : Plain name := by
  obtain ⟨line, -, hn⟩ := List.mem_flatMap.mp h
  exact plain_of_mem_lineProductions hn

theorem plain_of_mem_tokens {text name : String} (h : name ∈ (ofText text).tokens.names) :
    Plain name := by
  rw [tokens_names_ofText, List.mem_eraseDups] at h
  exact plain_of_mem_declaredTokens h

theorem plain_of_mem_productions {text name : String}
    (h : name ∈ (ofText text).productions.names) : Plain name := by
  rw [productions_names_ofText, List.mem_eraseDups] at h
  exact plain_of_mem_declaredProductions h

end GrammarSymbols

end TagVocab

import TagVocab.Generation
import TagVocab.Proofs.Document.SymbolTable
import TagVocab.Proofs.Tag

/-!
# Grammar symbol tables

For every grammar the four parts of its symbol table agree: the values of the enumeration, the
ranges, the names and the look-up.
-/

namespace TagVocab

open Document GrammarSymbols

theorem plain_of_mem_toList {l : SymbolList} (h : ∀ name ∈ l.names, Plain name) :
    ∀ symbol ∈ l.toList, Plain symbol.name := by
  intro symbol hs
  exact h symbol.name (List.mem_map_of_mem hs)

namespace GrammarTable

/-- Variants of a space count on from its base. Behind them, the next value matters to variants
without one. -/
theorem exists_valuesFrom_written (range : SymbolRange) (space : SymbolSpace)
    (others : List TableVariant) (names : List String) (first next : Nat)
    (h : first ≠ 0 → next = range.base.toNat + first) :
    ∃ behind, valuesFrom next ((names.zipIdx first).map
        (fun (name, ordinal) => written range ⟨name, space, ordinal⟩) ++ others) =
      names.zipIdx (range.base.toNat + first) ++ valuesFrom behind others := by
  induction names generalizing first next with
  | nil => exact ⟨next, rfl⟩
  | cons name names ih =>
    have hvalue : (written range ⟨name, space, first⟩).stated.getD next =
        range.base.toNat + first := by
      unfold written
      by_cases h0 : first = 0
      · simp [h0]
      · simp [h0, h h0]
    obtain ⟨behind, hbehind⟩ := ih (first + 1) (range.base.toNat + (first + 1)) fun _ => rfl
    refine ⟨behind, ?_⟩
    rw [List.zipIdx_cons, List.map_cons, List.cons_append, valuesFrom, hvalue, Nat.add_assoc,
      hbehind, List.zipIdx_cons, Nat.add_assoc]
    rfl

theorem exists_valuesFrom_toList (range : SymbolRange) (others : List TableVariant)
    (l : SymbolList) (next : Nat) :
    ∃ behind, valuesFrom next (l.toList.map (written range) ++ others) =
      l.names.zipIdx range.base.toNat ++ valuesFrom behind others := by
  have hl : l.toList.map (written range) = (l.names.zipIdx 0).map
      fun (name, ordinal) => written range ⟨name, l.space, ordinal⟩ := by
    rw [SymbolList.toList_eq_mapIdx, List.mapIdx_eq_zipIdx_map, List.map_map]
    rfl
  rw [hl]
  exact exists_valuesFrom_written range l.space others l.names 0 next fun h => absurd rfl h

theorem values_ofSymbols (symbols : GrammarSymbols) (spaces : TagSpaces) :
    (ofSymbols symbols spaces).values =
      symbols.tokens.names.zipIdx spaces.tokens.base.toNat ++
        symbols.productions.names.zipIdx spaces.productions.base.toNat := by
  obtain ⟨behind, ht⟩ := exists_valuesFrom_toList spaces.tokens
    (symbols.productions.toList.map (written spaces.productions)) symbols.tokens 0
  obtain ⟨last, hp⟩ := exists_valuesFrom_toList spaces.productions [] symbols.productions behind
  rw [List.append_nil, valuesFrom, List.append_nil] at hp
  rw [values, ofSymbols, ht, hp]

theorem lookUp_ofSymbols (symbols : GrammarSymbols)
    (hword : symbols.tokens.size + 2 ^ 32 ≤ 2 ^ 64) (tag : Tag) :
    (ofSymbols symbols (.ofCounts symbols.tokens.size symbols.productions.size)).lookUp tag =
      .ok (SymbolNames.name? ⟨.ofCounts symbols.tokens.size symbols.productions.size,
        symbols.names⟩ tag) := by
  exact runLookUp_lookUpSteps ⟨tokenBase, symbols.tokens.size⟩
    ⟨productionBase, symbols.productions.size⟩ tag symbols.length_names hword

end GrammarTable

namespace SymbolNames

theorem name?_eq_some_iff {tokens : List String} (ht : tokens.length ≤ 742)
    (productions : List String) (tag : Tag) (name : String) :
    name? ⟨.ofCounts tokens.length productions.length, tokens ++ productions⟩ tag = some name ↔
      (name, tag.toNat) ∈ tokens.zipIdx 258 ++ productions.zipIdx 1000 := by
  have hlow : tag < tokenBase ↔ tag.toNat < 258 := UInt32.lt_iff_toNat_lt
  have hmid : tag < productionBase ↔ tag.toNat < 1000 := UInt32.lt_iff_toNat_lt
  have hsub (h : ¬ tag.toNat < 258) : (tag - tokenBase).toNat = tag.toNat - 258 :=
    toNat_sub_of_not_lt (mt hlow.mp h)
  have hsub' (h : ¬ tag.toNat < 1000) : (tag - productionBase).toNat = tag.toNat - 1000 :=
    toNat_sub_of_not_lt (mt hmid.mp h)
  rw [List.mem_append, List.mk_mem_zipIdx_iff_le_and_getElem?_sub,
    List.mk_mem_zipIdx_iff_le_and_getElem?_sub]
  have hposition :
      position? ⟨.ofCounts tokens.length productions.length, tokens ++ productions⟩ tag =
        if tag < tokenBase then none
        else if tag < productionBase then
          if (tag - tokenBase).toNat < tokens.length then some (tag - tokenBase).toNat else none
        else if (tag - productionBase).toNat < productions.length then
          some (tokens.length + (tag - productionBase).toNat)
        else none :=
    rfl
  rw [name?, hposition]
  simp only [hlow, hmid]
  by_cases h : tag.toNat < 258
  · have hno : ¬ 258 ≤ tag.toNat := by omega
    have hno' : ¬ 1000 ≤ tag.toNat := by omega
    simp [h, hno, hno']
  · have hyes : 258 ≤ tag.toNat := Nat.not_lt.mp h
    rw [if_neg h, hsub h]
    by_cases h' : tag.toNat < 1000
    · have hno' : ¬ 1000 ≤ tag.toNat := by omega
      rw [if_pos h']
      by_cases hk : tag.toNat - 258 < tokens.length
      · simp [hk, hyes, hno', List.getElem?_append_left hk]
      · simp [hk, hno']
    · have hyes' : 1000 ≤ tag.toNat := Nat.not_lt.mp h'
      have hbehind : tokens[tag.toNat - 258]? = none := List.getElem?_eq_none (by omega)
      rw [if_neg h', hsub' h', hbehind]
      by_cases hk : tag.toNat - 1000 < productions.length
      · simp [hk, hyes']
      · simp [hk]

end SymbolNames

namespace GrammarTable

theorem lookUp_eq_ok_some_iff {symbols : GrammarSymbols} (hmax : symbols.tokens.size ≤ 742)
    {tag : Tag} {name : String} :
    (ofSymbols symbols (.ofCounts symbols.tokens.size symbols.productions.size)).lookUp tag =
        .ok (some name) ↔
      (name, tag.toNat) ∈ (ofSymbols symbols
        (.ofCounts symbols.tokens.size symbols.productions.size)).values := by
  have hlength : symbols.tokens.names.length ≤ 742 := by simpa using hmax
  have hname := SymbolNames.name?_eq_some_iff hlength symbols.productions.names tag name
  simp only [SymbolList.length_names] at hname
  rw [lookUp_ofSymbols symbols (by omega), Except.ok.injEq, values_ofSymbols]
  exact hname

variable (s : Settings) (hr : ∀ c ∈ s.runtime.toList, Settings.isPathChar c)
variable (symbols : GrammarSymbols)
variable (ht : ∀ name ∈ symbols.tokens.names, Plain name)
variable (hp : ∀ name ∈ symbols.productions.names, Plain name)

end GrammarTable

namespace Generation

theorem assignedSpaces_of_le {symbols : GrammarSymbols} (h : symbols.tokens.size ≤ 742) :
    assignedSpaces symbols = .ok (.ofCounts symbols.tokens.size symbols.productions.size) := by
  rw [assignedSpaces, TagSpaces.assign_eq_ok_iff.mpr ⟨h, rfl⟩]
  rfl

theorem exists_assignedSpaces_iff (symbols : GrammarSymbols) :
    (∃ spaces, assignedSpaces symbols = .ok spaces) ↔ symbols.tokens.size ≤ 742 := by
  constructor
  · rintro ⟨spaces, h⟩
    unfold assignedSpaces at h
    cases ha : TagSpaces.assign symbols.tokens.size symbols.productions.size with
    | error e => simp [ha, Except.mapError] at h
    | ok spaces' => exact (TagSpaces.assign_eq_ok_iff.mp ha).1
  · intro h
    exact ⟨_, assignedSpaces_of_le h⟩

theorem ofGrammar_of_validate {s : Settings} (hs : s.validate = .ok ()) (grammar : String) :
    ofGrammar s grammar = (assignedSpaces (GrammarSymbols.ofText grammar)).map
      fun spaces => [grammarArtifact s (GrammarSymbols.ofText grammar) spaces] := by
  unfold ofGrammar validSettings
  rw [hs]
  cases h : assignedSpaces (GrammarSymbols.ofText grammar) <;> simp [h, Except.mapError, Except.map]
    <;> rfl

end Generation

end TagVocab

import Mathlib.Algebra.Group.Nat.Defs
import Mathlib.Logic.ExistsUnique
import Mathlib.Tactic.SplitIfs
import TagVocab.Tag

/-!
# Assigned tags

A range whose tags fit in 32 bits holds the tags of its ordinals and no others. The ranges that are
assigned to a grammar number its symbols one to one as long as there are fewer than `2 ^ 32`
productions, and not beyond, since only the low bits of a count take part in the arithmetic.
-/

namespace TagVocab

namespace SymbolRange

variable {r : SymbolRange}

theorem toNat_stop (h : r.base.toNat + r.count % 2 ^ 32 < 2 ^ 32) :
    r.stop.toNat = r.base.toNat + r.count % 2 ^ 32 := by
  rw [stop, UInt32.toNat_add, UInt32.toNat_ofNat']
  exact Nat.mod_eq_of_lt h

theorem contains_iff (h : r.base.toNat + r.count % 2 ^ 32 < 2 ^ 32) (tag : Tag) :
    r.contains tag ↔
      r.base.toNat ≤ tag.toNat ∧ tag.toNat < r.base.toNat + r.count % 2 ^ 32 := by
  have hs := toNat_stop h
  simp only [contains, Bool.and_eq_true, decide_eq_true_eq, UInt32.le_iff_toNat_le,
    UInt32.lt_iff_toNat_lt, hs]

theorem isSome_valueOf? (r : SymbolRange) (ordinal : Nat) :
    (r.valueOf? ordinal).isSome ↔ ordinal < r.count := by
  unfold valueOf?
  split <;> simp_all

theorem valueOf?_eq_some_iff (h : r.base.toNat + r.count ≤ 2 ^ 32) {ordinal : Nat} {tag : Tag} :
    r.valueOf? ordinal = some tag ↔ ordinal < r.count ∧ tag.toNat = r.base.toNat + ordinal := by
  unfold valueOf?
  by_cases ho : ordinal < r.count
  · have hv : (r.base + UInt32.ofNat ordinal).toNat = r.base.toNat + ordinal := by
      rw [UInt32.toNat_add, UInt32.toNat_ofNat']
      omega
    rw [if_pos ho, Option.some.injEq, ← UInt32.toNat_inj, hv]
    simp only [ho, true_and]
    exact eq_comm
  · simp [ho]

end SymbolRange

namespace TagSpaces

/-- The tag of the symbol at position `ordinal` of a space. The host's tags have no positions. -/
def valueOf? (s : TagSpaces) : SymbolSpace → Nat → Option Tag
  | .token, ordinal => s.tokens.valueOf? ordinal
  | .production, ordinal => s.productions.valueOf? ordinal
  | .astNode, _ => none

/-- The spaces number so many tokens and productions one to one, and tell from a tag to which space
it was given. -/
structure Numbers (s : TagSpaces) (tokens productions : Nat) : Prop where
  token_isSome : ∀ i, (s.valueOf? .token i).isSome ↔ i < tokens
  production_isSome : ∀ j, (s.valueOf? .production j).isSome ↔ j < productions
  injective : ∀ space other i j tag, s.valueOf? space i = some tag → s.valueOf? other j = some tag →
    space = other ∧ i = j
  classify_value : ∀ space i tag, s.valueOf? space i = some tag → s.classify tag = some space
  exists_value : ∀ space tag, s.classify tag = some space → space ≠ .astNode →
    ∃! i, s.valueOf? space i = some tag
  classify_other : ∀ tag, (∀ space i, s.valueOf? space i ≠ some tag) →
    s.classify tag = if 1000 ≤ tag.toNat then some .astNode else none

theorem classify_eq (s : TagSpaces) (tag : Tag) :
    s.classify tag =
      if s.tokens.contains tag then some .token
      else if s.productions.contains tag then some .production
      else if 1000 ≤ tag.toNat then some .astNode
      else none := by
  have hbase : (SymbolSpace.astNode.base ≤ tag) ↔ 1000 ≤ tag.toNat := UInt32.le_iff_toNat_le
  simp only [classify, SymbolSpace.all, List.find?_cons, List.find?_nil, contains, hbase]
  cases s.tokens.contains tag <;> cases s.productions.contains tag <;>
    by_cases h : 1000 ≤ tag.toNat <;> simp [h]

theorem assign_eq_ok_iff {tokens productions : Nat} {spaces : TagSpaces} :
    assign tokens productions = .ok spaces ↔ tokens ≤ 742 ∧ spaces = ofCounts tokens productions := by
  have hm : maxTokens = 742 := rfl
  unfold assign
  rw [hm]
  split
  · next h => simp [Nat.not_le.mpr h]
  · next h => simp [Nat.not_lt.mp h, eq_comm]

section

variable {tokens productions : Nat}

theorem valueOf?_token_iff (ht : tokens ≤ 742) (productions i : Nat) (tag : Tag) :
    (ofCounts tokens productions).valueOf? .token i = some tag ↔
      i < tokens ∧ tag.toNat = 258 + i := by
  have hfit : 258 + tokens ≤ 2 ^ 32 := by omega
  exact SymbolRange.valueOf?_eq_some_iff (r := ⟨tokenBase, tokens⟩) hfit

theorem valueOf?_production_iff (hp : 1000 + productions < 2 ^ 32) (tokens j : Nat) (tag : Tag) :
    (ofCounts tokens productions).valueOf? .production j = some tag ↔
      j < productions ∧ tag.toNat = 1000 + j :=
  SymbolRange.valueOf?_eq_some_iff (r := ⟨productionBase, productions⟩) (Nat.le_of_lt hp)

theorem classify_ofCounts (ht : tokens ≤ 742) (hp : 1000 + productions % 2 ^ 32 < 2 ^ 32)
    (tag : Tag) :
    (ofCounts tokens productions).classify tag =
      if 258 ≤ tag.toNat ∧ tag.toNat < 258 + tokens then some .token
      else if 1000 ≤ tag.toNat ∧ tag.toNat < 1000 + productions % 2 ^ 32 then some .production
      else if 1000 ≤ tag.toNat then some .astNode
      else none := by
  have hmod : tokens % 2 ^ 32 = tokens := Nat.mod_eq_of_lt (by omega)
  have hfit : 258 + tokens % 2 ^ 32 < 2 ^ 32 := by omega
  have htokens : (ofCounts tokens productions).tokens.contains tag ↔
      258 ≤ tag.toNat ∧ tag.toNat < 258 + tokens % 2 ^ 32 :=
    SymbolRange.contains_iff (r := ⟨tokenBase, tokens⟩) hfit tag
  have hproductions : (ofCounts tokens productions).productions.contains tag ↔
      1000 ≤ tag.toNat ∧ tag.toNat < 1000 + productions % 2 ^ 32 :=
    SymbolRange.contains_iff (r := ⟨productionBase, productions⟩) hp tag
  rw [hmod] at htokens
  rw [classify_eq]
  simp only [htokens, hproductions]

theorem numbers_ofCounts (ht : tokens ≤ 742) (hp : 1000 + productions < 2 ^ 32) :
    (ofCounts tokens productions).Numbers tokens productions := by
  have hmod : productions % 2 ^ 32 = productions := Nat.mod_eq_of_lt (by omega)
  have hp' : 1000 + productions % 2 ^ 32 < 2 ^ 32 := by omega
  have htoken := valueOf?_token_iff ht productions
  have hproduction := valueOf?_production_iff hp tokens
  have hclassify := classify_ofCounts ht hp'
  rw [hmod] at hclassify
  constructor
  case token_isSome => exact SymbolRange.isSome_valueOf? ⟨tokenBase, tokens⟩
  case production_isSome => exact SymbolRange.isSome_valueOf? ⟨productionBase, productions⟩
  case injective =>
    intro space other i j tag hi hj
    cases space with
    | token =>
      rw [htoken] at hi
      cases other with
      | token =>
        rw [htoken] at hj
        exact ⟨rfl, by omega⟩
      | production =>
        rw [hproduction] at hj
        omega
      | astNode => exact nomatch hj
    | production =>
      rw [hproduction] at hi
      cases other with
      | token =>
        rw [htoken] at hj
        omega
      | production =>
        rw [hproduction] at hj
        exact ⟨rfl, by omega⟩
      | astNode => exact nomatch hj
    | astNode => exact nomatch hi
  case classify_value =>
    intro space i tag hi
    rw [hclassify]
    cases space with
    | token =>
      rw [htoken] at hi
      rw [if_pos (by omega)]
    | production =>
      rw [hproduction] at hi
      rw [if_neg (by omega), if_pos (by omega)]
    | astNode => exact nomatch hi
  case exists_value =>
    intro space tag hs hne
    rw [hclassify] at hs
    split_ifs at hs with h h' h''
    · obtain rfl := Option.some.inj hs
      refine ⟨tag.toNat - 258, (htoken _ _).mpr (by omega), fun i hi => ?_⟩
      have hi := (htoken i tag).mp hi
      omega
    · obtain rfl := Option.some.inj hs
      refine ⟨tag.toNat - 1000, (hproduction _ _).mpr (by omega), fun j hj => ?_⟩
      have hj := (hproduction j tag).mp hj
      omega
    · exact absurd (Option.some.inj hs).symm hne
  case classify_other =>
    intro tag hno
    have hnot : ¬ (258 ≤ tag.toNat ∧ tag.toNat < 258 + tokens) := by
      rintro ⟨hlo, hhi⟩
      exact hno .token (tag.toNat - 258) ((htoken _ _).mpr (by omega))
    have hnot' : ¬ (1000 ≤ tag.toNat ∧ tag.toNat < 1000 + productions) := by
      rintro ⟨hlo, hhi⟩
      exact hno .production (tag.toNat - 1000) ((hproduction _ _).mpr (by omega))
    rw [hclassify, if_neg hnot, if_neg hnot']

/-- From `2 ^ 32` productions on, the tag at which the truncated range stops is given to a
production too. -/
theorem not_numbers_ofCounts (ht : tokens ≤ 742) (hp : 1000 + productions % 2 ^ 32 < 2 ^ 32)
    (hlarge : 2 ^ 32 ≤ productions) : ¬ (ofCounts tokens productions).Numbers tokens productions := by
  intro h
  have hlast : productions % 2 ^ 32 < productions := by omega
  obtain ⟨tag, hv⟩ := Option.isSome_iff_exists.mp ((h.production_isSome _).mpr hlast)
  have hs : tag = (ofCounts tokens productions).productions.stop := by
    rw [valueOf?, SymbolRange.valueOf?] at hv
    split_ifs at hv
    have hmod : UInt32.ofNat (productions % 2 ^ 32) = UInt32.ofNat productions := by
      rw [← UInt32.toNat_inj, UInt32.toNat_ofNat', UInt32.toNat_ofNat', Nat.mod_mod]
    rw [← Option.some.inj hv, SymbolRange.stop, hmod]
    rfl
  have htag : tag.toNat = 1000 + productions % 2 ^ 32 := by
    rw [hs]
    exact SymbolRange.toNat_stop (r := ⟨productionBase, productions⟩) hp
  have hc := h.classify_value _ _ _ hv
  rw [classify_ofCounts ht hp, if_neg (by omega), if_neg (by omega), if_pos (by omega)] at hc
  exact nomatch hc

end

/-- Assigned spaces number their symbols one to one exactly if there are fewer than `2 ^ 32`
productions. -/
theorem numbers_iff_of_assign {tokens productions : Nat} {spaces : TagSpaces}
    (h : assign tokens productions = .ok spaces) (hp : 1000 + productions % 2 ^ 32 < 2 ^ 32) :
    spaces.Numbers tokens productions ↔ productions < 2 ^ 32 := by
  obtain ⟨ht, rfl⟩ := assign_eq_ok_iff.mp h
  constructor
  · intro hn
    refine Nat.lt_of_not_le fun hlarge => ?_
    exact not_numbers_ofCounts ht hp hlarge hn
  · intro hlt
    rw [Nat.mod_eq_of_lt hlt] at hp
    exact numbers_ofCounts ht hp

theorem numbers_of_assign_largest :
    assign 742 (2 ^ 32 - 1001) = .ok (ofCounts 742 (2 ^ 32 - 1001)) ∧
      (ofCounts 742 (2 ^ 32 - 1001)).Numbers 742 (2 ^ 32 - 1001) :=
  ⟨rfl, (numbers_iff_of_assign rfl (by decide)).mpr (by decide)⟩

/-- The first of `2 ^ 32` productions has a tag that is classified as the host's. -/
theorem not_forall_assign_numbers :
    ¬ ∀ tokens productions spaces, tokens < 2 ^ 64 → productions < 2 ^ 64 →
      assign tokens productions = .ok spaces → 1000 + productions % 2 ^ 32 < 2 ^ 32 →
      spaces.Numbers tokens productions := by
  intro h
  have hn := h 0 (2 ^ 32) (ofCounts 0 (2 ^ 32)) (by decide) (by decide) rfl (by decide)
  have hv : (ofCounts 0 (2 ^ 32)).valueOf? .production 0 = some 1000 := by decide
  have hc : (ofCounts 0 (2 ^ 32)).classify 1000 = some .astNode := by decide
  rw [hn.classify_value _ _ _ hv] at hc
  exact nomatch hc

end TagSpaces

end TagVocab

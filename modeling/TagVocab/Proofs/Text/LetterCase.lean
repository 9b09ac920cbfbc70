import TagVocab.Proofs.Settings
import TagVocab.Text.LetterCase
import TagVocab.Text.Word

/-!
# Lower case keeps to names

Words and their lower-case forms are made of identifier characters and of characters beyond ASCII,
so they hold none of the punctuation around them.
-/

namespace TagVocab.Text

/-- An identifier character, or one beyond ASCII. -/
def isNameLike (c : Char) : Bool :=
  Settings.isIdentifierChar c || 128 ≤ c.toNat

theorem isNameLike_of_isWordChar {c : Char} (h : isWordChar c) : isNameLike c := by
  have hascii : ∀ n < 128, isWordChar (Char.ofNat n) →
      Settings.isIdentifierChar (Char.ofNat n) := by decide
  by_cases hc : c.toNat < 128
  · rw [← Char.ofNat_toNat c] at h
    have hi := hascii c.toNat hc h
    rw [Char.ofNat_toNat] at hi
    simp [isNameLike, hi]
  · simp [isNameLike, Nat.not_lt.mp hc]

def CaseRun.givesNames (run : CaseRun) : Bool :=
  let last := run.lower + (run.last - run.first)
  (0x61 ≤ run.lower && last ≤ 0x7A || 128 ≤ run.lower) &&
    (last < 0xD800 || 0xE000 ≤ run.lower && last < 0x110000)

theorem lowerRuns_givesNames : lowerRuns.all CaseRun.givesNames := by decide

theorem isNameLike_ofNat {run : CaseRun} (hr : run.givesNames) {m n : Nat}
    (h : run.lower? m = some n) : isNameLike (Char.ofNat n) := by
  simp only [CaseRun.givesNames, Bool.and_eq_true, Bool.or_eq_true, decide_eq_true_eq] at hr
  simp only [CaseRun.lower?, Option.ite_none_right_eq_some, Option.some.injEq] at h
  obtain ⟨hrange, hchar⟩ := hr
  have hvalid : n.isValidChar := by
    unfold Nat.isValidChar
    omega
  have hn : (Char.ofNat n).toNat = n := by
    rw [Char.ofNat, dif_pos hvalid]
    rfl
  rcases hrange with ⟨hlo, hhi⟩ | hlo
  · have hletter : ∀ k < 128, 0x61 ≤ k → k ≤ 0x7A → isNameLike (Char.ofNat k) := by decide
    exact hletter n (by omega) (by omega) (by omega)
  · have hbeyond : 128 ≤ n := by omega
    simp [isNameLike, hn, hbeyond]

theorem isNameLike_lowerChar {c : Char} (h : isNameLike c) :
    ∀ d ∈ lowerChar c, isNameLike d := by
  unfold lowerChar
  split
  · exact List.all_eq_true.mp (by decide)
  · split
    · next n hn =>
      obtain ⟨run, hrun, hlower⟩ := List.exists_of_findSome?_eq_some hn
      have hr := List.all_eq_true.mp lowerRuns_givesNames run hrun
      simpa using isNameLike_ofNat hr hlower
    · simpa using h

theorem isNameLike_lowerAfter {cs : List Char} (h : ∀ c ∈ cs, isNameLike c) (before : List Char) :
    ∀ d ∈ lowerAfter before cs, isNameLike d := by
  induction cs generalizing before with
  | nil => simp [lowerAfter]
  | cons c cs ih =>
    rw [List.forall_mem_cons] at h
    obtain ⟨hc, hcs⟩ := h
    rw [lowerAfter, List.forall_mem_append]
    refine ⟨?_, ih hcs (c :: before)⟩
    split
    · unfold sigma
      split <;> exact List.all_eq_true.mp (by decide)
    · exact isNameLike_lowerChar hc

theorem isNameLike_lower {cs : List Char} (h : ∀ c ∈ cs, isNameLike c) :
    ∀ d ∈ lower cs, isNameLike d :=
  isNameLike_lowerAfter h []

end TagVocab.Text

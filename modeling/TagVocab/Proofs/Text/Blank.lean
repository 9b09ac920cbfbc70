import TagVocab.Text.Blank
import TagVocab.Text.Word

/-!
# Runs of characters

A run of one class of characters is cut off where a character of another class follows, or nothing.
Blanks, words and digits are such runs: no blank is a word character or a digit.
-/

namespace TagVocab.Text

namespace CharClass

def apart (r s : CharClass) : Bool :=
  r.all fun (lo, hi) => s.all fun (lo', hi') => hi < lo' || hi' < lo

theorem exists_range_of_has {r : CharClass} {c : Char} (h : r.has c) :
    ∃ range ∈ r, range.1 ≤ c.toNat ∧ c.toNat ≤ range.2 := by
  induction r with
  | nil => exact nomatch h
  | cons range r ih =>
    obtain ⟨lo, hi⟩ := range
    simp only [has, Bool.and_eq_true, Bool.or_eq_true, decide_eq_true_eq] at h
    obtain ⟨hlo, hhi | hrest⟩ := h
    · exact ⟨(lo, hi), List.mem_cons_self, hlo, hhi⟩
    · obtain ⟨range, hmem, hrange⟩ := ih hrest
      exact ⟨range, List.mem_cons_of_mem (lo, hi) hmem, hrange⟩

theorem not_has_of_apart {r s : CharClass} (h : r.apart s) {c : Char} (hr : r.has c) :
    s.has c = false := by
  rw [Bool.eq_false_iff]
  intro hs
  obtain ⟨range, hmem, hlo, hhi⟩ := exists_range_of_has hr
  obtain ⟨range', hmem', hlo', hhi'⟩ := exists_range_of_has hs
  have hall := List.all_eq_true.mp (List.all_eq_true.mp h range hmem) range' hmem'
  simp only [Bool.or_eq_true, decide_eq_true_eq] at hall
  omega

end CharClass

theorem not_isWordChar_of_isBlank {c : Char} (h : isBlank c) : isWordChar c = false :=
  CharClass.not_has_of_apart (by decide +kernel) h

theorem not_isDecimalDigit_of_isBlank {c : Char} (h : isBlank c) : isDecimalDigit c = false :=
  CharClass.not_has_of_apart (by decide) h

section

variable {p : Char → Bool} {run cs : List Char}

/-- No run of `p` goes on into `cs`. -/
def StopsRun (p : Char → Bool) (cs : List Char) : Prop :=
  ∀ c ∈ cs.head?, p c = false

@[simp] theorem stopsRun_nil : StopsRun p [] := by
  simp [StopsRun]

@[simp] theorem stopsRun_cons {c : Char} : StopsRun p (c :: cs) ↔ p c = false := by
  simp [StopsRun]

theorem StopsRun.append (hrun : ∀ c ∈ run, p c = false) (hcs : StopsRun p cs) :
    StopsRun p (run ++ cs) := by
  cases run with
  | nil => exact hcs
  | cons c run => exact stopsRun_cons.mpr (hrun c List.mem_cons_self)

theorem takeWhile_run (hrun : ∀ c ∈ run, p c) (hcs : StopsRun p cs) :
    (run ++ cs).takeWhile p = run := by
  rw [List.takeWhile_append_of_pos hrun]
  cases cs with
  | nil => simp
  | cons c cs => simp [stopsRun_cons.mp hcs]

theorem dropWhile_run (hrun : ∀ c ∈ run, p c) (hcs : StopsRun p cs) :
    (run ++ cs).dropWhile p = cs := by
  rw [List.dropWhile_append_of_pos hrun]
  cases cs with
  | nil => simp
  | cons c cs => simp [stopsRun_cons.mp hcs]

/-- A run that ends within a text, or at its end, is not changed by what stops it behind. -/
theorem takeWhile_append_of_stopsRun (ds : List Char) (hcs : StopsRun p cs) :
    (ds ++ cs).takeWhile p = ds.takeWhile p := by
  induction ds with
  | nil => exact takeWhile_run (by simp) hcs
  | cons d ds ih =>
    rw [List.cons_append, List.takeWhile_cons, List.takeWhile_cons, ih]

theorem dropWhile_append_of_stopsRun (ds : List Char) (hcs : StopsRun p cs) :
    (ds ++ cs).dropWhile p = ds.dropWhile p ++ cs := by
  induction ds with
  | nil => exact dropWhile_run (by simp) hcs
  | cons d ds ih =>
    rw [List.cons_append, List.dropWhile_cons, List.dropWhile_cons, ih]
    split <;> rfl

theorem exists_run (p : Char → Bool) (cs : List Char) :
    ∃ run, (∀ c ∈ run, p c) ∧ cs = run ++ cs.dropWhile p :=
  ⟨cs.takeWhile p, List.all_eq_true.mp List.all_takeWhile, List.takeWhile_append_dropWhile.symm⟩

theorem exists_blanks (cs : List Char) :
    ∃ blanks, (∀ c ∈ blanks, isBlank c) ∧ cs = blanks ++ skipBlanks cs :=
  exists_run isBlank cs

theorem stopsRun_dropWhile : StopsRun p (cs.dropWhile p) := by
  induction cs with
  | nil => exact stopsRun_nil
  | cons c cs ih =>
    by_cases hc : p c
    · rwa [List.dropWhile_cons_of_pos hc]
    · rw [List.dropWhile_cons_of_neg hc, stopsRun_cons]
      exact Bool.eq_false_iff.mpr hc

theorem run_append_inj {run' cs' : List Char} (hrun : ∀ c ∈ run, p c) (hrun' : ∀ c ∈ run', p c)
    (hcs : StopsRun p cs) (hcs' : StopsRun p cs') (h : run ++ cs = run' ++ cs') :
    run = run' ∧ cs = cs' := by
  constructor
  · rw [← takeWhile_run hrun hcs, h, takeWhile_run hrun' hcs']
  · rw [← dropWhile_run hrun hcs, h, dropWhile_run hrun' hcs']

end

theorem skipBlanks_of_blanks {cs : List Char} (h : ∀ c ∈ cs, isBlank c) : skipBlanks cs = [] := by
  have hrun := dropWhile_run h stopsRun_nil
  rwa [List.append_nil] at hrun

theorem skipBlanks_append (cs ds : List Char) : skipBlanks (cs ++ ds) =
    if skipBlanks cs = [] then skipBlanks ds else skipBlanks cs ++ ds := by
  unfold skipBlanks
  rw [List.dropWhile_append]
  simp only [List.isEmpty_iff]

theorem exists_trim_append (cs : List Char) :
    ∃ blanks, (∀ c ∈ blanks, isBlank c) ∧ skipBlanks cs = trim cs ++ blanks := by
  obtain ⟨blanks, hblanks, hcs⟩ := exists_blanks (skipBlanks cs).reverse
  refine ⟨blanks.reverse, by simpa using hblanks, ?_⟩
  rw [trim, ← List.reverse_append, ← hcs, List.reverse_reverse]

theorem trim_concat_blank (cs : List Char) {b : Char} (hb : isBlank b) :
    trim (cs ++ [b]) = trim cs := by
  unfold trim
  rw [skipBlanks_append]
  by_cases hcs : skipBlanks cs = []
  · rw [if_pos hcs, hcs, skipBlanks_of_blanks (List.forall_mem_singleton.mpr hb)]
  · have hskip : skipBlanks (b :: (skipBlanks cs).reverse) = skipBlanks (skipBlanks cs).reverse :=
      List.dropWhile_cons_of_pos hb
    rw [if_neg hcs, List.reverse_append, List.reverse_singleton, List.singleton_append, hskip]

end TagVocab.Text

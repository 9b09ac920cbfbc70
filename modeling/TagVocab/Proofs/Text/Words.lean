import TagVocab.Proofs.Text.Blank

/-!
# Words between blanks

The words of a text, described by how the text is made: words without blanks, and blanks around
them, at least one between two words. A text is made in this way of its words and of no others.
-/

namespace TagVocab.Text

/-- Whether a text is made of words, in order, and of blanks. A word ends where a blank follows, or
with the text. -/
inductive Spaced : List (List Char) → List Char → Prop where
  | blanks {bs : List Char} (hbs : ∀ c ∈ bs, isBlank c) : Spaced [] bs
  | word {gap w rest : List Char} {ws : List (List Char)} (hgap : ∀ c ∈ gap, isBlank c)
    (hne : w ≠ []) (hw : ∀ c ∈ w, isBlank c = false) (hrest : StopsRun (!isBlank ·) rest)
    (h : Spaced ws rest) : Spaced (w :: ws) (gap ++ (w ++ rest))

@[simp] theorem words_nil : words [] = [] :=
  rfl

theorem words_append_cons (cs ds : List Char) {b : Char} (hb : isBlank b) :
    words (cs ++ b :: ds) = words cs ++ words ds := by
  unfold words
  rw [List.splitOnP_append_cons cs ds hb, List.filter_append]

theorem words_cons {b : Char} (hb : isBlank b) (cs : List Char) : words (b :: cs) = words cs :=
  words_append_cons [] cs hb

theorem words_blanks_append {bs : List Char} (hbs : ∀ c ∈ bs, isBlank c) (cs : List Char) :
    words (bs ++ cs) = words cs := by
  induction bs with
  | nil => rfl
  | cons b bs ih =>
    rw [List.forall_mem_cons] at hbs
    rw [List.cons_append, words_cons hbs.1, ih hbs.2]

theorem words_of_blanks {bs : List Char} (hbs : ∀ c ∈ bs, isBlank c) : words bs = [] := by
  have h := words_blanks_append hbs []
  rwa [List.append_nil] at h

theorem words_append_blanks (cs : List Char) {bs : List Char} (hbs : ∀ c ∈ bs, isBlank c) :
    words (cs ++ bs) = words cs := by
  cases bs with
  | nil => rw [List.append_nil]
  | cons b bs =>
    rw [List.forall_mem_cons] at hbs
    rw [words_append_cons cs bs hbs.1, words_of_blanks hbs.2, List.append_nil]

theorem words_of_word {w : List Char} (hne : w ≠ []) (hw : ∀ c ∈ w, isBlank c = false) :
    words w = [w] := by
  unfold words
  rw [List.splitOnP_eq_singleton fun c hc => hw c hc]
  simp [hne]

theorem words_word_append {w rest : List Char} (hne : w ≠ []) (hw : ∀ c ∈ w, isBlank c = false)
    (hrest : StopsRun (!isBlank ·) rest) : words (w ++ rest) = w :: words rest := by
  cases rest with
  | nil => rw [List.append_nil, words_of_word hne hw, words_nil]
  | cons b rest =>
    have hb : isBlank b := by simpa using hrest
    rw [words_append_cons w rest hb, words_of_word hne hw, words_cons hb, List.singleton_append]

namespace Spaced

theorem words_eq {ws : List (List Char)} {cs : List Char} (h : Spaced ws cs) : words cs = ws := by
  induction h with
  | blanks hbs => exact words_of_blanks hbs
  | word hgap hne hw hrest h ih =>
    rw [words_blanks_append hgap, words_word_append hne hw hrest, ih]

theorem cons_blank {ws : List (List Char)} {cs : List Char} (h : Spaced ws cs) {b : Char}
    (hb : isBlank b) : Spaced ws (b :: cs) := by
  cases h with
  | blanks hbs => exact .blanks (List.forall_mem_cons.mpr ⟨hb, hbs⟩)
  | word hgap hne hw hrest h =>
    exact .word (List.forall_mem_cons.mpr ⟨hb, hgap⟩) hne hw hrest h

theorem word_append {ws : List (List Char)} {w rest : List Char} (h : Spaced ws rest) (hne : w ≠ [])
    (hw : ∀ c ∈ w, isBlank c = false) (hrest : StopsRun (!isBlank ·) rest) :
    Spaced (w :: ws) (w ++ rest) :=
  @word [] w rest ws (by simp) hne hw hrest h

/-- A character in front is a word of its own if a blank follows it, and otherwise belongs to the
first word. -/
theorem exists_cons {ws : List (List Char)} {cs : List Char} (h : Spaced ws cs) {c : Char}
    (hc : isBlank c = false) : ∃ ws', Spaced ws' (c :: cs) := by
  have hsingle : ∀ d ∈ [c], isBlank d = false := List.forall_mem_singleton.mpr hc
  cases h with
  | @blanks bs hbs =>
    have hstop : StopsRun (!isBlank ·) cs := by
      intro d hd
      simpa using hbs d (List.mem_of_head? hd)
    exact ⟨[[c]], (Spaced.blanks hbs).word_append (by simp) hsingle hstop⟩
  | @word gap w rest ws hgap hne hw hrest h =>
    cases gap with
    | nil =>
      exact ⟨(c :: w) :: ws, h.word_append (by simp) (List.forall_mem_cons.mpr ⟨hc, hw⟩) hrest⟩
    | cons b gap =>
      have hb : isBlank b := hgap b List.mem_cons_self
      exact ⟨[c] :: w :: ws, (Spaced.word hgap hne hw hrest h).word_append (by simp) hsingle
        (stopsRun_cons.mpr (by simp [hb]))⟩

theorem exists_of_text (cs : List Char) : ∃ ws, Spaced ws cs := by
  induction cs with
  | nil => exact ⟨[], .blanks (by simp)⟩
  | cons c cs ih =>
    obtain ⟨ws, h⟩ := ih
    by_cases hc : isBlank c
    · exact ⟨ws, h.cons_blank hc⟩
    · exact h.exists_cons (Bool.eq_false_iff.mpr hc)

end Spaced

theorem words_eq_iff {cs : List Char} {ws : List (List Char)} : words cs = ws ↔ Spaced ws cs := by
  constructor
  · rintro rfl
    obtain ⟨ws, h⟩ := Spaced.exists_of_text cs
    rwa [h.words_eq]
  · exact Spaced.words_eq

/-- Nothing but blanks is lost when a text is cut into words. -/
theorem flatten_words (cs : List Char) : (words cs).flatten = cs.filter (!isBlank ·) := by
  obtain ⟨ws, h⟩ := Spaced.exists_of_text cs
  rw [h.words_eq]
  induction h with
  | blanks hbs =>
    symm
    rw [List.flatten_nil, List.filter_eq_nil_iff]
    exact fun c hc => by simp [hbs c hc]
  | @word gap w rest ws hgap hne hw hrest h ih =>
    have hblanks : gap.filter (!isBlank ·) = [] := by
      rw [List.filter_eq_nil_iff]
      exact fun c hc => by simp [hgap c hc]
    have hword : w.filter (!isBlank ·) = w := by
      rw [List.filter_eq_self]
      exact fun c hc => by simp [hw c hc]
    rw [List.flatten_cons, List.filter_append, List.filter_append, hblanks, hword, ih,
      List.nil_append]

theorem mem_flatten_words_iff {cs : List Char} {c : Char} (hc : isBlank c = false) :
    c ∈ (words cs).flatten ↔ c ∈ cs := by
  rw [flatten_words, List.mem_filter]
  simp [hc]

/-- Words with one space between two are the words of the text that they make. -/
theorem words_intercalate {ws : List (List Char)}
    (h : ∀ w ∈ ws, w ≠ [] ∧ ∀ c ∈ w, isBlank c = false) : words ([' '].intercalate ws) = ws := by
  induction ws with
  | nil => rfl
  | cons w ws ih =>
    rw [List.forall_mem_cons] at h
    obtain ⟨⟨hne, hw⟩, hws⟩ := h
    cases ws with
    | nil => rw [List.intercalate_singleton, words_of_word hne hw]
    | cons v ws =>
      rw [List.intercalate_cons_cons, List.append_assoc, List.singleton_append,
        words_append_cons w _ (by decide), words_of_word hne hw, ih hws, List.singleton_append]

end TagVocab.Text

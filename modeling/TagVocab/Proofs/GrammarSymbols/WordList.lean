import TagVocab.Proofs.GrammarSymbols.SymbolLine

/-!
# Lists of words on token lines

A token line that is written from a list of words, behind a type or without one. Behind a type the
words are read back, whatever characters they hold. Without one, what stands in front of the first
closing angle bracket is taken for a type, so that they are read back if and only if none of them
holds such a bracket.
-/

namespace TagVocab.GrammarSymbols

open Text

structure Uncommented (cs : List Char) : Prop where
  noLine : ¬ "//".toList <:+: cs
  noBlock : ¬ "/*".toList <:+: cs

/-- Whether a token line can hold the word: a comment would end the line, and a blank the word. -/
structure Listable (w : List Char) : Prop where
  ne_nil : w ≠ []
  noBlank : ∀ c ∈ w, isBlank c = false
  uncommented : Uncommented w

def untypedLine (names : List (List Char)) : List Char :=
  "%token ".toList ++ [' '].intercalate names

def typedLine (type : List Char) (names : List (List Char)) : List Char :=
  "%token <".toList ++ (type ++ ("> ".toList ++ [' '].intercalate names))

theorem opensComment_iff {cs : List Char} :
    opensComment cs ↔ "//".toList <+: cs ∨ "/*".toList <+: cs := by
  match cs with
  | [] => simp [opensComment]
  | [c] => simp [opensComment, List.cons_prefix_cons]
  | c :: d :: cs =>
    rw [opensComment_cons_cons]
    simp [List.cons_prefix_cons, and_or_left, eq_comm (b := c), eq_comm (b := d)]

theorem uncommented_nil : Uncommented [] :=
  ⟨by simp, by simp⟩

theorem uncommented_cons {c : Char} {cs : List Char} :
    Uncommented (c :: cs) ↔ ¬ opensComment (c :: cs) ∧ Uncommented cs := by
  rw [opensComment_iff, not_or]
  constructor
  · rintro ⟨hline, hblock⟩
    rw [List.infix_cons_iff, not_or] at hline hblock
    exact ⟨⟨hline.1, hblock.1⟩, hline.2, hblock.2⟩
  · rintro ⟨⟨hline, hblock⟩, h⟩
    constructor
    · rw [List.infix_cons_iff, not_or]
      exact ⟨hline, h.noLine⟩
    · rw [List.infix_cons_iff, not_or]
      exact ⟨hblock, h.noBlock⟩

theorem beforeComment_eq_self_iff {cs : List Char} : beforeComment cs = cs ↔ Uncommented cs := by
  induction cs with
  | nil => exact iff_of_true rfl uncommented_nil
  | cons c cs ih =>
    rw [beforeComment, uncommented_cons, ← ih]
    by_cases ho : opensComment (c :: cs)
    · rw [if_pos ho]
      exact iff_of_false (List.cons_ne_nil c cs).symm fun h => h.1 ho
    · rw [if_neg ho, List.cons_eq_cons]
      exact and_congr_left' (iff_of_true rfl ho)

instance : DecidablePred Uncommented := fun cs =>
  decidable_of_iff (beforeComment cs = cs) beforeComment_eq_self_iff

instance : DecidablePred Listable := fun w =>
  decidable_of_iff (w ≠ [] ∧ w.all (!isBlank ·) ∧ Uncommented w)
    ⟨fun h => ⟨h.1, by simpa using h.2.1, h.2.2⟩, fun h => ⟨h.1, by simpa using h.2, h.3⟩⟩

namespace Uncommented

/-- No comment opens across a character that is in no comment's opening. -/
theorem append_cons {cs ds : List Char} (hcs : Uncommented cs) (hds : Uncommented ds) {c : Char}
    (hslash : c ≠ '/') (hstar : c ≠ '*') : Uncommented (cs ++ c :: ds) := by
  induction cs with
  | nil =>
    rw [List.nil_append, uncommented_cons]
    refine ⟨?_, hds⟩
    cases ds with
    | nil => simp [opensComment]
    | cons d ds => simp [opensComment_cons_cons, hslash]
  | cons b cs ih =>
    rw [uncommented_cons] at hcs
    rw [List.cons_append, uncommented_cons]
    refine ⟨?_, ih hcs.2⟩
    cases cs with
    | nil => simp [opensComment_cons_cons, hslash, hstar]
    | cons d cs =>
      rw [opensComment_cons_cons] at hcs
      rw [List.cons_append, opensComment_cons_cons]
      exact hcs.1

theorem cons {cs : List Char} (h : Uncommented cs) {c : Char} (hslash : c ≠ '/') (hstar : c ≠ '*') :
    Uncommented (c :: cs) :=
  uncommented_nil.append_cons h hslash hstar

theorem intercalate {ws : List (List Char)} (h : ∀ w ∈ ws, Uncommented w) :
    Uncommented ([' '].intercalate ws) := by
  induction ws with
  | nil => exact uncommented_nil
  | cons w ws ih =>
    rw [List.forall_mem_cons] at h
    cases ws with
    | nil =>
      rw [List.intercalate_singleton]
      exact h.1
    | cons v ws =>
      rw [List.intercalate_cons_cons, List.append_assoc, List.singleton_append]
      exact h.1.append_cons (ih h.2) (by decide) (by decide)

end Uncommented

/-- A closing angle bracket is lost with what stands in front of it. -/
theorem words_afterType_eq_iff {cs : List Char} :
    words (afterType cs) = words cs ↔ '>' ∉ cs := by
  have hbehind := behindType_afterType cs
  generalize afterType cs = rest at hbehind
  cases hbehind with
  | @typed type _ _ =>
    refine iff_of_false ?_ (by simp)
    intro h
    have hlength := congrArg (·.flatten.length) h
    simp only [flatten_words, List.filter_append, List.length_append] at hlength
    rw [List.filter_cons_of_pos (by decide), List.length_cons] at hlength
    omega
  | untyped hnone => exact iff_of_true rfl hnone

theorem tokenNames?_append {rest : List Char} (hstop : StopsRun (!endsTokenWord ·) rest)
    (h : Uncommented rest) :
    tokenNames? ("%token".toList ++ rest) = some (words (afterType rest)) := by
  rw [tokenNames?, afterTokenWord?_eq_some_iff.mpr ⟨rfl, hstop⟩, Option.map_some,
    beforeComment_eq_self_iff.mpr h]

section

variable {names : List (List Char)} (h : ∀ w ∈ names, Listable w)

include h

theorem words_of_listable : words ([' '].intercalate names) = names :=
  words_intercalate fun w hw => ⟨(h w hw).ne_nil, (h w hw).noBlank⟩

theorem tokenNames?_untypedLine_iff :
    tokenNames? (untypedLine names) = some names ↔ ∀ w ∈ names, '>' ∉ w := by
  have hwords : words (' ' :: [' '].intercalate names) = names := by
    rw [words_cons (by decide), words_of_listable h]
  have hclosing : '>' ∉ ' ' :: [' '].intercalate names ↔ ∀ w ∈ names, '>' ∉ w := by
    rw [← mem_flatten_words_iff (by decide), hwords, List.mem_flatten]
    simp
  have hrest : Uncommented (' ' :: [' '].intercalate names) :=
    (Uncommented.intercalate fun w hw => (h w hw).uncommented).cons (by decide) (by decide)
  have hread : tokenNames? (untypedLine names) =
      some (words (afterType (' ' :: [' '].intercalate names))) :=
    tokenNames?_append (stopsRun_cons.mpr (by decide)) hrest
  rw [hread, Option.some.injEq, ← hclosing, ← words_afterType_eq_iff, hwords]

theorem tokenNames?_typedLine {type : List Char} (hclosing : '>' ∉ type)
    (htype : Uncommented type) : tokenNames? (typedLine type names) = some names := by
  have hrest : Uncommented (' ' :: '<' :: (type ++ '>' :: ' ' :: [' '].intercalate names)) := by
    have hnames := Uncommented.intercalate fun w hw => (h w hw).uncommented
    have hbehind := htype.append_cons (hnames.cons (c := ' ') (by decide) (by decide))
      (c := '>') (by decide) (by decide)
    exact (hbehind.cons (by decide) (by decide)).cons (by decide) (by decide)
  have hafter : afterType (' ' :: '<' :: (type ++ '>' :: ' ' :: [' '].intercalate names)) =
      ' ' :: [' '].intercalate names :=
    (@BehindType.typed (' ' :: '<' :: type) _ (by simpa using hclosing)).afterType_eq
  have hread : tokenNames? (typedLine type names) = some (words (afterType
      (' ' :: '<' :: (type ++ '>' :: ' ' :: [' '].intercalate names)))) :=
    tokenNames?_append (stopsRun_cons.mpr (by decide)) hrest
  rw [hread, hafter, words_cons (by decide), words_of_listable h]

end

/-- The words of a token line are read back: always behind a type, and without one if and only if
none of them holds a closing angle bracket. -/
theorem wordList_readBack {names : List (List Char)} (h : ∀ w ∈ names, Listable w) :
    (tokenNames? (untypedLine names) = some names ↔ ∀ w ∈ names, '>' ∉ w) ∧
    ∀ type, '>' ∉ type → Uncommented type → tokenNames? (typedLine type names) = some names :=
  ⟨tokenNames?_untypedLine_iff h, fun _ hclosing htype => tokenNames?_typedLine h hclosing htype⟩

theorem wordList_readBack_operators :
    ((∀ w ∈ ["'+='".toList, "'<'".toList], Listable w) ∧
      tokenNames? (untypedLine ["'+='".toList, "'<'".toList]) =
        some ["'+='".toList, "'<'".toList]) ∧
    (∀ w ∈ ["A".toList, "'>='".toList], Listable w) ∧
    tokenNames? (untypedLine ["A".toList, "'>='".toList]) ≠ some ["A".toList, "'>='".toList] ∧
    tokenNames? (typedLine "ival".toList ["A".toList, "'>='".toList]) =
      some ["A".toList, "'>='".toList] := by
  have hless : ∀ w ∈ ["'+='".toList, "'<'".toList], Listable w := by decide
  have hgreater : ∀ w ∈ ["A".toList, "'>='".toList], Listable w := by decide
  obtain ⟨huntyped, htyped⟩ := wordList_readBack hgreater
  refine ⟨⟨hless, (wordList_readBack hless).1.mpr (by decide)⟩, hgreater, ?_,
    htyped "ival".toList (by decide) (by decide)⟩
  rw [Ne, huntyped]
  decide

theorem not_forall_wordList_readBack :
    ¬ ∀ names : List (List Char), names ≠ [] → (∀ w ∈ names, Listable w) →
      (names.head?.bind List.head?) ≠ some '<' →
      tokenNames? (untypedLine names) = some names ∧
      ∀ type, '>' ∉ type → Uncommented type → tokenNames? (typedLine type names) = some names := by
  intro h
  have hread := (h ["A".toList, "'>'".toList, "B".toList] (by decide) (by decide) (by decide)).1
  have hlost : tokenNames? (untypedLine ["A".toList, "'>'".toList, "B".toList]) =
      some ["'".toList, "B".toList] := by
    decide
  rw [hlost] at hread
  exact absurd hread (by decide)

end TagVocab.GrammarSymbols

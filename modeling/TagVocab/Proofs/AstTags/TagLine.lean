import TagVocab.Proofs.AstTags
import TagVocab.Proofs.Document.Reading
import TagVocab.Proofs.Text.Blank

/-!
# The lines that declare a tag

The grammar of a line that declares a tag, written as the parts that such a line is made of. A line
is read if and only if it has such parts, and then it has them in one way only.
-/

namespace TagVocab.AstTags

open Text

/-- A value as it is written: an equals sign and a number, with blanks behind each. -/
@[ext] structure TagValue where
  gap : List Char
  digits : List Char
  margin : List Char
  isBlank_gap : ∀ c ∈ gap, isBlank c
  digits_ne_nil : digits ≠ []
  isDecimalDigit_digits : ∀ c ∈ digits, isDecimalDigit c
  isBlank_margin : ∀ c ∈ margin, isBlank c

def TagValue.text (v : TagValue) : List Char :=
  '=' :: (v.gap ++ (v.digits ++ v.margin))

/-- What stands behind the lead on a line that declares a tag: a word, perhaps a value, a comma and
perhaps a comment, with blanks behind the word and the comma. -/
@[ext] structure TagLine where
  word : List Char
  gap : List Char
  value : Option TagValue
  margin : List Char
  comment : Option (List Char)
  word_ne_nil : word ≠ []
  isWordChar_word : ∀ c ∈ word, isWordChar c
  isBlank_gap : ∀ c ∈ gap, isBlank c
  isBlank_margin : ∀ c ∈ margin, isBlank c

namespace TagLine

def valueText (value : Option TagValue) : List Char :=
  value.elim [] TagValue.text

def commentText (comment : Option (List Char)) : List Char :=
  comment.elim [] fun cs => '/' :: '/' :: cs

def text (l : TagLine) : List Char :=
  l.word ++ (l.gap ++ (valueText l.value ++ ',' :: (l.margin ++ commentText l.comment)))

end TagLine

section

variable {p : Char → Bool} {cs : List Char}

theorem stopsRun_valueText (value : Option TagValue) (he : p '=' = false) (hc : p ',' = false) :
    StopsRun p (TagLine.valueText value ++ ',' :: cs) := by
  cases value with
  | none => exact stopsRun_cons.mpr hc
  | some v => exact stopsRun_cons.mpr he

theorem stopsRun_commentText (comment : Option (List Char)) (hs : p '/' = false) :
    StopsRun p (TagLine.commentText comment) := by
  cases comment with
  | none => exact stopsRun_nil
  | some cs => exact stopsRun_cons.mpr hs

theorem TagValue.stopsRun_digits (v : TagValue) :
    StopsRun isBlank (v.digits ++ cs) := by
  obtain ⟨d, ds, hds⟩ := List.exists_cons_of_ne_nil v.digits_ne_nil
  rw [hds, List.cons_append, stopsRun_cons, Bool.eq_false_iff]
  intro hb
  have hd := v.isDecimalDigit_digits d (hds ▸ List.mem_cons_self)
  rw [not_isDecimalDigit_of_isBlank hb] at hd
  exact Bool.false_ne_true hd

theorem TagValue.stopsRun_margin (v : TagValue) (hcs : StopsRun isDecimalDigit cs) :
    StopsRun isDecimalDigit (v.margin ++ cs) :=
  StopsRun.append (fun c hc => not_isDecimalDigit_of_isBlank (v.isBlank_margin c hc)) hcs

end

theorem skipValue?_valueText (value : Option TagValue) (cs : List Char) :
    skipValue? (TagLine.valueText value ++ ',' :: cs) = some (',' :: cs) := by
  have hcomma : StopsRun isDecimalDigit (',' :: cs) := stopsRun_cons.mpr (by decide)
  cases value with
  | none => rfl
  | some v =>
    obtain ⟨d, ds, hds⟩ := List.exists_cons_of_ne_nil v.digits_ne_nil
    have hd : isDecimalDigit d := v.isDecimalDigit_digits d (hds ▸ List.mem_cons_self)
    have hgap : skipBlanks (v.gap ++ (v.digits ++ (v.margin ++ ',' :: cs))) =
        v.digits ++ (v.margin ++ ',' :: cs) :=
      dropWhile_run v.isBlank_gap v.stopsRun_digits
    have hdigits : (v.digits ++ (v.margin ++ ',' :: cs)).dropWhile isDecimalDigit =
        v.margin ++ ',' :: cs :=
      dropWhile_run v.isDecimalDigit_digits (v.stopsRun_margin hcomma)
    have hmargin : skipBlanks (v.margin ++ ',' :: cs) = ',' :: cs :=
      dropWhile_run v.isBlank_margin (stopsRun_cons.mpr (by decide))
    have hhead : (v.digits ++ (v.margin ++ ',' :: cs)).head?.any isDecimalDigit := by
      simp [hds, hd]
    simp only [TagLine.valueText, Option.elim_some, TagValue.text, List.cons_append,
      List.append_assoc, skipValue?]
    rw [hgap, if_pos hhead, hdigits, hmargin]

theorem exists_valueText_of_skipValue? {cs rest : List Char} (h : skipValue? cs = some rest) :
    ∃ value, cs = TagLine.valueText value ++ rest := by
  unfold skipValue? at h
  split at h
  · next cs =>
    dsimp only at h
    split_ifs at h with hhead
    obtain ⟨gap, hgap, hcs⟩ := exists_blanks cs
    obtain ⟨digits, hdigits, hnumber⟩ := exists_run isDecimalDigit (skipBlanks cs)
    obtain ⟨margin, hmargin, hrest⟩ := exists_blanks ((skipBlanks cs).dropWhile isDecimalDigit)
    have hne : digits ≠ [] := by
      rintro rfl
      have hstop : StopsRun isDecimalDigit (skipBlanks cs) := by
        rw [hnumber]
        exact stopsRun_dropWhile
      cases hs : skipBlanks cs with
      | nil => simp [hs] at hhead
      | cons d ds =>
        rw [hs, stopsRun_cons] at hstop
        simp [hs, hstop] at hhead
    refine ⟨some ⟨gap, digits, margin, hgap, hne, hdigits, hmargin⟩, ?_⟩
    simp only [TagLine.valueText, Option.elim_some, TagValue.text, List.cons_append,
      List.append_assoc]
    rw [← Option.some.inj h, ← hrest, ← hnumber, ← hcs]
  · exact ⟨none, Option.some.inj h⟩

theorem exists_commentText_of_endsLine {cs : List Char} (h : endsLine cs) :
    ∃ comment, cs = TagLine.commentText comment := by
  unfold endsLine at h
  split at h
  · exact ⟨none, rfl⟩
  · next cs => exact ⟨some cs, rfl⟩
  · exact nomatch h

def tagAt? (lead cs : List Char) : Option (List Char) := do
  let rest ← afterLead? lead cs
  let word := rest.takeWhile isWordChar
  let rest ← skipValue? (skipBlanks (rest.dropWhile isWordChar))
  if word.isEmpty then none
  match rest with
  | ',' :: rest => if endsLine (skipBlanks rest) then some (lead ++ word) else none
  | _ => none

theorem lineTag?_eq (lead line : List Char) : lineTag? lead line = tagAt? lead (trim line) :=
  rfl

theorem tagAt?_text (lead : List Char) (l : TagLine) :
    tagAt? lead (lead ++ l.text) = some (lead ++ l.word) := by
  have hbehind : StopsRun isWordChar (l.gap ++ (TagLine.valueText l.value ++
      ',' :: (l.margin ++ TagLine.commentText l.comment))) :=
    StopsRun.append (fun c hc => not_isWordChar_of_isBlank (l.isBlank_gap c hc))
      (stopsRun_valueText l.value (by decide) (by decide))
  have hword : l.text.takeWhile isWordChar = l.word := takeWhile_run l.isWordChar_word hbehind
  have hrest := dropWhile_run l.isWordChar_word hbehind
  have hgap : skipBlanks (l.gap ++ (TagLine.valueText l.value ++
      ',' :: (l.margin ++ TagLine.commentText l.comment))) =
        TagLine.valueText l.value ++ ',' :: (l.margin ++ TagLine.commentText l.comment) :=
    dropWhile_run l.isBlank_gap (stopsRun_valueText l.value (by decide) (by decide))
  have hmargin : skipBlanks (l.margin ++ TagLine.commentText l.comment) =
      TagLine.commentText l.comment :=
    dropWhile_run l.isBlank_margin (stopsRun_commentText l.comment (by decide))
  have hends : endsLine (TagLine.commentText l.comment) := by
    cases l.comment <;> rfl
  have hempty : l.word.isEmpty = false := by simpa using l.word_ne_nil
  rw [tagAt?, afterLead?_append, Option.bind_eq_bind, Option.bind_some, hword, TagLine.text, hrest,
    hgap, skipValue?_valueText]
  simp [hempty, hmargin, hends]

theorem exists_tagLine_of_tagAt? {lead cs tag : List Char} (h : tagAt? lead cs = some tag) :
    ∃ l : TagLine, cs = lead ++ l.text ∧ tag = lead ++ l.word := by
  unfold tagAt? at h
  simp only [Option.bind_eq_bind, Option.bind_eq_some_iff] at h
  obtain ⟨rest, hlead, behind, hvalue, h⟩ := h
  by_cases hempty : (rest.takeWhile isWordChar).isEmpty
  · rw [if_pos hempty] at h
    exact nomatch h
  rw [if_neg hempty] at h
  split at h
  · next tail =>
    split_ifs at h with hends
    obtain ⟨value, hbehind⟩ := exists_valueText_of_skipValue? hvalue
    obtain ⟨comment, hcomment⟩ := exists_commentText_of_endsLine hends
    obtain ⟨gap, hgap, hrest⟩ := exists_blanks (rest.dropWhile isWordChar)
    obtain ⟨margin, hmargin, htail⟩ := exists_blanks tail
    refine ⟨⟨rest.takeWhile isWordChar, gap, value, margin, comment, by simpa using hempty,
      List.all_eq_true.mp List.all_takeWhile, hgap, hmargin⟩, ?_, (Option.some.inj h).symm⟩
    rw [eq_append_of_afterLead? hlead, TagLine.text]
    dsimp only
    rw [← hcomment, ← htail, ← hbehind, ← hrest, List.takeWhile_append_dropWhile]
  · exact nomatch h

theorem tagAt?_eq_some_iff {lead cs tag : List Char} :
    tagAt? lead cs = some tag ↔ ∃ l : TagLine, cs = lead ++ l.text ∧ tag = lead ++ l.word := by
  constructor
  · exact exists_tagLine_of_tagAt?
  · rintro ⟨l, rfl, rfl⟩
    exact tagAt?_text lead l

theorem TagValue.text_append_inj {v w : TagValue} {cs ds : List Char}
    (h : v.text ++ ',' :: cs = w.text ++ ',' :: ds) : v = w ∧ cs = ds := by
  have hcs : ∀ es, StopsRun isDecimalDigit (',' :: es) := fun es => stopsRun_cons.mpr (by decide)
  simp only [TagValue.text, List.cons_append, List.append_assoc, List.cons.injEq, true_and] at h
  obtain ⟨hgap, h⟩ :=
    run_append_inj v.isBlank_gap w.isBlank_gap v.stopsRun_digits w.stopsRun_digits h
  obtain ⟨hdigits, h⟩ := run_append_inj v.isDecimalDigit_digits w.isDecimalDigit_digits
    (v.stopsRun_margin (hcs cs)) (w.stopsRun_margin (hcs ds)) h
  obtain ⟨hmargin, h⟩ := run_append_inj v.isBlank_margin w.isBlank_margin
    (stopsRun_cons.mpr (by decide)) (stopsRun_cons.mpr (by decide)) h
  exact ⟨TagValue.ext hgap hdigits hmargin, (List.cons.inj h).2⟩

theorem valueText_append_inj {value value' : Option TagValue} {cs ds : List Char}
    (h : TagLine.valueText value ++ ',' :: cs = TagLine.valueText value' ++ ',' :: ds) :
    value = value' ∧ cs = ds := by
  cases value with
  | none =>
    cases value' with
    | none => exact ⟨rfl, (List.cons.inj h).2⟩
    | some w => exact absurd (List.cons.inj h).1 (by decide)
  | some v =>
    cases value' with
    | none => exact absurd (List.cons.inj h).1 (by decide)
    | some w =>
      obtain ⟨hv, hcs⟩ := TagValue.text_append_inj h
      exact ⟨congrArg some hv, hcs⟩

theorem commentText_injective : Function.Injective TagLine.commentText := by
  intro comment comment' h
  cases comment <;> cases comment' <;> simp_all [TagLine.commentText]

/-- The parts of a line are determined by its text. -/
theorem TagLine.text_injective : Function.Injective TagLine.text := by
  intro l m h
  have hbehind : ∀ n : TagLine, StopsRun isWordChar (n.gap ++ (valueText n.value ++
      ',' :: (n.margin ++ commentText n.comment))) := fun n =>
    StopsRun.append (fun c hc => not_isWordChar_of_isBlank (n.isBlank_gap c hc))
      (stopsRun_valueText n.value (by decide) (by decide))
  obtain ⟨hword, h⟩ := run_append_inj l.isWordChar_word m.isWordChar_word (hbehind l) (hbehind m) h
  obtain ⟨hgap, h⟩ := run_append_inj l.isBlank_gap m.isBlank_gap
    (stopsRun_valueText l.value (by decide) (by decide))
    (stopsRun_valueText m.value (by decide) (by decide)) h
  obtain ⟨hvalue, h⟩ := valueText_append_inj h
  obtain ⟨hmargin, h⟩ := run_append_inj l.isBlank_margin m.isBlank_margin
    (stopsRun_commentText l.comment (by decide)) (stopsRun_commentText m.comment (by decide)) h
  exact TagLine.ext hword hgap hvalue hmargin (commentText_injective h)

/-- The tags of a text are the first occurrences of those that its lines declare. A line declares a
tag exactly if, without the blanks at its ends, it is the lead and the parts of such a line, and no
other parts make up the same line. -/
theorem ofText_reads_tagLines (lead text : String) :
    (ofText lead text).names =
      (((lines text.toList).filterMap (lineTag? lead.toList)).map String.ofList).eraseDups ∧
    (∀ line tag, lineTag? lead.toList line = some tag ↔
      ∃ l : TagLine, trim line = lead.toList ++ l.text ∧ tag = lead.toList ++ l.word) ∧
    Function.Injective fun l : TagLine => lead.toList ++ l.text := by
  refine ⟨names_ofText lead text, ?_, ?_⟩
  · intro line tag
    rw [lineTag?_eq]
    exact tagAt?_eq_some_iff
  · intro l m h
    exact TagLine.text_injective (List.append_cancel_left h)

def enumeration : String :=
  "enum Tag \x7b\n  AST_ONE,\r\n\tAST_TWO = 2, // AST_X,\n\u00A0AST_ONE,\n  AST_THREE, AST_FOUR,\n  AST_LAST\n\x7d\n"
theorem ofText_reads_tagLines_enumeration :
    (ofText "AST_" enumeration).names = ["AST_ONE", "AST_TWO"] ∧
    ∃ l : TagLine, trim "\tAST_TWO = 2, // AST_X,\r".toList = "AST_".toList ++ l.text ∧
      "AST_TWO".toList = "AST_".toList ++ l.word := by
  obtain ⟨hnames, hlines, -⟩ := ofText_reads_tagLines "AST_" enumeration
  refine ⟨?_, (hlines _ _).mp (by decide)⟩
  rw [hnames]
  decide

-- The lead may come twice, and the digits of a value may be those of any script.
example : lineTag? "A_".toList "\tA_A_9 =٣\u00A0, // A_B,".toList = some "A_A_9".toList := by
  decide

end TagVocab.AstTags

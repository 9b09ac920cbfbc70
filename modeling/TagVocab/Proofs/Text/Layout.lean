import Mathlib.Data.List.Forall2
import TagVocab.Proofs.Text.Blank

/-!
# Layout

Texts that differ in layout only: blanks and comments behind their lines, and blanks in front. What
is read off a text line by line is the same for both if no single line is read differently with
such an addition.
-/

namespace TagVocab.Text

/-- What may be put behind a line: blanks, and perhaps a comment behind them. -/
inductive Trail : List Char → Prop where
  | blanks {bs : List Char} (hne : bs ≠ []) (hbs : ∀ c ∈ bs, isBlank c) : Trail bs
  | comment {bs : List Char} (hne : bs ≠ []) (hbs : ∀ c ∈ bs, isBlank c) (cs : List Char) :
    Trail (bs ++ '/' :: '/' :: cs)

/-- Whether the second line is the first with a trail put behind it and, where `front` allows it,
blanks in front. The line may end in a carriage return that stays behind the trail. -/
inductive RelaidLine (front : Bool) : List Char → List Char → Prop where
  | mk {indent line trail ending : List Char} (hfront : front = false → indent = [])
    (hindent : ∀ c ∈ indent, isBlank c) (hni : '\n' ∉ indent)
    (htrail : trail = [] ∨ Trail trail) (hnt : '\n' ∉ trail)
    (hending : ending = [] ∨ ending = ['\r']) :
    RelaidLine front (line ++ ending) (indent ++ line ++ trail ++ ending)

/-- Whether two texts have the same lines, but for what `RelaidLine` lets pass. -/
def Relaid (front : Bool) (text text' : String) : Prop :=
  List.Forall₂ (RelaidLine front) (text.toList.splitOn '\n') (text'.toList.splitOn '\n')

/-- The text with a carriage return in front of every line feed. -/
def withReturns (text : String) : String :=
  String.ofList (text.toList.flatMap fun c => if c = '\n' then ['\r', '\n'] else [c])

theorem trail_return : Trail ['\r'] :=
  .blanks (by simp) (List.forall_mem_singleton.mpr rfl)

theorem trail_comment {b : Char} (hb : isBlank b) (cs : List Char) :
    Trail (b :: '/' :: '/' :: cs) :=
  @Trail.comment [b] (by simp) (List.forall_mem_singleton.mpr hb) cs

namespace Trail

variable {trail : List Char}

theorem exists_blank_cons (h : Trail trail) : ∃ b rest, trail = b :: rest ∧ isBlank b := by
  cases h with
  | blanks hne hbs =>
    obtain ⟨b, rest, rfl⟩ := List.exists_cons_of_ne_nil hne
    exact ⟨b, rest, rfl, hbs b List.mem_cons_self⟩
  | comment hne hbs cs =>
    obtain ⟨b, rest, rfl⟩ := List.exists_cons_of_ne_nil hne
    exact ⟨b, _, rfl, hbs b List.mem_cons_self⟩

theorem stopsRun {p : Char → Bool} (h : Trail trail) (hp : ∀ c, isBlank c → p c = false) :
    StopsRun p trail := by
  obtain ⟨b, rest, rfl, hb⟩ := h.exists_blank_cons
  exact stopsRun_cons.mpr (hp b hb)

/-- Of a text with a trail behind it, what is left behind the first blanks is the rest of the text,
with the trail, or the comment in the trail, or nothing. -/
theorem skipBlanks_append (h : Trail trail) (cs : List Char) :
    (skipBlanks cs = [] ∧ skipBlanks (cs ++ trail) = []) ∨
    (skipBlanks cs = [] ∧ ∃ ds, skipBlanks (cs ++ trail) = '/' :: '/' :: ds ∧ ds ⊆ trail) ∨
    ∃ c ds, skipBlanks cs = c :: ds ∧ skipBlanks (cs ++ trail) = c :: (ds ++ trail) := by
  rw [Text.skipBlanks_append]
  cases hs : skipBlanks cs with
  | nil =>
    rw [if_pos rfl]
    cases h with
    | blanks hne hbs => exact Or.inl ⟨rfl, skipBlanks_of_blanks hbs⟩
    | comment hne hbs ds =>
      refine Or.inr (Or.inl ⟨rfl, ds, dropWhile_run hbs (stopsRun_cons.mpr (by decide)), ?_⟩)
      intro d hd
      simp [hd]
  | cons c ds =>
    rw [if_neg (List.cons_ne_nil c ds)]
    exact Or.inr (Or.inr ⟨c, ds, rfl, rfl⟩)

end Trail

/-- Whether line ends do not matter to what is read off a line: neither a carriage return does, nor
is anything read off the empty line that may stand behind the last line feed. -/
structure IgnoresLineEnds {β : Type} (read : List Char → List β) : Prop where
  carriageReturn : ∀ line, read (line ++ ['\r']) = read line
  nil : read [] = []

namespace IgnoresLineEnds

variable {β : Type} {read : List Char → List β} (h : IgnoresLineEnds read)

include h

theorem read_dropReturn (line : List Char) : read (dropReturn line) = read line := by
  unfold dropReturn
  by_cases hr : line.getLast? = some '\r'
  · rw [if_pos hr]
    obtain ⟨l, rfl⟩ := List.getLast?_eq_some_iff.mp hr
    rw [List.dropLast_concat]
    exact (h.carriageReturn l).symm
  · rw [if_neg hr]

theorem flatMap_lines (cs : List Char) :
    (lines cs).flatMap read = (cs.splitOn '\n').flatMap read := by
  have hne : cs.splitOn '\n' ≠ [] := List.splitOn_ne_nil '\n' cs
  have hlast : (((cs.splitOn '\n').getLast?.filter (!·.isEmpty)).toList).flatMap read =
      read ((cs.splitOn '\n').getLast hne) := by
    rw [List.getLast?_eq_some_getLast hne]
    cases (cs.splitOn '\n').getLast hne with
    | nil => exact h.nil.symm
    | cons c cs => exact List.append_nil (read (c :: cs))
  have hinit : ((cs.splitOn '\n').dropLast.map dropReturn).flatMap read =
      (cs.splitOn '\n').dropLast.flatMap read := by
    rw [List.flatMap_map]
    exact List.flatMap_congr fun l _ => h.read_dropReturn l
  conv_rhs => rw [← List.dropLast_concat_getLast hne]
  unfold lines
  dsimp only
  rw [List.flatMap_append, List.flatMap_append, hinit, hlast, List.flatMap_singleton]

theorem flatMap_lines_append (cs ds : List Char) :
    (lines (cs ++ '\n' :: ds)).flatMap read =
      (lines cs).flatMap read ++ (lines ds).flatMap read := by
  rw [h.flatMap_lines, h.flatMap_lines, h.flatMap_lines, List.splitOn_append_cons_self,
    List.flatMap_append]

end IgnoresLineEnds

/-- Whether nothing else is read off a line with a trail behind it and, if `front` says so, with
blanks in front. -/
structure Indifferent {β : Type} (front : Bool) (read : List Char → List β) : Prop where
  trail : ∀ (line : List Char) {trail : List Char}, Trail trail → '\n' ∉ trail →
    read (line ++ trail) = read line
  indent : front = true → ∀ (line : List Char) {indent : List Char}, (∀ c ∈ indent, isBlank c) →
    read (indent ++ line) = read line
  nil : read [] = []

namespace Indifferent

variable {β : Type} {front : Bool} {read : List Char → List β} (h : Indifferent front read)

include h

theorem eq_of_relaidLine {line line' : List Char} (hl : RelaidLine front line line') :
    read line' = read line := by
  obtain @⟨indent, line, trail, ending, hfront, hindent, -, htrail, hnt, hending⟩ := hl
  have hreturn : ∀ l : List Char, read (l ++ ending) = read l := by
    intro l
    rcases hending with rfl | rfl
    · rw [List.append_nil]
    · exact h.trail l trail_return (by decide)
  have htrailing : read (indent ++ line ++ trail) = read (indent ++ line) := by
    rcases htrail with rfl | htrail
    · rw [List.append_nil]
    · exact h.trail (indent ++ line) htrail hnt
  have hleading : read (indent ++ line) = read line := by
    cases front with
    | false => rw [hfront rfl, List.nil_append]
    | true => exact h.indent rfl line hindent
  rw [hreturn, hreturn, htrailing, hleading]

theorem ignoresLineEnds : IgnoresLineEnds read where
  carriageReturn line := h.trail line trail_return (by decide)
  nil := h.nil

theorem flatMap_lines_of_relaid {text text' : String} (ht : Relaid front text text') :
    (lines text'.toList).flatMap read = (lines text.toList).flatMap read := by
  rw [h.ignoresLineEnds.flatMap_lines, h.ignoresLineEnds.flatMap_lines]
  unfold Relaid at ht
  generalize text.toList.splitOn '\n' = ls, text'.toList.splitOn '\n' = ls' at ht
  induction ht with
  | nil => rfl
  | cons hl _ ih => rw [List.flatMap_cons, List.flatMap_cons, h.eq_of_relaidLine hl, ih]

end Indifferent

theorem RelaidLine.append {front : Bool} {line trail : List Char}
    (htrail : trail = [] ∨ Trail trail) (hnt : '\n' ∉ trail) :
    RelaidLine front line (line ++ trail) := by
  have hl := @RelaidLine.mk front [] line trail [] (fun _ => rfl) (by simp) (by simp) htrail hnt
    (Or.inl rfl)
  simpa using hl

theorem Relaid.refl (front : Bool) (text : String) : Relaid front text text := by
  apply List.forall₂_same.mpr
  intro line _
  simpa using @RelaidLine.append front line [] (Or.inl rfl) (by simp)

theorem forall₂_modifyHead {α : Type} {R : α → α → Prop} {f : α → α} {as bs : List α}
    (h : List.Forall₂ R as bs) (hf : ∀ a b, R a b → R (f a) (f b)) :
    List.Forall₂ R (as.modifyHead f) (bs.modifyHead f) := by
  cases h with
  | nil => exact .nil
  | cons hab h => exact .cons (hf _ _ hab) h

theorem forall₂_splitOn_withReturns (cs : List Char) :
    List.Forall₂ (fun l l' => l' = l ∨ l' = l ++ ['\r']) (cs.splitOn '\n')
      ((cs.flatMap fun c => if c = '\n' then ['\r', '\n'] else [c]).splitOn '\n') := by
  induction cs with
  | nil => simp
  | cons c cs ih =>
    rw [List.flatMap_cons, List.splitOn_cons_eq_if_modifyHead]
    by_cases hc : c = '\n'
    · rw [if_pos hc, if_pos (by simp [hc])]
      have hsplit := fun ds : List Char =>
        List.splitOn_append_cons_self_of_not_mem (show '\n' ∉ ['\r'] by decide) ds
      simp only [List.cons_append, List.nil_append] at hsplit ⊢
      rw [hsplit]
      exact .cons (Or.inr rfl) ih
    · rw [if_neg hc, if_neg (by simp [hc]), List.singleton_append,
        List.splitOn_cons_eq_if_modifyHead, if_neg (by simp [hc])]
      apply forall₂_modifyHead ih
      rintro l _ (rfl | rfl)
      · exact Or.inl rfl
      · exact Or.inr rfl

theorem relaid_withReturns (front : Bool) (text : String) :
    Relaid front text (withReturns text) := by
  unfold Relaid withReturns
  rw [String.toList_ofList]
  apply (forall₂_splitOn_withReturns text.toList).imp
  intro line line' hl
  rcases hl with rfl | rfl
  · simpa using @RelaidLine.append front line' [] (Or.inl rfl) (by simp)
  · exact .append (Or.inr trail_return) (by decide)

end TagVocab.Text

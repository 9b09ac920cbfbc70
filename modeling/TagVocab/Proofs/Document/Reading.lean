import TagVocab.AstTags
import TagVocab.Document.Basic

/-!
# Reading documents

The lines of a document come back from its text if none of them holds a character that ends a line.
With them stand the means by which parts of a document are found again: the lines behind a line with
a known beginning, the lines of a block, a number in decimal digits.
-/

namespace TagVocab

namespace Text

/-- Without the characters that end a line. -/
structure OneLine (cs : List Char) : Prop where
  noLineFeed : '\n' ∉ cs
  noReturn : '\r' ∉ cs

instance : DecidablePred OneLine := fun cs =>
  decidable_of_iff ('\n' ∉ cs ∧ '\r' ∉ cs) ⟨fun h => ⟨h.1, h.2⟩, fun h => ⟨h.1, h.2⟩⟩

@[simp] theorem oneLine_append (cs ds : List Char) :
    OneLine (cs ++ ds) ↔ OneLine cs ∧ OneLine ds := by
  constructor
  · rintro ⟨hn, hr⟩
    rw [List.mem_append, not_or] at hn hr
    exact ⟨⟨hn.1, hr.1⟩, hn.2, hr.2⟩
  · rintro ⟨hc, hd⟩
    constructor
    · simp [hc.noLineFeed, hd.noLineFeed]
    · simp [hc.noReturn, hd.noReturn]

theorem oneLine_of_forall {p : Char → Bool} (hn : p '\n' = false) (hr : p '\r' = false)
    {cs : List Char} (h : ∀ c ∈ cs, p c) : OneLine cs := by
  constructor
  · intro hc
    exact absurd (h _ hc) (by simp [hn])
  · intro hc
    exact absurd (h _ hc) (by simp [hr])

theorem splitOn_flatMap_lineFeed (ls : List (List Char)) (h : ∀ l ∈ ls, '\n' ∉ l) :
    (ls.flatMap (· ++ ['\n'])).splitOn '\n' = ls ++ [[]] := by
  induction ls with
  | nil => rfl
  | cons l ls ih =>
    have hl : '\n' ∉ l := h l List.mem_cons_self
    have hls := ih fun m hm => h m (List.mem_cons_of_mem l hm)
    rw [List.flatMap_cons, List.append_assoc, List.singleton_append,
      List.splitOn_append_cons_self_of_not_mem hl, hls, List.cons_append]

theorem dropReturn_of_oneLine {cs : List Char} (h : OneLine cs) : dropReturn cs = cs := by
  unfold dropReturn
  rw [if_neg]
  intro hl
  exact h.noReturn (List.mem_of_getLast? hl)

theorem takeWhile_append_cons {p : Char → Bool} {cs : List Char} (h : ∀ c ∈ cs, p c) {d : Char}
    (hd : p d = false) (ds : List Char) : (cs ++ d :: ds).takeWhile p = cs := by
  rw [List.takeWhile_append_of_pos h, List.takeWhile_cons_of_neg (by simp [hd]), List.append_nil]

theorem dropWhile_append_cons {p : Char → Bool} {cs : List Char} (h : ∀ c ∈ cs, p c) {d : Char}
    (hd : p d = false) (ds : List Char) : (cs ++ d :: ds).dropWhile p = d :: ds := by
  rw [List.dropWhile_append_of_pos h, List.dropWhile_cons_of_neg (by simp [hd])]

/-- The number that `cs` starts with, and the text behind its last digit. -/
def readNumber? (cs : List Char) : Option (Nat × List Char) :=
  match cs.takeWhile Char.isDigit with
  | [] => none
  | digits => some (Nat.ofDigitChars 10 digits 0, cs.dropWhile Char.isDigit)

theorem readNumber?_toDigits (n : Nat) {c : Char} (hc : c.isDigit = false) (cs : List Char) :
    readNumber? (Nat.toDigits 10 n ++ c :: cs) = some (n, c :: cs) := by
  have hd : ∀ d ∈ Nat.toDigits 10 n, d.isDigit := fun d hd =>
    Nat.isDigit_of_mem_toDigits (by decide) (by decide) hd
  unfold readNumber?
  rw [takeWhile_append_cons hd hc, dropWhile_append_cons hd hc]
  split
  · next hnil => exact absurd hnil Nat.toDigits_ne_nil
  · rw [Nat.ofDigitChars_ten_toDigits]

theorem oneLine_toString (n : Nat) : OneLine (toString n).toList := by
  rw [Nat.toString_eq_repr, Nat.toList_repr]
  exact oneLine_of_forall (p := Char.isDigit) (by decide) (by decide) fun d hd =>
    Nat.isDigit_of_mem_toDigits (by decide) (by decide) hd

end Text

@[simp] theorem AstTags.afterLead?_append (lead cs : List Char) :
    afterLead? lead (lead ++ cs) = some cs := by
  induction lead with
  | nil => rfl
  | cons l lead ih => simp [afterLead?, ih]

open Text

namespace Document

theorem filterMap_map_some {α β γ : Type} {f : β → Option γ} {g : α → β} {k : α → γ} {as : List α}
    (h : ∀ a ∈ as, f (g a) = some (k a)) : (as.map g).filterMap f = as.map k := by
  induction as with
  | nil => rfl
  | cons a as ih =>
    rw [List.forall_mem_cons] at h
    rw [List.map_cons, List.filterMap_cons_some h.1, ih h.2, List.map_cons]

theorem mapM_map_some {α β γ : Type} {f : α → Option β} {g : γ → α} {h : γ → β} {cs : List γ}
    (H : ∀ c ∈ cs, f (g c) = some (h c)) : (cs.map g).mapM f = some (cs.map h) := by
  induction cs with
  | nil => rfl
  | cons c cs ih =>
    have hc := H c List.mem_cons_self
    have hcs := ih fun d hd => H d (List.mem_cons_of_mem c hd)
    simp [List.mapM_cons, hc, hcs]

def linesOf (contents : String) : List String :=
  (Text.lines contents.toList).map String.ofList

theorem toList_text (ls : List String) :
    (text ls).toList = (ls.map String.toList).flatMap (· ++ ['\n']) := by
  simp [text, List.flatMap_map]

theorem lines_text (ls : List String) (h : ∀ l ∈ ls, OneLine l.toList) :
    Text.lines (text ls).toList = ls.map String.toList := by
  have hs := splitOn_flatMap_lineFeed (ls.map String.toList) fun l hl => by
    obtain ⟨m, hm, rfl⟩ := List.mem_map.mp hl
    exact (h m hm).noLineFeed
  have hd : (ls.map String.toList).map dropReturn = ls.map String.toList := by
    rw [List.map_map]
    exact List.map_congr_left fun l hl => dropReturn_of_oneLine (h l hl)
  unfold Text.lines
  rw [toList_text, hs]
  dsimp only
  rw [List.dropLast_concat, hd, List.getLast?_concat]
  simp

theorem linesOf_text (ls : List String) (h : ∀ l ∈ ls, OneLine l.toList) :
    linesOf (text ls) = ls := by
  rw [linesOf, lines_text ls h]
  simp [Function.comp_def]

def after? (mark line : String) : Option (List Char) :=
  AstTags.afterLead? mark.toList line.toList

/-- What stands in front of `ending`, if `cs` ends with it. -/
def endingIn? (ending cs : List Char) : Option (List Char) :=
  (AstTags.afterLead? ending.reverse cs.reverse).map List.reverse

/-- What stands between a known start and a known end of a line. -/
def between? (start ending line : String) : Option String :=
  (after? start line).bind fun cs => (endingIn? ending.toList cs).map String.ofList

/-- What follows `mark` on the first line that starts with it, and the lines behind that one. -/
def locate? (mark : String) : List String → Option (List Char × List String)
  | [] => none
  | line :: rest =>
    match after? mark line with
    | some tail => some (tail, rest)
    | none => locate? mark rest

/-- The lines up to the first one that is `closing`, and the lines behind that one. -/
def block? (closing : String) : List String → Option (List String × List String)
  | [] => none
  | line :: rest =>
    if line = closing then some ([], rest)
    else (block? closing rest).map fun (body, rest) => (line :: body, rest)

theorem after?_append (mark tail : String) : after? mark (mark ++ tail) = some tail.toList := by
  rw [after?, String.toList_append, AstTags.afterLead?_append]

theorem endingIn?_append (cs ending : List Char) : endingIn? ending (cs ++ ending) = some cs := by
  rw [endingIn?, List.reverse_append, AstTags.afterLead?_append, Option.map_some,
    List.reverse_reverse]

theorem between?_append (start text ending : String) :
    between? start ending (start ++ (text ++ ending)) = some text := by
  rw [between?, after?_append, Option.bind_some, String.toList_append, endingIn?_append,
    Option.map_some, String.ofList_toList]

/-- What is known of a line: characters that it starts with, and whether there are no others. -/
structure LineStart where
  chars : List Char
  whole : Bool

/-- Whether two texts differ at a place that both have. -/
def clash : List Char → List Char → Bool
  | c :: cs, d :: ds => c != d || clash cs ds
  | _, _ => false

/-- Whether it is known that a line does not start with `mark`. -/
def LineStart.lacks (mark : List Char) (start : LineStart) : Bool :=
  clash mark start.chars || start.whole && (AstTags.afterLead? mark start.chars).isNone

/-- Lines and their starts. For given lines the starts are found by `repeat constructor`, without
evaluating `toList` on any of them. -/
inductive Starts : List String → List LineStart → Prop where
  | nil : Starts [] []
  | cons_append (cs : List Char) (tail : String) {ls : List String} {starts : List LineStart} :
    Starts ls starts → Starts ((String.ofList cs ++ tail) :: ls) (⟨cs, false⟩ :: starts)
  | cons (cs : List Char) {ls : List String} {starts : List LineStart} :
    Starts ls starts → Starts (String.ofList cs :: ls) (⟨cs, true⟩ :: starts)

theorem afterLead?_of_clash {mark cs : List Char} (h : clash mark cs) (ds : List Char) :
    AstTags.afterLead? mark (cs ++ ds) = none := by
  induction mark generalizing cs with
  | nil => exact nomatch h
  | cons m mark ih =>
    cases cs with
    | nil => exact nomatch h
    | cons c cs =>
      rw [List.cons_append, AstTags.afterLead?]
      split
      · next hmc =>
        refine ih ?_
        simpa [clash, hmc] using h
      · rfl

theorem after?_of_clash {mark cs : List Char} (h : clash mark cs) (tail : String) :
    after? (String.ofList mark) (String.ofList cs ++ tail) = none := by
  rw [after?, String.toList_append, String.toList_ofList, String.toList_ofList]
  exact afterLead?_of_clash h tail.toList

theorem after?_ofList {mark cs : List Char} (h : AstTags.afterLead? mark cs = none) :
    after? (String.ofList mark) (String.ofList cs) = none := by
  rwa [after?, String.toList_ofList, String.toList_ofList]

theorem Starts.after?_eq_none {ls : List String} {starts : List LineStart} (hs : Starts ls starts)
    {mark : List Char} (h : ∀ start ∈ starts, start.lacks mark) :
    ∀ l ∈ ls, after? (String.ofList mark) l = none := by
  induction hs with
  | nil => simp
  | cons_append cs tail hs ih =>
    rw [List.forall_mem_cons] at h ⊢
    have hclash : clash mark cs := by simpa [LineStart.lacks] using h.1
    exact ⟨after?_of_clash hclash tail, ih h.2⟩
  | cons cs hs ih =>
    rw [List.forall_mem_cons, LineStart.lacks, Bool.or_eq_true] at h
    rw [List.forall_mem_cons]
    refine ⟨after?_ofList ?_, ih h.2⟩
    rcases h.1 with hclash | hnone
    · simpa using afterLead?_of_clash hclash []
    · simpa using hnone

theorem Starts.oneLine {ls : List String} {starts : List LineStart} (hs : Starts ls starts)
    (h : ∀ start ∈ starts, start.whole ∧ OneLine start.chars) : ∀ l ∈ ls, OneLine l.toList := by
  induction hs with
  | nil => simp
  | cons_append cs tail hs ih => simp at h
  | cons cs hs ih =>
    rw [List.forall_mem_cons] at h ⊢
    rw [String.toList_ofList]
    exact ⟨h.1.2, ih h.2⟩

theorem oneLine_header : ∀ l ∈ header, OneLine l.toList :=
  Starts.oneLine (by repeat constructor) (by decide)

theorem Starts.map_toList {ls : List String} {starts : List LineStart} (hs : Starts ls starts)
    (h : ∀ start ∈ starts, start.whole) : ls.map String.toList = starts.map (·.chars) := by
  induction hs with
  | nil => rfl
  | cons_append cs tail hs ih => simp at h
  | cons cs hs ih =>
    rw [List.forall_mem_cons] at h
    rw [List.map_cons, List.map_cons, String.toList_ofList, ih h.2]

theorem oneLine_ofList {cs : List Char} (h : OneLine cs) : OneLine (String.ofList cs).toList := by
  rwa [String.toList_ofList]

theorem afterLead?_append_lead (start rest cs : List Char) :
    AstTags.afterLead? (start ++ rest) cs =
      (AstTags.afterLead? start cs).bind (AstTags.afterLead? rest) := by
  induction start generalizing cs with
  | nil => rfl
  | cons c start ih =>
    cases cs with
    | nil => rfl
    | cons d cs =>
      rw [List.cons_append, AstTags.afterLead?, AstTags.afterLead?]
      split
      · exact ih cs
      · rfl

theorem ne_of_after?_eq_none {mark line : String} (h : after? mark line = none) : line ≠ mark := by
  rintro rfl
  have hself := after?_append line ""
  rw [String.append_empty, h] at hself
  exact nomatch hself

/-- A line that does not start with `start` does not start with any text that begins so. -/
theorem after?_eq_none_of_append {start line : String} (h : after? start line = none)
    (rest : String) : after? (start ++ rest) line = none := by
  rw [after?] at h
  rw [after?, String.toList_append, afterLead?_append_lead, h, Option.bind_none]

theorem locate?_append {mark : String} {before : List String}
    (h : ∀ l ∈ before, after? mark l = none) (rest : List String) :
    locate? mark (before ++ rest) = locate? mark rest := by
  induction before with
  | nil => rfl
  | cons l before ih =>
    have hl : after? mark l = none := h l List.mem_cons_self
    rw [List.cons_append, locate?, hl]
    exact ih fun m hm => h m (List.mem_cons_of_mem l hm)

theorem locate?_skip {mark line : String} (h : after? mark line = none) (rest : List String) :
    locate? mark (line :: rest) = locate? mark rest := by
  rw [locate?, h]

theorem locate?_cons {mark line : String} {tail : List Char} (h : after? mark line = some tail)
    (rest : List String) : locate? mark (line :: rest) = some (tail, rest) := by
  rw [locate?, h]

theorem locate?_empty (m : Char) (mark : List Char) (rest : List String) :
    locate? (String.ofList (m :: mark)) ("" :: rest) = locate? (String.ofList (m :: mark)) rest :=
  locate?_skip (@after?_ofList (m :: mark) [] rfl) rest

theorem block?_append {closing : String} {body : List String} (h : ∀ l ∈ body, l ≠ closing)
    (rest : List String) : block? closing (body ++ closing :: rest) = some (body, rest) := by
  induction body with
  | nil => simp [block?]
  | cons l body ih =>
    have hl : l ≠ closing := h l List.mem_cons_self
    have hb := ih fun m hm => h m (List.mem_cons_of_mem l hm)
    rw [List.cons_append, block?, if_neg hl, hb, Option.map_some]

end Document

end TagVocab

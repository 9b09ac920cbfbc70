import Mathlib.Tactic.SplitIfs
import TagVocab.Proofs.Document.Reading
import TagVocab.Text.Quoted

/-!
# Decoding string literals

The characters that a literal stands for. What is decoded from a quoted text is the text.
-/

namespace TagVocab.Text

inductive LiteralState where
  | plain
  | backslash
  | brace
  /-- Inside the braces of a code point, of which some digits were read. -/
  | code (digits value : Nat)

def escaped? (c : Char) : Option Char :=
  [('n', '\n'), ('r', '\r'), ('t', '\t'), ('0', '\x00'), ('\\', '\\'), ('"', '"'),
    ('\'', '\'')].lookup c

def hexDigit? (c : Char) : Option Nat :=
  if '0' ≤ c ∧ c ≤ '9' then some (c.toNat - '0'.toNat)
  else if 'a' ≤ c ∧ c ≤ 'f' then some (c.toNat - 'a'.toNat + 10)
  else if 'A' ≤ c ∧ c ≤ 'F' then some (c.toNat - 'A'.toNat + 10)
  else none

/-- Decodes up to the closing quote, behind which nothing may stand. -/
def decodeFrom : LiteralState → List Char → Option (List Char)
  | _, [] => none
  | .plain, c :: cs =>
    if c = '"' then if cs.isEmpty then some [] else none
    else if c = '\\' then decodeFrom .backslash cs
    else if c = '\r' then none
    else (decodeFrom .plain cs).map (c :: ·)
  | .backslash, c :: cs =>
    if c = 'u' then decodeFrom .brace cs
    else (escaped? c).bind fun d => (decodeFrom .plain cs).map (d :: ·)
  | .brace, c :: cs =>
    if c = '{' then decodeFrom (.code 0 0) cs else none
  | .code digits value, c :: cs =>
    if c = '}' then
      if 0 < digits ∧ digits ≤ 6 ∧ value.isValidChar then
        (decodeFrom .plain cs).map (Char.ofNat value :: ·)
      else none
    else (hexDigit? c).bind fun d => decodeFrom (.code (digits + 1) (16 * value + d)) cs

def decodeLiteral : List Char → Option (List Char)
  | [] => none
  | c :: cs => if c = '"' then decodeFrom .plain cs else none

theorem hexDigit?_digitChar {d : Nat} (hd : d < 16) :
    hexDigit? d.digitChar = some d ∧ d.digitChar ≠ '}' := by
  revert hd
  revert d
  decide

theorem decodeFrom_code_digitChar {d : Nat} (hd : d < 16) (digits value : Nat) (cs : List Char) :
    decodeFrom (.code digits value) (d.digitChar :: cs) =
      decodeFrom (.code (digits + 1) (16 * value + d)) cs := by
  obtain ⟨hv, hb⟩ := hexDigit?_digitChar hd
  rw [decodeFrom, if_neg hb, hv, Option.bind_some]

theorem decodeFrom_code_toDigits (n digits : Nat) (cs : List Char) :
    decodeFrom (.code digits 0) (Nat.toDigits 16 n ++ cs) =
      decodeFrom (.code (digits + (Nat.toDigits 16 n).length) n) cs := by
  induction n using Nat.base_induction 16 (by decide) generalizing cs with
  | single d hd =>
    rw [Nat.toDigits_of_lt_base hd, List.singleton_append, decodeFrom_code_digitChar hd]
    simp
  | digit m d hd hm ih =>
    rw [← Nat.toDigits_append_toDigits (by decide) hm hd, Nat.toDigits_of_lt_base hd,
      List.append_assoc, ih, List.singleton_append, decodeFrom_code_digitChar hd,
      List.length_append, List.length_singleton, Nat.add_assoc]

theorem length_toDigits_toNat (c : Char) : (Nat.toDigits 16 c.toNat).length ≤ 6 := by
  rw [Nat.length_toDigits_le_iff (by decide) (by decide)]
  have hv : c.toNat.isValidChar := c.valid
  unfold Nat.isValidChar at hv
  omega

theorem decodeFrom_spelledOut (c : Char) (cs : List Char) :
    decodeFrom .plain (['\\', 'u', '{'] ++ Nat.toDigits 16 c.toNat ++ ['}'] ++ cs) =
      (decodeFrom .plain cs).map (c :: ·) := by
  have hl := length_toDigits_toNat c
  have hp : 0 < (Nat.toDigits 16 c.toNat).length := Nat.length_toDigits_pos
  have hv : c.toNat.isValidChar := c.valid
  have hc := decodeFrom_code_toDigits c.toNat 0 ('}' :: cs)
  simp [decodeFrom, hc, hl, hp, hv]

theorem decodeFrom_backslash {e d : Char} (he : escaped? e = some d) (hu : e ≠ 'u')
    (cs : List Char) :
    decodeFrom .plain ('\\' :: e :: cs) = (decodeFrom .plain cs).map (d :: ·) := by
  have hq : ¬ '\\' = '"' := by decide
  rw [decodeFrom, if_neg hq, if_pos rfl, decodeFrom, if_neg hu, he, Option.bind_some]

theorem decodeFrom_escape (c : Char) (cs : List Char) :
    decodeFrom .plain (escape c ++ cs) = (decodeFrom .plain cs).map (c :: ·) := by
  unfold escape
  split_ifs with h0 ht hn hr hq hs
  · exact h0 ▸ decodeFrom_backslash rfl (by decide) cs
  · exact ht ▸ decodeFrom_backslash rfl (by decide) cs
  · exact hn ▸ decodeFrom_backslash rfl (by decide) cs
  · exact hr ▸ decodeFrom_backslash rfl (by decide) cs
  · rcases hq with rfl | rfl
    · exact decodeFrom_backslash rfl (by decide) cs
    · exact decodeFrom_backslash rfl (by decide) cs
  · exact decodeFrom_spelledOut c cs
  · rw [not_or] at hq
    rw [List.singleton_append, decodeFrom, if_neg hq.1, if_neg hq.2, if_neg hr]

theorem decodeLiteral_encodeLiteral (cs : List Char) :
    decodeLiteral (encodeLiteral cs) = some cs := by
  have hb : decodeFrom .plain (cs.flatMap escape ++ ['"']) = some cs := by
    induction cs with
    | nil => rfl
    | cons c cs ih =>
      rw [List.flatMap_cons, List.append_assoc, decodeFrom_escape, ih, Option.map_some]
  exact hb

theorem exists_digitChar_of_mem_toDigits {n : Nat} {c : Char} (h : c ∈ Nat.toDigits 16 n) :
    ∃ d < 16, c = d.digitChar := by
  induction n using Nat.base_induction 16 (by decide) with
  | single d hd =>
    rw [Nat.toDigits_of_lt_base hd, List.mem_singleton] at h
    exact ⟨d, hd, h⟩
  | digit m d hd hm ih =>
    rw [← Nat.toDigits_append_toDigits (by decide) hm hd, Nat.toDigits_of_lt_base hd,
      List.mem_append, List.mem_singleton] at h
    rcases h with h | h
    · exact ih h
    · exact ⟨d, hd, h⟩

theorem oneLine_toDigits (n : Nat) : OneLine (Nat.toDigits 16 n) := by
  have hd : ∀ d < 16, d.digitChar ≠ '\n' ∧ d.digitChar ≠ '\r' := by decide
  constructor
  · intro h
    obtain ⟨d, hlt, hc⟩ := exists_digitChar_of_mem_toDigits h
    exact (hd d hlt).1 hc.symm
  · intro h
    obtain ⟨d, hlt, hc⟩ := exists_digitChar_of_mem_toDigits h
    exact (hd d hlt).2 hc.symm

theorem oneLine_escape (c : Char) : OneLine (escape c) := by
  unfold escape
  split_ifs with h0 ht hn hr hq hs
  · decide
  · decide
  · decide
  · decide
  · rcases hq with rfl | rfl <;> decide
  · rw [oneLine_append, oneLine_append]
    exact ⟨⟨by decide, oneLine_toDigits c.toNat⟩, by decide⟩
  · exact ⟨by simpa using Ne.symm hn, by simpa using Ne.symm hr⟩

theorem oneLine_encodeLiteral (cs : List Char) : OneLine (encodeLiteral cs) := by
  have hb : OneLine (cs.flatMap escape) := by
    induction cs with
    | nil => decide
    | cons c cs ih =>
      rw [List.flatMap_cons, oneLine_append]
      exact ⟨oneLine_escape c, ih⟩
  unfold encodeLiteral
  rw [oneLine_append, oneLine_append]
  exact ⟨⟨by decide, hb⟩, by decide⟩

end TagVocab.Text

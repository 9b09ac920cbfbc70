import TagVocab.Text.VisibleTable

/-!
# String literals

A literal stands between double quotes. Characters that would end it, or that have no visible form
of their own, are spelled out.
-/

namespace TagVocab.Text

/-- Marks and characters without a visible form are written by their code point. -/
def isSpelledOut (c : Char) : Bool :=
  extendingRanges.has c || hiddenRanges.has c

def escape (c : Char) : List Char :=
  if c = '\x00' then ['\\', '0']
  else if c = '\t' then ['\\', 't']
  else if c = '\n' then ['\\', 'n']
  else if c = '\r' then ['\\', 'r']
  else if c = '"' ∨ c = '\\' then ['\\', c]
  else if isSpelledOut c then ['\\', 'u', '{'] ++ Nat.toDigits 16 c.toNat ++ ['}']
  else [c]

def encodeLiteral (cs : List Char) : List Char :=
  ['"'] ++ cs.flatMap escape ++ ['"']

def quote (s : String) : String :=
  String.ofList (encodeLiteral s.toList)

end TagVocab.Text

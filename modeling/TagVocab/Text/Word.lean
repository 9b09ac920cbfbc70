import TagVocab.Text.WordTable

/-!
# Words and digits

The characters of a word, and decimal digits, in every script.
-/

namespace TagVocab.Text

def isWordChar (c : Char) : Bool :=
  wordRanges.has c

def isDecimalDigit (c : Char) : Bool :=
  digitRanges.has c

end TagVocab.Text

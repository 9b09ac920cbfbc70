/-!
# Character classes

A class of characters is a list of code point ranges in ascending order.
-/

namespace TagVocab.Text

/-- Closed ranges of code points, ascending and apart from one another. -/
abbrev CharClass := List (Nat × Nat)

/-- Whether `c` lies in one of the ranges. A range that starts past `c` ends the search. -/
def CharClass.has : CharClass → Char → Bool
  | [], _ => false
  | (lo, hi) :: rest, c => lo ≤ c.toNat && (c.toNat ≤ hi || CharClass.has rest c)

end TagVocab.Text

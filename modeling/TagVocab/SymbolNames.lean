import TagVocab.Tag

/-!
# Names of grammar symbols

The look-up from tags to names that goes with a grammar symbol table: names by position, tokens
first, and the position of a tag from its distance to the base of its space.
-/

namespace TagVocab

structure SymbolNames where
  spaces : TagSpaces
  /-- The names of all tokens, then those of all productions. -/
  names : List String

namespace SymbolNames

def position? (t : SymbolNames) (tag : Tag) : Option Nat :=
  let tokens := t.spaces.tokens
  let productions := t.spaces.productions
  if tag < tokens.base then
    none
  else if tag < productions.base then
    let token := (tag - tokens.base).toNat
    if token < tokens.count then some token else none
  else
    let production := (tag - productions.base).toNat
    if production < productions.count then some (tokens.count + production) else none

def name? (t : SymbolNames) (tag : Tag) : Option String :=
  (t.position? tag).bind (t.names[·]?)

end SymbolNames

end TagVocab

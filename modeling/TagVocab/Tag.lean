import TagVocab.Failure

/-!
# Tags and their spaces

A tag is a 32-bit number. Grammar tokens are numbered from `tokenBase` and grammar productions from
`productionBase`; the host's own tags lie at or above `productionBase` too. A range records how many
symbols were numbered, and no more than its low 32 bits take part in the arithmetic.
-/

namespace TagVocab

abbrev Tag := UInt32

def tokenBase : Tag := 258

def productionBase : Tag := 1000

def maxTokens : Nat := productionBase.toNat - tokenBase.toNat

inductive SymbolSpace where
  | token
  | production
  | astNode
deriving DecidableEq

namespace SymbolSpace

/-- In the order in which a tag is looked for. -/
def all : List SymbolSpace := [token, production, astNode]

def name : SymbolSpace → String
  | token => "Token"
  | production => "Production"
  | astNode => "AstNode"

def base : SymbolSpace → Tag
  | token => tokenBase
  | production | astNode => productionBase

end SymbolSpace

structure SymbolRange where
  base : Tag
  count : Nat
deriving DecidableEq

namespace SymbolRange

def stop (r : SymbolRange) : Tag :=
  r.base + UInt32.ofNat r.count

def isEmpty (r : SymbolRange) : Bool :=
  r.count == 0

def contains (r : SymbolRange) (tag : Tag) : Bool :=
  r.base ≤ tag && tag < r.stop

/-- The tag of the symbol at position `ordinal`, if the range has that many. -/
def valueOf? (r : SymbolRange) (ordinal : Nat) : Option Tag :=
  if ordinal < r.count then some (r.base + UInt32.ofNat ordinal) else none

end SymbolRange

structure TagSpaces where
  tokens : SymbolRange
  productions : SymbolRange
deriving DecidableEq

structure TokenOverflow where
  tokens : Nat

def TokenOverflow.failure (e : TokenOverflow) : Failure :=
  { kind := .rangeOverflow
    message := toString e.tokens ++ " tokens do not fit between " ++ toString tokenBase.toNat
      ++ " and " ++ toString productionBase.toNat
    operation := "ranges::assign_ranges"
    context := [("tokens", toString e.tokens), ("limit", toString maxTokens)] }

namespace TagSpaces

def ofCounts (tokens productions : Nat) : TagSpaces where
  tokens := ⟨tokenBase, tokens⟩
  productions := ⟨productionBase, productions⟩

/-- Every tag from the base of productions on may be one of the host's. -/
def contains (s : TagSpaces) : SymbolSpace → Tag → Bool
  | .token, tag => s.tokens.contains tag
  | .production, tag => s.productions.contains tag
  | .astNode, tag => SymbolSpace.astNode.base ≤ tag

/-- The first space that holds `tag`, so that productions come before the host's tags. -/
def classify (s : TagSpaces) (tag : Tag) : Option SymbolSpace :=
  SymbolSpace.all.find? (s.contains · tag)

/-- The ranges of as many symbols, unless tokens would run into productions. -/
def assign (tokens productions : Nat) : Except TokenOverflow TagSpaces :=
  if maxTokens < tokens then .error ⟨tokens⟩ else .ok (ofCounts tokens productions)

end TagSpaces

end TagVocab

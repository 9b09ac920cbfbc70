import TagVocab.Document.SymbolTable
import TagVocab.Proofs.Document.LookUpCode
import TagVocab.Proofs.Document.Reading
import TagVocab.Proofs.Text.Literal

/-!
# Grammar symbol tables, read back

What a grammar symbol table declares, taken from its text alone: the variants of the enumeration, the
constants, the decoded names and the statements of the look-up.
-/

namespace TagVocab

open Document Text AstTags

structure TableVariant where
  name : String
  stated : Option Nat
deriving DecidableEq

structure GrammarTable where
  variants : List TableVariant
  tokens : SymbolRange
  productions : SymbolRange
  spaces : TagSpaces
  names : List String
  steps : List LookUpStep
deriving DecidableEq

namespace GrammarTable

/-- A variant's name goes up to the first space, or up to the comma at the end of the line. -/
def variant? (line : String) : Option TableVariant := do
  let cs ← after? "    NODE_" line
  match cs.dropWhile (· != ' ') with
  | [] => if cs.getLast? = some ',' then some ⟨String.ofList cs.dropLast, none⟩ else none
  | stated =>
    let (value, rest) ← readNumber? (← afterLead? [' ', '=', ' '] stated)
    if rest = [','] then some ⟨String.ofList (cs.takeWhile (· != ' ')), some value⟩ else none

def readEnum? (doc : List String) : Option (List TableVariant × List String) := do
  let (_, doc) ← locate? "pub enum GrammarSymbol \x7b" doc
  let (body, doc) ← block? "\x7d" doc
  return (← body.mapM variant?, doc)

def range? (cs : List Char) : Option SymbolRange := do
  let (base, cs) ← readNumber? ((cs.dropWhile (· != '(')).drop 1)
  let (count, cs) ← readNumber? (← afterLead? [',', ' '] cs)
  if cs = [')', ';'] ∧ base < 2 ^ 32 then some ⟨UInt32.ofNat base, count⟩ else none

def spaces? (constants : List (String × SymbolRange)) (cs : List Char) : Option TagSpaces := do
  let cs ← afterLead? "\x7b tokens: ".toList (cs.dropWhile (· != '\x7b'))
  let tokens ← constants.lookup (String.ofList (cs.takeWhile (· != ',')))
  let cs ← afterLead? ", productions: ".toList (cs.dropWhile (· != ','))
  let productions ← constants.lookup (String.ofList (cs.takeWhile (· != ' ')))
  if cs.dropWhile (· != ' ') = " \x7d;".toList then some ⟨tokens, productions⟩ else none

def constant? (name : String) (doc : List String) : Option (List Char × List String) :=
  locate? ("pub const " ++ name ++ ": ") doc

def readRanges? (doc : List String) :
    Option (SymbolRange × SymbolRange × TagSpaces × List String) := do
  let (tokens, doc) ← constant? "TOKEN_RANGE" doc
  let tokens ← range? tokens
  let (productions, doc) ← constant? "PRODUCTION_RANGE" doc
  let productions ← range? productions
  let (spaces, doc) ← constant? "TAG_SPACES" doc
  let spaces ← spaces? [("TOKEN_RANGE", tokens), ("PRODUCTION_RANGE", productions)] spaces
  return (tokens, productions, spaces, doc)

def name? (line : String) : Option String := do
  let cs ← after? "    " line
  if cs.getLast? = some ',' then (decodeLiteral cs.dropLast).map String.ofList else none

def readNames? (doc : List String) : Option (List String × List String) := do
  let (size, doc) ← locate? "static GRAMMAR_SYMBOL_NAMES: [&str; " doc
  let (size, _) ← readNumber? size
  let (body, doc) ← block? "];" doc
  let names ← body.mapM name?
  if names.length = size then some (names, doc) else none

def readLookUp? (doc : List String) : Option (List LookUpStep) := do
  let found ← locate? "pub fn grammar_symbol_name(tag: " doc
  let block ← block? "\x7d" found.2
  lookUpSteps? (block.1.map String.toList)

def ofText? (contents : String) : Option GrammarTable := do
  let (variants, doc) ← readEnum? (linesOf contents)
  let (tokens, productions, spaces, doc) ← readRanges? doc
  let (names, doc) ← readNames? doc
  let steps ← readLookUp? doc
  return { variants, tokens, productions, spaces, names, steps }

/-- The values of variants: the stated one, or one more than the value before. -/
def valuesFrom (next : Nat) : List TableVariant → List (String × Nat)
  | [] => []
  | v :: vs => (v.name, v.stated.getD next) :: valuesFrom (v.stated.getD next + 1) vs

def values (t : GrammarTable) : List (String × Nat) :=
  valuesFrom 0 t.variants

def lookUp (t : GrammarTable) (tag : Tag) : Except LookUpTrap (Option String) :=
  runLookUp t.names (rangeValues t.tokens t.productions tag) 0 t.steps

end GrammarTable

end TagVocab

import TagVocab.Text.Blank
import TagVocab.SymbolList

/-!
# Grammar symbols

A grammar names its tokens on `%token` lines and its productions on lines of their own. All other
lines are passed over.
-/

namespace TagVocab

structure GrammarSymbols where
  tokens : SymbolList := .empty .token
  productions : SymbolList := .empty .production

namespace GrammarSymbols

open Text

def isNameChar (c : Char) : Bool :=
  c = '_' || ('a' ≤ c && c ≤ 'z')

def opensComment : List Char → Bool
  | '/' :: '/' :: _ => true
  | '/' :: '*' :: _ => true
  | _ => false

/-- The production that a line declares: a name at its very start, and behind it only blanks and a
comment that ends with the line. -/
def productionName? (line : List Char) : Option (List Char) :=
  let name := line.takeWhile isNameChar
  let rest := skipBlanks (line.dropWhile isNameChar)
  if name.isEmpty then none
  else if rest.isEmpty || (opensComment rest && !rest.contains '\n') then some name
  else none

def beforeComment : List Char → List Char
  | [] => []
  | c :: cs => if opensComment (c :: cs) then [] else c :: beforeComment cs

/-- What follows the first closing angle bracket, or all of `cs` if there is none. -/
def afterType (cs : List Char) : List Char :=
  match cs.dropWhile (· != '>') with
  | [] => cs
  | _ :: rest => rest

def afterTokenWord? : List Char → Option (List Char)
  | '%' :: 't' :: 'o' :: 'k' :: 'e' :: 'n' :: rest =>
    match rest with
    | [] => some []
    | c :: _ => if isBlank c || c = '<' then some rest else none
  | _ => none

def tokenNames? (line : List Char) : Option (List (List Char)) :=
  (afterTokenWord? line).map fun rest => words (afterType (beforeComment rest))

def addLine (s : GrammarSymbols) (line : List Char) : GrammarSymbols :=
  match productionName? line with
  | some name => { s with productions := (s.productions.push (String.ofList name)).2 }
  | none =>
    match tokenNames? line with
    | some names => { s with tokens := s.tokens.pushAll (names.map String.ofList) }
    | none => s

def ofText (text : String) : GrammarSymbols :=
  (lines text.toList).foldl addLine {}

def names (s : GrammarSymbols) : List String :=
  s.tokens.names ++ s.productions.names

def size (s : GrammarSymbols) : Nat :=
  s.tokens.size + s.productions.size

def isEmpty (s : GrammarSymbols) : Bool :=
  s.tokens.isEmpty && s.productions.isEmpty

end GrammarSymbols

end TagVocab

import TagVocab.Document.Basic
import TagVocab.SymbolNames
import TagVocab.Tree.Outline

/-!
# A statement language

The tags of a small language of assignments, while loops and arithmetic, with the tables and
printers that belong to them.
-/

namespace TagVocab.Statement

inductive AstTag where
  | unit
  | statementList
  | assignment
  | whileStatement
  | add
  | subtract
  | multiply
  | variableRef
  | intLiteral
deriving DecidableEq

namespace AstTag

def all : List AstTag :=
  [unit, statementList, assignment, whileStatement, add, subtract, multiply, variableRef,
   intLiteral]

def tag : AstTag → Tag
  | unit => 10000
  | statementList => 10001
  | assignment => 10002
  | whileStatement => 10003
  | add => 10004
  | subtract => 10005
  | multiply => 10006
  | variableRef => 10007
  | intLiteral => 10008

def stem : AstTag → String
  | unit => "unit"
  | statementList => "statement_list"
  | assignment => "assignment"
  | whileStatement => "while_statement"
  | add => "add"
  | subtract => "subtract"
  | multiply => "multiply"
  | variableRef => "variable_ref"
  | intLiteral => "int_literal"

def name : AstTag → String
  | unit => "AST_UNIT"
  | statementList => "AST_STATEMENT_LIST"
  | assignment => "AST_ASSIGNMENT"
  | whileStatement => "AST_WHILE_STATEMENT"
  | add => "AST_ADD"
  | subtract => "AST_SUBTRACT"
  | multiply => "AST_MULTIPLY"
  | variableRef => "AST_VARIABLE_REF"
  | intLiteral => "AST_INT_LITERAL"

def ofTag? (t : Tag) : Option AstTag :=
  all.find? (·.tag = t)

def node (t : AstTag) (kids : List Node) : Node :=
  { tag := t.tag, kids }

end AstTag

def tokenNames : List String :=
  ["TOK_IDENT", "TOK_INT_LITERAL", "TOK_WHILE", "TOK_DO", "TOK_END", "TOK_ASSIGN",
   "TOK_SEMICOLON", "TOK_PLUS", "TOK_MINUS", "TOK_TIMES", "TOK_LPAREN", "TOK_RPAREN"]

def productionNames : List String :=
  ["unit", "statement_list", "opt_statement_list", "statement", "expression", "term", "primary"]

def symbols : SymbolNames where
  spaces := .ofCounts tokenNames.length productionNames.length
  names := tokenNames ++ productionNames

/-- Every symbol with its tag, under the name that the symbol table's enumeration gives it. -/
def symbolVariants : List (String × Option Tag) :=
  let values (range : SymbolRange) := (List.range range.count).map range.valueOf?
  (symbols.names.map ("NODE_" ++ ·)).zip
    (values symbols.spaces.tokens ++ values symbols.spaces.productions)

/-- A tag that is none of the language's own is looked up among the grammar symbols. -/
def astTagName? (t : Tag) : Option String :=
  match AstTag.ofTag? t with
  | some a => some a.name
  | none => symbols.name? t

def parseTreePrinter : TreePrinter where
  name t := (symbols.name? t).getD Document.unknownTagName

def astPrinter : TreePrinter where
  name t := (astTagName? t).getD (parseTreePrinter.name t)

end TagVocab.Statement

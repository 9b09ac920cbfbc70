import TagVocab.Text.Quoted
import TagVocab.GrammarSymbols
import TagVocab.Document.Basic

/-!
# The grammar symbol table

An enumeration of all symbols, the ranges of their tags, their names by position, and a look-up from
tags to names. The four parts are written independently from the same symbols and ranges.
-/

namespace TagVocab.Document

/-- The variant of one symbol. Only the first of a space states its value. -/
def variant (range : SymbolRange) (symbol : TagSymbol) : String :=
  if symbol.ordinal = 0 then
    "    NODE_" ++ symbol.name ++ " = " ++ toString range.base.toNat ++ ","
  else
    "    NODE_" ++ symbol.name ++ ","

def symbolEnum (s : Settings) (symbols : GrammarSymbols) (spaces : TagSpaces) : List String :=
  ["/// Tag values of every grammar symbol: tokens first, then productions."]
    ++ (if symbols.isEmpty then [] else ["#[repr(u32)]"])
    ++ ["#[allow(non_camel_case_types)]",
        "#[derive(Debug, Clone, Copy, PartialEq, Eq, Hash)]",
        "pub enum GrammarSymbol \x7b"]
    ++ symbols.tokens.toList.map (variant spaces.tokens)
    ++ symbols.productions.toList.map (variant spaces.productions)
    ++ ["\x7d"]
    ++ (if symbols.isEmpty then [] else
        ["",
         "impl GrammarSymbol \x7b",
         "    /// Tag value of this symbol.",
         "    pub const fn tag(self) -> " ++ s.runtime ++ "::NodeTag \x7b",
         "        self as " ++ s.runtime ++ "::NodeTag",
         "    \x7d",
         "\x7d"])

def rangeConstant (s : Settings) (name what : String) (range : SymbolRange) : List String :=
  ["/// Tag values `[" ++ toString range.base.toNat ++ ", " ++ toString range.stop.toNat
     ++ ")` of the grammar's " ++ what ++ ".",
   "pub const " ++ name ++ ": " ++ s.runtime ++ "::SymbolRange = " ++ s.runtime
     ++ "::SymbolRange::new(" ++ toString range.base.toNat ++ ", " ++ toString range.count ++ ");"]

def rangeConstants (s : Settings) (spaces : TagSpaces) : List String :=
  rangeConstant s "TOKEN_RANGE" "tokens" spaces.tokens
    ++ rangeConstant s "PRODUCTION_RANGE" "productions" spaces.productions
    ++ ["/// Both grammar ranges, for classifying arbitrary tags.",
        "pub const TAG_SPACES: " ++ s.runtime ++ "::TagSpaces = " ++ s.runtime
          ++ "::TagSpaces \x7b tokens: TOKEN_RANGE, productions: PRODUCTION_RANGE \x7d;",
        "",
        "const _: () = assert!(",
        "    TOKEN_RANGE.base == " ++ s.runtime ++ "::TOKEN_BASE && PRODUCTION_RANGE.base == "
          ++ s.runtime ++ "::PRODUCTION_BASE,",
        "    \"grammar symbols were generated against different tag anchors\"",
        ");"]

def nameElement (name : String) : String :=
  "    " ++ Text.quote name ++ ","

def nameTable (symbols : GrammarSymbols) : List String :=
  ["/// Symbol names by position: tokens first, then productions.",
   "static GRAMMAR_SYMBOL_NAMES: [&str; " ++ toString symbols.size ++ "] = ["]
    ++ symbols.names.map nameElement
    ++ ["];"]

def nameLookup (s : Settings) : List String :=
  ["/// Name of the grammar symbol whose tag is `tag`.",
   "///",
   "/// Returns `None` for tags outside the token and production ranges. AST",
   "/// tags never appear in the grammar, so they give `None` as well.",
   "pub fn grammar_symbol_name(tag: " ++ s.runtime ++ "::NodeTag) -> Option<&'static str> \x7b",
   "    if tag < TOKEN_RANGE.base \x7b",
   "        return None;",
   "    \x7d",
   "",
   "    if tag < PRODUCTION_RANGE.base \x7b",
   "        // must be a token",
   "        let which_token = (tag - TOKEN_RANGE.base) as usize;",
   "        if which_token >= TOKEN_RANGE.count \x7b",
   "            return None;",
   "        \x7d",
   "        return Some(GRAMMAR_SYMBOL_NAMES[which_token]);",
   "    \x7d",
   "",
   "    let which_production = (tag - PRODUCTION_RANGE.base) as usize;",
   "    if which_production >= PRODUCTION_RANGE.count \x7b",
   "        return None;",
   "    \x7d",
   "    Some(GRAMMAR_SYMBOL_NAMES[TOKEN_RANGE.count + which_production])",
   "\x7d"]

def parseTreePrinter (s : Settings) : List String :=
  ["/// Prints parse trees, naming nodes by grammar symbol.",
   "#[derive(Debug, Clone, Copy, Default)]",
   "pub struct ParseTreePrint;",
   "",
   "impl " ++ s.runtime ++ "::TreePrint for ParseTreePrint \x7b",
   "    fn node_tag_to_string(&self, tag: " ++ s.runtime ++ "::NodeTag) -> String \x7b",
   "        grammar_symbol_name(tag).unwrap_or(" ++ Text.quote unknownTagName ++ ").to_string()",
   "    \x7d",
   "\x7d"]

def symbolTable (s : Settings) (symbols : GrammarSymbols) (spaces : TagSpaces) : List String :=
  header
    ++ symbolEnum s symbols spaces
    ++ [""]
    ++ rangeConstants s spaces
    ++ [""]
    ++ nameTable symbols
    ++ [""]
    ++ nameLookup s
    ++ [""]
    ++ parseTreePrinter s

end TagVocab.Document

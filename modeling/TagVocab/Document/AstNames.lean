import TagVocab.Text.Quoted
import TagVocab.Document.Basic

/-!
# The table of tag names

Names of the host's tags. Every other tag is handed on to the grammar symbol table.
-/

namespace TagVocab.Document

def nameArm (tag : String) : String :=
  "        ast_tag_values::" ++ tag ++ " => Some(" ++ Text.quote tag ++ "),"

def nameBody (s : Settings) (tags : List String) : List String :=
  if tags.isEmpty then
    ["    " ++ s.grammarModule ++ "::grammar_symbol_name(tag)"]
  else
    ["    match tag \x7b"]
      ++ tags.map nameArm
      ++ ["        // not an AST tag, so assume it's a parse tree node",
          "        _ => " ++ s.grammarModule ++ "::grammar_symbol_name(tag),",
          "    \x7d"]

def astNames (s : Settings) (tags : List String) : List String :=
  header
    ++ tagModule "ast_tag_values" s tags false
    ++ ["/// Name of an AST tag.",
        "///",
        "/// Any other tag is assumed to belong to a parse tree node and is looked up",
        "/// in the grammar symbol table.",
        "#[deny(unreachable_patterns)]",
        "pub fn ast_tag_name(tag: " ++ s.runtime ++ "::NodeTag) -> Option<&'static str> \x7b"]
    ++ nameBody s tags
    ++ ["\x7d",
        "",
        "/// Prints ASTs. Parse-tree nodes are named by `ParseTreePrint`.",
        "#[derive(Debug, Clone, Copy, Default)]",
        "pub struct AstTreePrint;",
        "",
        "impl " ++ s.runtime ++ "::TreePrint for AstTreePrint \x7b",
        "    fn node_tag_to_string(&self, tag: " ++ s.runtime ++ "::NodeTag) -> String \x7b",
        "        match ast_tag_name(tag) \x7b",
        "            Some(name) => name.to_string(),",
        "            None => <" ++ s.grammarModule ++ "::ParseTreePrint as " ++ s.runtime
          ++ "::TreePrint>::node_tag_to_string(&" ++ s.grammarModule ++ "::ParseTreePrint, tag),",
        "        \x7d",
        "    \x7d",
        "\x7d"]

end TagVocab.Document

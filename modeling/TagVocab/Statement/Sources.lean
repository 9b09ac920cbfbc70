import TagVocab.Document.Basic

/-!
# The sources of the statement language

The texts that the tables of the statement language are generated from, line by line: the
enumeration of its tags, its grammar and the settings.
-/

namespace TagVocab.Statement

def astLines : List String :=
  ["//! AST node tags of the demo language.",
   "//!",
   "//! `build.rs` reads this file as the AST tag source, so every tag must stay on",
   "//! its own line in the `AST_NAME,` or `AST_NAME = value,` form.",
   "",
   "use nodetag_core::\x7bNode, NodeTag\x7d;",
   "",
   "#[repr(u32)]",
   "#[allow(non_camel_case_types)]",
   "#[derive(Debug, Clone, Copy, PartialEq, Eq, Hash)]",
   "pub enum AstNodeTag \x7b",
   "    AST_UNIT = 10000,",
   "    AST_STATEMENT_LIST,",
   "    AST_ASSIGNMENT,       // target, value",
   "    AST_WHILE_STATEMENT,  // condition, body",
   "    AST_ADD,",
   "    AST_SUBTRACT,",
   "    AST_MULTIPLY,",
   "    AST_VARIABLE_REF,",
   "    AST_INT_LITERAL,",
   "\x7d",
   "",
   "impl AstNodeTag \x7b",
   "    pub const fn tag(self) -> NodeTag \x7b",
   "        self as NodeTag",
   "    \x7d",
   "",
   "    /// A node with this tag and no children.",
   "    pub fn node(self) -> Node \x7b",
   "        Node::new(self.tag())",
   "    \x7d",
   "",
   "    /// A node with this tag and the given children.",
   "    pub fn with_kids(self, kids: impl IntoIterator<Item = Node>) -> Node \x7b",
   "        Node::with_kids(self.tag(), kids)",
   "    \x7d",
   "\x7d"]

def grammarLines : List String :=
  ["%\x7b",
   "/* A small statement language: assignments, while loops and arithmetic. */",
   "%\x7d",
   "",
   "%define parse.error verbose",
   "",
   "%union \x7b",
   "  struct Node *node;",
   "  char *str_val;",
   "  long int_val;",
   "\x7d",
   "",
   "%token <str_val> TOK_IDENT",
   "%token <int_val> TOK_INT_LITERAL",
   "%token TOK_WHILE TOK_DO TOK_END",
   "%token TOK_ASSIGN TOK_SEMICOLON",
   "%token TOK_PLUS TOK_MINUS TOK_TIMES",
   "%token TOK_LPAREN TOK_RPAREN",
   "",
   "%type <node> unit statement_list statement opt_statement_list",
   "%type <node> expression term primary",
   "",
   "%left TOK_PLUS TOK_MINUS",
   "%left TOK_TIMES",
   "",
   "%%",
   "",
   "unit",
   "  : statement_list",
   "  ;",
   "",
   "statement_list",
   "  : statement",
   "  | statement_list statement",
   "  ;",
   "",
   "opt_statement_list  /* may be empty */",
   "  : statement_list",
   "  | %empty",
   "  ;",
   "",
   "statement",
   "  : TOK_IDENT TOK_ASSIGN expression TOK_SEMICOLON",
   "  | TOK_WHILE expression TOK_DO opt_statement_list TOK_END",
   "  ;",
   "",
   "expression",
   "  : expression TOK_PLUS term",
   "  | expression TOK_MINUS term",
   "  | term",
   "  ;",
   "",
   "term",
   "  : term TOK_TIMES primary",
   "  | primary",
   "  ;",
   "",
   "primary // an operand",
   "  : TOK_IDENT",
   "  | TOK_INT_LITERAL",
   "  | TOK_LPAREN expression TOK_RPAREN",
   "  ;",
   "",
   "%%"]

def settingsLines : List String :=
  ["# Generator settings for the demo crate.",
   "ast_prefix = \"AST_\"",
   "runtime_crate = \"nodetag_core\"",
   "ast_tag_enum = \"crate::ast::AstNodeTag\"",
   "grammar_module = \"crate::grammar_symbols\"",
   "",
   "[outputs]",
   "visitor = \"ast_visitor.rs\"",
   "visitor_walk = \"ast_visitor_walk.rs\"",
   "ast_tags = \"ast_tags.rs\"",
   "grammar_symbols = \"grammar_symbols.rs\""]

end TagVocab.Statement

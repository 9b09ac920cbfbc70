import TagVocab.AstTags.Routes
import TagVocab.Document.Basic

/-!
# The visitor trait

One method for each tag, between the method that routes a node and those for children and tokens.
-/

namespace TagVocab.Document

def tagMethod (r : Route) : List String :=
  ["",
   "    /// Visit a node with the `" ++ r.tag ++ "` tag.",
   "    fn " ++ r.visitName ++ "(&mut self, n: &N) \x7b",
   "        " ++ r.walkName ++ "(self, n);",
   "    \x7d"]

/-- The first tag serves as an example of how nodes are routed. -/
def routingExample (r : Route) : String :=
  "    /// For example, a node tagged `" ++ r.tag ++ "` goes to `" ++ r.visitName ++ "`."

def visitorTrait (s : Settings) (routes : List Route) : List String :=
  header
    ++ ["/// Visitor over AST nodes.",
        "///",
        "/// `visit` routes a node to the method named after its tag. Every per-tag",
        "/// method defaults to visiting the node's children.",
        "pub trait AstVisitor<N: " ++ s.runtime ++ "::TreeNode> \x7b",
        "    /// Visit `n`, calling the method that matches its tag."]
    ++ (routes.head?.map routingExample).toList
    ++ ["    fn visit(&mut self, n: &N) \x7b",
        "        dispatch(self, n);",
        "    \x7d"]
    ++ routes.flatMap tagMethod
    ++ ["",
        "    /// Call `visit` on each child of `n`, in order.",
        "    fn visit_children(&mut self, n: &N) \x7b",
        "        walk_children(self, n);",
        "    \x7d",
        "",
        "    /// Called for token (terminal symbol) nodes. Does nothing by default.",
        "    fn visit_token(&mut self, _n: &N) \x7b\x7d",
        "\x7d"]

end TagVocab.Document

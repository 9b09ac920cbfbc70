import TagVocab.AstTags.Routes
import TagVocab.Document.Basic

/-!
# The visitor's default walks

The router, which sends a node to the method of its tag, and one function for each tag that visits
the node's children.
-/

namespace TagVocab.Document

def routerArm (r : Route) : String :=
  "        dispatch_tags::" ++ r.tag ++ " => v." ++ r.visitName ++ "(n),"

def routerBody (routes : List Route) : List String :=
  if routes.isEmpty then
    ["    panic!(\"Unknown AST node tag \x7btag\x7d\");"]
  else
    ["    match tag \x7b"]
      ++ routes.map routerArm
      ++ ["        _ => panic!(\"Unknown AST node tag \x7btag\x7d\"),",
          "    \x7d"]

def tagWalk (s : Settings) (r : Route) : List String :=
  ["",
   "/// Default body of `AstVisitor::" ++ r.visitName ++ "`.",
   "pub fn " ++ r.walkName ++ "<N, V>(v: &mut V, n: &N)"]
    ++ visitorBounds s
    ++ ["\x7b",
        "    v.visit_children(n);",
        "\x7d"]

def visitorWalk (s : Settings) (routes : List Route) : List String :=
  header
    ++ tagModule "dispatch_tags" s (routes.map (·.tag)) true
    ++ ["/// Route `n` to the visitor method matching its tag.",
        "///",
        "/// Tags below `" ++ s.runtime ++ "::PRODUCTION_BASE` are tokens and go to `visit_token`.",
        "/// Every other tag must be one of the AST tags this file was generated from.",
        "///",
        "/// # Panics",
        "///",
        "/// Panics on a non-token tag that matches no AST tag: the tree was built",
        "/// with a different tag vocabulary than this dispatcher.",
        "#[deny(unreachable_patterns)]",
        "pub fn dispatch<N, V>(v: &mut V, n: &N)"]
    ++ visitorBounds s
    ++ ["\x7b",
        "    let tag = n.tag();",
        "    if tag < " ++ s.runtime ++ "::PRODUCTION_BASE \x7b",
        "        v.visit_token(n);",
        "        return;",
        "    \x7d",
        ""]
    ++ routerBody routes
    ++ ["\x7d"]
    ++ routes.flatMap (tagWalk s)
    ++ ["",
        "/// Visit every child of `n` in order, depth-first.",
        "pub fn walk_children<N, V>(v: &mut V, n: &N)"]
    ++ visitorBounds s
    ++ ["\x7b",
        "    for child in n.children() \x7b",
        "        v.visit(child);",
        "    \x7d",
        "\x7d"]

end TagVocab.Document

import TagVocab.Settings

/-!
# Documents

A document is the list of its lines. The parts here stand in more than one of the documents.
-/

namespace TagVocab.Document

/-- The text of a document: every line ends with a line feed. -/
def text (lines : List String) : String :=
  String.join (lines.map (· ++ "\n"))

def header : List String :=
  ["// @generated by nodetag. Do not edit.", ""]

def unknownTagName : String :=
  "<unknown>"

def tagConstant (s : Settings) (tag : String) : String :=
  "    pub(super) const " ++ tag ++ ": " ++ s.runtime ++ "::NodeTag = " ++ s.tagEnum ++ "::" ++ tag
    ++ " as " ++ s.runtime ++ "::NodeTag;"

def anchorAssertion (s : Settings) (tag : String) : String :=
  "    const _: () = assert!(" ++ tag ++ " >= " ++ s.runtime ++ "::PRODUCTION_BASE, \"" ++ tag
    ++ " lies in the token range\");"

/-- A module of one constant for each tag, and an empty line behind it. There is none without
tags. -/
def tagModule (name : String) (s : Settings) (tags : List String) (anchored : Bool) : List String :=
  if tags.isEmpty then
    []
  else
    ["mod " ++ name ++ " \x7b"]
      ++ tags.map (tagConstant s)
      ++ (if anchored then "" :: tags.map (anchorAssertion s) else [])
      ++ ["\x7d", ""]

def visitorBounds (s : Settings) : List String :=
  ["where", "    N: " ++ s.runtime ++ "::TreeNode,", "    V: AstVisitor<N> + ?Sized,"]

end TagVocab.Document

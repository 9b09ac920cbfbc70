import TagVocab.Failure

/-!
# Settings

What shapes the generated documents: the lead of the tags, the paths under which generated code
finds its surroundings, and the names of the files. Settings are valid if no document can come out
unusable and no file can land outside the output directory or on another one.
-/

namespace TagVocab

structure OutputNames where
  visitor : String := "ast_visitor.rs"
  visitorWalk : String := "ast_visitor_walk.rs"
  astTags : String := "ast_tags.rs"
  grammarSymbols : String := "grammar_symbols.rs"
deriving DecidableEq

def OutputNames.toList (o : OutputNames) : List String :=
  [o.visitor, o.visitorWalk, o.astTags, o.grammarSymbols]

structure Settings where
  lead : String := "AST_"
  runtime : String := "nodetag_core"
  /-- Path of the enumeration that declares the tags. -/
  tagEnum : String := "crate::ast::AstNodeTag"
  /-- Path of the module that holds the grammar symbol table. -/
  grammarModule : String := "crate::grammar_symbols"
  outputs : OutputNames := {}
deriving DecidableEq

namespace Settings

inductive Defect where
  | badLead (text : String)
  | badPath (key path : String)
  | notPlain (name : String)
  | usedTwice (name : String)
deriving DecidableEq

def Defect.failure : Defect → Failure
  | badLead text =>
    { kind := .configInvalid
      message := "ast_prefix '" ++ text ++ "' is not an identifier prefix"
      operation := "config::validate" }
  | badPath key path =>
    { kind := .configInvalid
      message := key ++ " '" ++ path ++ "' is not a Rust path"
      operation := "config::validate"
      context := [("key", key)] }
  | notPlain name =>
    { kind := .configInvalid
      message := "output name '" ++ name ++ "' must be a plain file name"
      operation := "config::validate" }
  | usedTwice name =>
    { kind := .configInvalid
      message := "output name '" ++ name ++ "' is used twice"
      operation := "config::validate" }

/-- An ASCII letter or underscore, then ASCII letters, digits and underscores. -/
def isIdentifier : List Char → Bool
  | [] => false
  | c :: cs => (c.isAlpha || c = '_') && cs.all fun c => c.isAlphanum || c = '_'

/-- The pieces of a path around each double colon, the leftmost ones taken first. -/
def pathSegments : List Char → List (List Char)
  | [] => [[]]
  | ':' :: ':' :: cs => [] :: pathSegments cs
  | c :: cs => (pathSegments cs).modifyHead (c :: ·)

def isModulePath (cs : List Char) : Bool :=
  (pathSegments cs).all isIdentifier

/-- A name that stands for an entry of its directory and of no other. -/
def isPlainFileName (name : String) : Bool :=
  !name.isEmpty && !name.toList.any (fun c => c = '/' || c = '\\') && name != "." && name != ".."

/-- The first name that is not plain, or that is among those before it. -/
def checkNames (earlier : List String) : List String → Except Defect Unit
  | [] => .ok ()
  | name :: rest =>
    if !isPlainFileName name then .error (.notPlain name)
    else if name ∈ earlier then .error (.usedTwice name)
    else checkNames (earlier ++ [name]) rest

def paths (s : Settings) : List (String × String) :=
  [("runtime_crate", s.runtime), ("ast_tag_enum", s.tagEnum), ("grammar_module", s.grammarModule)]

/-- Refuses settings for the first defect, in the order of the fields. -/
def validate (s : Settings) : Except Defect Unit :=
  if !isIdentifier s.lead.toList then
    .error (.badLead s.lead)
  else
    match s.paths.find? fun (_, path) => !isModulePath path.toList with
    | some (key, path) => .error (.badPath key path)
    | none => checkNames [] s.outputs.toList

end Settings

end TagVocab

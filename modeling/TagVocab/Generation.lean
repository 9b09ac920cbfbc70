import TagVocab.Document.AstNames
import TagVocab.Document.SymbolTable
import TagVocab.Document.VisitorTrait
import TagVocab.Document.VisitorWalk

/-!
# Generation

From texts and settings to finished documents. Nothing is generated unless all of it can be.
-/

namespace TagVocab

structure Artifact where
  name : String
  contents : String
deriving DecidableEq

namespace Generation

def astArtifacts (s : Settings) (routes : List Route) : List Artifact :=
  [⟨s.outputs.visitor, Document.text (Document.visitorTrait s routes)⟩,
   ⟨s.outputs.visitorWalk, Document.text (Document.visitorWalk s routes)⟩,
   ⟨s.outputs.astTags, Document.text (Document.astNames s (routes.map (·.tag)))⟩]

def grammarArtifact (s : Settings) (symbols : GrammarSymbols) (spaces : TagSpaces) : Artifact :=
  ⟨s.outputs.grammarSymbols, Document.text (Document.symbolTable s symbols spaces)⟩

def validSettings (s : Settings) : Except Failure Unit :=
  s.validate.mapError Settings.Defect.failure

def assignedSpaces (symbols : GrammarSymbols) : Except Failure TagSpaces :=
  (TagSpaces.assign symbols.tokens.size symbols.productions.size).mapError TokenOverflow.failure

def foundRoutes (s : Settings) (text : String) : Except Failure (List Route) :=
  (AstTags.ofText s.lead text).routes.mapError RouteFault.failure

def ofAst (s : Settings) (ast : String) : Except Failure (List Artifact) := do
  validSettings s
  let routes ← foundRoutes s ast
  return astArtifacts s routes

def ofGrammar (s : Settings) (grammar : String) : Except Failure (List Artifact) := do
  validSettings s
  let symbols := GrammarSymbols.ofText grammar
  let spaces ← assignedSpaces symbols
  return [grammarArtifact s symbols spaces]

/-- All four documents. The grammar's tags are assigned before the enumeration's are routed. -/
def ofBoth (s : Settings) (ast grammar : String) : Except Failure (List Artifact) := do
  validSettings s
  let symbols := GrammarSymbols.ofText grammar
  let spaces ← assignedSpaces symbols
  let routes ← foundRoutes s ast
  return astArtifacts s routes ++ [grammarArtifact s symbols spaces]

end Generation

end TagVocab

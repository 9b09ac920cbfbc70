import TagVocab.Text.LetterCase
import TagVocab.AstTags

/-!
# Routes

Each tag is routed to the visitor methods named after its stem: the tag without its lead, in lower
case. Stems must tell the tags apart, and leave the visitor's own methods alone.
-/

namespace TagVocab

structure Route where
  tag : String
  stem : String
deriving DecidableEq

namespace Route

def visitName (r : Route) : String :=
  "visit_" ++ r.stem

def walkName (r : Route) : String :=
  "walk_" ++ r.stem

end Route

inductive RouteFault where
  /-- The tag lacks the lead, or has nothing behind it. -/
  | malformed (tag lead : String)
  | shadows (tag method : String)
  | collides (other tag method : String)
deriving DecidableEq

def Failure.malformedTagName (tag lead : String) : Failure :=
  { kind := .malformedTagName
    message := "tag '" ++ tag ++ "' does not start with '" ++ lead ++ "'"
    context := [("tag", tag)] }

def RouteFault.failure : RouteFault → Failure
  | malformed tag lead => (Failure.malformedTagName tag lead).withOperation "ast::method_stem"
  | shadows tag method =>
    { kind := .invariantViolation
      message := "tag '" ++ tag ++ "' would shadow the visitor method '" ++ method ++ "'"
      operation := "ast::method_stems"
      context := [("tag", tag)] }
  | collides other tag method =>
    { kind := .invariantViolation
      message := "tags '" ++ other ++ "' and '" ++ tag ++ "' both map to '" ++ method ++ "'"
      operation := "ast::method_stems"
      context := [("tag", tag)] }

namespace AstTags

def reservedMethods : List String :=
  ["visit", "visit_children", "visit_token"]

def route (lead tag : String) : Except RouteFault Route :=
  match afterLead? lead.toList tag.toList with
  | some (c :: rest) => .ok ⟨tag, String.ofList (Text.lower (c :: rest))⟩
  | _ => .error (.malformed tag lead)

def routesAfter (lead : String) (done : List Route) : List String → Except RouteFault (List Route)
  | [] => .ok done
  | tag :: tags =>
    match route lead tag with
    | .error fault => .error fault
    | .ok r =>
      if r.visitName ∈ reservedMethods then
        .error (.shadows tag r.visitName)
      else
        match done.find? (·.stem = r.stem) with
        | some other => .error (.collides other.tag tag r.visitName)
        | none => routesAfter lead (done ++ [r]) tags

def routes (t : AstTags) : Except RouteFault (List Route) :=
  routesAfter t.lead [] t.names

end AstTags

end TagVocab

import TagVocab.Tree.Traversal

/-!
# Recording visitors

A visitor that records every turn, and whose methods walk their nodes once, twice or not at all.
-/

namespace TagVocab

inductive WalkChoice where
  | prune
  | once
  | twice
  /-- Visits the kids one after the other, past the hook for children. -/
  | kidsOnly
deriving DecidableEq

inductive VisitEvent (κ : Type) where
  | visit (tag : Tag)
  | method (k : κ) (tag : Tag)
  | children (count : Nat)
  | token (tag : Tag) (text : Option String)

def Walk.record {κ : Type} (e : VisitEvent κ) : Walk (Array (VisitEvent κ)) :=
  .update (·.push e)

/-- Records every turn. The hook for children goes from the last kid to the first if `backwards`. -/
def recorder {κ : Type} (choice : κ → WalkChoice) (backwards : Bool) :
    Visitor κ (Array (VisitEvent κ)) where
  onVisit n routed := (Walk.record (.visit n.tag)).andThen routed
  onMethod k n walk kids := (Walk.record (.method k n.tag)).andThen
    (match choice k with
      | .prune => Walk.skip
      | .once => walk
      | .twice => walk.andThen walk
      | .kidsOnly => kids)
  onChildren n visits := (Walk.record (.children n.kids.length)).andThen
    (Walk.each (if backwards then visits.reverse else visits))
  onToken n := Walk.record (.token n.tag n.text?)

end TagVocab

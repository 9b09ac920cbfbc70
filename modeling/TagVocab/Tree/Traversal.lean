import TagVocab.Tree.Node

/-!
# Traversal

A visitor is sent to every node that its own hooks reach. Tokens go to one hook, every other node to
the method of its tag, and a tag that has no method ends the walk for good.
-/

namespace TagVocab

/-- A walk carries a state along. It may end early, at a tag that no method is for. -/
def Walk (σ : Type) : Type :=
  σ → σ × Option Tag

namespace Walk

variable {σ : Type}

def skip : Walk σ :=
  fun s => (s, none)

def update (f : σ → σ) : Walk σ :=
  fun s => (f s, none)

def stopAt (tag : Tag) : Walk σ :=
  fun s => (s, some tag)

/-- What follows an early end is not walked. -/
def andThen (first second : Walk σ) : Walk σ := fun s =>
  match first s with
  | (s, none) => second s
  | (s, some tag) => (s, some tag)

def each (walks : List (Walk σ)) : Walk σ :=
  walks.foldr andThen skip

end Walk

/-- What a visitor does at each turn, given what it would do by default. `κ` stands for the methods
that tags are routed to. -/
structure Visitor (κ σ : Type) where
  onVisit : Node → Walk σ → Walk σ := fun _ routed => routed
  /-- The method of a tag, given the walk of the node and that of its kids one after the other. -/
  onMethod : κ → Node → Walk σ → Walk σ → Walk σ := fun _ _ walk _ => walk
  onChildren : Node → List (Walk σ) → Walk σ := fun _ visits => Walk.each visits
  onToken : Node → Walk σ := fun _ => Walk.skip

namespace Visitor

variable {κ σ : Type} (v : Visitor κ σ) (method? : Tag → Option κ)

def dispatch (n : Node) (visits : List (Walk σ)) : Walk σ :=
  if n.tag < productionBase then
    v.onToken n
  else
    match method? n.tag with
    | some k => v.onMethod k n (v.onChildren n visits) (Walk.each visits)
    | none => Walk.stopAt n.tag

mutual

def visit : Node → Walk σ
  | ⟨tag, kids, text, value⟩ =>
    v.onVisit ⟨tag, kids, text, value⟩ (v.dispatch method? ⟨tag, kids, text, value⟩ (visitKids kids))
termination_by structural n => n

def visitKids : List Node → List (Walk σ)
  | [] => []
  | n :: ns => visit n :: visitKids ns
termination_by structural ns => ns

end

end Visitor

def unknownTagMessage (tag : Tag) : String :=
  "Unknown AST node tag " ++ toString tag.toNat

end TagVocab

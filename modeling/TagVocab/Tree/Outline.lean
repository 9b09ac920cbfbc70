import TagVocab.Tree.Node

/-!
# Tree outlines

A tree in text form, one node to a line. A kid hangs off a `+--` connector, and a rail marks every
ancestor that still has kids below.
-/

namespace TagVocab

structure TreePrinter where
  name : Tag → String
  text? : Node → Option String := Node.text?

namespace TreePrinter

variable (p : TreePrinter)

def label (n : Node) : String :=
  p.name n.tag ++
    match p.text? n with
    | some text => "[" ++ text ++ "]"
    | none => ""

def rail (siblingsFollow : Bool) : String :=
  if siblingsFollow then "|  " else "   "

def railing (rails : List Bool) : String :=
  String.join (rails.map rail)

/-- What stands in front of a label: the rails of the nodes above, and the connector. -/
def lead (rails : List Bool) : String :=
  if rails = [] then "" else railing rails.dropLast ++ "+--"

mutual

/-- Draws a node behind `out`, and all below it. The last of the rails is the node's own. -/
def drawNode (rails : List Bool) (out : String) : Node → List Bool × String
  | ⟨tag, kids, text, value⟩ =>
    drawKids rails (out ++ (lead rails ++ p.label ⟨tag, kids, text, value⟩ ++ "\n")) kids
termination_by structural n => n

/-- Every kid puts its rail behind the others and takes it away again. -/
def drawKids (rails : List Bool) (out : String) : List Node → List Bool × String
  | [] => (rails, out)
  | n :: ns =>
    let (rails, out) := drawNode (rails ++ [!ns.isEmpty]) out n
    drawKids rails.dropLast out ns
termination_by structural ns => ns

end

def print (root : Node) : String :=
  (p.drawNode [] "" root).2

end TreePrinter

end TagVocab

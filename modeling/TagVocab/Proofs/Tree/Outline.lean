import TagVocab.Tree.Outline

/-!
# The lines of an outline

An outline is written line by line, in preorder: in front of a node's label stand the rails of the
nodes above it and the connector, and they depend on nothing but which of these nodes have siblings
below them.
-/

namespace TagVocab

/-- A node, and for each node on the way down to it, except the root, whether siblings follow. -/
structure OutlineRow where
  rails : List Bool
  node : Node

namespace Node

mutual

/-- All nodes of a tree, each before its kids. -/
def nodes : Node → List Node
  | ⟨tag, kids, text, value⟩ => ⟨tag, kids, text, value⟩ :: nodesOfKids kids
termination_by structural n => n

def nodesOfKids : List Node → List Node
  | [] => []
  | n :: ns => nodes n ++ nodesOfKids ns
termination_by structural ns => ns

end

mutual

/-- The rows of a tree in preorder if `rails` lead down to it. -/
def rows (rails : List Bool) : Node → List OutlineRow
  | ⟨tag, kids, text, value⟩ => ⟨rails, ⟨tag, kids, text, value⟩⟩ :: rowsOfKids rails kids
termination_by structural n => n

def rowsOfKids (rails : List Bool) : List Node → List OutlineRow
  | [] => []
  | n :: ns => rows (rails ++ [!ns.isEmpty]) n ++ rowsOfKids rails ns
termination_by structural ns => ns

end

mutual

theorem map_node_rows (rails : List Bool) : ∀ n : Node, (n.rows rails).map (·.node) = n.nodes
  | ⟨tag, kids, text, value⟩ => by
    rw [rows, nodes, List.map_cons, map_node_rowsOfKids rails kids]
termination_by structural n => n

theorem map_node_rowsOfKids (rails : List Bool) : ∀ ns : List Node,
    (rowsOfKids rails ns).map (·.node) = nodesOfKids ns
  | [] => rfl
  | n :: ns => by
    rw [rowsOfKids, nodesOfKids, List.map_append, map_node_rows (rails ++ [!ns.isEmpty]) n,
      map_node_rowsOfKids rails ns]
termination_by structural ns => ns

end

mutual

theorem rails_ne_nil_of_rows {rails : List Bool} (h : rails ≠ []) :
    ∀ n : Node, ∀ row ∈ n.rows rails, row.rails ≠ []
  | ⟨tag, kids, text, value⟩ => by
    rw [rows, List.forall_mem_cons]
    exact ⟨h, rails_ne_nil_of_rowsOfKids rails kids⟩
termination_by structural n => n

theorem rails_ne_nil_of_rowsOfKids (rails : List Bool) :
    ∀ ns : List Node, ∀ row ∈ rowsOfKids rails ns, row.rails ≠ []
  | [] => by simp [rowsOfKids]
  | n :: ns => by
    rw [rowsOfKids, List.forall_mem_append]
    exact ⟨rails_ne_nil_of_rows (by simp) n, rails_ne_nil_of_rowsOfKids rails ns⟩
termination_by structural ns => ns

end

end Node

namespace TreePrinter

theorem lead_concat (rails : List Bool) (more : Bool) :
    lead (rails ++ [more]) = railing rails ++ "+--" := by
  simp [lead]

variable (p : TreePrinter)

def line (row : OutlineRow) : String :=
  lead row.rails ++ p.label row.node

def lines (rows : List OutlineRow) : String :=
  String.join (rows.map fun row => p.line row ++ "\n")

theorem lines_cons (row : OutlineRow) (rows : List OutlineRow) :
    p.lines (row :: rows) = p.line row ++ "\n" ++ p.lines rows := by
  rw [lines, List.map_cons, String.join_cons]
  rfl

theorem lines_append (rows others : List OutlineRow) :
    p.lines (rows ++ others) = p.lines rows ++ p.lines others := by
  rw [lines, List.map_append, String.join_append]
  rfl

mutual

/-- Drawing a node adds the lines of its rows, and gives the rails back as they were. -/
theorem drawNode_eq (rails : List Bool) (out : String) : ∀ n : Node,
    p.drawNode rails out n = (rails, out ++ p.lines (n.rows rails))
  | ⟨tag, kids, text, value⟩ => by
    rw [drawNode, drawKids_eq rails _ kids, Node.rows, lines_cons, String.append_assoc]
    rfl
termination_by structural n => n

theorem drawKids_eq (rails : List Bool) (out : String) : ∀ ns : List Node,
    p.drawKids rails out ns = (rails, out ++ p.lines (Node.rowsOfKids rails ns))
  | [] => Prod.ext rfl String.append_empty.symm
  | n :: ns => by
    rw [drawKids, drawNode_eq (rails ++ [!ns.isEmpty]) out n]
    dsimp only
    rw [drawKids_eq _ _ ns, List.dropLast_concat, Node.rowsOfKids, lines_append,
      String.append_assoc]
termination_by structural ns => ns

end

/-- An outline is made of the lines of its rows. -/
theorem print_eq (root : Node) : p.print root = p.lines (root.rows []) := by
  rw [print, drawNode_eq, String.empty_append]

end TreePrinter

end TagVocab

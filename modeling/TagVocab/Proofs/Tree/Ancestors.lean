import TagVocab.Proofs.Tree.Preorder

/-!
# Preorder with ancestors

The nodes of a tree in preorder, each with the nodes on the way down to it.
-/

namespace TagVocab

/-- A node in its place: below `above`, from the root on. -/
structure PlacedNode where
  node : Node
  above : List Node

def PlacedNode.path (v : PlacedNode) : List Node :=
  v.above ++ [v.node]

namespace Node

mutual

/-- The places of a tree in preorder if the tree itself stands below `above`. There are none below a
token. -/
def places (above : List Node) : Node → List PlacedNode
  | ⟨tag, kids, text, value⟩ =>
    ⟨⟨tag, kids, text, value⟩, above⟩ ::
      if tag < productionBase then [] else placesKids (above ++ [⟨tag, kids, text, value⟩]) kids
termination_by structural n => n

def placesKids (above : List Node) : List Node → List PlacedNode
  | [] => []
  | n :: ns => places above n ++ placesKids above ns
termination_by structural ns => ns

end

mutual

theorem map_node_places (above : List Node) : ∀ n : Node,
    (n.places above).map (·.node) = n.preorder
  | ⟨tag, kids, text, value⟩ => by
    have hkids := map_node_placesKids (above ++ [⟨tag, kids, text, value⟩]) kids
    rw [places, preorder, List.map_cons]
    by_cases h : tag < productionBase
    · rw [if_pos h, if_pos h, List.map_nil]
    · rw [if_neg h, if_neg h, hkids]
termination_by structural n => n

theorem map_node_placesKids (above : List Node) : ∀ ns : List Node,
    (placesKids above ns).map (·.node) = preorderKids ns
  | [] => rfl
  | n :: ns => by
    rw [placesKids, preorderKids, List.map_append, map_node_places above n,
      map_node_placesKids above ns]
termination_by structural ns => ns

end

end Node

end TagVocab

import TagVocab.Proofs.Tree.Calls

/-!
# Mirror images

The mirror image of a tree has the kids of every node in reverse. To go through kids backwards is to
visit the mirror image, for every visitor that does the same at a node and at its mirror image, and
that comes to kids by way of its hook for children alone.
-/

namespace TagVocab

namespace Node

mutual

/-- The tree with the kids of every node in reverse. -/
def mirror : Node → Node
  | ⟨tag, kids, text, value⟩ => ⟨tag, mirrorKids kids, text, value⟩
termination_by structural n => n

def mirrorKids : List Node → List Node
  | [] => []
  | n :: ns => mirrorKids ns ++ [mirror n]
termination_by structural ns => ns

end

theorem mirrorKids_eq_reverse (ns : List Node) : mirrorKids ns = (ns.map mirror).reverse := by
  induction ns with
  | nil => rfl
  | cons n ns ih => rw [mirrorKids, ih, List.map_cons, List.reverse_cons]

theorem kids_mirror (n : Node) : n.mirror.kids = (n.kids.map mirror).reverse := by
  obtain ⟨tag, kids, text, value⟩ := n
  exact mirrorKids_eq_reverse kids

@[simp] theorem tag_mirror (n : Node) : n.mirror.tag = n.tag := by
  obtain ⟨tag, kids, text, value⟩ := n
  rfl

@[simp] theorem text?_mirror (n : Node) : n.mirror.text? = n.text? := by
  obtain ⟨tag, kids, text, value⟩ := n
  rfl

@[simp] theorem length_kids_mirror (n : Node) : n.mirror.kids.length = n.kids.length := by
  rw [kids_mirror, List.length_reverse, List.length_map]

@[simp] theorem mirror_mirror (t : Node) : t.mirror.mirror = t := by
  induction t using of_kids with
  | node t ih =>
    obtain ⟨tag, kids, text, value⟩ := t
    have hsame : kids.map (mirror ∘ mirror) = kids.map id := List.map_congr_left ih
    have hkids : mirrorKids (mirrorKids kids) = kids := by
      rw [mirrorKids_eq_reverse, mirrorKids_eq_reverse, List.map_reverse, List.reverse_reverse,
        List.map_map, hsame, List.map_id]
    rw [mirror, mirror, hkids]

end Node

namespace Visitor

variable {κ σ : Type} {method? : Tag → Option κ} {choice : κ → WalkChoice} {v : Visitor κ σ}

/-- The visitor that is handed the visits of the kids in reverse. -/
def backwards (v : Visitor κ σ) : Visitor κ σ :=
  { v with onChildren := fun n visits => v.onChildren n visits.reverse }

/-- Whether the hooks of a visitor do the same at a node and at its mirror image, and its methods
leave the kids to the hook for children. -/
structure Unsided (v : Visitor κ σ) : Prop where
  onVisit : ∀ n routed, v.onVisit n.mirror routed = v.onVisit n routed
  onMethod : ∀ k n walk kids kids', v.onMethod k n.mirror walk kids = v.onMethod k n walk kids'
  onChildren : ∀ n visits, v.onChildren n.mirror visits = v.onChildren n visits
  onToken : ∀ n, v.onToken n.mirror = v.onToken n

theorem Unsided.dispatch_backwards (h : v.Unsided) (n : Node) (visits : List (Walk σ)) :
    v.backwards.dispatch method? n visits = v.dispatch method? n.mirror visits.reverse := by
  unfold dispatch
  rw [Node.tag_mirror, h.onToken, h.onChildren]
  by_cases htoken : n.tag < productionBase
  · rw [if_pos htoken, if_pos htoken]
    rfl
  · rw [if_neg htoken, if_neg htoken]
    cases method? n.tag with
    | none => rfl
    | some k =>
      have hmethod := h.onMethod k n (v.onChildren n visits.reverse) (Walk.each visits.reverse)
        (Walk.each visits)
      exact hmethod.symm

/-- To visit a tree backwards is to visit its mirror image. -/
theorem Unsided.visit_backwards (h : v.Unsided) (t : Node) :
    v.backwards.visit method? t = v.visit method? t.mirror := by
  induction t using Node.of_kids with
  | node t ih =>
    have hkids : t.mirror.kids.map (v.visit method?) =
        (t.kids.map (v.backwards.visit method?)).reverse := by
      rw [Node.kids_mirror, List.map_reverse, List.map_map]
      exact congrArg List.reverse (List.map_congr_left ih).symm
    rw [visit_eq, visit_eq, hkids, h.onVisit, h.dispatch_backwards]
    rfl

theorem recorder_eq_backwards (choice : κ → WalkChoice) :
    recorder choice true = (recorder choice false).backwards :=
  rfl

/-- Of a kid, no event tells where it stands among the others. -/
theorem unsided_recorder (h : ∀ k, choice k ≠ .kidsOnly) : (recorder choice false).Unsided := by
  constructor
  case onVisit =>
    intro n routed
    simp only [recorder, Node.tag_mirror]
  case onMethod =>
    intro k n walk kids kids'
    have hk := h k
    simp only [recorder, Node.tag_mirror]
    cases hc : choice k with
    | kidsOnly => exact absurd hc hk
    | prune => rfl
    | once => rfl
    | twice => rfl
  case onChildren =>
    intro n visits
    simp only [recorder, Node.length_kids_mirror]
  case onToken =>
    intro n
    simp only [recorder, Node.tag_mirror, Node.text?_mirror]

theorem visit_recorder (t : Node) (events : Array (VisitEvent κ)) :
    (recorder choice false).visit method? t events =
      (events ++ ((cutAfter (Call.ends method?) (calls choice method? t)).map Call.event).toArray,
        ((calls choice method? t).find? (Call.ends method?)).map (·.node.tag)) := by
  rw [recorder_eq_noting, visit_noting_eq]
  exact congrArg (·, _) (List.foldl_push_eq_append ..)

end Visitor

end TagVocab

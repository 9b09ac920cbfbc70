import TagVocab.Proofs.Tree.Preorder

/-!
# Positions

A position says which kid to go to at each level of a tree, from the root on. Facts about a tree are
proved from its kids, whichever functions they are about.
-/

namespace TagVocab

abbrev Position :=
  List Nat

namespace Node

mutual

/-- What a tree has if it has it as soon as all of its kids do. -/
theorem of_kids {P : Node → Prop} (node : ∀ n : Node, (∀ kid ∈ n.kids, P kid) → P n) : ∀ n, P n
  | ⟨tag, kids, text, value⟩ => node ⟨tag, kids, text, value⟩ (forall_of_kids node kids)
termination_by structural n => n

theorem forall_of_kids {P : Node → Prop} (node : ∀ n : Node, (∀ kid ∈ n.kids, P kid) → P n) :
    ∀ ns : List Node, ∀ n ∈ ns, P n
  | [] => List.forall_mem_nil P
  | n :: ns => List.forall_mem_cons.mpr ⟨of_kids node n, forall_of_kids node ns⟩
termination_by structural ns => ns

end

/-- The node at a position. -/
def at? : Node → Position → Option Node
  | n, [] => some n
  | n, i :: p => n.kids[i]?.bind fun kid => kid.at? p

def ancestors : Node → Position → List Node
  | _, [] => []
  | n, i :: p => n :: (n.kids[i]?.map fun kid => kid.ancestors p).getD []

theorem at?_cons_eq_some_iff {t n : Node} {i : Nat} {p : Position} :
    t.at? (i :: p) = some n ↔ ∃ kid, t.kids[i]? = some kid ∧ kid.at? p = some n :=
  Option.bind_eq_some_iff

theorem ancestors_cons {t kid : Node} {i : Nat} (h : t.kids[i]? = some kid) (p : Position) :
    t.ancestors (i :: p) = t :: kid.ancestors p := by
  rw [ancestors, h]
  rfl

theorem preorderKids_eq_flatMap (ns : List Node) : preorderKids ns = ns.flatMap preorder := by
  induction ns with
  | nil => rfl
  | cons n ns ih => rw [preorderKids, ih, List.flatMap_cons]

theorem mem_preorder_self (n : Node) : n ∈ n.preorder := by
  obtain ⟨tag, kids, text, value⟩ := n
  exact List.mem_cons_self

theorem preorder_subset {n kid : Node} (htoken : ¬ n.tag < productionBase) (hkid : kid ∈ n.kids) :
    kid.preorder ⊆ n.preorder := by
  obtain ⟨tag, kids, text, value⟩ := n
  intro m hm
  rw [preorder, if_neg htoken, preorderKids_eq_flatMap]
  exact List.mem_cons_of_mem _ (List.mem_flatMap.mpr ⟨kid, hkid, hm⟩)

end Node

end TagVocab

import TagVocab.Tree.Traversal

/-!
# Visits in preorder

A visitor that only looks at the nodes it is sent to takes them in preorder, without those below
tokens, up to the first one whose tag has no method. The visit of a tree is first written as one walk
along its preorder list, and then that walk is run.
-/

namespace TagVocab

/-- `as` up to the first element of `p`, which is kept. -/
def cutAfter {α : Type} (p : α → Bool) : List α → List α
  | [] => []
  | a :: as => if p a then [a] else a :: cutAfter p as

section

variable {α : Type} {p : α → Bool}

theorem cutAfter_eq_self {as : List α} (h : ∀ a ∈ as, p a = false) : cutAfter p as = as := by
  induction as with
  | nil => rfl
  | cons a as ih =>
    rw [List.forall_mem_cons] at h
    rw [cutAfter, h.1, if_neg Bool.false_ne_true, ih h.2]

theorem getLast?_cutAfter {as : List α} {a : α} (h : as.find? p = some a) :
    (cutAfter p as).getLast? = some a := by
  induction as with
  | nil => exact nomatch h
  | cons b as ih =>
    rw [List.find?_cons] at h
    cases hp : p b with
    | true => simpa [cutAfter, hp] using h
    | false =>
      rw [hp] at h
      simp [cutAfter, hp, List.getLast?_cons, ih h]

end

namespace Node

mutual

/-- The nodes of a tree, each before its kids. Nothing below a token is listed. -/
def preorder : Node → List Node
  | ⟨tag, kids, text, value⟩ =>
    ⟨tag, kids, text, value⟩ :: if tag < productionBase then [] else preorderKids kids
termination_by structural n => n

def preorderKids : List Node → List Node
  | [] => []
  | n :: ns => preorder n ++ preorderKids ns
termination_by structural ns => ns

end

end Node

namespace Walk

variable {σ : Type}

@[simp] theorem andThen_skip (w : Walk σ) : w.andThen skip = w := by
  funext s
  unfold andThen skip
  rcases w s with ⟨s', _ | tag⟩ <;> rfl

theorem andThen_assoc (u v w : Walk σ) : (u.andThen v).andThen w = u.andThen (v.andThen w) := by
  funext s
  unfold andThen
  rcases u s with ⟨s', _ | tag⟩ <;> rfl

@[simp] theorem stopAt_andThen (tag : Tag) (w : Walk σ) : (stopAt tag).andThen w = stopAt tag :=
  rfl

theorem update_andThen (f : σ → σ) (w : Walk σ) (s : σ) : (update f).andThen w s = w (f s) :=
  rfl

@[simp] theorem each_nil : each ([] : List (Walk σ)) = skip :=
  rfl

@[simp] theorem each_cons (w : Walk σ) (ws : List (Walk σ)) :
    each (w :: ws) = w.andThen (each ws) :=
  rfl

theorem each_append (us ws : List (Walk σ)) : each (us ++ ws) = (each us).andThen (each ws) := by
  induction us with
  | nil => rfl
  | cons u us ih => rw [List.cons_append, each_cons, each_cons, ih, andThen_assoc]

/-- Updates the state, and ends the walk at `tag` if it is to end here. -/
def updateOrStop (f : σ → σ) (stops : Bool) (tag : Tag) : Walk σ :=
  (update f).andThen (if stops then stopAt tag else skip)

theorem updateOrStop_false (f : σ → σ) (tag : Tag) : updateOrStop f false tag = update f :=
  andThen_skip (update f)

/-- A walk of updates takes in what lies before the first end, and that end. -/
theorem each_updateOrStop {α : Type} (f : α → σ → σ) (stops : α → Bool) (tag : α → Tag)
    (as : List α) (s : σ) :
    each (as.map fun a => updateOrStop (f a) (stops a) (tag a)) s =
      ((cutAfter stops as).foldl (fun s a => f a s) s, (as.find? stops).map tag) := by
  induction as generalizing s with
  | nil => rfl
  | cons a as ih =>
    rw [List.map_cons, each_cons, cutAfter, List.find?_cons]
    cases hstops : stops a with
    | true => rfl
    | false =>
      rw [updateOrStop_false, update_andThen, ih]
      rfl

end Walk

namespace Visitor

variable {κ σ : Type} (method? : Tag → Option κ) (seen token : Node → σ → σ)

/-- A visitor that updates its state by `seen` at every node and by `token` at every token. -/
def observer : Visitor κ σ where
  onVisit n routed := (Walk.update (seen n)).andThen routed
  onToken n := Walk.update (token n)

def unrouted (n : Node) : Bool :=
  !decide (n.tag < productionBase) && (method? n.tag).isNone

def observe (s : σ) (n : Node) : σ :=
  if n.tag < productionBase then token n (seen n s) else seen n s

def turn (n : Node) : Walk σ :=
  (Walk.update (observe seen token · n)).andThen
    (if unrouted method? n then Walk.stopAt n.tag else Walk.skip)

theorem turn_eq_update {n : Node} (h : unrouted method? n = false) :
    turn method? seen token n = Walk.update (observe seen token · n) := by
  rw [turn, h, if_neg Bool.false_ne_true, Walk.andThen_skip]

theorem turn_andThen {n : Node} (h : unrouted method? n = true) (w : Walk σ) :
    (turn method? seen token n).andThen w = turn method? seen token n := by
  rw [turn, if_pos h, Walk.andThen_assoc, Walk.stopAt_andThen]

theorem unrouted_of_token {n : Node} (h : n.tag < productionBase) : unrouted method? n = false := by
  simp [unrouted, h]

theorem visit_token {n : Node} (h : n.tag < productionBase) :
    (observer seen token).visit method? n = turn method? seen token n := by
  rw [turn_eq_update method? seen token (unrouted_of_token method? h)]
  obtain ⟨tag, kids, text, value⟩ := n
  funext s
  simp only [visit, dispatch, observer, if_pos h, Walk.update_andThen, Walk.update, observe]

theorem visit_unrouted {n : Node} (h : unrouted method? n = true) :
    (observer seen token).visit method? n = turn method? seen token n := by
  obtain ⟨tag, kids, text, value⟩ := n
  have hu := h
  simp only [unrouted, Bool.and_eq_true, Bool.not_eq_true', decide_eq_false_iff_not,
    Option.isNone_iff_eq_none] at hu
  obtain ⟨htag, hm⟩ := hu
  funext s
  simp only [visit, dispatch, observer, turn, if_neg htag, hm, h, if_true, Walk.update_andThen,
    observe]

theorem visit_routed {n : Node} (h : ¬ n.tag < productionBase) (hu : unrouted method? n = false) :
    (observer seen token).visit method? n =
      (turn method? seen token n).andThen
        (Walk.each ((observer seen token).visitKids method? n.kids)) := by
  rw [turn_eq_update method? seen token hu]
  obtain ⟨tag, kids, text, value⟩ := n
  obtain ⟨k, hk⟩ : ∃ k, method? tag = some k := by
    rw [← Option.isSome_iff_exists]
    simpa [unrouted, h] using hu
  funext s
  simp only [visit, dispatch, observer, if_neg h, hk, Walk.update_andThen, observe]

mutual

theorem visit_observer : ∀ n : Node, (observer seen token).visit method? n =
    Walk.each (n.preorder.map (turn method? seen token))
  | ⟨tag, kids, text, value⟩ => by
    have hkids := visitKids_observer kids
    rw [Node.preorder, List.map_cons, Walk.each_cons]
    by_cases h : tag < productionBase
    · rw [if_pos h, List.map_nil, Walk.each_nil, Walk.andThen_skip]
      exact visit_token method? seen token h
    · rw [if_neg h, ← hkids]
      cases hu : unrouted method? ⟨tag, kids, text, value⟩ with
      | true =>
        rw [turn_andThen method? seen token hu]
        exact visit_unrouted method? seen token hu
      | false => exact visit_routed method? seen token h hu
termination_by structural n => n

theorem visitKids_observer : ∀ ns : List Node,
    Walk.each ((observer seen token).visitKids method? ns) =
      Walk.each ((Node.preorderKids ns).map (turn method? seen token))
  | [] => rfl
  | n :: ns => by
    have hn := visit_observer n
    have hns := visitKids_observer ns
    rw [visitKids, Walk.each_cons, hn, hns, Node.preorderKids, List.map_append, Walk.each_append]
termination_by structural ns => ns

end

theorem each_turn (ns : List Node) (s : σ) :
    Walk.each (ns.map (turn method? seen token)) s =
      ((cutAfter (unrouted method?) ns).foldl (observe seen token) s,
        (ns.find? (unrouted method?)).map (·.tag)) :=
  Walk.each_updateOrStop (fun n s => observe seen token s n) (unrouted method?) (·.tag) ns s

/-- What an observer has seen at the end of a visit, and the tag that ended it early. -/
theorem visit_observer_eq (n : Node) (s : σ) :
    (observer seen token).visit method? n s =
      ((cutAfter (unrouted method?) n.preorder).foldl (observe seen token) s,
        (n.preorder.find? (unrouted method?)).map (·.tag)) := by
  rw [visit_observer, each_turn]

theorem foldl_observe_id (ns : List Node) (s : σ) :
    ns.foldl (observe (fun _ => id) fun _ => id) s = s := by
  induction ns with
  | nil => rfl
  | cons n ns ih =>
    rw [List.foldl_cons, observe]
    simpa using ih

/-- The visitor that keeps to the defaults changes no state, and ends early at the same tag. -/
theorem visit_default (n : Node) (s : σ) :
    ({} : Visitor κ σ).visit method? n s =
      (s, (n.preorder.find? (unrouted method?)).map (·.tag)) := by
  have hd : ({} : Visitor κ σ) = observer (fun _ => id) fun _ => id :=
    rfl
  rw [hd, visit_observer_eq, foldl_observe_id]

end Visitor

end TagVocab

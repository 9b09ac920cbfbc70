import Mathlib.Algebra.BigOperators.Group.List.Basic
import TagVocab.Proofs.Tree.Positions
import TagVocab.Tree.Recorder

/-!
# The calls of a visit

A visitor that overrides every hook, and delegates as its methods choose, is sent through a list of
calls, each at a position of the tree, up to the first that ends the visit. The list is that of the
root in front of those of its kids, as often as the method of the root walks them, so what holds of
all calls is shown from the kids up. How often a hook is called at a position comes from one factor
for each node above.
-/

namespace TagVocab

namespace WalkChoice

/-- How often a method has each kid visited. -/
def visits : WalkChoice → Nat
  | prune => 0
  | once => 1
  | twice => 2
  | kidsOnly => 1

def childrenCalls : WalkChoice → Nat
  | prune => 0
  | once => 1
  | twice => 2
  | kidsOnly => 0

end WalkChoice

namespace Visitor

inductive Hook (κ : Type) where
  | visit
  | method (k : κ)
  | children
  | token
deriving DecidableEq

def Hook.event {κ : Type} (n : Node) : Hook κ → VisitEvent κ
  | visit => .visit n.tag
  | method k => .method k n.tag
  | children => .children n.kids.length
  | token => .token n.tag n.text?

structure Call (κ : Type) where
  position : Position
  node : Node
  hook : Hook κ

variable {κ σ : Type} {choice : κ → WalkChoice} {method? : Tag → Option κ}
  {note : Hook κ → Node → σ → σ} {t n kid : Node} {k : κ} {i : Nat} {p : Position}

/-- Overrides all hooks to take note of the call first. Only the methods do then as they choose. -/
def noting (choice : κ → WalkChoice) (note : Hook κ → Node → σ → σ) : Visitor κ σ where
  onVisit n routed := (Walk.update (note .visit n)).andThen routed
  onMethod k n walk kids := (Walk.update (note (.method k) n)).andThen
    (match choice k with
      | .prune => Walk.skip
      | .once => walk
      | .twice => walk.andThen walk
      | .kidsOnly => kids)
  onChildren n visits := (Walk.update (note .children n)).andThen (Walk.each visits)
  onToken n := Walk.update (note .token n)

theorem recorder_eq_noting (choice : κ → WalkChoice) :
    recorder choice false = noting choice fun h n events => events.push (h.event n) :=
  rfl

namespace Call

def below (i : Nat) (c : Call κ) : Call κ :=
  { c with position := i :: c.position }

/-- The calls of kids, of which the first one is the kid `i`, as seen from their parent. -/
def belowKids : Nat → List (List (Call κ)) → List (Call κ)
  | _, [] => []
  | i, calls :: rest => calls.map (below i) ++ belowKids (i + 1) rest

def event (c : Call κ) : VisitEvent κ :=
  c.hook.event c.node

def ends (method? : Tag → Option κ) (c : Call κ) : Bool :=
  match c.hook with
  | .visit => unrouted method? c.node
  | _ => false

theorem mem_belowKids_map {f : Node → List (Call κ)} {ns : List Node} {c : Call κ} :
    c ∈ belowKids i (ns.map f) ↔
      ∃ j n, ns[j]? = some n ∧ ∃ d ∈ f n, c = d.below (i + j) := by
  induction ns generalizing i with
  | nil => simp [belowKids]
  | cons n ns ih =>
    rw [List.map_cons, belowKids, List.mem_append, List.mem_map, ih]
    constructor
    · rintro (⟨d, hd, rfl⟩ | ⟨j, m, hm, d, hd, rfl⟩)
      · exact ⟨0, n, rfl, d, hd, rfl⟩
      · exact ⟨j + 1, m, hm, d, hd, by rw [Nat.add_assoc, Nat.add_comm 1]⟩
    · rintro ⟨j, m, hm, d, hd, rfl⟩
      cases j with
      | zero =>
        obtain rfl : n = m := Option.some.inj hm
        exact Or.inl ⟨d, hd, rfl⟩
      | succ j => exact Or.inr ⟨j, m, hm, d, hd, by rw [Nat.add_assoc, Nat.add_comm 1]⟩

end Call

/-- The calls behind that of a method, given those that a visit of all kids makes. -/
def walkCalls (n : Node) (kids : List (Call κ)) : WalkChoice → List (Call κ)
  | .prune => []
  | .once => ⟨[], n, .children⟩ :: kids
  | .twice => (⟨[], n, .children⟩ :: kids) ++ (⟨[], n, .children⟩ :: kids)
  | .kidsOnly => kids

/-- The calls behind the visit of a node, given those of each kid. -/
def routedCalls (choice : κ → WalkChoice) (method? : Tag → Option κ) (n : Node)
    (kids : List (List (Call κ))) : List (Call κ) :=
  if n.tag < productionBase then
    [⟨[], n, .token⟩]
  else
    match method? n.tag with
    | some k => ⟨[], n, .method k⟩ :: walkCalls n (Call.belowKids 0 kids) (choice k)
    | none => []

mutual

/-- All calls of a visit, with their positions seen from its root. -/
def calls (choice : κ → WalkChoice) (method? : Tag → Option κ) : Node → List (Call κ)
  | ⟨tag, kids, text, value⟩ =>
    ⟨[], ⟨tag, kids, text, value⟩, .visit⟩ ::
      routedCalls choice method? ⟨tag, kids, text, value⟩ (callsOfKids choice method? kids)
termination_by structural n => n

def callsOfKids (choice : κ → WalkChoice) (method? : Tag → Option κ) :
    List Node → List (List (Call κ))
  | [] => []
  | n :: ns => calls choice method? n :: callsOfKids choice method? ns
termination_by structural ns => ns

end

theorem callsOfKids_eq_map (ns : List Node) :
    callsOfKids choice method? ns = ns.map (calls choice method?) := by
  induction ns with
  | nil => rfl
  | cons n ns ih => rw [callsOfKids, ih, List.map_cons]

theorem calls_eq (n : Node) : calls choice method? n =
    ⟨[], n, .visit⟩ :: routedCalls choice method? n (n.kids.map (calls choice method?)) := by
  obtain ⟨tag, kids, text, value⟩ := n
  rw [calls, callsOfKids_eq_map]

theorem calls_token (h : n.tag < productionBase) :
    calls choice method? n = [⟨[], n, .visit⟩, ⟨[], n, .token⟩] := by
  rw [calls_eq, routedCalls, if_pos h]

theorem calls_method (htoken : ¬ n.tag < productionBase) (hk : method? n.tag = some k) :
    calls choice method? n = ⟨[], n, .visit⟩ :: ⟨[], n, .method k⟩ ::
      walkCalls n (Call.belowKids 0 (n.kids.map (calls choice method?))) (choice k) := by
  rw [calls_eq, routedCalls, if_neg htoken, hk]

theorem calls_unrouted (htoken : ¬ n.tag < productionBase) (hk : method? n.tag = none) :
    calls choice method? n = [⟨[], n, .visit⟩] := by
  rw [calls_eq, routedCalls, if_neg htoken, hk]

theorem mem_walkCalls {kids : List (Call κ)} {c : WalkChoice} {d : Call κ}
    (h : d ∈ walkCalls n kids c) : d = ⟨[], n, .children⟩ ∨ d ∈ kids := by
  cases c with
  | prune => cases h
  | once => exact List.mem_cons.mp h
  | twice =>
    obtain h | h := List.mem_append.mp h
    · exact List.mem_cons.mp h
    · exact List.mem_cons.mp h
  | kidsOnly => exact Or.inr h

theorem at?_of_mem_calls (t : Node) :
    ∀ c ∈ calls choice method? t, t.at? c.position = some c.node := by
  induction t using Node.of_kids with
  | node t ih =>
    intro c hc
    rw [calls_eq, List.mem_cons] at hc
    obtain rfl | hc := hc
    · rfl
    unfold routedCalls at hc
    split at hc
    · obtain rfl := List.mem_singleton.mp hc
      rfl
    split at hc
    · obtain rfl | hc := List.mem_cons.mp hc
      · rfl
      obtain rfl | hc := mem_walkCalls hc
      · rfl
      obtain ⟨j, kid, hkid, d, hd, rfl⟩ := Call.mem_belowKids_map.mp hc
      rw [Nat.zero_add]
      exact Node.at?_cons_eq_some_iff.mpr ⟨kid, hkid, ih kid (List.mem_of_getElem? hkid) d hd⟩
    · cases hc

/-! ### What follows a visit -/

/-- Every call of `visit` is followed at once by a call that `own` allows on the same node, and no
other calls than that and those on children occur. -/
inductive Paired (own : Hook κ → Node → Prop) : List (Call κ) → Prop where
  | nil : Paired own []
  | visit {h : Hook κ} {rest : List (Call κ)} (p : Position) (n : Node) (hown : own h n)
      (hrest : Paired own rest) : Paired own (⟨p, n, .visit⟩ :: ⟨p, n, h⟩ :: rest)
  | children {rest : List (Call κ)} (p : Position) (n : Node) (hrest : Paired own rest) :
      Paired own (⟨p, n, .children⟩ :: rest)

namespace Paired

variable {own : Hook κ → Node → Prop} {cs ds : List (Call κ)}

theorem append (hc : Paired own cs) (hd : Paired own ds) : Paired own (cs ++ ds) := by
  induction hc with
  | nil => exact hd
  | visit p n hown _ ih => exact .visit p n hown ih
  | children p n _ ih => exact .children p n ih

theorem map_below (hc : Paired own cs) : Paired own (cs.map (Call.below i)) := by
  induction hc with
  | nil => exact .nil
  | visit p n hown _ ih => exact .visit (i :: p) n hown ih
  | children p n _ ih => exact .children (i :: p) n ih

theorem belowKids {css : List (List (Call κ))} (h : ∀ cs ∈ css, Paired own cs) :
    Paired own (Call.belowKids i css) := by
  induction css generalizing i with
  | nil => exact .nil
  | cons cs css ih =>
    obtain ⟨hcs, hcss⟩ := List.forall_mem_cons.mp h
    exact hcs.map_below.append (ih hcss)

theorem walkCalls (h : Paired own cs) (n : Node) (c : WalkChoice) :
    Paired own (walkCalls n cs c) := by
  cases c with
  | prune => exact .nil
  | once => exact .children [] n h
  | twice => exact (Paired.children [] n h).append (.children [] n h)
  | kidsOnly => exact h

/-- No call ends the visit if every visited node has a call of its own hook. -/
theorem ends_eq_false (h : Paired own cs) (hown : ∀ h n, own h n → unrouted method? n = false) :
    ∀ c ∈ cs, c.ends method? = false := by
  induction h with
  | nil => simp
  | @visit h _ p n hn _ ih =>
    have hrouted := hown h n hn
    refine List.forall_mem_cons.mpr ⟨hrouted, List.forall_mem_cons.mpr ⟨?_, ih⟩⟩
    cases h with
    | visit => exact hrouted
    | method k => rfl
    | children => rfl
    | token => rfl
  | children p n _ ih => exact List.forall_mem_cons.mpr ⟨rfl, ih⟩

end Paired

theorem paired_calls {own : Hook κ → Node → Prop}
    (hown : ∀ n ∈ t.preorder, (n.tag < productionBase ∧ own .token n) ∨
      (¬ n.tag < productionBase ∧ ∃ k, method? n.tag = some k ∧ own (.method k) n)) :
    Paired own (calls choice method? t) := by
  induction t using Node.of_kids with
  | node t ih =>
    obtain ⟨htoken, htown⟩ | ⟨htoken, k, hk, htown⟩ := hown t t.mem_preorder_self
    · rw [calls_token htoken]
      exact .visit [] t htown .nil
    · rw [calls_method htoken hk]
      refine .visit [] t htown (Paired.walkCalls (Paired.belowKids ?_) t (choice k))
      rw [List.forall_mem_map]
      exact fun kid hkid => ih kid hkid fun n hn => hown n (Node.preorder_subset htoken hkid hn)

/-! ### The run of a visit -/

theorem visitKids_eq_map (v : Visitor κ σ) (ns : List Node) :
    v.visitKids method? ns = ns.map (v.visit method?) := by
  induction ns with
  | nil => rfl
  | cons n ns ih => rw [visitKids, ih, List.map_cons]

theorem visit_eq (v : Visitor κ σ) (n : Node) : v.visit method? n =
    v.onVisit n (v.dispatch method? n (n.kids.map (v.visit method?))) := by
  obtain ⟨tag, kids, text, value⟩ := n
  rw [visit, visitKids_eq_map]

/-- Takes note of calls, one after the other, up to the first one that ends the visit. -/
def turns (method? : Tag → Option κ) (note : Hook κ → Node → σ → σ) (cs : List (Call κ)) : Walk σ :=
  Walk.each (cs.map fun c =>
    Walk.updateOrStop (note c.hook c.node) (c.ends method?) c.node.tag)

theorem turns_cons {c : Call κ} (h : c.ends method? = false) (cs : List (Call κ)) :
    turns method? note (c :: cs) =
      (Walk.update (note c.hook c.node)).andThen (turns method? note cs) := by
  rw [turns, List.map_cons, Walk.each_cons, h, Walk.updateOrStop_false, turns]

theorem turns_append (cs ds : List (Call κ)) : turns method? note (cs ++ ds) =
    (turns method? note cs).andThen (turns method? note ds) := by
  rw [turns, List.map_append, Walk.each_append, turns, turns]

theorem turns_belowKids (css : List (List (Call κ))) :
    turns method? note (Call.belowKids i css) = Walk.each (css.map (turns method? note)) := by
  induction css generalizing i with
  | nil => rfl
  | cons cs css ih =>
    -- Neither the note nor the end of a call depends on its position.
    have hbelow : turns method? note (cs.map (Call.below i)) = turns method? note cs := by
      rw [turns, List.map_map]
      rfl
    rw [Call.belowKids, turns_append, hbelow, ih, List.map_cons, Walk.each_cons]

theorem turns_walkCalls (n : Node) (cs : List (Call κ)) (c : WalkChoice) :
    turns method? note (walkCalls n cs c) =
      match c with
      | .prune => Walk.skip
      | .once => (Walk.update (note .children n)).andThen (turns method? note cs)
      | .twice => ((Walk.update (note .children n)).andThen (turns method? note cs)).andThen
          ((Walk.update (note .children n)).andThen (turns method? note cs))
      | .kidsOnly => turns method? note cs := by
  cases c with
  | prune => rfl
  | once => exact turns_cons rfl cs
  | twice => rw [walkCalls, turns_append, turns_cons rfl]
  | kidsOnly => rfl

theorem visit_eq_turns (t : Node) :
    (noting choice note).visit method? t = turns method? note (calls choice method? t) := by
  induction t using Node.of_kids with
  | node t ih =>
    rw [visit_eq]
    by_cases htoken : t.tag < productionBase
    · have hends : Call.ends method? (⟨[], t, .visit⟩ : Call κ) = false :=
        unrouted_of_token method? htoken
      rw [calls_token htoken, turns_cons hends, turns_cons rfl, dispatch, if_pos htoken]
      rfl
    cases hk : method? t.tag with
    | none =>
      have hends : Call.ends method? (⟨[], t, .visit⟩ : Call κ) = true := by
        simp [Call.ends, unrouted, htoken, hk]
      rw [calls_unrouted htoken hk, dispatch, if_neg htoken, hk, turns, List.map_singleton, hends]
      rfl
    | some k =>
      have hends : Call.ends method? (⟨[], t, .visit⟩ : Call κ) = false := by
        simp [Call.ends, unrouted, hk]
      -- The method is handed the kids' visits, each of which takes the turns of its own calls.
      have hkids : t.kids.map ((noting choice note).visit method?) =
          (t.kids.map (calls choice method?)).map (turns method? note) := by
        rw [List.map_map]
        exact List.map_congr_left ih
      rw [calls_method htoken hk, turns_cons hends, turns_cons rfl, turns_walkCalls,
        turns_belowKids, dispatch, if_neg htoken, hk, hkids]
      rfl

/-- A visit takes note of its calls up to the first one that ends it, which is at a tag that no
method is for. -/
theorem visit_noting_eq (t : Node) (s : σ) : (noting choice note).visit method? t s =
    ((cutAfter (Call.ends method?) (calls choice method? t)).foldl
        (fun s c => note c.hook c.node s) s,
      ((calls choice method? t).find? (Call.ends method?)).map (·.node.tag)) := by
  rw [visit_eq_turns]
  exact Walk.each_updateOrStop (fun c : Call κ => note c.hook c.node) _ (·.node.tag) _ s

def noteAll (note : Hook κ → Node → σ → σ) (cs : List (Call κ)) : Walk σ :=
  Walk.update fun s => cs.foldl (fun s c => note c.hook c.node s) s

/-- A visit takes note of exactly its calls, and comes to its end. -/
theorem visit_noting
    (hrouted : ∀ n ∈ t.preorder, n.tag < productionBase ∨ ∃ k, method? n.tag = some k) :
    (noting choice note).visit method? t = noteAll note (calls choice method? t) := by
  have hpaired : Paired (fun _ n => unrouted method? n = false) (calls choice method? t) := by
    refine paired_calls fun n hn => ?_
    by_cases htoken : n.tag < productionBase
    · exact Or.inl ⟨htoken, unrouted_of_token method? htoken⟩
    · obtain ⟨k, hk⟩ := (hrouted n hn).resolve_left htoken
      exact Or.inr ⟨htoken, k, hk, by simp [unrouted, hk]⟩
  have hends := hpaired.ends_eq_false fun _ _ h => h
  funext s
  rw [visit_noting_eq, cutAfter_eq_self hends, List.find?_eq_none.mpr (by simpa using hends)]
  rfl

/-! ### Counting calls -/

section

variable [DecidableEq κ] {hook : Hook κ} {cs ds : List (Call κ)}

def countAt (hook : Hook κ) (p : Position) (cs : List (Call κ)) : Nat :=
  cs.countP fun c => c.hook = hook ∧ c.position = p

theorem countAt_nil : countAt hook p [] = 0 :=
  rfl

theorem countAt_cons (c : Call κ) : countAt hook p (c :: cs) =
    countAt hook p cs + if c.hook = hook ∧ c.position = p then 1 else 0 := by
  simp [countAt, List.countP_cons]

theorem countAt_append : countAt hook p (cs ++ ds) = countAt hook p cs + countAt hook p ds :=
  List.countP_append

theorem countAt_eq_zero (h : ∀ c ∈ cs, c.position ≠ p) : countAt hook p cs = 0 := by
  simpa [countAt, List.countP_eq_zero] using fun c hc _ => h c hc

theorem countAt_map_below :
    countAt hook (i :: p) (cs.map (Call.below i)) = countAt hook p cs := by
  rw [countAt, List.countP_map]
  refine List.countP_congr fun c _ => ?_
  simp only [Function.comp_apply, Call.below, decide_eq_true_eq, List.cons.injEq, true_and]

theorem countAt_belowKids {f : Node → List (Call κ)} {ns : List Node} (hkid : ns[i]? = some kid)
    (start : Nat) : countAt hook ((start + i) :: p) (Call.belowKids start (ns.map f)) =
      countAt hook p (f kid) := by
  induction ns generalizing start i with
  | nil => cases hkid
  | cons n ns ih =>
    rw [List.map_cons, Call.belowKids, countAt_append]
    cases i with
    | zero =>
      obtain rfl : n = kid := Option.some.inj hkid
      -- The kids behind it stand at greater indices.
      have hrest : countAt hook ((start + 0) :: p) (Call.belowKids (start + 1) (ns.map f)) = 0 := by
        refine countAt_eq_zero fun c hc => ?_
        obtain ⟨j, m, -, d, -, rfl⟩ := Call.mem_belowKids_map.mp hc
        simp [Call.below]
        omega
      rw [hrest, Nat.add_zero, Nat.add_zero, countAt_map_below]
    | succ i =>
      have hfirst : countAt hook ((start + (i + 1)) :: p) ((f n).map (Call.below start)) = 0 := by
        refine countAt_eq_zero fun c hc => ?_
        obtain ⟨d, -, rfl⟩ := List.mem_map.mp hc
        simp [Call.below]
      have hrest := ih hkid (start + 1)
      rw [Nat.add_assoc, Nat.add_comm 1] at hrest
      rw [hfirst, Nat.zero_add, hrest]

theorem countAt_nil_belowKids (i : Nat) (f : Node → List (Call κ)) (ns : List Node) :
    countAt hook [] (Call.belowKids i (ns.map f)) = 0 := by
  refine countAt_eq_zero fun c hc => ?_
  obtain ⟨j, n, -, d, -, rfl⟩ := Call.mem_belowKids_map.mp hc
  exact List.cons_ne_nil _ _

theorem countAt_cons_walkCalls (n : Node) (c : WalkChoice) :
    countAt hook (i :: p) (walkCalls n cs c) = c.visits * countAt hook (i :: p) cs := by
  cases c <;> simp [walkCalls, WalkChoice.visits, countAt_append, countAt_cons, countAt_nil,
    Nat.two_mul]

theorem countAt_visit_walkCalls (hkids : countAt .visit [] cs = 0) (n : Node) (c : WalkChoice) :
    countAt .visit [] (walkCalls n cs c) = 0 := by
  cases c <;> simp [walkCalls, countAt_append, countAt_cons, countAt_nil, hkids]

theorem countAt_children_walkCalls (hkids : countAt .children [] cs = 0) (n : Node)
    (c : WalkChoice) : countAt .children [] (walkCalls n cs c) = c.childrenCalls := by
  cases c <;> simp [walkCalls, WalkChoice.childrenCalls, countAt_append, countAt_cons, countAt_nil,
    hkids]

theorem countAt_visit_calls (n : Node) : countAt .visit [] (calls choice method? n) = 1 := by
  by_cases htoken : n.tag < productionBase
  · simp [calls_token htoken, countAt_cons, countAt_nil]
  cases hk : method? n.tag with
  | none => simp [calls_unrouted htoken hk, countAt_cons, countAt_nil]
  | some k =>
    rw [calls_method htoken hk, countAt_cons, countAt_cons,
      countAt_visit_walkCalls (countAt_nil_belowKids 0 _ _)]
    simp

theorem countAt_children_calls (htoken : ¬ n.tag < productionBase) (hk : method? n.tag = some k) :
    countAt .children [] (calls choice method? n) = (choice k).childrenCalls := by
  rw [calls_method htoken hk, countAt_cons, countAt_cons,
    countAt_children_walkCalls (countAt_nil_belowKids 0 _ _)]
  simp

/-- How often a visit of a node leads to a visit of each kid. -/
def weight (choice : κ → WalkChoice) (method? : Tag → Option κ) (n : Node) : Nat :=
  if n.tag < productionBase then 0
  else ((method? n.tag).map fun k => (choice k).visits).getD 0

/-- How often the node at a position is visited: once for the root, times the weight of every node
above. -/
def visitsAt (choice : κ → WalkChoice) (method? : Tag → Option κ) (t : Node) (p : Position) : Nat :=
  ((t.ancestors p).map (weight choice method?)).prod

theorem countAt_cons_calls (hkid : t.kids[i]? = some kid) :
    countAt hook (i :: p) (calls choice method? t) =
      weight choice method? t * countAt hook p (calls choice method? kid) := by
  by_cases htoken : t.tag < productionBase
  · simp [calls_token htoken, weight, htoken, countAt_cons, countAt_nil]
  cases hk : method? t.tag with
  | none => simp [calls_unrouted htoken hk, weight, htoken, hk, countAt_cons, countAt_nil]
  | some k =>
    have hbelow : countAt hook ((0 + i) :: p) (Call.belowKids 0
        (t.kids.map (calls choice method?))) = countAt hook p (calls choice method? kid) :=
      countAt_belowKids hkid 0
    rw [Nat.zero_add] at hbelow
    rw [calls_method htoken hk, countAt_cons, countAt_cons, countAt_cons_walkCalls, hbelow]
    simp [weight, htoken, hk]

/-- A hook is called at a position as often as its node is visited, times the calls that one visit
makes on the node itself. -/
theorem countAt_calls (hat : t.at? p = some n) : countAt hook p (calls choice method? t) =
    visitsAt choice method? t p * countAt hook [] (calls choice method? n) := by
  induction p generalizing t with
  | nil =>
    obtain rfl : t = n := Option.some.inj hat
    simp [visitsAt, Node.ancestors]
  | cons i p ih =>
    obtain ⟨kid, hkid, hat⟩ := Node.at?_cons_eq_some_iff.mp hat
    rw [countAt_cons_calls hkid, ih hat, visitsAt, visitsAt, Node.ancestors_cons hkid,
      List.map_cons, List.prod_cons, Nat.mul_assoc]

end

end Visitor

end TagVocab

import Mathlib.Algebra.GroupWithZero.Nat
import Mathlib.Data.UInt
import Mathlib.Order.Lattice
import TagVocab.Proofs.Statement.Visiting
import TagVocab.Proofs.Tree.Ancestors
import TagVocab.Statement.Stats

/-!
# Exact statistics

What a visit adds to the statistics of programs, from any state, and where it leaves the depth of
loops if it fails. The visit is first written as one run along the places of the tree, and then the
counts are read off that run: in the arithmetic of words from every state, and in numbers as long as
the numbers fit into words.
-/

namespace TagVocab.Statement

theorem AstTag.ofTag?_eq_some_iff {t : Tag} {a : AstTag} : ofTag? t = some a ↔ a.tag = t := by
  constructor
  · intro h
    simpa using List.find?_some h
  · rintro rfl
    cases a <;> rfl

theorem AstTag.not_lt_productionBase (a : AstTag) : ¬ a.tag < productionBase := by
  cases a <;> decide

theorem exists_tag_eq {n : Node} (htoken : ¬ n.tag < productionBase) (hu : ¬ isUnknown n) :
    ∃ a : AstTag, a.tag = n.tag := by
  by_contra hne
  have htag : 1000 ≤ n.tag.toNat := Nat.not_lt.mp fun h => htoken (UInt32.lt_iff_toNat_lt.mpr h)
  exact hu ((isUnknown_iff n).mpr ⟨htag, fun a ha => hne ⟨a, ha⟩⟩)

def isAssignment (n : Node) : Bool :=
  n.tag = AstTag.assignment.tag

def isLoop (n : Node) : Bool :=
  n.tag = AstTag.whileStatement.tag

def isToken (n : Node) : Bool :=
  n.tag < productionBase

def target? (n : Node) : Option String :=
  if isAssignment n then (n.kid? 0).bind Node.text? else none

def reached (t : Node) : List PlacedNode :=
  (t.places []).takeWhile fun v => !isUnknown v.node

def offending? (t : Node) : Option PlacedNode :=
  (t.places []).find? (isUnknown ·.node)

theorem ne_tag_of_token {n : Node} (h : n.tag < productionBase) (a : AstTag) : n.tag ≠ a.tag := by
  intro htag
  rw [htag] at h
  exact a.not_lt_productionBase h

theorem isUnknown_of_token {n : Node} (h : n.tag < productionBase) : isUnknown n = false := by
  have htag : ¬ 1000 ≤ n.tag.toNat := Nat.not_le.mpr (UInt32.lt_iff_toNat_lt.mp h)
  simp [isUnknown, htag]

namespace ProgramStats

attribute [ext] ProgramStats

variable (base : UInt64)

/-- How many loops there are around what stands below `path`, in a visit that began inside of `base`
loops. -/
def depthInside (path : List Node) : UInt64 :=
  base + .ofNat (path.countP isLoop)

/-- What one node adds, in a visit that began inside of `base` loops. -/
def count (s : ProgramStats) (v : PlacedNode) : ProgramStats :=
  { s with
    assignments := s.assignments + if isAssignment v.node then 1 else 0
    loops := s.loops + if isLoop v.node then 1 else 0
    maxLoopDepth :=
      if isLoop v.node then max s.maxLoopDepth (depthInside base v.path) else s.maxLoopDepth
    tokens := s.tokens + if isToken v.node then 1 else 0
    assigned := s.assigned ++ (target? v.node).toList }

/-- Counts nodes one after the other. At an unknown tag the depth is that of the node's place. -/
def run : List PlacedNode → Walk ProgramStats
  | [] => Walk.skip
  | v :: vs =>
    if isUnknown v.node then
      (Walk.update fun s => { s with depth := depthInside base v.above }).andThen
        (Walk.stopAt v.node.tag)
    else
      (Walk.update (count base · v)).andThen (run vs)

theorem depthInside_nil : depthInside base [] = base :=
  UInt64.add_zero base

theorem depthInside_concat_of_loop (path : List Node) {n : Node} (h : isLoop n = true) :
    depthInside base (path ++ [n]) = depthInside base path + 1 := by
  rw [depthInside, List.countP_append, List.countP_singleton, if_pos h, UInt64.ofNat_add,
    ← UInt64.add_assoc]
  rfl

theorem depthInside_concat_of_not_loop (path : List Node) {n : Node} (h : isLoop n = false) :
    depthInside base (path ++ [n]) = depthInside base path := by
  rw [depthInside, List.countP_append, List.countP_singleton, h, if_neg Bool.false_ne_true,
    Nat.add_zero]
  rfl

theorem run_append (us vs : List PlacedNode) :
    run base (us ++ vs) = (run base us).andThen (run base vs) := by
  induction us with
  | nil => rfl
  | cons u us ih =>
    rw [List.cons_append, run, run]
    by_cases hu : isUnknown u.node
    · rw [if_pos hu, if_pos hu, Walk.andThen_assoc, Walk.stopAt_andThen]
    · rw [if_neg hu, if_neg hu, ih, Walk.andThen_assoc]

/-- A run that does not fail passes the depth on as it was, and one that fails does not look at it. -/
theorem run_withDepth (vs : List PlacedNode) (s : ProgramStats) (depth : UInt64) :
    run base vs { s with depth } =
      match run base vs s with
      | (s', none) => ({ s' with depth }, none)
      | (s', some tag) => (s', some tag) := by
  induction vs generalizing s with
  | nil => rfl
  | cons v vs ih =>
    rw [run]
    by_cases hv : isUnknown v.node
    · rw [if_pos hv, Walk.update_andThen, Walk.update_andThen]
      rfl
    · rw [if_neg hv, Walk.update_andThen, Walk.update_andThen]
      exact ih (count base s v)

theorem depth_of_run (vs : List PlacedNode) {s s' : ProgramStats}
    (h : run base vs s = (s', none)) : s'.depth = s.depth := by
  have hr := run_withDepth base vs s s.depth
  rw [h] at hr
  exact congrArg (·.1.depth) hr

theorem visit_eq_dispatch (n : Node) : visitor.visit AstTag.ofTag? n =
    visitor.dispatch AstTag.ofTag? n (visitor.visitKids AstTag.ofTag? n.kids) := by
  obtain ⟨tag, kids, text, value⟩ := n
  rfl

theorem visit_token {n : Node} (h : n.tag < productionBase) (s : ProgramStats) :
    visitor.visit AstTag.ofTag? n s = (countToken s, none) := by
  rw [visit_eq_dispatch, Visitor.dispatch, if_pos h]
  rfl

theorem visit_unknown {n : Node} (h : isUnknown n) (s : ProgramStats) :
    visitor.visit AstTag.ofTag? n s = (s, some n.tag) := by
  obtain ⟨hlo, hne⟩ := (isUnknown_iff n).mp h
  have htoken : ¬ n.tag < productionBase := Nat.not_lt.mpr hlo
  have hmethod : AstTag.ofTag? n.tag = none := by
    rw [Option.eq_none_iff_forall_ne_some]
    intro a ha
    exact hne a (AstTag.ofTag?_eq_some_iff.mp ha)
  rw [visit_eq_dispatch, Visitor.dispatch, if_neg htoken, hmethod]
  rfl

theorem visit_routed {n : Node} {a : AstTag} (h : a.tag = n.tag) :
    visitor.visit AstTag.ofTag? n =
      visitor.onMethod a n (Walk.each (visitor.visitKids AstTag.ofTag? n.kids))
        (Walk.each (visitor.visitKids AstTag.ofTag? n.kids)) := by
  have htoken : ¬ n.tag < productionBase := h ▸ a.not_lt_productionBase
  rw [visit_eq_dispatch, Visitor.dispatch, if_neg htoken, AstTag.ofTag?_eq_some_iff.mpr h]
  rfl

variable {base} {above : List Node} {n : Node} {s : ProgramStats}

theorem isLoop_eq_false {a : AstTag} (h : a.tag = n.tag) (hloop : a ≠ .whileStatement) :
    isLoop n = false := by
  rw [isLoop, ← h]
  cases a <;> first | rfl | contradiction

theorem count_token (h : n.tag < productionBase) : count base s ⟨n, above⟩ = countToken s := by
  have ha : isAssignment n = false := decide_eq_false (ne_tag_of_token h .assignment)
  have hl : isLoop n = false := decide_eq_false (ne_tag_of_token h .whileStatement)
  have ht : isToken n = true := decide_eq_true h
  simp [count, countToken, target?, ha, hl, ht]

theorem count_assignment (h : AstTag.assignment.tag = n.tag) :
    count base s ⟨n, above⟩ = enterAssignment n s := by
  have ha : isAssignment n = true := decide_eq_true h.symm
  have hl : isLoop n = false := isLoop_eq_false h (by decide)
  have ht : isToken n = false := by
    rw [isToken, ← h]
    decide
  simp [count, enterAssignment, target?, ha, hl, ht]

theorem count_loop (h : AstTag.whileStatement.tag = n.tag)
    (hs : s.depth = depthInside base above) :
    enterLoop s = { count base s ⟨n, above⟩ with depth := s.depth + 1 } := by
  have ha : isAssignment n = false := by
    rw [isAssignment, ← h]
    decide
  have hl : isLoop n = true := decide_eq_true h.symm
  have ht : isToken n = false := by
    rw [isToken, ← h]
    decide
  simp [count, enterLoop, target?, PlacedNode.path, depthInside_concat_of_loop base above hl, ha, hl,
    ht, hs]

theorem count_other {a : AstTag} (h : a.tag = n.tag) (hassign : a ≠ .assignment)
    (hloop : a ≠ .whileStatement) : count base s ⟨n, above⟩ = s := by
  have ha : isAssignment n = false := by
    rw [isAssignment, ← h]
    cases a <;> first | rfl | contradiction
  have hl : isLoop n = false := isLoop_eq_false h hloop
  have ht : isToken n = false := by
    rw [isToken, ← h]
    exact decide_eq_false a.not_lt_productionBase
  simp [count, target?, ha, hl, ht]

theorem onMethod_other {a : AstTag} (hassign : a ≠ .assignment) (hloop : a ≠ .whileStatement)
    (walk kids : Walk ProgramStats) : visitor.onMethod a n walk kids = walk := by
  cases a <;> first | rfl | contradiction

/-- The visit of a node that has a method, if the visits of its kids are a run along `vs`. A loop
passes its kids a depth that it takes back behind them. -/
theorem visit_eq_run_kids {a : AstTag} (h : a.tag = n.tag) {vs : List PlacedNode}
    (hkids : ∀ s : ProgramStats, s.depth = depthInside base (above ++ [n]) →
      Walk.each (visitor.visitKids AstTag.ofTag? n.kids) s = run base vs s)
    (hs : s.depth = depthInside base above) :
    visitor.visit AstTag.ofTag? n s = run base vs (count base s ⟨n, above⟩) := by
  rw [visit_routed h]
  by_cases hloop : a = .whileStatement
  · subst hloop
    have hinside : (enterLoop s).depth = depthInside base (above ++ [n]) := by
      rw [depthInside_concat_of_loop base above (decide_eq_true h.symm), ← hs]
      rfl
    -- The kids run one loop deeper, but a run only counts depth by the places it goes along.
    have hrun := hkids (enterLoop s) hinside
    rw [count_loop h hs, run_withDepth] at hrun
    change ((Walk.update enterLoop).andThen _).andThen (Walk.update leaveLoop) s = _
    rw [Walk.andThen_assoc, Walk.update_andThen, Walk.andThen, count_loop h hs, hrun]
    cases hr : run base vs (count base s ⟨n, above⟩) with
    | mk s' stop =>
      cases stop with
      | some tag => rfl
      | none =>
        have hdepth : s'.depth = s.depth := (depth_of_run base vs hr).trans rfl
        have hback : s.depth + 1 - 1 = s'.depth := by rw [UInt64.add_sub_cancel, hdepth]
        exact Prod.ext (ProgramStats.ext rfl rfl rfl rfl rfl hback) rfl
  · have hn : isLoop n = false := isLoop_eq_false h hloop
    rw [depthInside_concat_of_not_loop base above hn] at hkids
    by_cases hassign : a = .assignment
    · subst hassign
      rw [count_assignment h]
      exact hkids (enterAssignment n s) hs
    · rw [onMethod_other hassign hloop, count_other h hassign hloop]
      exact hkids s hs

mutual

/-- A visit of the tree that stands below `above`, begun at that place's depth. -/
theorem visit_eq_run (above : List Node) : ∀ (n : Node) (s : ProgramStats),
    s.depth = depthInside base above →
      visitor.visit AstTag.ofTag? n s = run base (n.places above) s
  | ⟨tag, kids, text, value⟩, s, hs => by
    have hkids := visitKids_eq_run (above ++ [⟨tag, kids, text, value⟩]) kids
    rw [Node.places, run]
    by_cases htoken : tag < productionBase
    · rw [isUnknown_of_token htoken, if_neg Bool.false_ne_true, if_pos htoken, Walk.update_andThen,
        count_token htoken, visit_token htoken]
      rfl
    rw [if_neg htoken]
    by_cases hu : isUnknown ⟨tag, kids, text, value⟩
    · rw [if_pos hu, Walk.update_andThen, visit_unknown hu, ← hs]
      rfl
    · obtain ⟨a, ha⟩ := exists_tag_eq htoken hu
      rw [if_neg hu, Walk.update_andThen]
      exact visit_eq_run_kids ha hkids hs
termination_by structural n => n

theorem visitKids_eq_run (above : List Node) : ∀ (ns : List Node) (s : ProgramStats),
    s.depth = depthInside base above →
      Walk.each (visitor.visitKids AstTag.ofTag? ns) s = run base (Node.placesKids above ns) s
  | [], _, _ => rfl
  | n :: ns, s, hs => by
    have hn := visit_eq_run above n s hs
    have hns := visitKids_eq_run above ns
    rw [Visitor.visitKids, Walk.each_cons, Node.placesKids, run_append, Walk.andThen, Walk.andThen,
      hn]
    cases hr : run base (n.places above) s with
    | mk s' stop =>
      cases stop with
      | some tag => rfl
      | none => exact hns s' ((depth_of_run base _ hr).trans hs)
termination_by structural ns => ns

end

theorem toNat_foldl_max (l : List UInt64) (m : UInt64) :
    (l.foldl max m).toNat = (l.map UInt64.toNat).foldl max m.toNat := by
  induction l generalizing m with
  | nil => rfl
  | cons a l ih =>
    rw [List.foldl_cons, ih, UInt64.toNat_max]
    rfl

theorem max_foldl_max (l : List UInt64) (m : UInt64) : max m (l.foldl max 0) = l.foldl max m := by
  have hnumbers := @List.foldl_assoc Nat max _ (l.map UInt64.toNat) m.toNat 0
  apply UInt64.toNat_inj.mp
  rw [UInt64.toNat_max, toNat_foldl_max, toNat_foldl_max, UInt64.toNat_zero, ← hnumbers, Nat.max_zero]

theorem toNat_add_ofNat {w : UInt64} {k : Nat} (h : w.toNat + k < UInt64.size) :
    (w + .ofNat k).toNat = w.toNat + k := by
  rw [UInt64.toNat_add, UInt64.toNat_ofNat', Nat.add_mod_mod]
  exact Nat.mod_eq_of_lt h

theorem toNat_sum {l : List UInt64} (h : (l.map UInt64.toNat).sum < UInt64.size) :
    l.sum.toNat = (l.map UInt64.toNat).sum := by
  induction l with
  | nil => rfl
  | cons a l ih =>
    rw [List.map_cons, List.sum_cons] at h
    have hl : l.sum.toNat = (l.map UInt64.toNat).sum := ih (by omega)
    rw [List.map_cons, List.sum_cons, List.sum_cons, UInt64.toNat_add, hl]
    exact Nat.mod_eq_of_lt h

/-- What the places `vs` add to `s`, in a visit that began inside of `base` loops. -/
structure Counted (base : UInt64) (vs : List PlacedNode) (s s' : ProgramStats) : Prop where
  assignments_eq : s'.assignments = s.assignments + .ofNat (vs.countP (isAssignment ·.node))
  loops_eq : s'.loops = s.loops + .ofNat (vs.countP (isLoop ·.node))
  tokens_eq : s'.tokens = s.tokens + .ofNat (vs.countP (isToken ·.node))
  assigned_eq : s'.assigned = s.assigned ++ vs.filterMap (target? ·.node)
  maxLoopDepth_eq : s'.maxLoopDepth =
    ((vs.filter (isLoop ·.node)).map fun w => depthInside base w.path).foldl max s.maxLoopDepth

theorem add_ofNat_countP_cons (p : PlacedNode → Bool) (v : PlacedNode) (vs : List PlacedNode)
    (counter : UInt64) :
    counter + .ofNat ((v :: vs).countP p) =
      (counter + if p v then 1 else 0) + .ofNat (vs.countP p) := by
  rw [List.countP_cons, UInt64.ofNat_add, UInt64.add_comm (.ofNat (vs.countP p)),
    ← UInt64.add_assoc]
  cases p v <;> rfl

/-- The same in numbers, for each counter whose numbers fit into words. -/
structure CountedInNumbers (base : UInt64) (vs : List PlacedNode) (s s' : ProgramStats) : Prop where
  assignments_eq : s.assignments.toNat + vs.countP (isAssignment ·.node) < UInt64.size →
    s'.assignments.toNat = s.assignments.toNat + vs.countP (isAssignment ·.node)
  loops_eq : s.loops.toNat + vs.countP (isLoop ·.node) < UInt64.size →
    s'.loops.toNat = s.loops.toNat + vs.countP (isLoop ·.node)
  tokens_eq : s.tokens.toNat + vs.countP (isToken ·.node) < UInt64.size →
    s'.tokens.toNat = s.tokens.toNat + vs.countP (isToken ·.node)
  maxLoopDepth_eq :
    (∀ w ∈ vs, isLoop w.node → base.toNat + w.path.countP isLoop < UInt64.size) →
      s'.maxLoopDepth.toNat =
        ((vs.filter (isLoop ·.node)).map fun w => base.toNat + w.path.countP isLoop).foldl max
          s.maxLoopDepth.toNat

theorem Counted.inNumbers {vs : List PlacedNode} {s s' : ProgramStats} (h : Counted base vs s s') :
    CountedInNumbers base vs s s' := by
  constructor
  case assignments_eq =>
    intro hfits
    rw [h.assignments_eq, toNat_add_ofNat hfits]
  case loops_eq =>
    intro hfits
    rw [h.loops_eq, toNat_add_ofNat hfits]
  case tokens_eq =>
    intro hfits
    rw [h.tokens_eq, toNat_add_ofNat hfits]
  case maxLoopDepth_eq =>
    intro hfits
    rw [h.maxLoopDepth_eq, toNat_foldl_max, List.map_map]
    congr 1
    apply List.map_congr_left
    intro w hw
    rw [List.mem_filter] at hw
    exact toNat_add_ofNat (hfits w hw.1 hw.2)

theorem Counted.cons {v : PlacedNode} {vs : List PlacedNode} {s s' : ProgramStats}
    (h : Counted base vs (count base s v) s') : Counted base (v :: vs) s s' := by
  constructor
  case assignments_eq =>
    rw [add_ofNat_countP_cons]
    exact h.assignments_eq
  case loops_eq =>
    rw [add_ofNat_countP_cons]
    exact h.loops_eq
  case tokens_eq =>
    rw [add_ofNat_countP_cons]
    exact h.tokens_eq
  case assigned_eq =>
    rw [h.assigned_eq, count, List.append_assoc]
    cases htarget : target? v.node <;> simp [htarget]
  case maxLoopDepth_eq =>
    rw [h.maxLoopDepth_eq, count]
    by_cases hloop : isLoop v.node <;> simp [hloop]

/-- A run counts what lies before the first unknown tag. -/
theorem counted_run (vs : List PlacedNode) (s : ProgramStats) :
    Counted base (vs.takeWhile fun v => !isUnknown v.node) s (run base vs s).1 := by
  induction vs generalizing s with
  | nil => constructor <;> simp [run, Walk.skip]
  | cons v vs ih =>
    rw [run, List.takeWhile_cons]
    by_cases hv : isUnknown v.node
    · rw [if_pos hv, hv]
      constructor <;> simp [Walk.update_andThen, Walk.stopAt]
    · rw [if_neg hv, Walk.update_andThen, Bool.eq_false_of_not_eq_true hv]
      exact (ih (count base s v)).cons

theorem stop_of_run (vs : List PlacedNode) (s : ProgramStats) :
    match vs.find? (isUnknown ·.node) with
    | none => (run base vs s).2 = none ∧ (run base vs s).1.depth = s.depth
    | some v => (run base vs s).2 = some v.node.tag ∧
        (run base vs s).1.depth = depthInside base v.above := by
  induction vs generalizing s with
  | nil => exact ⟨rfl, rfl⟩
  | cons v vs ih =>
    rw [run, List.find?_cons]
    by_cases hv : isUnknown v.node
    · rw [if_pos hv, hv]
      exact ⟨rfl, rfl⟩
    · rw [if_neg hv, Bool.eq_false_of_not_eq_true hv]
      exact ih (count base s v)

theorem visit_eq_run_places (t : Node) (s : ProgramStats) :
    visit t s = run s.depth (t.places []) s :=
  visit_eq_run [] t s (depthInside_nil s.depth).symm

theorem counted_visit (t : Node) (s : ProgramStats) :
    Counted s.depth (reached t) s (visit t s).1 := by
  rw [visit_eq_run_places]
  exact counted_run (t.places []) s

theorem stop_of_visit (t : Node) (s : ProgramStats) :
    match offending? t with
    | none => (visit t s).2 = none ∧ (visit t s).1.depth = s.depth
    | some v => (visit t s).2 = some v.node.tag ∧
        (visit t s).1.depth = depthInside s.depth v.above := by
  rw [visit_eq_run_places]
  exact stop_of_run (t.places []) s

/-- From outside of loops, a visit adds what it counts by itself. -/
theorem visit_of_collect {t : Node} (h : (collect t).2 = none) {s : ProgramStats}
    (hs : s.depth = 0) : visit t s =
      ({ assignments := s.assignments + (collect t).1.assignments
         loops := s.loops + (collect t).1.loops
         maxLoopDepth := max s.maxLoopDepth (collect t).1.maxLoopDepth
         tokens := s.tokens + (collect t).1.tokens
         assigned := s.assigned ++ (collect t).1.assigned }, none) := by
  have hknown : offending? t = none := by
    have hstop := stop_of_visit t {}
    cases hv : offending? t with
    | none => rfl
    | some v =>
      rw [hv] at hstop
      exact nomatch h.symm.trans hstop.1
  have hstop := stop_of_visit t s
  rw [hknown] at hstop
  have hown : Counted 0 (reached t) {} (collect t).1 := counted_visit t {}
  have hadded := counted_visit t s
  rw [hs] at hadded
  refine Prod.ext (ProgramStats.ext ?_ ?_ ?_ ?_ ?_ (hstop.2.trans hs)) hstop.1
  · rw [hadded.assignments_eq, hown.assignments_eq, UInt64.zero_add]
  · rw [hadded.loops_eq, hown.loops_eq, UInt64.zero_add]
  · rw [hadded.maxLoopDepth_eq, hown.maxLoopDepth_eq, max_foldl_max]
  · rw [hadded.tokens_eq, hown.tokens_eq, UInt64.zero_add]
  · rw [hadded.assigned_eq, hown.assigned_eq, List.nil_append]

theorem each_visit (trees : List Node) (h : ∀ t ∈ trees, (collect t).2 = none) (s : ProgramStats)
    (hs : s.depth = 0) : Walk.each (trees.map visit) s =
      ({ assignments := s.assignments + (trees.map fun t => (collect t).1.assignments).sum
         loops := s.loops + (trees.map fun t => (collect t).1.loops).sum
         maxLoopDepth := (trees.map fun t => (collect t).1.maxLoopDepth).foldl max s.maxLoopDepth
         tokens := s.tokens + (trees.map fun t => (collect t).1.tokens).sum
         assigned := s.assigned ++ trees.flatMap fun t => (collect t).1.assigned }, none) := by
  induction trees generalizing s with
  | nil =>
    have hsum (counter : UInt64) : counter = counter + ([] : List UInt64).sum :=
      (UInt64.add_zero counter).symm
    exact Prod.ext (ProgramStats.ext (hsum _) (hsum _) rfl (hsum _)
      (List.append_nil s.assigned).symm hs) rfl
  | cons t trees ih =>
    rw [List.forall_mem_cons] at h
    rw [List.map_cons, Walk.each_cons, Walk.andThen, visit_of_collect h.1 hs]
    refine (ih h.2 _ rfl).trans ?_
    simp [UInt64.add_assoc]

/-- The counts of a visit, from any state: those of the nodes that come before the first unknown
tag, with the depth of loops as it was before or, at an unknown tag, as it is there. Programs that
do not fail are counted together as they are counted apart. Counters wrap around like the words that
they are, and hold the numbers themselves as long as those fit. -/
theorem visit_exact :
    (∀ (t : Node) (s : ProgramStats), ∃ s' stop, visit t s = (s', stop) ∧
      (reached t).map (·.node) = t.preorder.takeWhile (!isUnknown ·) ∧
      Counted s.depth (reached t) s s' ∧
      CountedInNumbers s.depth (reached t) s s' ∧
      match offending? t with
      | none => stop = none ∧ s'.depth = s.depth
      | some v => stop = some v.node.tag ∧ s'.depth = s.depth + .ofNat (v.above.countP isLoop) ∧
          (s.depth.toNat + v.above.countP isLoop < UInt64.size →
            s'.depth.toNat = s.depth.toNat + v.above.countP isLoop)) ∧
    ∀ trees : List Node, (∀ t ∈ trees, (collect t).2 = none) →
      ∃ total, Walk.each (trees.map visit) {} = (total, none) ∧
        total =
          { assignments := (trees.map fun t => (collect t).1.assignments).sum
            loops := (trees.map fun t => (collect t).1.loops).sum
            maxLoopDepth := (trees.map fun t => (collect t).1.maxLoopDepth).foldl max 0
            tokens := (trees.map fun t => (collect t).1.tokens).sum
            assigned := trees.flatMap fun t => (collect t).1.assigned } ∧
        (∀ counter ∈ [assignments, loops, tokens],
          (trees.map fun t => (counter (collect t).1).toNat).sum < UInt64.size →
            (counter total).toNat = (trees.map fun t => (counter (collect t).1).toNat).sum) ∧
        total.maxLoopDepth.toNat =
          (trees.map fun t => (collect t).1.maxLoopDepth.toNat).foldl max 0 := by
  constructor
  · intro t s
    have hnodes : (reached t).map (·.node) = t.preorder.takeWhile (!isUnknown ·) := by
      rw [← Node.map_node_places [], List.takeWhile_map]
      rfl
    have hcounted := counted_visit t s
    have hstop := stop_of_visit t s
    refine ⟨(visit t s).1, (visit t s).2, rfl, hnodes, hcounted, hcounted.inNumbers, ?_⟩
    cases hv : offending? t with
    | none =>
      rw [hv] at hstop
      exact hstop
    | some v =>
      rw [hv] at hstop
      refine ⟨hstop.1, hstop.2, fun hfits => ?_⟩
      rw [hstop.2]
      exact toNat_add_ofNat hfits
  · intro trees h
    refine ⟨_, each_visit trees h {} rfl, ?_, ?_, ?_⟩
    · exact ProgramStats.ext (UInt64.zero_add _) (UInt64.zero_add _) rfl (UInt64.zero_add _)
        (List.nil_append _) rfl
    · intro counter hcounter hfits
      have hsum : (counter (Walk.each (trees.map visit) {}).1) =
          (trees.map fun t => counter (collect t).1).sum := by
        rw [each_visit trees h {} rfl]
        simp only [List.mem_cons, List.not_mem_nil, or_false] at hcounter
        obtain rfl | rfl | rfl := hcounter <;> exact UInt64.zero_add _
      rw [each_visit trees h {} rfl] at hsum
      rw [hsum, toNat_sum (by rwa [List.map_map]), List.map_map]
      rfl
    · rw [toNat_foldl_max, List.map_map]
      rfl

def nestedLoops : Node :=
  AstTag.whileStatement.node [AstTag.whileStatement.node [AstTag.assignment.node
    [{ tag := AstTag.variableRef.tag, text := "y" }]]]

/-- The program twice, then a loop around it that fails behind it, and then the program from a state
whose counter of assignments has no room left. -/
theorem visit_exact_nestedLoops :
    Walk.each ([nestedLoops, nestedLoops].map visit) {} =
      ({ assignments := 2, loops := 4, maxLoopDepth := 2, assigned := ["y", "y"] }, none) ∧
    (∃ s', visit (AstTag.whileStatement.node [nestedLoops, { tag := 20000 }]) {} =
        (s', some 20000) ∧ s'.loops.toNat = 3 ∧ s'.maxLoopDepth.toNat = 3 ∧ s'.depth = 1) ∧
    ∃ s', visit nestedLoops { assignments := 18446744073709551615 } = (s', none) ∧
      s'.assignments = 0 ∧ s'.loops = 2 := by
  have hknown : ∀ t ∈ [nestedLoops, nestedLoops], (collect t).2 = none := by
    intro t ht
    obtain rfl : t = nestedLoops := by simpa using ht
    rfl
  refine ⟨?_, ?_, ?_⟩
  · obtain ⟨total, hvisits, rfl, -, -⟩ := visit_exact.2 [nestedLoops, nestedLoops] hknown
    exact hvisits
  · obtain ⟨s', stop, hvisit, -, -, hnumbers, hstop⟩ :=
      visit_exact.1 (AstTag.whileStatement.node [nestedLoops, { tag := 20000 }]) {}
    obtain ⟨rfl, hdepth, -⟩ : stop = some 20000 ∧ s'.depth = 1 ∧ _ := hstop
    exact ⟨s', hvisit, hnumbers.loops_eq (by decide), hnumbers.maxLoopDepth_eq (by decide), hdepth⟩
  · obtain ⟨s', stop, hvisit, -, hcounted, -, hstop⟩ :=
      visit_exact.1 nestedLoops { assignments := 18446744073709551615 }
    obtain ⟨rfl, -⟩ : stop = none ∧ _ := hstop
    exact ⟨s', hvisit, hcounted.assignments_eq, hcounted.loops_eq⟩

end ProgramStats

end TagVocab.Statement

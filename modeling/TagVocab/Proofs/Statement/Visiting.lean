import TagVocab.Proofs.Tree.Preorder
import TagVocab.Statement.Vocabulary

/-!
# Visits of statement trees

Which nodes of a tree of the statement language a visit comes to, and the node at which it fails.
-/

namespace TagVocab.Statement

theorem AstTag.mem_all (a : AstTag) : a ∈ AstTag.all := by
  cases a <;> decide

/-- A node that is no token, and whose tag is none of the language's. -/
def isUnknown (n : Node) : Bool :=
  decide (1000 ≤ n.tag.toNat ∧ ∀ a ∈ AstTag.all, a.tag ≠ n.tag)

theorem isUnknown_iff (n : Node) :
    isUnknown n ↔ 1000 ≤ n.tag.toNat ∧ ∀ a : AstTag, a.tag ≠ n.tag := by
  simp [isUnknown, AstTag.mem_all]

theorem unrouted_ofTag? : Visitor.unrouted AstTag.ofTag? = isUnknown := by
  funext n
  have htag : n.tag < productionBase ↔ n.tag.toNat < 1000 := UInt32.lt_iff_toNat_lt
  rw [Bool.eq_iff_iff, isUnknown_iff]
  simp [Visitor.unrouted, AstTag.ofTag?, htag, AstTag.mem_all]

/-- The nodes of a tree in preorder, up to the first one whose tag is unknown. -/
def listed (t : Node) : List Node :=
  cutAfter isUnknown t.preorder

structure Trace where
  visited : List Tag := []
  tokens : List Node := []

/-- Records the tag of each node before the node is routed, and each token. -/
def tracer : Visitor AstTag Trace where
  onVisit n routed :=
    (Walk.update fun trace => { trace with visited := trace.visited ++ [n.tag] }).andThen routed
  onToken n := Walk.update fun trace => { trace with tokens := trace.tokens ++ [n] }

theorem foldl_trace (ns : List Node) (trace : Trace) :
    ns.foldl (Visitor.observe
        (fun n trace => { trace with visited := trace.visited ++ [n.tag] })
        (fun n trace => { trace with tokens := trace.tokens ++ [n] })) trace =
      ⟨trace.visited ++ ns.map (·.tag),
        trace.tokens ++ ns.filter fun n => n.tag < productionBase⟩ := by
  induction ns generalizing trace with
  | nil => simp
  | cons n ns ih =>
    rw [List.foldl_cons, ih, Visitor.observe]
    by_cases h : n.tag < productionBase <;> simp [h]

theorem visit_tracer_eq (t : Node) :
    tracer.visit AstTag.ofTag? t {} =
      (⟨(listed t).map (·.tag), (listed t).filter fun n => n.tag < productionBase⟩,
        (t.preorder.find? isUnknown).map (·.tag)) := by
  have h := Visitor.visit_observer_eq AstTag.ofTag?
    (fun n trace => { trace with visited := trace.visited ++ [n.tag] })
    (fun n trace => { trace with tokens := trace.tokens ++ [n] }) t ({} : Trace)
  rw [foldl_trace, unrouted_ofTag?] at h
  exact h

/-- What a visit that keeps to preorder records. It fails exactly if the list of the nodes was cut,
with a message about the node at the cut, and so does the visit of any visitor without hooks. -/
theorem visit_listed (t : Node) : ∃ trace stop, tracer.visit AstTag.ofTag? t {} = (trace, stop) ∧
    trace.visited = (listed t).map (·.tag) ∧
    trace.tokens = (listed t).filter (fun n => n.tag.toNat < 1000) ∧
    (stop.isSome ↔ ∃ n ∈ t.preorder, 1000 ≤ n.tag.toNat ∧ ∀ a : AstTag, a.tag ≠ n.tag) ∧
    (∀ tag, stop = some tag → ∃ n, (listed t).getLast? = some n ∧
      unknownTagMessage tag = "Unknown AST node tag " ++ toString n.tag.toNat) ∧
    ∀ (σ : Type) (s : σ), ({} : Visitor AstTag σ).visit AstTag.ofTag? t s = (s, stop) := by
  refine ⟨_, _, visit_tracer_eq t, rfl, ?_, ?_, ?_, ?_⟩
  · exact List.filter_congr fun n _ => decide_eq_decide.mpr UInt32.lt_iff_toNat_lt
  · simp [isUnknown_iff]
  · intro tag h
    obtain ⟨n, hn, rfl⟩ := Option.map_eq_some_iff.mp h
    exact ⟨n, getLast?_cutAfter hn, rfl⟩
  · intro σ s
    rw [Visitor.visit_default, unrouted_ofTag?]

end TagVocab.Statement

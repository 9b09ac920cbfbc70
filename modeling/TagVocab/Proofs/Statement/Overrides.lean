import TagVocab.Proofs.Statement.Stats
import TagVocab.Proofs.Tree.Calls

/-!
# Overriding the methods of statement trees

What a visitor of the statement language does whose methods prune their nodes, walk them once or
twice, or go on to the kids on their own, in any mixture. Each override acts where its tag is, and on
nothing but what is below.
-/

namespace TagVocab.Statement

open Visitor

variable {choice : AstTag → WalkChoice} {t : Node}

/-- The hook that a node belongs to: the method of its tag, or the one for tokens. -/
def Owns : Hook AstTag → Node → Prop
  | .method a, n => a.tag = n.tag
  | .token, n => n.tag.toNat < 1000
  | .visit, _ => False
  | .children, _ => False

/-- The tags of the tree, but for those below tokens, are tokens or tags of the language. -/
def Known (t : Node) : Prop :=
  ∀ n ∈ t.preorder, n.tag.toNat < 1000 ∨ ∃ a : AstTag, a.tag = n.tag

theorem Known.routed (h : Known t) :
    ∀ n ∈ t.preorder, n.tag < productionBase ∨ ∃ a, AstTag.ofTag? n.tag = some a := by
  intro n hn
  refine (h n hn).imp (UInt32.lt_iff_toNat_lt.mpr ·) fun ⟨a, ha⟩ => ?_
  exact ⟨a, AstTag.ofTag?_eq_some_iff.mpr ha⟩

theorem Known.paired (h : Known t) (choice : AstTag → WalkChoice) :
    Paired Owns (calls choice AstTag.ofTag? t) := by
  refine paired_calls fun n hn => (h n hn).imp (fun htoken => ?_) fun ⟨a, ha⟩ => ?_
  · exact ⟨UInt32.lt_iff_toNat_lt.mpr htoken, htoken⟩
  · exact ⟨ha ▸ a.not_lt_productionBase, a, AstTag.ofTag?_eq_some_iff.mpr ha, ha⟩

/-- A visit that notes every call on its way goes through the calls of the tree, each on the node at
its position. A node is visited once for each way to it that the methods above leave open; each of
its visits is followed at once by the one call of its own method; and that calls the hook for
children as often as it walks the node. -/
theorem visit_overrides (choice : AstTag → WalkChoice) (t : Node) (h : Known t) :
    (∀ (σ : Type) (note : Hook AstTag → Node → σ → σ) (s : σ),
      (noting choice note).visit AstTag.ofTag? t s =
        ((calls choice AstTag.ofTag? t).foldl (fun s c => note c.hook c.node s) s, none)) ∧
    (recorder choice false).visit AstTag.ofTag? t #[] =
      (((calls choice AstTag.ofTag? t).map Call.event).toArray, none) ∧
    (∀ c ∈ calls choice AstTag.ofTag? t, t.at? c.position = some c.node) ∧
    Paired Owns (calls choice AstTag.ofTag? t) ∧
    ∀ p n, t.at? p = some n →
      countAt .visit p (calls choice AstTag.ofTag? t) = visitsAt choice AstTag.ofTag? t p ∧
      ∀ a : AstTag, a.tag = n.tag → countAt .children p (calls choice AstTag.ofTag? t) =
        visitsAt choice AstTag.ofTag? t p * (choice a).childrenCalls := by
  refine ⟨fun σ note s => ?_, ?_, at?_of_mem_calls t, h.paired choice, fun p n hat => ⟨?_, ?_⟩⟩
  · rw [visit_noting h.routed]
    rfl
  · rw [recorder_eq_noting, visit_noting h.routed, noteAll, Walk.update, List.foldl_push_eq_append,
      Array.empty_append]
    rfl
  · rw [countAt_calls hat, countAt_visit_calls, Nat.mul_one]
  · intro a ha
    have htoken : ¬ n.tag < productionBase := ha ▸ a.not_lt_productionBase
    rw [countAt_calls hat, countAt_children_calls htoken (AstTag.ofTag?_eq_some_iff.mpr ha)]

def overridden : Node :=
  AstTag.whileStatement.node [AstTag.whileStatement.node [AstTag.assignment.node
    [AstTag.variableRef.node [], { tag := 5, kids := [AstTag.intLiteral.node []] }]],
    AstTag.add.node [AstTag.intLiteral.node []]]

def mixedChoice : AstTag → WalkChoice
  | .whileStatement => .twice
  | .assignment => .kidsOnly
  | .add => .prune
  | _ => .once

theorem visit_overrides_mixedChoice :
    Known overridden ∧ ∃ cs : List (Call AstTag),
      (recorder mixedChoice false).visit AstTag.ofTag? overridden #[] =
        ((cs.map Call.event).toArray, none) ∧
      Paired Owns cs ∧
      countAt .visit [0] cs = 2 ∧ countAt .children [0] cs = 4 ∧
      countAt .visit [0, 0] cs = 4 ∧ countAt .children [0, 0] cs = 0 ∧
      countAt .visit [0, 0, 1] cs = 4 ∧ countAt .visit [0, 0, 1, 0] cs = 0 ∧
      countAt .visit [1] cs = 2 ∧ countAt .visit [1, 0] cs = 0 := by
  have hlisted : ∀ n ∈ overridden.preorder,
      n.tag.toNat < 1000 ∨ ∃ a ∈ AstTag.all, a.tag = n.tag := by decide
  have hknown : Known overridden :=
    fun n hn => (hlisted n hn).imp_right fun ⟨a, _, ha⟩ => ⟨a, ha⟩
  obtain ⟨-, hrecord, -, hpaired, hcounts⟩ := visit_overrides mixedChoice overridden hknown
  refine ⟨hknown, _, hrecord, hpaired, (hcounts [0] _ rfl).1, ?_, (hcounts [0, 0] _ rfl).1, ?_,
    (hcounts [0, 0, 1] _ rfl).1, (hcounts [0, 0, 1, 0] _ rfl).1, (hcounts [1] _ rfl).1,
    (hcounts [1, 0] _ rfl).1⟩
  · exact (hcounts [0] _ rfl).2 .whileStatement rfl
  · exact (hcounts [0, 0] _ rfl).2 .assignment rfl

end TagVocab.Statement

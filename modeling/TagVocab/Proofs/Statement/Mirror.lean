import TagVocab.Proofs.Tree.Mirror
import TagVocab.Statement.Vocabulary

/-!
# Statement trees backwards

A recording visitor of the statement language whose hook for children goes backwards records what the
same visitor, going forwards, records on the mirror image. This takes methods that do not go past the
hook, to the kids on their own.
-/

namespace TagVocab.Statement

open Visitor

/-- To go through kids backwards and to visit the mirror image record the same events and end at the
same tag, whatever the tags of the tree are. The events are those of the calls on the mirror image,
up to the visit of the first node whose tag is unknown. -/
theorem visit_mirror (choice : AstTag → WalkChoice) (h : ∀ a, choice a ≠ .kidsOnly) (t : Node)
    (events : Array (VisitEvent AstTag)) :
    (recorder choice true).visit AstTag.ofTag? t events =
      (recorder choice false).visit AstTag.ofTag? t.mirror events ∧
    (recorder choice true).visit AstTag.ofTag? t.mirror events =
      (recorder choice false).visit AstTag.ofTag? t events ∧
    (recorder choice false).visit AstTag.ofTag? t.mirror events =
      (events ++ ((cutAfter (Call.ends AstTag.ofTag?)
          (calls choice AstTag.ofTag? t.mirror)).map Call.event).toArray,
        ((calls choice AstTag.ofTag? t.mirror).find? (Call.ends AstTag.ofTag?)).map
          (·.node.tag)) := by
  have hbackwards : ∀ n : Node, (recorder choice true).visit AstTag.ofTag? n =
      (recorder choice false).visit AstTag.ofTag? n.mirror := by
    intro n
    rw [recorder_eq_backwards]
    exact (unsided_recorder h).visit_backwards n
  refine ⟨?_, ?_, visit_recorder t.mirror events⟩
  · rw [hbackwards]
  · rw [hbackwards, Node.mirror_mirror]

/-- A loop around a node of an unknown tag, an assignment with a token, and a sum. -/
def lopsided : Node :=
  AstTag.whileStatement.node [{ tag := 7000 }, AstTag.assignment.node
    [AstTag.variableRef.node [], { tag := 5, kids := [AstTag.unit.node []], text := "x" }],
    AstTag.add.node [AstTag.intLiteral.node []]]

def doublingChoice : AstTag → WalkChoice
  | .assignment => .twice
  | .add => .prune
  | _ => .once

theorem visit_mirror_lopsided : (∀ a, doublingChoice a ≠ .kidsOnly) ∧ ∃ events,
    (recorder doublingChoice true).visit AstTag.ofTag? lopsided #[] = (events, some 7000) ∧
    (recorder doublingChoice false).visit AstTag.ofTag? lopsided.mirror #[] =
      (events, some 7000) ∧ events.size = 20 := by
  have hchoice : ∀ a, doublingChoice a ≠ .kidsOnly := by
    intro a
    cases a <;> decide
  obtain ⟨hsame, -, hevents⟩ := visit_mirror doublingChoice hchoice lopsided #[]
  exact ⟨hchoice, _, hsame.trans hevents, hevents, rfl⟩

end TagVocab.Statement

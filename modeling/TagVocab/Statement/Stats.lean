import TagVocab.Statement.Vocabulary
import TagVocab.Tree.Traversal

/-!
# Program statistics

Counts of assignments, loops and tokens, the deepest nesting of loops and the assigned names, all in
one walk over a program. The counters are machine words and wrap around.
-/

namespace TagVocab.Statement

structure ProgramStats where
  assignments : UInt64 := 0
  loops : UInt64 := 0
  maxLoopDepth : UInt64 := 0
  tokens : UInt64 := 0
  /-- The targets of assignments in source order, repeats included. -/
  assigned : List String := []
  depth : UInt64 := 0
deriving DecidableEq

namespace ProgramStats

/-- The target is the text of the first kid. -/
def enterAssignment (n : Node) (s : ProgramStats) : ProgramStats :=
  { s with
    assignments := s.assignments + 1
    assigned := s.assigned ++ ((n.kid? 0).bind Node.text?).toList }

def enterLoop (s : ProgramStats) : ProgramStats :=
  { s with
    loops := s.loops + 1
    depth := s.depth + 1
    maxLoopDepth := max s.maxLoopDepth (s.depth + 1) }

def leaveLoop (s : ProgramStats) : ProgramStats :=
  { s with depth := s.depth - 1 }

def countToken (s : ProgramStats) : ProgramStats :=
  { s with tokens := s.tokens + 1 }

/-- Overrides the methods of assignments and loops, and the hook for tokens. -/
def visitor : Visitor AstTag ProgramStats where
  onMethod k n walk _ :=
    match k with
    | .assignment => (Walk.update (enterAssignment n)).andThen walk
    | .whileStatement => ((Walk.update enterLoop).andThen walk).andThen (Walk.update leaveLoop)
    | _ => walk
  onToken _ := Walk.update countToken

/-- Counts a program on top of what was counted before. -/
def visit (program : Node) : Walk ProgramStats :=
  visitor.visit AstTag.ofTag? program

def collect (program : Node) : ProgramStats × Option Tag :=
  visit program {}

end ProgramStats

end TagVocab.Statement

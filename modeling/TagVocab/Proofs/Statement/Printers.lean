import TagVocab.Proofs.Document.Reading
import TagVocab.Proofs.Statement.Stats
import TagVocab.Proofs.Tree.Outline

/-!
# The printers of the statement language

Two printers that differ in the names of tags alone draw a tree line by line with the same rails and
the same texts. Up to the first node with two names the outlines agree, and if these names differ at
a place that both have, nothing that follows can make up for it.
-/

namespace TagVocab

namespace Document

variable {cs ds : List Char}

theorem clash_self (cs : List Char) : clash cs cs = false := by
  induction cs with
  | nil => rfl
  | cons c cs ih => simpa [clash] using ih

theorem ne_of_clash (h : clash cs ds) : cs ≠ ds := by
  rintro rfl
  exact absurd h (by simp [clash_self])

theorem clash_append (h : clash cs ds) (as bs : List Char) : clash (cs ++ as) (ds ++ bs) := by
  induction cs generalizing ds with
  | nil => cases h
  | cons c cs ih =>
    cases ds with
    | nil => cases h
    | cons d ds =>
      simp only [List.cons_append, clash, Bool.or_eq_true] at h ⊢
      exact h.imp_right ih

theorem clash_append_left (front cs ds : List Char) :
    clash (front ++ cs) (front ++ ds) = clash cs ds := by
  induction front with
  | nil => rfl
  | cons c front ih => simpa [clash] using ih

/-- Texts that agree or clash piece by piece are equal only if all of their pieces are. -/
theorem join_map_eq_iff {α : Type} {f g : α → String} {xs : List α}
    (h : ∀ x ∈ xs, f x = g x ∨ clash (f x).toList (g x).toList) :
    String.join (xs.map f) = String.join (xs.map g) ↔ ∀ x ∈ xs, f x = g x := by
  induction xs with
  | nil => simp
  | cons x xs ih =>
    obtain ⟨hx, hxs⟩ := List.forall_mem_cons.mp h
    rw [List.map_cons, List.map_cons, String.join_cons, String.join_cons, List.forall_mem_cons]
    rcases hx with hx | hx
    · rw [hx, String.append_right_inj, ih hxs]
      exact (and_iff_right rfl).symm
    · have hne : f x ≠ g x := fun heq => ne_of_clash hx (congrArg String.toList heq)
      have hjoin : f x ++ String.join (xs.map f) ≠ g x ++ String.join (xs.map g) := by
        intro heq
        have htexts := congrArg String.toList heq
        rw [String.toList_append, String.toList_append] at htexts
        exact ne_of_clash (clash_append hx _ _) htexts
      exact iff_of_false hjoin fun hall => hne hall.1

end Document

namespace TreePrinter

open Document

variable {p q : TreePrinter}

theorem line_eq_or_clash (htext : p.text? = q.text?) (row : OutlineRow)
    (h : p.name row.node.tag = q.name row.node.tag ∨
      clash (p.name row.node.tag).toList (q.name row.node.tag).toList) :
    p.line row ++ "\n" = q.line row ++ "\n" ∨
      clash (p.line row ++ "\n").toList (q.line row ++ "\n").toList := by
  rcases h with h | h
  · left
    rw [line, line, label, label, h, htext]
  · right
    simp only [line, label, htext, String.toList_append, List.append_assoc]
    rw [clash_append_left]
    exact clash_append h _ _

theorem name_eq_of_line_eq (htext : p.text? = q.text?) {row : OutlineRow}
    (h : p.line row ++ "\n" = q.line row ++ "\n") : p.name row.node.tag = q.name row.node.tag := by
  rw [line, line, label, label, htext] at h
  simpa using h

/-- Two outlines of a tree are equal exactly if all of its nodes have equal names in both. -/
theorem print_eq_print_iff (htext : p.text? = q.text?)
    (hname : ∀ tag, p.name tag = q.name tag ∨ clash (p.name tag).toList (q.name tag).toList)
    (t : Node) : p.print t = q.print t ↔ ∀ n ∈ t.nodes, p.name n.tag = q.name n.tag := by
  have hlines : (∀ row ∈ t.rows [], p.line row ++ "\n" = q.line row ++ "\n") ↔
      ∀ row ∈ t.rows [], p.name row.node.tag = q.name row.node.tag := by
    refine forall₂_congr fun row _ => ⟨name_eq_of_line_eq htext, fun h => ?_⟩
    rw [line, line, label, label, h, htext]
  rw [print_eq, print_eq, lines, lines, join_map_eq_iff fun row _ => line_eq_or_clash htext row (hname _), hlines,
    ← t.map_node_rows [], List.forall_mem_map]

end TreePrinter

namespace Statement

open Document

theorem name_parseTreePrinter (a : AstTag) : parseTreePrinter.name a.tag = unknownTagName := by
  cases a <;> rfl

theorem name_astPrinter (a : AstTag) : astPrinter.name a.tag = a.name := by
  cases a <;> rfl

theorem name_astPrinter_of_ne {tag : Tag} (h : ∀ a : AstTag, tag ≠ a.tag) :
    astPrinter.name tag = parseTreePrinter.name tag := by
  have hnone : AstTag.ofTag? tag = none := by
    cases htag : AstTag.ofTag? tag with
    | none => rfl
    | some a => exact absurd (AstTag.ofTag?_eq_some_iff.mp htag).symm (h a)
  have hlookup : astTagName? tag = symbols.name? tag := by
    rw [astTagName?, hnone]
  cases hsymbol : symbols.name? tag <;> simp [astPrinter, parseTreePrinter, hlookup, hsymbol]

theorem clash_name (a : AstTag) : clash a.name.toList unknownTagName.toList := by
  cases a <;> rfl

theorem name_eq_or_clash (tag : Tag) : astPrinter.name tag = parseTreePrinter.name tag ∨
    clash (astPrinter.name tag).toList (parseTreePrinter.name tag).toList := by
  by_cases h : ∀ a : AstTag, tag ≠ a.tag
  · exact Or.inl (name_astPrinter_of_ne h)
  · obtain ⟨a, ha⟩ := not_forall_not.mp h
    rw [ha, name_astPrinter, name_parseTreePrinter]
    exact Or.inr (clash_name a)

theorem name_eq_iff (tag : Tag) :
    astPrinter.name tag = parseTreePrinter.name tag ↔ ∀ a : AstTag, tag ≠ a.tag := by
  refine ⟨?_, name_astPrinter_of_ne⟩
  rintro h a rfl
  rw [name_astPrinter, name_parseTreePrinter] at h
  exact ne_of_clash (clash_name a) (congrArg String.toList h)

/-- A tree has one outline with both printers exactly if none of its nodes has a tag of the
language's own. -/
theorem print_ast_eq_print_parse_iff (t : Node) :
    astPrinter.print t = parseTreePrinter.print t ↔ ∀ n ∈ t.nodes, ∀ a : AstTag, n.tag ≠ a.tag := by
  have htext : astPrinter.text? = parseTreePrinter.text? := rfl
  rw [TreePrinter.print_eq_print_iff htext name_eq_or_clash t]
  exact forall₂_congr fun n _ => name_eq_iff n.tag

end Statement

end TagVocab

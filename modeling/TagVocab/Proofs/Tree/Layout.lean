import Mathlib.Data.List.Infix
import TagVocab.Proofs.Tree.Outline
import TagVocab.Proofs.Tree.Positions

/-!
# The layout of an outline

An outline in terms of positions: its lines are those of all positions in order, and the rails of a
line are read off the way from the root to the position. The lines of a subtree stand together, and
they depend on nothing but the subtree and its own rails.
-/

namespace TagVocab

namespace Node

variable {t n kid : Node} {i j : Nat} {pos q : Position} {ns : List Node} {e : Position × Node}

mutual

def positioned : Node → List (Position × Node)
  | ⟨tag, kids, text, value⟩ => ([], ⟨tag, kids, text, value⟩) :: positionedKids 0 kids
termination_by structural n => n

/-- All nodes of kids, of which the first one is the kid `i`, with their positions below the
parent. -/
def positionedKids (i : Nat) : List Node → List (Position × Node)
  | [] => []
  | n :: ns => (positioned n).map (Prod.map (i :: ·) id) ++ positionedKids (i + 1) ns
termination_by structural ns => ns

end

def siblingFollows (t : Node) (pos : Position) : Bool :=
  pos.getLast?.any fun i => (t.at? (pos.dropLast ++ [i + 1])).isSome

/-- For each position on the way to `pos`, without the root, whether a sibling follows. -/
def railsTo (t : Node) (pos : Position) : List Bool :=
  pos.inits.tail.map t.siblingFollows

theorem positioned_eq (t : Node) : t.positioned = ([], t) :: positionedKids 0 t.kids := by
  obtain ⟨tag, kids, text, value⟩ := t
  rw [positioned]

/-! ### The positions of a tree -/

theorem at?_append (t : Node) (pos q : Position) :
    t.at? (pos ++ q) = (t.at? pos).bind (·.at? q) := by
  induction pos generalizing t with
  | nil => rfl
  | cons i pos ih =>
    rw [List.cons_append, at?, at?, Option.bind_assoc]
    exact congrArg _ (funext fun kid => ih kid)

theorem mem_positionedKids_iff : e ∈ positionedKids i ns ↔
    ∃ j kid, ns[j]? = some kid ∧ ∃ d ∈ kid.positioned, e = ((i + j) :: d.1, d.2) := by
  induction ns generalizing i with
  | nil => simp [positionedKids]
  | cons n ns ih =>
    rw [positionedKids, List.mem_append, List.mem_map, ih]
    constructor
    · rintro (⟨d, hd, rfl⟩ | ⟨j, kid, hkid, d, hd, rfl⟩)
      · exact ⟨0, n, rfl, d, hd, rfl⟩
      · exact ⟨j + 1, kid, hkid, d, hd, by rw [Nat.add_assoc, Nat.add_comm 1]⟩
    · rintro ⟨j, kid, hkid, d, hd, rfl⟩
      cases j with
      | zero =>
        obtain rfl : n = kid := Option.some.inj hkid
        exact Or.inl ⟨d, hd, rfl⟩
      | succ j => exact Or.inr ⟨j, kid, hkid, d, hd, by rw [Nat.add_assoc, Nat.add_comm 1]⟩

theorem mem_positioned_iff (t : Node) : ∀ pos n, (pos, n) ∈ t.positioned ↔ t.at? pos = some n := by
  induction t using Node.of_kids with
  | node t ih =>
    intro pos n
    rw [positioned_eq, List.mem_cons, mem_positionedKids_iff]
    cases pos with
    | nil => simp [at?, eq_comm]
    | cons i pos =>
      rw [at?_cons_eq_some_iff]
      constructor
      · rintro (h | ⟨j, kid, hkid, ⟨q, m⟩, hd, h⟩)
        · cases h
        · obtain ⟨⟨rfl, rfl⟩, rfl⟩ : (i = 0 + j ∧ pos = q) ∧ n = m := by simpa using h
          rw [Nat.zero_add]
          exact ⟨kid, hkid, (ih kid (List.mem_of_getElem? hkid) pos n).mp hd⟩
      · rintro ⟨kid, hkid, hpos⟩
        refine Or.inr ⟨i, kid, hkid, (pos, n), ?_, by rw [Nat.zero_add]⟩
        exact (ih kid (List.mem_of_getElem? hkid) pos n).mpr hpos

theorem pairwise_positionedKids
    (h : ∀ kid ∈ ns, (kid.positioned.map Prod.fst).Pairwise (· < ·)) :
    ((positionedKids i ns).map Prod.fst).Pairwise (· < ·) := by
  induction ns generalizing i with
  | nil => exact List.Pairwise.nil
  | cons n ns ih =>
    obtain ⟨hn, hns⟩ := List.forall_mem_cons.mp h
    have hfirst : ((n.positioned.map (Prod.map (i :: ·) id)).map Prod.fst).Pairwise (· < ·) := by
      rw [List.map_map, List.pairwise_map]
      rw [List.pairwise_map] at hn
      exact hn.imp fun hlt => List.cons_lt_cons_self.mpr hlt
    rw [positionedKids, List.map_append, List.pairwise_append]
    refine ⟨hfirst, ih hns, ?_⟩
    -- Every position below a kid starts with a smaller number than those below later kids.
    intro pos hpos q hq
    simp only [List.mem_map] at hpos hq
    obtain ⟨-, ⟨d, -, rfl⟩, rfl⟩ := hpos
    obtain ⟨e, he, rfl⟩ := hq
    obtain ⟨j, kid, -, e, -, rfl⟩ := mem_positionedKids_iff.mp he
    exact List.Lex.rel (by omega)

/-- The positions of a tree are listed in order, which is that of numbers, the first one first. -/
theorem pairwise_positioned (t : Node) : (t.positioned.map Prod.fst).Pairwise (· < ·) := by
  induction t using Node.of_kids with
  | node t ih =>
    rw [positioned_eq, List.map_cons, List.pairwise_cons]
    refine ⟨?_, pairwise_positionedKids ih⟩
    intro pos hpos
    obtain ⟨e, he, rfl⟩ := List.mem_map.mp hpos
    obtain ⟨j, kid, -, d, -, rfl⟩ := mem_positionedKids_iff.mp he
    exact List.nil_lt_cons _ _

/-! ### Rails along the way to a position -/

theorem ne_nil_of_mem_inits_tail (h : q ∈ pos.inits.tail) : q ≠ [] := by
  cases pos with
  | nil => cases h
  | cons i pos =>
    rw [List.inits_cons, List.tail_cons] at h
    obtain ⟨front, -, rfl⟩ := List.mem_map.mp h
    exact List.cons_ne_nil i front

theorem railsTo_eq_nil_iff : t.railsTo pos = [] ↔ pos = [] := by
  rw [railsTo, List.map_eq_nil_iff, ← List.length_eq_zero_iff, List.length_tail, List.length_inits,
    Nat.add_sub_cancel, List.length_eq_zero_iff]

theorem siblingFollows_concat (t : Node) (pos : Position) (i : Nat) :
    t.siblingFollows (pos ++ [i]) = (t.at? (pos ++ [i + 1])).isSome := by
  simp [siblingFollows]

theorem siblingFollows_append (h : t.at? pos = some n) (hq : q ≠ []) :
    t.siblingFollows (pos ++ q) = n.siblingFollows q := by
  obtain ⟨front, last, rfl⟩ : ∃ front last, q = front ++ [last] :=
    ⟨_, _, (List.dropLast_concat_getLast hq).symm⟩
  rw [← List.append_assoc, siblingFollows_concat, siblingFollows_concat, List.append_assoc,
    at?_append, h, Option.bind_some]

/-- The rails of a node in a subtree are those of the subtree, and behind them its own in there. -/
theorem railsTo_append (h : t.at? pos = some n) (q : Position) :
    t.railsTo (pos ++ q) = t.railsTo pos ++ n.railsTo q := by
  have hbelow : (q.inits.tail.map (pos ++ ·)).map t.siblingFollows = n.railsTo q := by
    rw [List.map_map]
    exact List.map_congr_left fun r hr => siblingFollows_append h (ne_nil_of_mem_inits_tail hr)
  have hne : pos.inits ≠ [] := by
    rw [← List.length_pos_iff, List.length_inits]
    exact Nat.succ_pos _
  rw [railsTo, List.inits_append, List.tail_append_of_ne_nil hne, List.map_append, hbelow]
  rfl

theorem railsTo_cons (h : t.kids[i]? = some kid) (pos : Position) :
    t.railsTo (i :: pos) = t.kids[i + 1]?.isSome :: kid.railsTo pos := by
  have hkid : t.at? [i] = some kid := by
    rw [at?, h]
    rfl
  have hrail : t.railsTo [i] = [t.kids[i + 1]?.isSome] := by
    simp [railsTo, siblingFollows, at?]
  have hrails := railsTo_append hkid pos
  rwa [hrail] at hrails

/-! ### Rows at their positions -/

theorem rowsOfKids_eq {earlier : List Node} {rails : List Bool} (hkids : t.kids = earlier ++ ns)
    (ih : ∀ kid ∈ ns, ∀ rails,
      kid.rows rails = kid.positioned.map fun e => ⟨rails ++ kid.railsTo e.1, e.2⟩) :
    rowsOfKids rails ns =
      (positionedKids earlier.length ns).map fun e => ⟨rails ++ t.railsTo e.1, e.2⟩ := by
  induction ns generalizing earlier with
  | nil => rfl
  | cons n ns ihkids =>
    obtain ⟨hn, hns⟩ := List.forall_mem_cons.mp ih
    have hkid : t.kids[earlier.length]? = some n := by simp [hkids]
    have hsibling : t.kids[earlier.length + 1]?.isSome = !ns.isEmpty := by
      rw [hkids, List.getElem?_append_right (Nat.le_add_right _ 1), Nat.add_sub_cancel_left]
      cases ns <;> rfl
    have hfirst : n.rows (rails ++ [!ns.isEmpty]) =
        (n.positioned.map (Prod.map (earlier.length :: ·) id)).map
          fun e => ⟨rails ++ t.railsTo e.1, e.2⟩ := by
      rw [hn, List.map_map]
      refine List.map_congr_left fun e _ => ?_
      simp only [Function.comp_apply, Prod.map_fst, Prod.map_snd, id_eq, railsTo_cons hkid,
        hsibling, List.append_assoc, List.singleton_append]
    have hrest := ihkids (hkids.trans (List.append_cons earlier n ns)) hns
    rw [List.length_append, List.length_singleton] at hrest
    rw [rowsOfKids, positionedKids, List.map_append, hfirst, hrest]

/-- The rails of a row are read off its position. -/
theorem rows_eq (t : Node) : ∀ rails,
    t.rows rails = t.positioned.map fun e => ⟨rails ++ t.railsTo e.1, e.2⟩ := by
  induction t using Node.of_kids with
  | node t ih =>
    intro rails
    have hrows : t.rows rails = ⟨rails, t⟩ :: rowsOfKids rails t.kids := by
      cases t
      rfl
    have hroot : t.railsTo [] = [] := rfl
    have hkids := @rowsOfKids_eq t t.kids [] rails (List.nil_append t.kids).symm ih
    rw [hrows, positioned_eq, List.map_cons, hroot, List.append_nil, hkids]
    rfl

/-! ### Subtrees -/

theorem exists_positionedKids_of_kid (h : ns[j]? = some kid) : ∃ earlier later,
    positionedKids i ns =
      earlier ++ kid.positioned.map (Prod.map ((i + j) :: ·) id) ++ later := by
  induction ns generalizing i j with
  | nil => cases h
  | cons n ns ih =>
    cases j with
    | zero =>
      obtain rfl : n = kid := Option.some.inj h
      exact ⟨[], positionedKids (i + 1) ns, rfl⟩
    | succ j =>
      obtain ⟨earlier, later, hns⟩ := @ih (i + 1) j h
      refine ⟨n.positioned.map (Prod.map (i :: ·) id) ++ earlier, later, ?_⟩
      rw [positionedKids, hns, Nat.add_right_comm, List.append_assoc, List.append_assoc,
        List.append_assoc, Nat.add_assoc]

/-- The nodes of a subtree stand together. -/
theorem exists_positioned_of_at? (h : t.at? pos = some n) : ∃ earlier later,
    t.positioned = earlier ++ n.positioned.map (Prod.map (pos ++ ·) id) ++ later := by
  induction pos generalizing t with
  | nil =>
    obtain rfl : t = n := Option.some.inj h
    have hself : t.positioned.map (Prod.map ([] ++ ·) id) = t.positioned := List.map_id _
    exact ⟨[], [], by rw [hself, List.nil_append, List.append_nil]⟩
  | cons i pos ih =>
    obtain ⟨kid, hkid, hpos⟩ := at?_cons_eq_some_iff.mp h
    obtain ⟨earlier, later, hsub⟩ := ih hpos
    obtain ⟨before, behind, hkids⟩ := @exists_positionedKids_of_kid kid 0 i _ hkid
    rw [Nat.zero_add] at hkids
    refine ⟨([], t) :: before ++ earlier.map (Prod.map (i :: ·) id),
      later.map (Prod.map (i :: ·) id) ++ behind, ?_⟩
    rw [positioned_eq, hkids, hsub]
    simp [Function.comp_def]

theorem mem_subtree_of_isPrefix (h : t.at? pos = some n) (he : e ∈ t.positioned)
    (hpos : pos <+: e.1) : e ∈ n.positioned.map (Prod.map (pos ++ ·) id) := by
  obtain ⟨q, hq⟩ := hpos
  have hat : t.at? (pos ++ q) = some e.2 := by
    rw [hq]
    exact (mem_positioned_iff t e.1 e.2).mp he
  rw [at?_append, h, Option.bind_some] at hat
  refine List.mem_map.mpr ⟨(q, e.2), (mem_positioned_iff n q e.2).mpr hat, ?_⟩
  exact Prod.ext hq rfl

theorem filter_eq_nil_of_apart {es : List (Position × Node)} (h : t.at? pos = some n)
    (hes : es ⊆ t.positioned)
    (hapart : ∀ e ∈ es, ∀ d ∈ n.positioned.map (Prod.map (pos ++ ·) id), e.1 ≠ d.1) :
    es.filter (fun e => pos <+: e.1) = [] := by
  refine List.filter_eq_nil_iff.mpr fun e he hpos => ?_
  exact hapart e he e (mem_subtree_of_isPrefix h (hes he) (of_decide_eq_true hpos)) rfl

/-- The nodes of a subtree are those at the positions that start with its own. -/
theorem filter_positioned (h : t.at? pos = some n) :
    t.positioned.filter (fun e => pos <+: e.1) = n.positioned.map (Prod.map (pos ++ ·) id) := by
  obtain ⟨earlier, later, ht⟩ := exists_positioned_of_at? h
  have hdistinct : (t.positioned.map Prod.fst).Nodup := (pairwise_positioned t).imp fun hlt => by
    rintro rfl
    exact List.lt_irrefl _ hlt
  rw [ht, List.map_append, List.map_append, List.nodup_append, List.nodup_append] at hdistinct
  obtain ⟨⟨-, -, hearlier⟩, -, hlater⟩ := hdistinct
  have hin : ∀ e ∈ n.positioned.map (Prod.map (pos ++ ·) id), decide (pos <+: e.1) = true := by
    intro e he
    obtain ⟨d, -, rfl⟩ := List.mem_map.mp he
    exact decide_eq_true (List.prefix_append pos d.1)
  have hbefore : earlier.filter (fun e => pos <+: e.1) = [] := by
    refine filter_eq_nil_of_apart h (fun e he => ?_) fun e he d hd => ?_
    · rw [ht]
      exact List.mem_append_left _ (List.mem_append_left _ he)
    · exact hearlier e.1 (List.mem_map_of_mem he) d.1 (List.mem_map_of_mem hd)
  have hbehind : later.filter (fun e => pos <+: e.1) = [] := by
    refine filter_eq_nil_of_apart h (fun e he => ?_) fun e he d hd => ?_
    · rw [ht]
      exact List.mem_append_right _ he
    · have hd' : d.1 ∈ earlier.map Prod.fst ++
          (n.positioned.map (Prod.map (pos ++ ·) id)).map Prod.fst :=
        List.mem_append_right _ (List.mem_map_of_mem hd)
      exact (hlater d.1 hd' e.1 (List.mem_map_of_mem he)).symm
  rw [ht, List.filter_append, List.filter_append, hbefore, List.filter_eq_self.mpr hin, hbehind,
    List.nil_append, List.append_nil]

end Node

namespace TreePrinter

variable (p : TreePrinter) {t n : Node} {pos : Position}

def lineAt (t : Node) (e : Position × Node) : String :=
  (if e.1 = [] then ""
    else String.join ((t.railsTo e.1).dropLast.map fun more => if more then "|  " else "   ") ++
      "+--") ++
  p.name e.2.tag ++ ((p.text? e.2).elim "" fun text => "[" ++ text ++ "]") ++ "\n"

def printedAt (t : Node) (pos : Position) : String :=
  String.join ((t.positioned.filter fun e => pos <+: e.1).map (p.lineAt t))

theorem lineAt_eq (t : Node) (e : Position × Node) :
    p.lineAt t e = lead (t.railsTo e.1) ++ p.label e.2 ++ "\n" := by
  have hlead : lead (t.railsTo e.1) = if e.1 = [] then "" else
      String.join ((t.railsTo e.1).dropLast.map fun more => if more then "|  " else "   ") ++
        "+--" := by
    simp only [lead, Node.railsTo_eq_nil_iff]
    rfl
  have hlabel : p.label e.2 =
      p.name e.2.tag ++ (p.text? e.2).elim "" fun text => "[" ++ text ++ "]" := by
    unfold label
    cases p.text? e.2 <;> rfl
  simp only [lineAt, hlead, hlabel, String.append_assoc]

theorem print_eq_join_lineAt (t : Node) :
    p.print t = String.join (t.positioned.map (p.lineAt t)) := by
  rw [print_eq, lines, Node.rows_eq, List.map_map, funext (p.lineAt_eq t)]
  rfl

theorem exists_print_of_at? (h : t.at? pos = some n) :
    ∃ before after, p.print t = before ++ p.printedAt t pos ++ after := by
  obtain ⟨earlier, later, ht⟩ := Node.exists_positioned_of_at? h
  refine ⟨String.join (earlier.map (p.lineAt t)), String.join (later.map (p.lineAt t)), ?_⟩
  rw [print_eq_join_lineAt, printedAt, Node.filter_positioned h]
  conv_lhs => rw [ht]
  rw [List.map_append, List.map_append, String.join_append, String.join_append]

theorem printedAt_eq (h : t.at? pos = some n) :
    p.printedAt t pos = String.join (n.positioned.map fun e =>
      lead (t.railsTo pos ++ n.railsTo e.1) ++ p.label e.2 ++ "\n") := by
  have hline : ∀ e : Position × Node, p.lineAt t (Prod.map (pos ++ ·) id e) =
      lead (t.railsTo pos ++ n.railsTo e.1) ++ p.label e.2 ++ "\n" := by
    intro e
    rw [lineAt_eq, ← Node.railsTo_append h]
    rfl
  rw [printedAt, Node.filter_positioned h, List.map_map]
  exact congrArg _ (List.map_congr_left fun e _ => hline e)

/-- An outline is the lines of all positions of the tree in order. In front of a label stands a rail
for each node on the way from the root to the position, those two left out, which goes on if the
node has a later sibling, and then the connector; nothing stands in front of the root. The lines of a
subtree stand together, and they are determined by the subtree and its rails, whatever was printed
before them. -/
theorem print_layout (t : Node) :
    p.print t = String.join (t.positioned.map (p.lineAt t)) ∧
    (∀ pos n, (pos, n) ∈ t.positioned ↔ t.at? pos = some n) ∧
    (t.positioned.map Prod.fst).Pairwise (· < ·) ∧
    ∀ pos n, t.at? pos = some n →
      (∃ before after, p.print t = before ++ p.printedAt t pos ++ after) ∧
      ∀ t' pos', t'.at? pos' = some n → t'.railsTo pos' = t.railsTo pos →
        p.printedAt t' pos' = p.printedAt t pos := by
  refine ⟨p.print_eq_join_lineAt t, t.mem_positioned_iff, t.pairwise_positioned, ?_⟩
  intro pos n h
  refine ⟨p.exists_print_of_at? h, ?_⟩
  intro t' pos' h' hrails
  rw [p.printedAt_eq h', p.printedAt_eq h, hrails]

-- The first kid has a later sibling, so its rail goes on; a text is not told apart from the layout.
example : (⟨fun _ => "n", Node.text?⟩ : TreePrinter).print
    { tag := 0, kids := [{ tag := 0, kids := [{ tag := 0, text := "a\n+--n" }] }, { tag := 0 }] } =
      "n\n+--n\n|  +--n[a\n+--n]\n+--n\n" := by
  decide

end TreePrinter

end TagVocab

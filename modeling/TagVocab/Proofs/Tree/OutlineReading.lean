import Mathlib.Logic.Function.Basic
import TagVocab.Proofs.Document.Reading
import TagVocab.Proofs.Text.Blank
import TagVocab.Proofs.Tree.Outline

/-!
# Outlines are read back

An outline determines the tree that it shows, but for the numbers of the nodes. The depth of a line
is the number of its rails, counted up to the first connector, so nothing in a label can be taken for
a rail; and the kids of a node are the lines behind it that lie deeper.
-/

namespace TagVocab

open Document Text

namespace Node

mutual

/-- The tree as far as an outline shows it: without the numbers. -/
def shown : Node → Node
  | ⟨tag, kids, text, _⟩ => ⟨tag, shownKids kids, text, 0⟩
termination_by structural n => n

def shownKids : List Node → List Node
  | [] => []
  | n :: ns => shown n :: shownKids ns
termination_by structural ns => ns

end

def OneLineTexts (t : Node) : Prop :=
  ∀ n ∈ t.nodes, '\n' ∉ n.text.toList

def bare (n : Node) : Node :=
  { tag := n.tag, text := n.text }

end Node

namespace TreePrinter

/-- The depth of a line below the root, and the label on it: what stands behind the rails and the
first connector. -/
def readLevel? : List Char → Option (Nat × List Char)
  | '+' :: '-' :: '-' :: label => some (1, label)
  | '|' :: ' ' :: ' ' :: cs => (readLevel? cs).map fun (depth, label) => (depth + 1, label)
  | ' ' :: ' ' :: ' ' :: cs => (readLevel? cs).map fun (depth, label) => (depth + 1, label)
  | _ => none

/-- The node that a label shows: the name of its tag goes up to the first bracket. -/
def readLabel? (tag? : String → Option Tag) (label : List Char) : Option Node := do
  let tag ← tag? (String.ofList (label.takeWhile (· != '[')))
  match label.dropWhile (· != '[') with
  | [] => some { tag }
  | _ :: text => if text.getLast? = some ']' then some { tag, text := .ofList text.dropLast } else none

def readLine? (tag? : String → Option Tag) (line : List Char) : Option (Nat × Node) := do
  let (depth, label) ← readLevel? line
  let n ← readLabel? tag? label
  return (depth, n)

/-- Hangs the trees that lie deeper than a node below it, as far as no other tree comes first. -/
def hang (level : Nat × Node) (forest : List (Nat × Node)) : List (Nat × Node) :=
  (level.1, { level.2 with kids := (forest.takeWhile (level.1 < ·.1)).map (·.2) }) ::
    forest.dropWhile (level.1 < ·.1)

/-- The tree that an outline shows. Its first line is the label of the root, and every other line has
a level. -/
def read? (tag? : String → Option Tag) (outline : String) : Option Node :=
  match (outline.toList.splitOn '\n').dropLast with
  | [] => none
  | label :: lines => do
    let root ← readLabel? tag? label
    let levels ← lines.mapM (readLine? tag?)
    match ((0, root) :: levels).foldr hang [] with
    | [(_, tree)] => some tree
    | _ => none

end TreePrinter

def OutlineRow.level (row : OutlineRow) : Nat × Node :=
  (row.rails.length, row.node.bare)

namespace TreePrinter

theorem hang_kids {depth : Nat} (n : Node) (kids : List Node) {forest : List (Nat × Node)}
    (h : ∀ t ∈ forest.head?, t.1 ≤ depth) :
    hang (depth, n) (kids.map ((depth + 1, ·)) ++ forest) = (depth, { n with kids }) :: forest := by
  have hdeeper : ∀ t ∈ kids.map ((depth + 1, ·)), decide (depth < t.1) := by
    simp
  have hstop : forest.takeWhile (depth < ·.1) = [] ∧ forest.dropWhile (depth < ·.1) = forest := by
    cases forest with
    | nil => exact ⟨rfl, rfl⟩
    | cons t forest =>
      have ht : ¬ depth < t.1 := Nat.not_lt.mpr (h t rfl)
      simp [ht]
  unfold hang
  rw [List.takeWhile_append_of_pos hdeeper, List.dropWhile_append_of_pos hdeeper, hstop.1, hstop.2]
  simp [Function.comp_def]

mutual

/-- The levels of a tree's rows, in front of trees that lie no deeper, hang together to the tree. -/
theorem foldr_hang_rows (rails : List Bool) {forest : List (Nat × Node)}
    (h : ∀ t ∈ forest.head?, t.1 ≤ rails.length) : ∀ n : Node,
    ((n.rows rails).map (·.level)).foldr hang forest = (rails.length, n.shown) :: forest
  | ⟨tag, kids, text, value⟩ => by
    have hforest : ∀ t ∈ forest.head?, t.1 ≤ rails.length + 1 := fun t ht =>
      Nat.le_succ_of_le (h t ht)
    rw [Node.rows, List.map_cons, List.foldr_cons, foldr_hang_rowsOfKids rails hforest kids]
    exact hang_kids _ _ h
termination_by structural n => n

theorem foldr_hang_rowsOfKids (rails : List Bool) {forest : List (Nat × Node)}
    (h : ∀ t ∈ forest.head?, t.1 ≤ rails.length + 1) : ∀ ns : List Node,
    ((Node.rowsOfKids rails ns).map (·.level)).foldr hang forest =
      (Node.shownKids ns).map ((rails.length + 1, ·)) ++ forest
  | [] => rfl
  | n :: ns => by
    have hkids := foldr_hang_rowsOfKids rails h ns
    have hhead : ∀ t ∈ ((Node.shownKids ns).map ((rails.length + 1, ·)) ++ forest).head?,
        t.1 ≤ (rails ++ [!ns.isEmpty]).length := by
      intro t ht
      rw [List.length_append, List.length_singleton]
      cases ns with
      | nil => exact h t ht
      | cons m ms =>
        obtain rfl := Option.some.inj ht
        exact Nat.le_refl _
    rw [Node.rowsOfKids, List.map_append, List.foldr_append, hkids,
      foldr_hang_rows (rails ++ [!ns.isEmpty]) hhead n, Node.shownKids, List.length_append]
    rfl
termination_by structural ns => ns

end

theorem readLevel?_railing_append (rails : List Bool) (label : List Char) :
    readLevel? ((railing rails).toList ++ '+' :: '-' :: '-' :: label) =
      some (rails.length + 1, label) := by
  induction rails with
  | nil => rfl
  | cons more rails ih =>
    have hmore : ∀ cs, readLevel? ((rail more).toList ++ cs) =
        (readLevel? cs).map fun (depth, label) => (depth + 1, label) := by
      intro cs
      cases more <;> rfl
    rw [railing, List.map_cons, String.join_cons, String.toList_append, List.append_assoc, hmore]
    rw [railing] at ih
    rw [ih, Option.map_some, List.length_cons]

theorem readLevel?_lead_append {rails : List Bool} (h : rails ≠ []) (label : List Char) :
    readLevel? ((lead rails).toList ++ label) = some (rails.length, label) := by
  obtain ⟨above, more, rfl⟩ : ∃ above more, rails = above ++ [more] :=
    ⟨_, _, (List.dropLast_concat_getLast h).symm⟩
  rw [lead_concat, String.toList_append, List.append_assoc, List.length_append]
  exact readLevel?_railing_append above label

theorem lineFeed_not_mem_lead (rails : List Bool) : '\n' ∉ (lead rails).toList := by
  have hrail : ∀ more, '\n' ∉ (rail more).toList := by decide
  unfold lead
  split
  · simp
  · rw [String.toList_append, List.mem_append, railing, String.toList_join, List.mem_flatMap]
    rintro (⟨group, hgroup, hmem⟩ | hmem)
    · obtain ⟨more, -, rfl⟩ := List.mem_map.mp hgroup
      exact hrail more hmem
    · exact absurd hmem (by decide)

section

variable {name : Tag → String}

theorem label_of_empty {n : Node} (h : n.text = "") : label { name } n = name n.tag := by
  simp [label, Node.text?, h]

theorem label_of_text {n : Node} (h : n.text ≠ "") :
    label { name } n = name n.tag ++ ("[" ++ n.text ++ "]") := by
  simp [label, Node.text?, h]

theorem lineFeed_not_mem_label (hfeed : ∀ tag, '\n' ∉ (name tag).toList) {n : Node}
    (hn : '\n' ∉ n.text.toList) : '\n' ∉ (label { name } n).toList := by
  by_cases h : n.text = ""
  · rw [label_of_empty h]
    exact hfeed n.tag
  · rw [label_of_text h]
    simp [hfeed, hn]

variable {tag? : String → Option Tag} (htag : ∀ tag, tag? (name tag) = some tag)
variable (hbracket : ∀ tag, '[' ∉ (name tag).toList)

include htag hbracket

theorem readLabel?_label (n : Node) :
    readLabel? tag? (label { name } n).toList = some n.bare := by
  have hname : ∀ c ∈ (name n.tag).toList, (c != '[') = true := by
    intro c hc
    rw [bne_iff_ne]
    rintro rfl
    exact hbracket n.tag hc
  unfold readLabel?
  by_cases h : n.text = ""
  · have hlabel : (label { name } n).toList = (name n.tag).toList ++ [] := by
      rw [label_of_empty h, List.append_nil]
    rw [hlabel, takeWhile_run hname stopsRun_nil, dropWhile_run hname stopsRun_nil,
      String.ofList_toList, htag, Node.bare, h]
    rfl
  · have hlabel : (label { name } n).toList =
        (name n.tag).toList ++ '[' :: (n.text.toList ++ [']']) := by
      rw [label_of_text h]
      simp
    have hstop : StopsRun (· != '[') ('[' :: (n.text.toList ++ [']'])) :=
      stopsRun_cons.mpr (by decide)
    rw [hlabel, takeWhile_run hname hstop, dropWhile_run hname hstop, String.ofList_toList, htag]
    simp [Node.bare]

theorem readLine?_line {row : OutlineRow} (h : row.rails ≠ []) :
    readLine? tag? (line { name } row).toList = some row.level := by
  rw [line, String.toList_append, readLine?, readLevel?_lead_append h]
  simp only [Option.bind_eq_bind, Option.bind_some, readLabel?_label htag hbracket]
  rfl

/-- Reading an outline gives the tree that was drawn. -/
theorem read?_print (hfeed : ∀ tag, '\n' ∉ (name tag).toList) (t : Node)
    (ht : t.OneLineTexts) : read? tag? (print { name } t) = some t.shown := by
  have htext : (print { name } t).toList =
      ((t.rows []).map fun row => (line { name } row).toList).flatMap (· ++ ['\n']) := by
    rw [print_eq, lines, String.toList_join]
    simp [List.flatMap_map]
  have hlines : ∀ l ∈ (t.rows []).map fun row => (line { name } row).toList, '\n' ∉ l := by
    rw [List.forall_mem_map]
    intro row hrow
    have hnode : row.node ∈ t.nodes := by
      rw [← Node.map_node_rows []]
      exact List.mem_map_of_mem hrow
    rw [line, String.toList_append, List.mem_append, not_or]
    exact ⟨lineFeed_not_mem_lead row.rails, lineFeed_not_mem_label hfeed (ht row.node hnode)⟩
  have hrows : t.rows [] = ⟨[], t⟩ :: Node.rowsOfKids [] t.kids := by
    cases t
    rfl
  have hroot : (line { name } ⟨[], t⟩).toList = (label { name } t).toList := by
    simp [line, lead]
  have hlevels := mapM_map_some fun row hrow =>
    readLine?_line htag hbracket (Node.rails_ne_nil_of_rowsOfKids [] t.kids row hrow)
  have htree : ((0, t.bare) :: (Node.rowsOfKids [] t.kids).map (·.level)).foldr hang [] =
      [(0, t.shown)] := by
    have h := @foldr_hang_rows [] [] (by simp) t
    rwa [hrows, List.map_cons] at h
  unfold read?
  rw [htext, splitOn_flatMap_lineFeed _ hlines, List.dropLast_concat, hrows, List.map_cons]
  simp only [hroot, readLabel?_label htag hbracket, hlevels, Option.bind_eq_bind, Option.bind_some,
    htree]

end

section

variable (name : Tag → String)

mutual

theorem lines_rows_shown (rails : List Bool) : ∀ n : Node,
    lines { name } (n.shown.rows rails) = lines { name } (n.rows rails)
  | ⟨tag, kids, text, value⟩ => by
    rw [Node.shown, Node.rows, Node.rows, lines_cons, lines_cons,
      lines_rowsOfKids_shown rails kids]
    rfl
termination_by structural n => n

theorem lines_rowsOfKids_shown (rails : List Bool) : ∀ ns : List Node,
    lines { name } (Node.rowsOfKids rails (Node.shownKids ns)) =
      lines { name } (Node.rowsOfKids rails ns)
  | [] => rfl
  | n :: ns => by
    have hempty : (Node.shownKids ns).isEmpty = ns.isEmpty := by
      cases ns <;> rfl
    rw [Node.shownKids, Node.rowsOfKids, Node.rowsOfKids, lines_append, lines_append, hempty,
      lines_rows_shown _ n, lines_rowsOfKids_shown rails ns]
termination_by structural ns => ns

end

/-- The numbers of the nodes do not show. -/
theorem print_shown (t : Node) : print { name } t.shown = print { name } t := by
  rw [print_eq, print_eq, lines_rows_shown]

end

/-- If the names tell tags apart and hold neither line feeds nor brackets, two trees without line
feeds in their texts have one outline exactly if they agree but for the numbers of their nodes; and
with any look-up from names to tags, the tree can be read back. -/
theorem print_determines {name : Tag → String} (hinj : Function.Injective name)
    (hname : ∀ tag, '\n' ∉ (name tag).toList ∧ '[' ∉ (name tag).toList) :
    (∀ t t' : Node, t.OneLineTexts → t'.OneLineTexts →
      (print { name } t = print { name } t' ↔ t.shown = t'.shown)) ∧
    ∀ tag? : String → Option Tag, (∀ tag, tag? (name tag) = some tag) →
      ∀ t : Node, t.OneLineTexts → read? tag? (print { name } t) = some t.shown := by
  have hread : ∀ tag? : String → Option Tag, (∀ tag, tag? (name tag) = some tag) →
      ∀ t : Node, t.OneLineTexts → read? tag? (print { name } t) = some t.shown :=
    fun tag? htag t => read?_print htag (fun tag => (hname tag).2) (fun tag => (hname tag).1) t
  refine ⟨fun t t' ht ht' => ?_, hread⟩
  constructor
  · intro h
    have hinv := Function.partialInv_left hinj
    have hs := hread _ hinv t ht
    rw [h, hread _ hinv t' ht'] at hs
    exact (Option.some.inj hs).symm
  · intro h
    rw [← print_shown name t, h, print_shown name t']

theorem print_determines_numbers :
    (Function.Injective fun tag : Tag => "n" ++ toString tag.toNat) ∧
    (∀ tag : Tag, '\n' ∉ ("n" ++ toString tag.toNat).toList ∧
      '[' ∉ ("n" ++ toString tag.toNat).toList) ∧
    Node.OneLineTexts ⟨1, [], "]   +--n2", 0⟩ ∧
    Node.OneLineTexts ⟨1, [⟨2, [], "", 0⟩], "", 0⟩ ∧
    print { name := fun tag => "n" ++ toString tag.toNat } ⟨1, [], "]   +--n2", 0⟩ ≠
      print { name := fun tag => "n" ++ toString tag.toNat } ⟨1, [⟨2, [], "", 0⟩], "", 0⟩ := by
  have hinj : Function.Injective fun tag : Tag => "n" ++ toString tag.toNat := by
    intro tag tag' h
    have hdigits := congrArg String.toList h
    simp only [String.toList_append, List.append_cancel_left_eq, Nat.toString_eq_repr,
      Nat.toList_repr] at hdigits
    rw [← UInt32.toNat_inj, ← @Nat.ofDigitChars_ten_toDigits tag.toNat, hdigits,
      Nat.ofDigitChars_ten_toDigits]
  have hname : ∀ tag : Tag, '\n' ∉ ("n" ++ toString tag.toNat).toList ∧
      '[' ∉ ("n" ++ toString tag.toNat).toList := by
    intro tag
    have hdigits : ∀ c ∈ (toString tag.toNat).toList, c.isDigit := by
      rw [Nat.toString_eq_repr, Nat.toList_repr]
      exact fun c hc => Nat.isDigit_of_mem_toDigits (by decide) (by decide) hc
    simp only [String.toList_append, List.mem_append, not_or]
    exact ⟨⟨by decide, fun hc => absurd (hdigits _ hc) (by decide)⟩, by decide,
      fun hc => absurd (hdigits _ hc) (by decide)⟩
  have ht : Node.OneLineTexts ⟨1, [], "]   +--n2", 0⟩ := by
    simp [Node.OneLineTexts, Node.nodes, Node.nodesOfKids]
  have ht' : Node.OneLineTexts ⟨1, [⟨2, [], "", 0⟩], "", 0⟩ := by
    simp [Node.OneLineTexts, Node.nodes, Node.nodesOfKids]
  refine ⟨hinj, hname, ht, ht', fun h => ?_⟩
  have hs := ((print_determines hinj hname).1 _ _ ht ht').mp h
  simp [Node.shown, Node.shownKids] at hs

end TreePrinter

end TagVocab

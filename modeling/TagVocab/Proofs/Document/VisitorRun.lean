import Mathlib.Data.List.Find
import TagVocab.Proofs.Document.VisitorCode
import TagVocab.Proofs.Tree.Calls
import TagVocab.Proofs.Visitor

/-!
# The run of the visitor documents

A visitor defines some methods itself and has the others from the trait. Whatever it defines, its
visits by the code of the two documents are the traversal, with the same hooks.
-/

namespace TagVocab

open Document

/-- What the names in a visitor's code stand for. -/
structure VisitorNames (σ : Type) where
  method : String → Node → Walk σ
  function : String → Node → Walk σ
  constant : String → Tag

/-- The methods that a visitor defines itself. They may call whatever the names stand for. -/
abbrev OwnMethods (σ : Type) : Type :=
  String → Option (VisitorNames σ → Node → Walk σ)

namespace VisitorNames

variable {σ : Type} (names : VisitorNames σ)

def step (n : Node) (next : Walk σ) : VisitorStep → Walk σ
  | .function name => (names.function name n).andThen next
  | .method name => (names.method name n).andThen next
  | .eachKid name => (Walk.each (n.kids.map (names.method name))).andThen next
  | .tokenReturn name => if n.tag < productionBase then names.method name n else next
  | .matchTag arms =>
    match arms.find? fun arm => names.constant arm.1 = n.tag with
    | some arm => (names.method arm.2 n).andThen next
    | none => Walk.stopAt n.tag

def body (n : Node) : List VisitorStep → Walk σ
  | [] => Walk.skip
  | step :: steps => names.step n (body n steps) step

/-- A method of the trait: the visitor's own if there is one, and what the trait says otherwise. -/
def run (own : OwnMethods σ) (name : String) (steps : List VisitorStep) (n : Node) : Walk σ :=
  match own name with
  | some f => f names n
  | none => names.body n steps

/-- Every declared name stands for its declaration, and a constant for the value of its variant. -/
structure Resolve (code : VisitorCode) (value : String → Tag) (own : OwnMethods σ) : Prop where
  method_eq : ∀ m ∈ code.methods, ∀ n, names.method m.1 n = names.run own m.1 m.2 n
  function_eq : ∀ f ∈ code.functions, ∀ n, names.function f.1 n = names.body n f.2
  constant_eq : ∀ c ∈ code.constants, names.constant c.1 = value c.2

end VisitorNames

/-- The hooks that a visitor defines itself. `κ` stands for the methods that tags are routed to. -/
structure Overrides (κ σ : Type) where
  visit? : Option (Node → Walk σ → Walk σ) := none
  method? : κ → Option (Node → Walk σ → Walk σ → Walk σ) := fun _ => none
  children? : Option (Node → List (Walk σ) → Walk σ) := none
  token? : Option (Node → Walk σ) := none

namespace Overrides

variable {κ σ : Type}

def visitor (o : Overrides κ σ) : Visitor κ σ where
  onVisit := o.visit?.getD fun _ routed => routed
  onMethod k := (o.method? k).getD fun _ walk _ => walk
  onChildren := o.children?.getD fun _ visits => Walk.each visits
  onToken := o.token?.getD fun _ => Walk.skip

def ofVisitor (v : Visitor κ σ) : Overrides κ σ where
  visit? := some v.onVisit
  method? k := some (v.onMethod k)
  children? := some v.onChildren
  token? := some v.onToken

theorem visitor_ofVisitor (v : Visitor κ σ) : (ofVisitor v).visitor = v :=
  rfl

variable (route : κ → Route) (kinds : List κ)

/-- The hooks as methods of the trait. The walks that a hook is given are those that its method can
call. -/
def own (o : Overrides κ σ) : OwnMethods σ := fun name =>
  if name = "visit" then
    o.visit?.map fun f names n => f n (names.function "dispatch" n)
  else if name = "visit_children" then
    o.children?.map fun f names n => f n (n.kids.map (names.method "visit"))
  else if name = "visit_token" then
    o.token?.map fun f _ n => f n
  else
    (kinds.find? fun k => (route k).visitName = name).bind fun k => (o.method? k).map
      fun f names n => f n (names.function (route k).walkName n)
        (Walk.each (n.kids.map (names.method "visit")))

end Overrides

/-- The methods that tags are routed to, given the values of the variants. -/
def routedBy (s : Settings) {κ : Type} (route : κ → Route) (kinds : List κ) (value : String → Tag)
    (t : Tag) : Option κ :=
  kinds.find? fun k => value (variantPath s (route k).tag) = t

theorem AstTags.ne_of_unreserved {name : String} (h : name ∉ AstTags.reservedMethods) :
    name ≠ "visit" ∧ name ≠ "visit_children" ∧ name ≠ "visit_token" := by
  simpa [AstTags.reservedMethods] using h

section

variable {κ : Type} {s : Settings} {route : κ → Route} {kinds : List κ}
variable {P : String × List VisitorStep → Prop}

theorem Document.forall_mem_methods_iff :
    (∀ m ∈ (visitorCode s (kinds.map route)).methods, P m) ↔
      P ("visit", [.function "dispatch"]) ∧
      (∀ k ∈ kinds, P ((route k).visitName, [.function (route k).walkName])) ∧
      P ("visit_children", [.function "walk_children"]) ∧ P ("visit_token", []) := by
  simp only [visitorCode, List.cons_append, List.forall_mem_cons, List.forall_mem_append,
    List.forall_mem_map, List.not_mem_nil, false_implies, implies_true, and_true]

theorem Document.forall_mem_functions_iff :
    (∀ f ∈ (visitorCode s (kinds.map route)).functions, P f) ↔
      P ("dispatch", [.tokenReturn "visit_token",
        .matchTag ((kinds.map route).map fun r => (r.tag, r.visitName))]) ∧
      (∀ k ∈ kinds, P ((route k).walkName, [.method "visit_children"])) ∧
      P ("walk_children", [.eachKid "visit"]) := by
  simp only [visitorCode, List.cons_append, List.forall_mem_cons, List.forall_mem_append,
    List.forall_mem_map, List.not_mem_nil, false_implies, implies_true, and_true]

theorem Document.forall_mem_constants_iff {P : String × String → Prop} :
    (∀ c ∈ (visitorCode s (kinds.map route)).constants, P c) ↔
      ∀ k ∈ kinds, P ((route k).tag, variantPath s (route k).tag) := by
  simp only [visitorCode, List.forall_mem_map]

end

section

variable {κ σ : Type} {route : κ → Route} {kinds : List κ}
variable (hstems : (kinds.map fun k => (route k).stem).Nodup)
variable (hfree : ∀ k ∈ kinds, (route k).visitName ∉ AstTags.reservedMethods)

include hstems in
theorem find?_visitName {k : κ} (hk : k ∈ kinds) :
    (kinds.find? fun j => (route j).visitName = (route k).visitName) = some k := by
  have hinj := List.inj_on_of_nodup_map hstems
  cases hfind : kinds.find? fun j => (route j).visitName = (route k).visitName with
  | none => simpa using List.find?_eq_none.mp hfind k hk
  | some j =>
    have hname : (route j).visitName = (route k).visitName := by
      simpa using List.find?_some hfind
    have hstem : (route j).stem = (route k).stem := (String.append_right_inj "visit_").mp hname
    rw [hinj (List.mem_of_find?_eq_some hfind) hk hstem]

section

variable (o : Overrides κ σ) (names : VisitorNames σ) (n : Node)

theorem run_visit : names.run (o.own route kinds) "visit" [.function "dispatch"] n =
    o.visitor.onVisit n (names.function "dispatch" n) := by
  have hown : o.own route kinds "visit" =
      o.visit?.map fun f names n => f n (names.function "dispatch" n) := rfl
  rw [VisitorNames.run, hown, Overrides.visitor]
  cases o.visit? with
  | none => exact Walk.andThen_skip (names.function "dispatch" n)
  | some f => rfl

theorem run_visitToken :
    names.run (o.own route kinds) "visit_token" [] n = o.visitor.onToken n := by
  have hown : o.own route kinds "visit_token" = o.token?.map fun f _ n => f n := rfl
  rw [VisitorNames.run, hown, Overrides.visitor]
  cases o.token? with
  | none => rfl
  | some f => rfl

variable {names n}

theorem run_visitChildren (hwalk : names.function "walk_children" n =
      Walk.each (n.kids.map (names.method "visit"))) :
    names.run (o.own route kinds) "visit_children" [.function "walk_children"] n =
      o.visitor.onChildren n (n.kids.map (names.method "visit")) := by
  have hown : o.own route kinds "visit_children" =
      o.children?.map fun f names n => f n (n.kids.map (names.method "visit")) := rfl
  rw [VisitorNames.run, hown, Overrides.visitor]
  cases o.children? with
  | none => exact (Walk.andThen_skip _).trans hwalk
  | some f => rfl

include hstems hfree

theorem run_visitName {k : κ} (hk : k ∈ kinds) (hwalk : names.function (route k).walkName n =
      o.visitor.onChildren n (n.kids.map (names.method "visit"))) :
    names.run (o.own route kinds) (route k).visitName [.function (route k).walkName] n =
      o.visitor.onMethod k n (o.visitor.onChildren n (n.kids.map (names.method "visit")))
        (Walk.each (n.kids.map (names.method "visit"))) := by
  obtain ⟨hvisit, hchildren, htoken⟩ := AstTags.ne_of_unreserved (hfree k hk)
  have hown : o.own route kinds (route k).visitName = (o.method? k).map fun f names n =>
      f n (names.function (route k).walkName n)
        (Walk.each (n.kids.map (names.method "visit"))) := by
    rw [Overrides.own, if_neg hvisit, if_neg hchildren, if_neg htoken,
      find?_visitName hstems hk, Option.bind_some]
  rw [VisitorNames.run, hown, ← hwalk]
  simp only [Overrides.visitor]
  cases o.method? k with
  | none => exact Walk.andThen_skip (names.function (route k).walkName n)
  | some f => rfl

end

theorem body_dispatch (s : Settings) {value : String → Tag} {v : Visitor κ σ}
    {names : VisitorNames σ} {n : Node}
    (hconstant : ∀ k ∈ kinds, names.constant (route k).tag = value (variantPath s (route k).tag))
    (htoken : names.method "visit_token" n = v.onToken n)
    (hmethod : ∀ k ∈ kinds, names.method (route k).visitName n = v.onMethod k n
      (v.onChildren n (n.kids.map (names.method "visit")))
      (Walk.each (n.kids.map (names.method "visit")))) :
    names.body n [.tokenReturn "visit_token",
        .matchTag ((kinds.map route).map fun r => (r.tag, r.visitName))] =
      v.dispatch (routedBy s route kinds value) n (n.kids.map (names.method "visit")) := by
  have hfind : ((kinds.map route).map fun r => (r.tag, r.visitName)).find?
      (fun arm => names.constant arm.1 = n.tag) =
        (routedBy s route kinds value n.tag).map fun k => ((route k).tag, (route k).visitName) := by
    rw [List.map_map, List.find?_map, routedBy]
    refine congrArg (Option.map _) (List.find?_congr fun k hk => ?_)
    simp [hconstant k hk]
  simp only [VisitorNames.body, VisitorNames.step, hfind, htoken]
  unfold Visitor.dispatch
  by_cases hlow : n.tag < productionBase
  · rw [if_pos hlow, if_pos hlow]
  · rw [if_neg hlow, if_neg hlow]
    cases hk : routedBy s route kinds value n.tag with
    | none => rfl
    | some k => exact (Walk.andThen_skip _).trans (hmethod k (List.mem_of_find?_eq_some hk))

end

section

variable {κ σ : Type} {s : Settings} {route : κ → Route} {kinds : List κ} {value : String → Tag}
variable {o : Overrides κ σ} {names : VisitorNames σ}
variable (h : names.Resolve (visitorCode s (kinds.map route)) value (o.own route kinds))

namespace VisitorNames.Resolve

include h

theorem walkChildren_eq (n : Node) :
    names.function "walk_children" n = Walk.each (n.kids.map (names.method "visit")) := by
  obtain ⟨-, -, hchildren⟩ := forall_mem_functions_iff.mp h.function_eq
  exact (hchildren n).trans (Walk.andThen_skip _)

theorem walk_eq {k : κ} (hk : k ∈ kinds) (n : Node) : names.function (route k).walkName n =
    o.visitor.onChildren n (n.kids.map (names.method "visit")) := by
  obtain ⟨-, hwalks, -⟩ := forall_mem_functions_iff.mp h.function_eq
  obtain ⟨-, -, hchildren, -⟩ := forall_mem_methods_iff.mp h.method_eq
  rw [hwalks k hk, ← run_visitChildren o (h.walkChildren_eq n), ← hchildren]
  exact Walk.andThen_skip _

variable (hstems : (kinds.map fun k => (route k).stem).Nodup)
variable (hfree : ∀ k ∈ kinds, (route k).visitName ∉ AstTags.reservedMethods)

include hstems hfree

theorem dispatch_eq (n : Node) : names.function "dispatch" n =
    o.visitor.dispatch (routedBy s route kinds value) n (n.kids.map (names.method "visit")) := by
  obtain ⟨hdispatch, -, -⟩ := forall_mem_functions_iff.mp h.function_eq
  obtain ⟨-, hmethods, -, htoken⟩ := forall_mem_methods_iff.mp h.method_eq
  exact (hdispatch n).trans (body_dispatch s (forall_mem_constants_iff.mp h.constant_eq)
    ((htoken n).trans (run_visitToken o names n)) fun k hk =>
      (hmethods k hk n).trans (run_visitName hstems hfree o hk (h.walk_eq hk n)))

/-- A visit by the code is the traversal with the visitor's hooks. -/
theorem method_visit (n : Node) :
    names.method "visit" n = o.visitor.visit (routedBy s route kinds value) n := by
  obtain ⟨hvisit, -, -, -⟩ := forall_mem_methods_iff.mp h.method_eq
  -- The equations may call each other, but a visit only leads on to visits of the kids.
  induction n using Node.of_kids with
  | node n ih =>
    rw [hvisit, run_visit, h.dispatch_eq hstems hfree, Visitor.visit_eq, List.map_congr_left ih]

end VisitorNames.Resolve

end

section

variable {κ σ : Type} (s : Settings) (route : κ → Route) (kinds : List κ) (value : String → Tag)
variable (o : Overrides κ σ)

def VisitorNames.ofTraversal : VisitorNames σ where
  method name n :=
    let method? := routedBy s route kinds value
    let visits := n.kids.map (o.visitor.visit method?)
    if name = "visit" then o.visitor.visit method? n
    else if name = "visit_children" then o.visitor.onChildren n visits
    else if name = "visit_token" then o.visitor.onToken n
    else
      match kinds.find? fun k => (route k).visitName = name with
      | some k => o.visitor.onMethod k n (o.visitor.onChildren n visits) (Walk.each visits)
      | none => Walk.skip
  function name n :=
    let method? := routedBy s route kinds value
    let visits := n.kids.map (o.visitor.visit method?)
    if name = "dispatch" then o.visitor.dispatch method? n visits
    else if name = "walk_children" then Walk.each visits
    else o.visitor.onChildren n visits
  constant tag := value (variantPath s tag)

variable {s route kinds value}
variable (hfree : ∀ k ∈ kinds, (route k).visitName ∉ AstTags.reservedMethods)

include hfree

theorem VisitorNames.ofTraversal_walkName {k : κ} (hk : k ∈ kinds) (n : Node) :
    (ofTraversal s route kinds value o).function (route k).walkName n = o.visitor.onChildren n
      (n.kids.map (o.visitor.visit (routedBy s route kinds value))) := by
  have hdispatch : (route k).walkName ≠ "dispatch" := by
    intro heq
    have hl := congrArg String.toList heq
    simp [Route.walkName] at hl
  have hchildren : (route k).walkName ≠ "walk_children" := by
    intro heq
    have hstem : (route k).stem = "children" := (String.append_right_inj "walk_").mp heq
    refine hfree k hk ?_
    rw [Route.visitName, hstem]
    decide
  rw [ofTraversal]
  dsimp only
  rw [if_neg hdispatch, if_neg hchildren]

variable (hstems : (kinds.map fun k => (route k).stem).Nodup)

include hstems

theorem VisitorNames.ofTraversal_visitName {k : κ} (hk : k ∈ kinds) (n : Node) :
    (ofTraversal s route kinds value o).method (route k).visitName n = o.visitor.onMethod k n
      (o.visitor.onChildren n (n.kids.map (o.visitor.visit (routedBy s route kinds value))))
      (Walk.each (n.kids.map (o.visitor.visit (routedBy s route kinds value)))) := by
  obtain ⟨hvisit, hchildren, htoken⟩ := AstTags.ne_of_unreserved (hfree k hk)
  rw [ofTraversal]
  dsimp only
  rw [if_neg hvisit, if_neg hchildren, if_neg htoken, find?_visitName hstems hk]

theorem VisitorNames.resolve_ofTraversal : (ofTraversal s route kinds value o).Resolve
    (visitorCode s (kinds.map route)) value (o.own route kinds) := by
  constructor
  case method_eq =>
    refine forall_mem_methods_iff.mpr ⟨fun n => ?_, fun k hk n => ?_, fun n => ?_, fun n => ?_⟩
    · rw [run_visit]
      exact Visitor.visit_eq o.visitor n
    · rw [run_visitName hstems hfree o hk (ofTraversal_walkName o hfree hk n)]
      exact ofTraversal_visitName o hfree hstems hk n
    · rw [run_visitChildren o rfl]
      rfl
    · rw [run_visitToken]
      rfl
  case function_eq =>
    refine forall_mem_functions_iff.mpr ⟨fun n => ?_, fun k hk n => ?_, fun n => ?_⟩
    · exact (body_dispatch s (fun k _ => rfl) rfl fun k hk =>
        ofTraversal_visitName o hfree hstems hk n).symm
    · rw [ofTraversal_walkName o hfree hk]
      exact (Walk.andThen_skip _).symm
    · exact (Walk.andThen_skip _).symm
  case constant_eq => exact forall_mem_constants_iff.mpr fun k _ => rfl

end

/-- Whatever methods a visitor defines itself, the names in the code can be given a meaning, and by
any meaning the visit of a tree is the traversal with the visitor's hooks. -/
def Document.VisitorCode.Traverses (code : VisitorCode) (s : Settings) {κ : Type}
    (route : κ → Route) (kinds : List κ) : Prop :=
  ∀ (σ : Type) (value : String → Tag) (o : Overrides κ σ),
    (∃ names : VisitorNames σ, names.Resolve code value (o.own route kinds)) ∧
    ∀ names : VisitorNames σ, names.Resolve code value (o.own route kinds) →
      ∀ n, names.method "visit" n = o.visitor.visit (routedBy s route kinds value) n

theorem AstTags.Routed.traverses {κ : Type} {route : κ → Route} {kinds : List κ} {lead : String}
    {tags : List String} (h : AstTags.Routed lead tags (kinds.map route)) (s : Settings) :
    (visitorCode s (kinds.map route)).Traverses s route kinds := by
  have hstems : (kinds.map fun k => (route k).stem).Nodup := by
    have hnodup := h.stems_nodup
    rwa [List.map_map] at hnodup
  have hfree : ∀ k ∈ kinds, (route k).visitName ∉ AstTags.reservedMethods := fun k hk =>
    h.unreserved (route k) (List.mem_map_of_mem hk)
  intro σ value o
  exact ⟨⟨_, VisitorNames.resolve_ofTraversal o hfree hstems⟩,
    fun names hnames => hnames.method_visit hstems hfree⟩

/-- The code that a run writes visits trees as the traversal does. -/
theorem Generation.ofAst_traverses {s : Settings} {ast : String} {artifacts : List Artifact}
    (h : ofAst s ast = .ok artifacts) :
    ∃ routes visitor walk names code,
      artifacts = [⟨s.outputs.visitor, visitor⟩, ⟨s.outputs.visitorWalk, walk⟩, names] ∧
      (AstTags.ofText s.lead ast).routes = .ok routes ∧ visitorCode? visitor walk = some code ∧
      code.Traverses s id routes := by
  obtain ⟨hs, routes, hroutes, rfl⟩ := exists_routes_of_ofAst h
  have hrouted : AstTags.Routed s.lead (AstTags.ofText s.lead ast).names routes :=
    AstTags.routed_routes hroutes
  have hcode := visitorCode?_documents s (nameLike_of_routes hs hrouted)
    (Settings.isPathChar_runtime hs) (Settings.isPathChar_tagEnum hs)
  have htraverses : (visitorCode s routes).Traverses s id routes := by
    rw [← List.map_id routes] at hrouted
    have h := hrouted.traverses s
    rwa [List.map_id] at h
  exact ⟨routes, _, _, _, _, rfl, hroutes, hcode, htraverses⟩

end TagVocab

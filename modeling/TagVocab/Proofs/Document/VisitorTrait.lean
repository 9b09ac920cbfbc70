import TagVocab.Proofs.AstTags
import TagVocab.Proofs.Document.VisitorParts

/-!
# The methods of a visitor trait

A written trait declares the methods that route, those of the tags in order, and those for children
and tokens. The body of a tag's method calls the walk of the tag.
-/

namespace TagVocab

open Text

/-- A tag and a stem that hold no punctuation. -/
structure Route.NameLike (r : Route) : Prop where
  tag : ∀ c ∈ r.tag.toList, isNameLike c
  stem : ∀ c ∈ r.stem.toList, isNameLike c

theorem ne_of_isNameLike {cs : List Char} (h : ∀ c ∈ cs, isNameLike c) {d : Char}
    (hd : isNameLike d = false) : ∀ c ∈ cs, c ≠ d := by
  rintro c hc rfl
  exact absurd (h c hc) (by simp [hd])

namespace Route.NameLike

variable {r : Route} (h : r.NameLike)

include h

theorem visitName : ∀ c ∈ r.visitName.toList, isNameLike c := by
  rw [Route.visitName, String.toList_append, List.forall_mem_append]
  exact ⟨List.all_eq_true.mp (by decide), h.stem⟩

theorem walkName : ∀ c ∈ r.walkName.toList, isNameLike c := by
  rw [Route.walkName, String.toList_append, List.forall_mem_append]
  exact ⟨List.all_eq_true.mp (by decide), h.stem⟩

end Route.NameLike

theorem oneLine_of_isNameLike {cs : List Char} (h : ∀ c ∈ cs, isNameLike c) : OneLine cs :=
  oneLine_of_forall (by decide) (by decide) h

namespace Document

theorem functionCall?_call {name : String} (h : ∀ c ∈ name.toList, isNameLike c) :
    functionCall? ("        " ++ (name ++ "(self, n);")) = some name := by
  have hname := ne_of_isNameLike h (by decide : isNameLike '(' = false)
  have hdrop : (name.toList ++ '(' :: "self, n);".toList).dropWhile (· != '(') =
      '(' :: "self, n);".toList :=
    dropWhile_append_cons (fun c hc => bne_iff_ne.mpr (hname c hc)) (by decide) _
  have hsplit : (name ++ "(self, n);").toList = name.toList ++ '(' :: "self, n);".toList := by
    simp
  rw [functionCall?, after?_append, hsplit]
  simp only [Option.bind_eq_bind, Option.bind_some]
  rw [hdrop, upTo?_append hname, String.ofList_toList]
  rfl

theorem bodies_method {name callee : String} (h : ∀ c ∈ name.toList, isNameLike c)
    (rest : List String) :
    bodies methodForm (("    fn " ++ (name ++ "(&mut self, n: &N) \x7b")) ::
        ("        " ++ (callee ++ "(self, n);")) :: "    \x7d" :: rest) =
      (name, ["        " ++ (callee ++ "(self, n);")]) :: bodies methodForm rest := by
  have hline : after? methodForm.opening ("    fn " ++ (name ++ "(&mut self, n: &N) \x7b")) =
      some (name.toList ++ methodForm.behindName :: "&mut self, n: &N) \x7b".toList) := by
    rw [methodForm, after?_append, String.toList_append]
    rfl
  have hbody : ∀ l ∈ ["        " ++ (callee ++ "(self, n);")],
      l ≠ methodForm.closing ∧ after? methodForm.opening l = none := by
    rw [List.forall_mem_singleton]
    constructor
    · intro heq
      have hl := congrArg String.toList heq
      simp [methodForm] at hl
    · exact after?_of_clash (by decide) _
  have hname := ne_of_isNameLike h (by decide : isNameLike '(' = false)
  have hd := bodies_cons hline hname (by decide) hbody (by decide) rest
  rwa [String.ofList_toList] at hd

theorem bodies_tagMethod {r : Route} (h : r.NameLike) (rest : List String) :
    bodies methodForm (tagMethod r ++ rest) =
      (r.visitName, ["        " ++ (r.walkName ++ "(self, n);")]) :: bodies methodForm rest := by
  have hcomment : ∀ l ∈ ["", "    /// Visit a node with the `" ++ (r.tag ++ "` tag.")],
      after? methodForm.opening l = none :=
    Starts.after?_eq_none (by repeat constructor) (by decide)
  have hmethod := @bodies_method r.visitName r.walkName h.visitName rest
  rw [← bodies_append hcomment] at hmethod
  simpa only [tagMethod, String.append_assoc, List.cons_append, List.nil_append] using hmethod

theorem bodies_otherMethods : bodies methodForm ["",
      "    /// Call `visit` on each child of `n`, in order.",
      "    fn visit_children(&mut self, n: &N) \x7b",
      "        walk_children(self, n);",
      "    \x7d",
      "",
      "    /// Called for token (terminal symbol) nodes. Does nothing by default.",
      "    fn visit_token(&mut self, _n: &N) \x7b\x7d",
      "\x7d"] =
    [("visit_children", ["        walk_children(self, n);"]), ("visit_token", [])] := by
  have hchildren : ∀ l ∈ ["", "    /// Call `visit` on each child of `n`, in order."],
      after? methodForm.opening l = none :=
    Starts.after?_eq_none (by repeat constructor) (by decide)
  have htoken : ∀ l ∈ ["",
        "    /// Called for token (terminal symbol) nodes. Does nothing by default."],
      after? methodForm.opening l = none :=
    Starts.after?_eq_none (by repeat constructor) (by decide)
  have hwalk := @bodies_method "visit_children" "walk_children" (List.all_eq_true.mp (by decide))
  have hempty : bodies methodForm
      ["    fn visit_token(&mut self, _n: &N) \x7b\x7d", "\x7d"] = [("visit_token", [])] := by
    decide
  refine (bodies_append hchildren _).trans ((hwalk _).trans ?_)
  exact congrArg (_ :: ·) ((bodies_append htoken _).trans hempty)

section

variable (s : Settings) (hr : ∀ c ∈ s.runtime.toList, Settings.isPathChar c)
variable (routes : List Route) (h : ∀ r ∈ routes, r.NameLike)

include h

theorem bodies_visitorTrait : bodies methodForm (visitorTrait s routes) =
    ("visit", ["        dispatch(self, n);"]) ::
      (routes.map fun r => (r.visitName, ["        " ++ (r.walkName ++ "(self, n);")])) ++
        [("visit_children", ["        walk_children(self, n);"]), ("visit_token", [])] := by
  have hheader : ∀ l ∈ header, after? methodForm.opening l = none :=
    Starts.after?_eq_none (by repeat constructor) (by decide)
  have hopening : ∀ l ∈ ["/// Visitor over AST nodes.",
        "///",
        "/// `visit` routes a node to the method named after its tag. Every per-tag",
        "/// method defaults to visiting the node's children.",
        "pub trait AstVisitor<N: " ++ (s.runtime ++ "::TreeNode> \x7b"),
        "    /// Visit `n`, calling the method that matches its tag."],
      after? methodForm.opening l = none :=
    Starts.after?_eq_none (by repeat constructor) (by decide)
  have hexample : ∀ l ∈ (routes.head?.map routingExample).toList,
      after? methodForm.opening l = none := by
    simp only [Option.mem_toList, Option.map_eq_some_iff]
    rintro l ⟨r, -, rfl⟩
    unfold routingExample
    rw [String.append_assoc, String.append_assoc, String.append_assoc]
    exact after?_of_clash (by decide) _
  unfold visitorTrait
  simp only [List.append_assoc, String.append_assoc]
  rw [bodies_append hheader, bodies_append hopening, bodies_append hexample]
  have hvisit := @bodies_method "visit" "dispatch" (List.all_eq_true.mp (by decide))
  have hroutes := bodies_flatMap fun r hr => bodies_tagMethod (h r hr)
  rw [List.cons_append, List.cons_append, List.cons_append, List.nil_append]
  refine (hvisit _).trans ?_
  rw [hroutes, bodies_otherMethods, List.cons_append]
  rfl

theorem declarations_visitorTrait : declarations methodForm (visitorTrait s routes) =
    ⟨"visit", ["dispatch"]⟩ :: (routes.map fun r => ⟨r.visitName, [r.walkName]⟩) ++
      [⟨"visit_children", ["walk_children"]⟩, ⟨"visit_token", []⟩] := by
  have hroutes : (routes.map fun r => Declared.mk r.visitName
      (["        " ++ (r.walkName ++ "(self, n);")].filterMap functionCall?)) =
        routes.map fun r => ⟨r.visitName, [r.walkName]⟩ := by
    refine List.map_congr_left fun r hmem => ?_
    rw [List.filterMap_cons_some (functionCall?_call (h r hmem).walkName), List.filterMap_nil]
  have hvisit : ["        dispatch(self, n);"].filterMap functionCall? = ["dispatch"] := by decide
  have hchildren : ["        walk_children(self, n);"].filterMap functionCall? =
      ["walk_children"] := by decide
  rw [declarations_eq_map_bodies, bodies_visitorTrait s routes h]
  simp only [methodForm, List.cons_append, List.map_cons, List.map_append, List.map_map,
    Function.comp_def, hvisit, hroutes, hchildren, List.filterMap_nil, List.map_nil]

include hr

theorem oneLine_visitorTrait : ∀ l ∈ visitorTrait s routes, OneLine l.toList := by
  have hrt : OneLine s.runtime.toList := oneLine_of_forall (by decide) (by decide) hr
  have hexample : ∀ l ∈ (routes.head?.map routingExample).toList, OneLine l.toList := by
    simp only [Option.mem_toList, Option.map_eq_some_iff]
    rintro l ⟨r, hhead, rfl⟩
    have hn := h r (List.mem_of_head? hhead)
    have htag := oneLine_of_isNameLike hn.tag
    have hvisit := oneLine_of_isNameLike hn.visitName
    unfold routingExample
    simp only [String.toList_append, oneLine_append, htag, hvisit, and_true]
    decide
  have hroutes : ∀ l ∈ routes.flatMap tagMethod, OneLine l.toList := by
    simp only [List.mem_flatMap]
    rintro l ⟨r, hmem, hl⟩
    have hn := h r hmem
    have htag := oneLine_of_isNameLike hn.tag
    have hvisit := oneLine_of_isNameLike hn.visitName
    have hwalk := oneLine_of_isNameLike hn.walkName
    revert l
    simp only [tagMethod, List.forall_mem_cons, String.toList_append, oneLine_append, htag, hvisit,
      hwalk, and_true]
    decide
  unfold visitorTrait
  simp only [List.forall_mem_append]
  refine ⟨⟨⟨⟨⟨oneLine_header, ?_⟩, hexample⟩,
    Starts.oneLine (by repeat constructor) (by decide)⟩, hroutes⟩,
    Starts.oneLine (by repeat constructor) (by decide)⟩
  simp only [List.forall_mem_cons, String.toList_append, oneLine_append, hrt, and_true]
  refine ⟨oneLine_ofList ?_, oneLine_ofList ?_, oneLine_ofList ?_, oneLine_ofList ?_,
    ⟨oneLine_ofList ?_, oneLine_ofList ?_⟩, oneLine_ofList ?_, by simp⟩ <;> decide

end

end Document

end TagVocab

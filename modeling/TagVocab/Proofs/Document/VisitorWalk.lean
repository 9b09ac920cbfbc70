import TagVocab.Proofs.Document.VisitorTrait

/-!
# The functions of a walk document

A written walk document declares the router, the walks of the tags in order and the walk of
children. Their bodies call no method but those of the trait.
-/

namespace TagVocab.Document

open Text

theorem routerArm?_routerArm {r : Route} (h : r.NameLike) :
    routerArm? (routerArm r) = some (r.tag, r.visitName) := by
  have htag := ne_of_isNameLike h.tag (by decide : isNameLike ' ' = false)
  have hvisit := ne_of_isNameLike h.visitName (by decide : isNameLike '(' = false)
  have hcs : (r.tag ++ (" => v." ++ (r.visitName ++ "(n),"))).toList =
      r.tag.toList ++ ' ' :: ("=> v.".toList ++ (r.visitName.toList ++ '(' :: "n),".toList)) := by
    simp
  have hdrop : (r.tag.toList ++ ' ' :: ("=> v.".toList ++
      (r.visitName.toList ++ '(' :: "n),".toList))).dropWhile (· != ' ') =
        " => v.".toList ++ (r.visitName.toList ++ '(' :: "n),".toList) :=
    dropWhile_append_cons (fun c hc => bne_iff_ne.mpr (htag c hc)) (by decide) _
  unfold routerArm
  rw [String.append_assoc, String.append_assoc, String.append_assoc, routerArm?, after?_append, hcs]
  simp only [Option.bind_eq_bind, Option.bind_some]
  rw [upTo?_append htag, hdrop, AstTags.afterLead?_append]
  simp only [Option.bind_some]
  rw [upTo?_append hvisit, String.ofList_toList, String.ofList_toList]
  rfl

theorem methodCall?_routerArm {r : Route} (h : r.NameLike) :
    methodCall? (routerArm r) = some r.visitName := by
  rw [methodCall?, routerArm?_routerArm h]
  rfl

def callStarts : List (List Char) :=
  [.replicate 8 ' ' ++ ['d'], .replicate 4 ' ' ++ ['v'], .replicate 8 ' ' ++ ['v']]

theorem Starts.methodCall?_eq_none {ls : List String} {starts : List LineStart}
    (hs : Starts ls starts) (h : ∀ mark ∈ callStarts, ∀ start ∈ starts, start.lacks mark) :
    ls.filterMap methodCall? = [] := by
  simp only [callStarts, List.forall_mem_cons] at h
  obtain ⟨harm, hcall, hcall', -⟩ := h
  rw [List.filterMap_eq_nil_iff]
  intro l hl
  have ha : after? "        dispatch_tags::" l = none :=
    after?_eq_none_of_append (hs.after?_eq_none harm l hl) "ispatch_tags::"
  have hc : after? "    v." l = none :=
    after?_eq_none_of_append (hs.after?_eq_none hcall l hl) "."
  have hc' : after? "        v." l = none :=
    after?_eq_none_of_append (hs.after?_eq_none hcall' l hl) "."
  rw [methodCall?, routerArm?, ha, hc, hc']
  rfl

/-- A line that neither closes a function nor opens one. -/
def Inner (line : String) : Prop :=
  after? "\x7d" line = none ∧ after? "pub fn " line = none

theorem Inner.ne_brace {line : String} (h : Inner line) : line ≠ "\x7d" :=
  ne_of_after?_eq_none h.1

theorem Starts.inner {ls : List String} {starts : List LineStart} (hs : Starts ls starts)
    (h : ∀ start ∈ starts, start.lacks ['\x7d'] ∧ start.lacks ['p', 'u', 'b']) :
    ∀ l ∈ ls, Inner l := by
  intro l hl
  have hclosing := hs.after?_eq_none (fun start hm => (h start hm).1) l hl
  have hopening := hs.after?_eq_none (fun start hm => (h start hm).2) l hl
  exact ⟨hclosing, after?_eq_none_of_append hopening " fn "⟩

theorem bodies_function {name : String} (h : ∀ c ∈ name.toList, isNameLike c)
    {body : List String} (hbody : ∀ l ∈ body, Inner l) (rest : List String) :
    bodies functionForm (("pub fn " ++ (name ++ "<N, V>(v: &mut V, n: &N)")) ::
        (body ++ "\x7d" :: rest)) = (name, body) :: bodies functionForm rest := by
  have hline : after? functionForm.opening ("pub fn " ++ (name ++ "<N, V>(v: &mut V, n: &N)")) =
      some (name.toList ++ functionForm.behindName :: "N, V>(v: &mut V, n: &N)".toList) := by
    rw [functionForm, after?_append, String.toList_append]
    rfl
  have hname := ne_of_isNameLike h (by decide : isNameLike '<' = false)
  have hd := bodies_cons hline hname (by decide)
    (fun l hl => ⟨(hbody l hl).ne_brace, (hbody l hl).2⟩) (by decide) rest
  rwa [String.ofList_toList] at hd

def routerComment (s : Settings) : List String :=
  ["/// Route `n` to the visitor method matching its tag.",
   "///",
   "/// Tags below `" ++ s.runtime ++ "::PRODUCTION_BASE` are tokens and go to `visit_token`.",
   "/// Every other tag must be one of the AST tags this file was generated from.",
   "///",
   "/// # Panics",
   "///",
   "/// Panics on a non-token tag that matches no AST tag: the tree was built",
   "/// with a different tag vocabulary than this dispatcher.",
   "#[deny(unreachable_patterns)]"]

def routerOpening (s : Settings) : List String :=
  visitorBounds s ++ ["\x7b",
    "    let tag = n.tag();",
    "    if tag < " ++ s.runtime ++ "::PRODUCTION_BASE \x7b",
    "        v.visit_token(n);",
    "        return;",
    "    \x7d",
    ""]

def beforeRouter (s : Settings) : List String :=
  routerComment s ++ "pub fn dispatch<N, V>(v: &mut V, n: &N)" :: routerOpening s

def childrenWalk (s : Settings) : List String :=
  ["", "/// Visit every child of `n` in order, depth-first.",
   "pub fn walk_children<N, V>(v: &mut V, n: &N)"]
    ++ visitorBounds s
    ++ ["\x7b",
        "    for child in n.children() \x7b",
        "        v.visit(child);",
        "    \x7d",
        "\x7d"]

def behindRouter (s : Settings) (routes : List Route) : List String :=
  "\x7d" :: (routes.flatMap (tagWalk s) ++ childrenWalk s)

def tagModuleBody (s : Settings) (tags : List String) : List String :=
  tags.map (tagConstant s) ++ "" :: tags.map (anchorAssertion s)

section

variable (s : Settings)

theorem visitorWalk_eq (routes : List Route) : visitorWalk s routes =
    header ++ (tagModule "dispatch_tags" s (routes.map (·.tag)) true ++
      (beforeRouter s ++ (routerBody routes ++ behindRouter s routes))) := by
  simp [visitorWalk, beforeRouter, routerComment, routerOpening, behindRouter, childrenWalk]

theorem tagModule_nil : tagModule "dispatch_tags" s [] true = [] :=
  rfl

theorem tagModule_cons (tag : String) (tags : List String) :
    tagModule "dispatch_tags" s (tag :: tags) true =
      "mod dispatch_tags \x7b" :: (tagModuleBody s (tag :: tags) ++ ["\x7d", ""]) := by
  simp [tagModule, tagModuleBody]

theorem inner_visitorBounds : ∀ l ∈ visitorBounds s, Inner l := by
  unfold visitorBounds
  simp only [String.append_assoc]
  exact Starts.inner (by repeat constructor) (by decide)

theorem inner_routerOpening : ∀ l ∈ routerOpening s, Inner l := by
  unfold routerOpening
  rw [List.forall_mem_append]
  simp only [String.append_assoc]
  exact ⟨inner_visitorBounds s, Starts.inner (by repeat constructor) (by decide)⟩

theorem inner_routerBody (routes : List Route) : ∀ l ∈ routerBody routes, Inner l := by
  have harms : ∀ l ∈ routes.map routerArm, Inner l := by
    rw [List.forall_mem_map]
    intro r _
    unfold routerArm
    simp only [String.append_assoc]
    exact List.forall_mem_singleton.mp (Starts.inner (by repeat constructor) (by decide))
  unfold routerBody
  split
  · exact Starts.inner (by repeat constructor) (by decide)
  · simp only [List.forall_mem_append]
    exact ⟨⟨Starts.inner (by repeat constructor) (by decide), harms⟩,
      Starts.inner (by repeat constructor) (by decide)⟩

theorem inner_tagConstant (tag : String) : Inner (tagConstant s tag) := by
  unfold tagConstant
  simp only [String.append_assoc]
  exact List.forall_mem_singleton.mp (Starts.inner (by repeat constructor) (by decide))

theorem inner_anchorAssertion (tag : String) : Inner (anchorAssertion s tag) := by
  unfold anchorAssertion
  simp only [String.append_assoc]
  exact List.forall_mem_singleton.mp (Starts.inner (by repeat constructor) (by decide))

theorem inner_tagModuleBody (tags : List String) : ∀ l ∈ tagModuleBody s tags, Inner l := by
  unfold tagModuleBody
  simp only [List.forall_mem_append, List.forall_mem_cons, List.forall_mem_map]
  exact ⟨fun tag _ => inner_tagConstant s tag,
    List.forall_mem_singleton.mp (Starts.inner (by repeat constructor) (by decide)),
    fun tag _ => inner_anchorAssertion s tag⟩

theorem after?_tagModule (tags : List String) :
    ∀ l ∈ tagModule "dispatch_tags" s tags true, after? "pub fn " l = none := by
  cases tags with
  | nil => simp [tagModule_nil]
  | cons tag tags =>
    rw [tagModule_cons, List.forall_mem_cons, List.forall_mem_append]
    exact ⟨after?_ofList (by decide), fun l hl => (inner_tagModuleBody s _ l hl).2,
      Starts.after?_eq_none (by repeat constructor) (by decide)⟩

theorem after?_routerComment : ∀ l ∈ routerComment s, after? "pub fn " l = none := by
  unfold routerComment
  simp only [String.append_assoc]
  exact Starts.after?_eq_none (by repeat constructor) (by decide)

theorem filterMap_methodCall?_visitorBounds : (visitorBounds s).filterMap methodCall? = [] := by
  unfold visitorBounds
  simp only [String.append_assoc]
  exact Starts.methodCall?_eq_none (by repeat constructor) (by decide)

theorem filterMap_methodCall?_routerOpening :
    (routerOpening s).filterMap methodCall? = ["visit_token"] := by
  have hbefore : ["\x7b", "    let tag = n.tag();",
      "    if tag < " ++ (s.runtime ++ "::PRODUCTION_BASE \x7b")].filterMap methodCall? = [] :=
    Starts.methodCall?_eq_none (by repeat constructor) (by decide)
  have htoken : methodCall? "        v.visit_token(n);" = some "visit_token" := by decide
  have hbehind : ["        return;", "    \x7d", ""].filterMap methodCall? = [] :=
    Starts.methodCall?_eq_none (by repeat constructor) (by decide)
  have hsplit : routerOpening s = visitorBounds s ++ (["\x7b", "    let tag = n.tag();",
      "    if tag < " ++ (s.runtime ++ "::PRODUCTION_BASE \x7b")] ++
        "        v.visit_token(n);" :: ["        return;", "    \x7d", ""]) := by
    rw [routerOpening, String.append_assoc]
    rfl
  rw [hsplit, List.filterMap_append, filterMap_methodCall?_visitorBounds, List.filterMap_append,
    hbefore, List.filterMap_cons_some htoken, hbehind]
  rfl

theorem filterMap_methodCall?_routerBody {routes : List Route} (h : ∀ r ∈ routes, r.NameLike) :
    (routerBody routes).filterMap methodCall? = routes.map (·.visitName) := by
  have harms : (routes.map routerArm).filterMap methodCall? = routes.map (·.visitName) :=
    filterMap_map_some fun r hr => methodCall?_routerArm (h r hr)
  have hfirst : ["    match tag \x7b"].filterMap methodCall? = [] :=
    Starts.methodCall?_eq_none (by repeat constructor) (by decide)
  have hlast : ["        _ => panic!(\"Unknown AST node tag \x7btag\x7d\"),", "    \x7d"].filterMap
      methodCall? = [] :=
    Starts.methodCall?_eq_none (by repeat constructor) (by decide)
  unfold routerBody
  split
  · next hempty =>
    rw [List.isEmpty_iff.mp hempty]
    exact Starts.methodCall?_eq_none (by repeat constructor) (by decide)
  · rw [List.filterMap_append, List.filterMap_append, hfirst, harms, hlast, List.nil_append,
      List.append_nil]

theorem bodies_tagWalk {r : Route} (h : r.NameLike) (rest : List String) :
    bodies functionForm (tagWalk s r ++ rest) =
      (r.walkName, visitorBounds s ++ ["\x7b", "    v.visit_children(n);"]) ::
        bodies functionForm rest := by
  have hcomment : ∀ l ∈ ["", "/// Default body of `AstVisitor::" ++ (r.visitName ++ "`.")],
      after? functionForm.opening l = none :=
    Starts.after?_eq_none (by repeat constructor) (by decide)
  have hbody : ∀ l ∈ visitorBounds s ++ ["\x7b", "    v.visit_children(n);"], Inner l := by
    rw [List.forall_mem_append]
    exact ⟨inner_visitorBounds s, Starts.inner (by repeat constructor) (by decide)⟩
  have hfunction := bodies_function h.walkName hbody rest
  rw [← bodies_append hcomment] at hfunction
  simpa [tagWalk, String.append_assoc] using hfunction

def childrenLoop : List String :=
  ["    for child in n.children() \x7b", "        v.visit(child);", "    \x7d"]

theorem bodies_childrenWalk : bodies functionForm (childrenWalk s) =
    [("walk_children", visitorBounds s ++ "\x7b" :: childrenLoop)] := by
  have hcomment : ∀ l ∈ ["", "/// Visit every child of `n` in order, depth-first."],
      after? functionForm.opening l = none :=
    Starts.after?_eq_none (by repeat constructor) (by decide)
  have hbody : ∀ l ∈ visitorBounds s ++ "\x7b" :: childrenLoop, Inner l := by
    rw [List.forall_mem_append]
    exact ⟨inner_visitorBounds s, Starts.inner (by repeat constructor) (by decide)⟩
  have hfunction := @bodies_function "walk_children" (List.all_eq_true.mp (by decide)) _ hbody []
  rw [← bodies_append hcomment, List.append_assoc] at hfunction
  rw [childrenWalk, List.append_assoc]
  exact hfunction

theorem bodies_visitorWalk {routes : List Route} (h : ∀ r ∈ routes, r.NameLike) :
    bodies functionForm (visitorWalk s routes) =
      ("dispatch", routerOpening s ++ routerBody routes) ::
        (routes.map fun r =>
          (r.walkName, visitorBounds s ++ ["\x7b", "    v.visit_children(n);"])) ++
          [("walk_children", visitorBounds s ++ "\x7b" :: childrenLoop)] := by
  have hheader : ∀ l ∈ header, after? functionForm.opening l = none :=
    Starts.after?_eq_none (by repeat constructor) (by decide)
  have hbody : ∀ l ∈ routerOpening s ++ routerBody routes, Inner l := by
    rw [List.forall_mem_append]
    exact ⟨inner_routerOpening s, inner_routerBody routes⟩
  have hwalks := bodies_flatMap fun r hr => bodies_tagWalk s (h r hr)
  have hdispatch := @bodies_function "dispatch" (List.all_eq_true.mp (by decide)) _ hbody
    (routes.flatMap (tagWalk s) ++ childrenWalk s)
  rw [hwalks, bodies_childrenWalk, List.append_assoc] at hdispatch
  rw [visitorWalk_eq, bodies_append hheader, bodies_append (after?_tagModule s _),
    beforeRouter, List.append_assoc, bodies_append (after?_routerComment s), List.cons_append]
  exact hdispatch

theorem declarations_visitorWalk {routes : List Route} (h : ∀ r ∈ routes, r.NameLike) :
    declarations functionForm (visitorWalk s routes) =
      ⟨"dispatch", "visit_token" :: routes.map (·.visitName)⟩ ::
        (routes.map fun r => ⟨r.walkName, ["visit_children"]⟩) ++ [⟨"walk_children", ["visit"]⟩] := by
  have hdispatch : (routerOpening s ++ routerBody routes).filterMap methodCall? =
      "visit_token" :: routes.map (·.visitName) := by
    rw [List.filterMap_append, filterMap_methodCall?_routerOpening,
      filterMap_methodCall?_routerBody h, List.singleton_append]
  have hwalk : (visitorBounds s ++ ["\x7b", "    v.visit_children(n);"]).filterMap methodCall? =
      ["visit_children"] := by
    rw [List.filterMap_append, filterMap_methodCall?_visitorBounds]
    decide
  have hloop : (visitorBounds s ++ "\x7b" :: childrenLoop).filterMap methodCall? = ["visit"] := by
    rw [List.filterMap_append, filterMap_methodCall?_visitorBounds]
    decide +kernel
  rw [declarations_eq_map_bodies, bodies_visitorWalk s h]
  simp only [functionForm, List.cons_append, List.map_cons, List.map_append, List.map_map,
    Function.comp_def, hdispatch, hwalk, hloop, List.map_nil]

end

section

variable (s : Settings) (hr : ∀ c ∈ s.runtime.toList, Settings.isPathChar c)
variable (he : ∀ c ∈ s.tagEnum.toList, Settings.isPathChar c)

include hr

theorem oneLine_visitorBounds : ∀ l ∈ visitorBounds s, OneLine l.toList := by
  have hrt : OneLine s.runtime.toList := oneLine_of_forall (by decide) (by decide) hr
  unfold visitorBounds
  simp only [List.forall_mem_cons, List.not_mem_nil, false_implies, implies_true,
    String.toList_append, oneLine_append, hrt, and_true]
  and_intros <;> exact oneLine_ofList (by decide)

theorem oneLine_beforeRouter : ∀ l ∈ beforeRouter s, OneLine l.toList := by
  have hrt : OneLine s.runtime.toList := oneLine_of_forall (by decide) (by decide) hr
  have hbounds := oneLine_visitorBounds s hr
  unfold beforeRouter routerComment routerOpening
  simp only [List.forall_mem_append, List.forall_mem_cons, List.not_mem_nil, false_implies,
    implies_true, String.toList_append, oneLine_append, hrt, and_true]
  and_intros <;> first | exact hbounds | exact oneLine_ofList (by decide)

theorem oneLine_behindRouter {routes : List Route} (h : ∀ r ∈ routes, r.NameLike) :
    ∀ l ∈ behindRouter s routes, OneLine l.toList := by
  have hbounds := oneLine_visitorBounds s hr
  have hwalk : ∀ r ∈ routes, ∀ l ∈ tagWalk s r, OneLine l.toList := by
    intro r hmem
    have hvisit := oneLine_of_isNameLike (h r hmem).visitName
    have hwalk := oneLine_of_isNameLike (h r hmem).walkName
    unfold tagWalk
    simp only [List.forall_mem_append]
    refine ⟨⟨?_, hbounds⟩, Starts.oneLine (by repeat constructor) (by decide)⟩
    simp only [List.forall_mem_cons, List.not_mem_nil, false_implies, implies_true,
      String.toList_append, oneLine_append, hvisit, hwalk, and_true]
    and_intros <;> exact oneLine_ofList (by decide)
  unfold behindRouter childrenWalk
  rw [List.forall_mem_cons]
  simp only [List.forall_mem_append]
  refine ⟨oneLine_ofList (by decide), ?_,
    ⟨Starts.oneLine (by repeat constructor) (by decide), hbounds⟩,
    Starts.oneLine (by repeat constructor) (by decide)⟩
  intro l hl
  obtain ⟨r, hmem, hlr⟩ := List.mem_flatMap.mp hl
  exact hwalk r hmem l hlr

include he

theorem oneLine_tagModule {name : String} (hname : OneLine name.toList) {tags : List String}
    (h : ∀ tag ∈ tags, ∀ c ∈ tag.toList, isNameLike c) (anchored : Bool) :
    ∀ l ∈ tagModule name s tags anchored, OneLine l.toList := by
  have hrt : OneLine s.runtime.toList := oneLine_of_forall (by decide) (by decide) hr
  have hen : OneLine s.tagEnum.toList := oneLine_of_forall (by decide) (by decide) he
  have hopening : OneLine ("mod " ++ name ++ " \x7b").toList := by
    simp only [String.toList_append, oneLine_append]
    exact ⟨⟨oneLine_ofList (by decide), hname⟩, oneLine_ofList (by decide)⟩
  have hconstant : ∀ l ∈ tags.map (tagConstant s), OneLine l.toList := by
    rw [List.forall_mem_map]
    intro tag hmem
    have htag := oneLine_of_isNameLike (h tag hmem)
    unfold tagConstant
    simp only [String.toList_append, oneLine_append, hrt, hen, htag, and_true]
    and_intros <;> exact oneLine_ofList (by decide)
  have hassertion : ∀ l ∈ tags.map (anchorAssertion s), OneLine l.toList := by
    rw [List.forall_mem_map]
    intro tag hmem
    have htag := oneLine_of_isNameLike (h tag hmem)
    unfold anchorAssertion
    simp only [String.toList_append, oneLine_append, hrt, htag, and_true]
    and_intros <;> exact oneLine_ofList (by decide)
  have hassertions : ∀ l ∈ (if anchored then "" :: tags.map (anchorAssertion s) else []),
      OneLine l.toList := by
    split
    · rw [List.forall_mem_cons]
      exact ⟨oneLine_ofList (by decide), hassertion⟩
    · simp
  unfold tagModule
  split
  · simp
  · rw [List.forall_mem_append, List.forall_mem_append, List.forall_mem_append,
      List.forall_mem_singleton]
    exact ⟨⟨⟨hopening, hconstant⟩, hassertions⟩, Starts.oneLine (by repeat constructor) (by decide)⟩

theorem oneLine_visitorWalk {routes : List Route} (h : ∀ r ∈ routes, r.NameLike) :
    ∀ l ∈ visitorWalk s routes, OneLine l.toList := by
  have hrt : OneLine s.runtime.toList := oneLine_of_forall (by decide) (by decide) hr
  have htags : ∀ tag ∈ routes.map (·.tag), ∀ c ∈ tag.toList, isNameLike c := by
    rw [List.forall_mem_map]
    exact fun r hmem => (h r hmem).tag
  have hbody : ∀ l ∈ routerBody routes, OneLine l.toList := by
    have harms : ∀ l ∈ routes.map routerArm, OneLine l.toList := by
      rw [List.forall_mem_map]
      intro r hmem
      have htag := oneLine_of_isNameLike (h r hmem).tag
      have hvisit := oneLine_of_isNameLike (h r hmem).visitName
      unfold routerArm
      simp only [String.toList_append, oneLine_append, htag, hvisit, and_true]
      and_intros <;> exact oneLine_ofList (by decide)
    unfold routerBody
    split
    · exact Starts.oneLine (by repeat constructor) (by decide)
    · simp only [List.forall_mem_append]
      exact ⟨⟨Starts.oneLine (by repeat constructor) (by decide), harms⟩,
        Starts.oneLine (by repeat constructor) (by decide)⟩
  rw [visitorWalk_eq]
  simp only [List.forall_mem_append]
  exact ⟨oneLine_header, oneLine_tagModule s hr he (by decide) htags true,
    oneLine_beforeRouter s hr, hbody, oneLine_behindRouter s hr h⟩

end

end TagVocab.Document

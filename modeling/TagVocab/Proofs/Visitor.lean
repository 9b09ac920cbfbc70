import TagVocab.Generation
import TagVocab.Proofs.Document.Router

/-!
# The two visitor documents

For every enumeration that can be routed, the trait and the walk document fit together: each method,
function and constant that one of them refers to is defined once between them.
-/

namespace TagVocab

open Document Text

namespace Document

/-- The declarations of both documents agree about the routes, and each name that is called or routed
to is declared once. -/
structure FitTogether (methods : List Declared) (walk : WalkParts) (routes : List Route) :
    Prop where
  methods_eq : methods = ⟨"visit", ["dispatch"]⟩ ::
    (routes.map fun r => ⟨"visit_" ++ r.stem, ["walk_" ++ r.stem]⟩) ++
      [⟨"visit_children", ["walk_children"]⟩, ⟨"visit_token", []⟩]
  methods_nodup : (methods.map (·.name)).Nodup
  functions_eq : walk.functions =
    ⟨"dispatch", "visit_token" :: routes.map fun r => "visit_" ++ r.stem⟩ ::
      (routes.map fun r => ⟨"walk_" ++ r.stem, ["visit_children"]⟩) ++
        [⟨"walk_children", ["visit"]⟩]
  functions_nodup : (walk.functions.map (·.name)).Nodup
  arms_eq : walk.arms = routes.map fun r => (r.tag, "visit_" ++ r.stem)
  one_fallback : walk.fallbacks = 1
  constants_eq : walk.constants = routes.map (·.tag)
  anchored_eq : walk.anchored = routes.map (·.tag)
  tags_nodup : (routes.map (·.tag)).Nodup
  called_functions : ∀ method ∈ methods, ∀ name ∈ method.calls,
    (walk.functions.map (·.name)).count name = 1
  called_methods : ∀ function ∈ walk.functions, ∀ name ∈ function.calls,
    (methods.map (·.name)).count name = 1
  routed_constants : ∀ arm ∈ walk.arms, walk.constants.count arm.1 = 1

end Document

namespace AstTags.Routed

variable {lead : String} {tags : List String} {routes : List Route} (h : Routed lead tags routes)

include h

theorem nodup_map_append (start : String) : (routes.map fun r => start ++ r.stem).Nodup := by
  have hmap := h.stems_nodup.map fun stem other heq => (String.append_right_inj start).mp heq
  rwa [List.map_map] at hmap

theorem methodNames_nodup :
    ("visit" :: (routes.map fun r => "visit_" ++ r.stem) ++
      ["visit_children", "visit_token"]).Nodup := by
  have hnew : ∀ name ∈ routes.map (fun r => "visit_" ++ r.stem), name ∉ reservedMethods := by
    rw [List.forall_mem_map]
    exact h.unreserved
  rw [List.cons_append, List.nodup_cons, List.nodup_append, List.mem_append, not_or]
  refine ⟨⟨fun hmem => hnew _ hmem (by decide), by decide⟩, h.nodup_map_append "visit_", by decide,
    ?_⟩
  rintro name hname _ hreserved rfl
  exact hnew name hname (List.mem_cons_of_mem "visit" hreserved)

theorem functionNames_nodup :
    ("dispatch" :: (routes.map fun r => "walk_" ++ r.stem) ++ ["walk_children"]).Nodup := by
  rw [List.cons_append, List.nodup_cons, List.nodup_append, List.mem_append, not_or]
  refine ⟨⟨?_, by decide⟩, h.nodup_map_append "walk_", by decide, ?_⟩
  · intro hmem
    obtain ⟨r, -, heq⟩ := List.mem_map.mp hmem
    have hl := congrArg String.toList heq
    simp at hl
  · intro name hname other hother heq
    obtain ⟨r, hr, rfl⟩ := List.mem_map.mp hname
    rw [List.mem_singleton.mp hother] at heq
    -- The walk of children is protected by the method of children.
    have hstem : r.stem = "children" := (String.append_right_inj "walk_").mp heq
    refine h.unreserved r hr ?_
    rw [Route.visitName, hstem]
    decide

end AstTags.Routed

namespace Document

section

variable (s : Settings) (hr : ∀ c ∈ s.runtime.toList, Settings.isPathChar c)
variable (he : ∀ c ∈ s.tagEnum.toList, Settings.isPathChar c)
variable {routes : List Route} (h : ∀ r ∈ routes, r.NameLike)

include hr h in
theorem traitMethods_visitorTrait : traitMethods (text (visitorTrait s routes)) =
    ⟨"visit", ["dispatch"]⟩ :: (routes.map fun r => ⟨r.visitName, [r.walkName]⟩) ++
      [⟨"visit_children", ["walk_children"]⟩, ⟨"visit_token", []⟩] := by
  rw [traitMethods, linesOf_text _ (oneLine_visitorTrait s hr routes h)]
  exact declarations_visitorTrait s routes h

include hr he h in
theorem walkParts_visitorWalk : walkParts (text (visitorWalk s routes)) =
    { functions := ⟨"dispatch", "visit_token" :: routes.map (·.visitName)⟩ ::
        (routes.map fun r => ⟨r.walkName, ["visit_children"]⟩) ++ [⟨"walk_children", ["visit"]⟩]
      arms := routes.map fun r => (r.tag, r.visitName)
      fallbacks := 1
      constants := routes.map (·.tag)
      anchored := routes.map (·.tag) } := by
  have htags : ∀ tag ∈ routes.map (·.tag), ∀ c ∈ tag.toList, isNameLike c := by
    rw [List.forall_mem_map]
    exact fun r hmem => (h r hmem).tag
  obtain ⟨hconstants, hanchored⟩ := filterMap_tagModuleBody s hr htags
  have hmodule := moduleLines_visitorWalk s routes
  rw [walkParts, linesOf_text _ (oneLine_visitorWalk s hr he h), declarations_visitorWalk s h,
    filterMap_routerArm?_visitorWalk s h, countP_isFallback_visitorWalk s routes, hmodule]
  split
  · next hempty => simp [hempty]
  · rw [hconstants, hanchored]

end

theorem fitTogether (s : Settings) (hr : ∀ c ∈ s.runtime.toList, Settings.isPathChar c)
    (he : ∀ c ∈ s.tagEnum.toList, Settings.isPathChar c) {lead : String} {tags : List String}
    {routes : List Route} (hrouted : AstTags.Routed lead tags routes) (htags : tags.Nodup)
    (h : ∀ r ∈ routes, r.NameLike) :
    FitTogether (traitMethods (text (visitorTrait s routes)))
      (walkParts (text (visitorWalk s routes))) routes := by
  have hmethods := traitMethods_visitorTrait s hr h
  have hwalk := walkParts_visitorWalk s hr he h
  have hmethodNames : (traitMethods (text (visitorTrait s routes))).map (·.name) =
      "visit" :: (routes.map fun r => "visit_" ++ r.stem) ++ ["visit_children", "visit_token"] := by
    rw [hmethods]
    simp [Route.visitName]
  have hfunctionNames : (walkParts (text (visitorWalk s routes))).functions.map (·.name) =
      "dispatch" :: (routes.map fun r => "walk_" ++ r.stem) ++ ["walk_children"] := by
    rw [hwalk]
    simp [Route.walkName]
  have hmethodsNodup := hrouted.methodNames_nodup
  have hfunctionsNodup := hrouted.functionNames_nodup
  have htagsNodup : (routes.map (·.tag)).Nodup := by rwa [hrouted.tags_eq]
  constructor
  case methods_eq => exact hmethods
  case methods_nodup => rwa [hmethodNames]
  case functions_eq =>
    rw [hwalk]
    rfl
  case functions_nodup => rwa [hfunctionNames]
  case arms_eq =>
    rw [hwalk]
    rfl
  case one_fallback => rw [hwalk]
  case constants_eq => rw [hwalk]
  case anchored_eq => rw [hwalk]
  case tags_nodup => exact htagsNodup
  case called_functions =>
    rw [hfunctionNames, hmethods]
    intro method hmethod name hname
    refine List.count_eq_one_of_mem hfunctionsNodup ?_
    simp only [List.mem_append, List.mem_cons, List.mem_map, List.not_mem_nil, or_false] at hmethod
    rcases hmethod with (rfl | ⟨r, hmem, rfl⟩) | rfl | rfl
    · simpa using Or.inl hname
    · obtain rfl := List.mem_singleton.mp hname
      simpa using Or.inr (Or.inl ⟨r, hmem, rfl⟩)
    · simpa using Or.inr (Or.inr hname)
    · simp at hname
  case called_methods =>
    rw [hmethodNames, hwalk]
    intro function hfunction name hname
    refine List.count_eq_one_of_mem hmethodsNodup ?_
    simp only [List.mem_append, List.mem_cons, List.mem_map, List.not_mem_nil, or_false]
      at hfunction
    rcases hfunction with (rfl | ⟨r, hmem, rfl⟩) | rfl
    · rcases List.mem_cons.mp hname with rfl | hname
      · simp
      · obtain ⟨r, hmem, rfl⟩ := List.mem_map.mp hname
        simpa using Or.inr (Or.inl ⟨r, hmem, rfl⟩)
    · obtain rfl := List.mem_singleton.mp hname
      simp
    · obtain rfl := List.mem_singleton.mp hname
      simp
  case routed_constants =>
    rw [hwalk]
    intro arm harm
    obtain ⟨r, hmem, rfl⟩ := List.mem_map.mp harm
    exact List.count_eq_one_of_mem htagsNodup (List.mem_map_of_mem hmem)

end Document

namespace Generation

theorem nameLike_of_routes {s : Settings} (hs : s.validate = .ok ()) {ast : String}
    {routes : List Route}
    (h : AstTags.Routed s.lead (AstTags.ofText s.lead ast).names routes) :
    ∀ r ∈ routes, r.NameLike := by
  have hlead := Settings.isIdentifierChar_of_isIdentifier
    ((Settings.validate_eq_ok_iff s).mp hs).1
  intro r hmem
  have htag : r.tag ∈ (AstTags.ofText s.lead ast).names := by
    rw [← h.tags_eq]
    exact List.mem_map_of_mem hmem
  have hn := AstTags.isNameLike_of_mem_names hlead htag
  exact ⟨hn, AstTags.isNameLike_stem (h.route_eq r hmem) hn⟩

theorem exists_routes_of_ofAst {s : Settings} {ast : String} {artifacts : List Artifact}
    (h : ofAst s ast = .ok artifacts) :
    s.validate = .ok () ∧ ∃ routes, (AstTags.ofText s.lead ast).routes = .ok routes ∧
      artifacts = astArtifacts s routes := by
  unfold ofAst validSettings foundRoutes at h
  cases hs : s.validate with
  | error defect => simp [hs, Except.mapError, bind, Except.bind] at h
  | ok u =>
    cases hroutes : (AstTags.ofText s.lead ast).routes with
    | error fault => simp [hs, hroutes, Except.mapError, bind, Except.bind] at h
    | ok routes =>
      simp only [hs, hroutes, Except.mapError, bind, Except.bind, pure, Except.pure,
        Except.ok.injEq] at h
      exact ⟨rfl, routes, rfl, h.symm⟩

/-- The two visitor documents of a run fit together, with one route for each tag in order, and with
stems that are the lower-case forms of what stands behind the lead. -/
theorem ofAst_fitTogether {s : Settings} {ast : String} {artifacts : List Artifact}
    (h : ofAst s ast = .ok artifacts) :
    ∃ routes visitor walk names,
      artifacts = [⟨s.outputs.visitor, visitor⟩, ⟨s.outputs.visitorWalk, walk⟩, names] ∧
      routes.map (·.tag) = (AstTags.ofText s.lead ast).names ∧
      (∀ r ∈ routes, ∃ word, r.tag.toList = s.lead.toList ++ word ∧
        r.stem.toList = Text.lower word) ∧
      Document.FitTogether (traitMethods visitor) (walkParts walk) routes := by
  obtain ⟨hs, routes, hroutes, rfl⟩ := exists_routes_of_ofAst h
  have hrouted : AstTags.Routed s.lead (AstTags.ofText s.lead ast).names routes :=
    AstTags.routed_routes hroutes
  have hnames : (AstTags.ofText s.lead ast).names.Nodup :=
    (AstTags.ofText s.lead ast).tags.names_nodup
  have hfit := fitTogether s (Settings.isPathChar_runtime hs) (Settings.isPathChar_tagEnum hs)
    hrouted hnames (nameLike_of_routes hs hrouted)
  exact ⟨routes, _, _, _, rfl, hrouted.tags_eq,
    fun r hmem => AstTags.stem_of_route (hrouted.route_eq r hmem), hfit⟩

theorem ofAst_fitTogether_default :
    ∃ artifacts, ofAst {} "  AST_UNIT = 10000,\nAST_Ärger, // note\n" = .ok artifacts ∧
      ∃ routes visitor walk names,
        artifacts = [⟨"ast_visitor.rs", visitor⟩, ⟨"ast_visitor_walk.rs", walk⟩, names] ∧
        routes.map (·.tag) = ["AST_UNIT", "AST_Ärger"] ∧
        Document.FitTogether (traitMethods visitor) (walkParts walk) routes := by
  have hnames : (AstTags.ofText "AST_" "  AST_UNIT = 10000,\nAST_Ärger, // note\n").names =
      ["AST_UNIT", "AST_Ärger"] := by
    rw [AstTags.names_ofText]
    decide
  have hroutes : (AstTags.ofText "AST_" "  AST_UNIT = 10000,\nAST_Ärger, // note\n").routes =
      .ok [⟨"AST_UNIT", "unit"⟩, ⟨"AST_Ärger", "ärger"⟩] := by
    rw [AstTags.routes, hnames]
    rfl
  have hrun : ofAst {} "  AST_UNIT = 10000,\nAST_Ärger, // note\n" =
      .ok (astArtifacts {} [⟨"AST_UNIT", "unit"⟩, ⟨"AST_Ärger", "ärger"⟩]) := by
    have hvalid : ({} : Settings).validate = .ok () := rfl
    have hlead : ({} : Settings).lead = "AST_" := rfl
    rw [ofAst, validSettings, foundRoutes, hvalid, hlead, hroutes]
    rfl
  obtain ⟨routes, visitor, walk, names, hartifacts, htags, -, hfit⟩ := ofAst_fitTogether hrun
  exact ⟨_, hrun, routes, visitor, walk, names, hartifacts, htags.trans hnames, hfit⟩

end Generation

end TagVocab

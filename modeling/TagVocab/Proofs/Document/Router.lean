import TagVocab.Proofs.Document.VisitorWalk

/-!
# The router and its constants

The router of a written walk document has one arm for each tag and one fallback. The module of
constants declares each tag and asserts where it lies. No other line of the document looks like any
of these.
-/

namespace TagVocab.Document

open Text

/-- A line that has nothing to do with the arms of a router, and opens no module of tags. -/
def Quiet (line : String) : Prop :=
  routerArm? line = none ∧ isFallback line = false ∧ after? "mod dispatch_tags \x7b" line = none

def loudStarts : List (List Char) :=
  [.replicate 8 ' ' ++ ['d'], .replicate 8 ' ' ++ ['_'], .replicate 4 ' ' ++ ['p', 'a'],
   ['m']]

theorem Starts.quiet {ls : List String} {starts : List LineStart} (hs : Starts ls starts)
    (h : ∀ mark ∈ loudStarts, ∀ start ∈ starts, start.lacks mark) : ∀ l ∈ ls, Quiet l := by
  simp only [loudStarts, List.forall_mem_cons] at h
  obtain ⟨harm, hfallback, hpanic, hmodule, -⟩ := h
  intro l hl
  have ha : after? "        dispatch_tags::" l = none :=
    after?_eq_none_of_append (hs.after?_eq_none harm l hl) "ispatch_tags::"
  have hf : after? "        _ => panic!(\"Unknown AST node tag " l = none :=
    after?_eq_none_of_append (hs.after?_eq_none hfallback l hl) " => panic!(\"Unknown AST node tag "
  have hp : after? "    panic!(\"Unknown AST node tag " l = none :=
    after?_eq_none_of_append (hs.after?_eq_none hpanic l hl) "nic!(\"Unknown AST node tag "
  refine ⟨?_, ?_, after?_eq_none_of_append (hs.after?_eq_none hmodule l hl) "od dispatch_tags \x7b"⟩
  · rw [routerArm?, ha]
    rfl
  · rw [isFallback, hf, hp]
    rfl

section

variable {ls : List String} (h : ∀ l ∈ ls, Quiet l)

include h

theorem filterMap_routerArm?_of_quiet : ls.filterMap routerArm? = [] :=
  List.filterMap_eq_nil_iff.mpr fun l hl => (h l hl).1

theorem countP_isFallback_of_quiet : ls.countP isFallback = 0 :=
  List.countP_eq_zero.mpr fun l hl => by simp [(h l hl).2.1]

theorem after?_of_quiet : ∀ l ∈ ls, after? "mod dispatch_tags \x7b" l = none :=
  fun l hl => (h l hl).2.2

end

theorem quiet_header : ∀ l ∈ header, Quiet l :=
  Starts.quiet (by repeat constructor) (by decide)

section

variable (s : Settings)

theorem quiet_visitorBounds : ∀ l ∈ visitorBounds s, Quiet l := by
  unfold visitorBounds
  simp only [String.append_assoc]
  exact Starts.quiet (by repeat constructor) (by decide)

theorem quiet_routerComment : ∀ l ∈ routerComment s, Quiet l := by
  unfold routerComment
  simp only [String.append_assoc]
  exact Starts.quiet (by repeat constructor) (by decide)

theorem quiet_routerOpening : ∀ l ∈ routerOpening s, Quiet l := by
  unfold routerOpening
  rw [List.forall_mem_append]
  simp only [String.append_assoc]
  exact ⟨quiet_visitorBounds s, Starts.quiet (by repeat constructor) (by decide)⟩

theorem quiet_beforeRouter : ∀ l ∈ beforeRouter s, Quiet l := by
  rw [beforeRouter, List.forall_mem_append, List.forall_mem_cons]
  exact ⟨quiet_routerComment s,
    List.forall_mem_singleton.mp (Starts.quiet (by repeat constructor) (by decide)),
    quiet_routerOpening s⟩

theorem quiet_tagWalk (r : Route) : ∀ l ∈ tagWalk s r, Quiet l := by
  unfold tagWalk
  simp only [List.forall_mem_append, String.append_assoc]
  exact ⟨⟨Starts.quiet (by repeat constructor) (by decide), quiet_visitorBounds s⟩,
    Starts.quiet (by repeat constructor) (by decide)⟩

theorem quiet_childrenWalk : ∀ l ∈ childrenWalk s, Quiet l := by
  unfold childrenWalk
  simp only [List.forall_mem_append]
  exact ⟨⟨Starts.quiet (by repeat constructor) (by decide), quiet_visitorBounds s⟩,
    Starts.quiet (by repeat constructor) (by decide)⟩

theorem quiet_behindRouter (routes : List Route) : ∀ l ∈ behindRouter s routes, Quiet l := by
  rw [behindRouter, List.forall_mem_cons, List.forall_mem_append]
  refine ⟨List.forall_mem_singleton.mp (Starts.quiet (by repeat constructor) (by decide)), ?_,
    quiet_childrenWalk s⟩
  intro l hl
  obtain ⟨r, -, hr⟩ := List.mem_flatMap.mp hl
  exact quiet_tagWalk s r l hr

theorem quiet_tagConstant (tag : String) : Quiet (tagConstant s tag) := by
  unfold tagConstant
  simp only [String.append_assoc]
  exact List.forall_mem_singleton.mp (Starts.quiet (by repeat constructor) (by decide))

theorem quiet_anchorAssertion (tag : String) : Quiet (anchorAssertion s tag) := by
  unfold anchorAssertion
  simp only [String.append_assoc]
  exact List.forall_mem_singleton.mp (Starts.quiet (by repeat constructor) (by decide))

theorem quiet_tagModuleBody (tags : List String) : ∀ l ∈ tagModuleBody s tags, Quiet l := by
  unfold tagModuleBody
  simp only [List.forall_mem_append, List.forall_mem_cons, List.forall_mem_map]
  exact ⟨fun tag _ => quiet_tagConstant s tag,
    List.forall_mem_singleton.mp (Starts.quiet (by repeat constructor) (by decide)),
    fun tag _ => quiet_anchorAssertion s tag⟩

theorem noArm_tagModule (tags : List String) :
    ∀ l ∈ tagModule "dispatch_tags" s tags true, routerArm? l = none ∧ isFallback l = false := by
  cases tags with
  | nil => simp [tagModule_nil]
  | cons tag tags =>
    have hbody : ∀ l ∈ tagModuleBody s (tag :: tags) ++ ["\x7d", ""], Quiet l := by
      rw [List.forall_mem_append]
      exact ⟨quiet_tagModuleBody s _, Starts.quiet (by repeat constructor) (by decide)⟩
    rw [tagModule_cons, List.forall_mem_cons]
    exact ⟨by decide +kernel, fun l hl => ⟨(hbody l hl).1, (hbody l hl).2.1⟩⟩

end

theorem quiet_match : ∀ l ∈ ["    match tag \x7b"], Quiet l :=
  Starts.quiet (by repeat constructor) (by decide)

theorem filterMap_routerArm?_routerBody {routes : List Route} (h : ∀ r ∈ routes, r.NameLike) :
    (routerBody routes).filterMap routerArm? = routes.map fun r => (r.tag, r.visitName) := by
  have harms : (routes.map routerArm).filterMap routerArm? =
      routes.map fun r => (r.tag, r.visitName) :=
    filterMap_map_some fun r hr => routerArm?_routerArm (h r hr)
  have hfirst := filterMap_routerArm?_of_quiet quiet_match
  have hlast : ["        _ => panic!(\"Unknown AST node tag \x7btag\x7d\"),", "    \x7d"].filterMap
      routerArm? = [] := by decide +kernel
  unfold routerBody
  split
  · next hempty =>
    rw [List.isEmpty_iff.mp hempty]
    decide +kernel
  · rw [List.filterMap_append, List.filterMap_append, hfirst, harms, hlast, List.nil_append,
      List.append_nil]

theorem isFallback_routerArm (r : Route) : isFallback (routerArm r) = false := by
  unfold routerArm
  simp only [String.append_assoc]
  rw [isFallback, after?_of_clash (by decide +kernel) _, after?_of_clash (by decide +kernel) _]
  rfl

/-- The router gives up in one place, whether it has arms or not. -/
theorem countP_isFallback_routerBody (routes : List Route) :
    (routerBody routes).countP isFallback = 1 := by
  have harms : (routes.map routerArm).countP isFallback = 0 := by
    rw [List.countP_eq_zero, List.forall_mem_map]
    intro r _
    simp [isFallback_routerArm]
  have hfirst := countP_isFallback_of_quiet quiet_match
  have hlast : ["        _ => panic!(\"Unknown AST node tag \x7btag\x7d\"),", "    \x7d"].countP
      isFallback = 1 := by decide +kernel
  unfold routerBody
  split
  · decide +kernel
  · rw [List.countP_append, List.countP_append, hfirst, harms, hlast]

section

variable (s : Settings)

theorem filterMap_routerArm?_visitorWalk {routes : List Route} (h : ∀ r ∈ routes, r.NameLike) :
    (visitorWalk s routes).filterMap routerArm? = routes.map fun r => (r.tag, r.visitName) := by
  have hheader := filterMap_routerArm?_of_quiet quiet_header
  have hmodule : (tagModule "dispatch_tags" s (routes.map (·.tag)) true).filterMap routerArm? =
      [] :=
    List.filterMap_eq_nil_iff.mpr fun l hl => (noArm_tagModule s _ l hl).1
  have hbefore := filterMap_routerArm?_of_quiet (quiet_beforeRouter s)
  have hbehind := filterMap_routerArm?_of_quiet (quiet_behindRouter s routes)
  rw [visitorWalk_eq, List.filterMap_append, List.filterMap_append, List.filterMap_append,
    List.filterMap_append, hheader, hmodule, hbefore, filterMap_routerArm?_routerBody h, hbehind,
    List.append_nil]
  rfl

theorem countP_isFallback_visitorWalk (routes : List Route) :
    (visitorWalk s routes).countP isFallback = 1 := by
  have hheader := countP_isFallback_of_quiet quiet_header
  have hmodule : (tagModule "dispatch_tags" s (routes.map (·.tag)) true).countP isFallback = 0 :=
    List.countP_eq_zero.mpr fun l hl => by simp [(noArm_tagModule s _ l hl).2]
  have hbefore := countP_isFallback_of_quiet (quiet_beforeRouter s)
  have hbehind := countP_isFallback_of_quiet (quiet_behindRouter s routes)
  rw [visitorWalk_eq, List.countP_append, List.countP_append, List.countP_append,
    List.countP_append, hheader, hmodule, hbefore, countP_isFallback_routerBody, hbehind]

theorem moduleLines_visitorWalk (routes : List Route) :
    moduleLines "dispatch_tags" (visitorWalk s routes) =
      if routes = [] then [] else tagModuleBody s (routes.map (·.tag)) := by
  have hname : "mod " ++ "dispatch_tags" ++ " \x7b" = "mod dispatch_tags \x7b" := rfl
  rw [visitorWalk_eq]
  cases routes with
  | nil =>
    -- Without tags there is no module, and no other line looks like the start of one.
    refine moduleLines_eq_nil ?_
    simp only [hname, List.map_nil, tagModule_nil, List.nil_append, List.forall_mem_append]
    exact ⟨after?_of_quiet quiet_header, after?_of_quiet (quiet_beforeRouter s), by decide +kernel,
      after?_of_quiet (quiet_behindRouter s [])⟩
  | cons r routes =>
    have hbrace : ∀ l ∈ tagModuleBody s (r.tag :: routes.map (·.tag)), l ≠ "\x7d" :=
      fun l hl => (inner_tagModuleBody s _ l hl).ne_brace
    have hheader := after?_of_quiet quiet_header
    rw [← hname] at hheader
    rw [List.map_cons, tagModule_cons, List.cons_append, List.append_assoc, ← hname]
    exact moduleLines_append hheader hbrace _

theorem declaredConstant?_tagConstant {tag : String} (h : ∀ c ∈ tag.toList, isNameLike c) :
    declaredConstant? (tagConstant s tag) = some tag := by
  have htag := ne_of_isNameLike h (by decide : isNameLike ':' = false)
  unfold tagConstant
  simp only [String.append_assoc]
  rw [declaredConstant?, after?_append, Option.bind_some, String.toList_append, String.toList_append]
  exact (upTo?_append htag _).trans (congrArg some String.ofList_toList)

theorem declaredConstant?_anchorAssertion (tag : String) :
    declaredConstant? (anchorAssertion s tag) = none := by
  unfold anchorAssertion
  simp only [String.append_assoc]
  rw [declaredConstant?, after?_of_clash (by decide) _]
  rfl

theorem anchoredConstant?_tagConstant (tag : String) :
    anchoredConstant? (tagConstant s tag) = none := by
  unfold tagConstant
  simp only [String.append_assoc]
  rw [anchoredConstant?, after?_of_clash (by decide) _]
  rfl

theorem anchoredConstant?_anchorAssertion (hr : ∀ c ∈ s.runtime.toList, Settings.isPathChar c)
    {tag : String} (h : ∀ c ∈ tag.toList, isNameLike c) :
    anchoredConstant? (anchorAssertion s tag) = some tag := by
  have htag := ne_of_isNameLike h (by decide : isNameLike ' ' = false)
  have hcomma := Settings.bne_of_isPathChar hr (by decide : Settings.isPathChar ',' = false)
  obtain ⟨behind, hbehind⟩ : ∃ behind, behind = " \"".toList ++ (tag.toList ++
      " lies in the token range\");".toList) := ⟨_, rfl⟩
  have hcs : (tag ++ (" >= " ++ (s.runtime ++ ("::PRODUCTION_BASE, \"" ++ (tag ++
      " lies in the token range\");"))))).toList =
        tag.toList ++ ' ' :: (">= ".toList ++ (s.runtime.toList ++ ("::PRODUCTION_BASE".toList ++
          ',' :: behind))) := by
    rw [hbehind]
    simp
  have hdrop : (tag.toList ++ ' ' :: (">= ".toList ++ (s.runtime.toList ++
      ("::PRODUCTION_BASE".toList ++ ',' :: behind)))).dropWhile (· != ' ') =
        " >= ".toList ++ (s.runtime.toList ++ ("::PRODUCTION_BASE".toList ++ ',' :: behind)) :=
    dropWhile_append_cons (fun c hc => bne_iff_ne.mpr (htag c hc)) (by decide) _
  have htake : (s.runtime.toList ++ ("::PRODUCTION_BASE".toList ++ ',' :: behind)).takeWhile
      (· != ',') = s.runtime.toList ++ "::PRODUCTION_BASE".toList := by
    rw [List.takeWhile_append_of_pos hcomma,
      takeWhile_append_cons (List.all_eq_true.mp (by decide)) (by decide)]
  unfold anchorAssertion
  simp only [String.append_assoc]
  rw [anchoredConstant?, after?_append, hcs]
  simp only [Option.bind_eq_bind, Option.bind_some]
  rw [hdrop, AstTags.afterLead?_append, Option.bind_some, htake, if_pos (List.suffix_append _ _),
    upTo?_append htag, String.ofList_toList]

theorem filterMap_tagModuleBody (hr : ∀ c ∈ s.runtime.toList, Settings.isPathChar c)
    {tags : List String} (h : ∀ tag ∈ tags, ∀ c ∈ tag.toList, isNameLike c) :
    (tagModuleBody s tags).filterMap declaredConstant? = tags ∧
      (tagModuleBody s tags).filterMap anchoredConstant? = tags := by
  have hdeclared : (tags.map (tagConstant s)).filterMap declaredConstant? = tags.map id :=
    filterMap_map_some fun tag ht => declaredConstant?_tagConstant s (h tag ht)
  have hdeclared' : (tags.map (anchorAssertion s)).filterMap declaredConstant? = [] := by
    rw [List.filterMap_eq_nil_iff, List.forall_mem_map]
    exact fun tag _ => declaredConstant?_anchorAssertion s tag
  have hanchored : (tags.map (tagConstant s)).filterMap anchoredConstant? = [] := by
    rw [List.filterMap_eq_nil_iff, List.forall_mem_map]
    exact fun tag _ => anchoredConstant?_tagConstant s tag
  have hanchored' : (tags.map (anchorAssertion s)).filterMap anchoredConstant? = tags.map id :=
    filterMap_map_some fun tag ht => anchoredConstant?_anchorAssertion s hr (h tag ht)
  unfold tagModuleBody
  constructor
  · rw [List.filterMap_append, hdeclared, List.filterMap_cons_none (by decide), hdeclared',
      List.append_nil, List.map_id]
  · rw [List.filterMap_append, hanchored, List.filterMap_cons_none (by decide), hanchored',
      List.nil_append, List.map_id]

end

end TagVocab.Document

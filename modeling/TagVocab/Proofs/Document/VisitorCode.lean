import TagVocab.Proofs.Document.Router

/-!
# The code of the visitor documents

The statements in the bodies that a trait and a walk document declare, as their lines give them, and
the variants that the constants of the router stand for.
-/

namespace TagVocab.Document

open Text

inductive CodeLine where
  | blank
  | letTag
  | ifToken
  | forKids
  | matchTag
  | returns
  | close
  | function (name : String)
  | method (name : String)
  | kidMethod (name : String)
  | arm (tag method : String)
  | otherTag
  | giveUp
deriving DecidableEq

def fixedLines : List (String × CodeLine) :=
  [("", .blank),
   ("    let tag = n.tag();", .letTag),
   ("    for child in n.children() \x7b", .forKids),
   ("    match tag \x7b", .matchTag),
   ("        return;", .returns),
   ("    \x7d", .close),
   ("        _ => panic!(\"Unknown AST node tag \x7btag\x7d\"),", .otherTag),
   ("    panic!(\"Unknown AST node tag \x7btag\x7d\");", .giveUp)]

def nameIn? (start ending line : String) : Option String :=
  (between? start ending line).filter fun name => name.toList.all isNameLike

def codeArm? (line : String) : Option CodeLine := do
  let arm ← between? "        dispatch_tags::" "(n)," line
  let method ← AstTags.afterLead? " => v.".toList (arm.toList.dropWhile isNameLike)
  if method.all isNameLike then
    some (.arm (String.ofList (arm.toList.takeWhile isNameLike)) (String.ofList method))
  else none

/-- What a line says. A line of another form is refused. -/
def codeLine? (line : String) : Option CodeLine :=
  codeArm? line
    <|> (nameIn? "        v." "(child);" line).map .kidMethod
    <|> (nameIn? "        v." "(n);" line).map .method
    <|> (nameIn? "    v." "(n);" line).map .method
    <|> (nameIn? "        " "(self, n);" line).map .function
    <|> (between? "    if tag < " "::PRODUCTION_BASE \x7b" line).map (fun _ => .ifToken)
    <|> fixedLines.lookup line

/-- A statement about a node and the visitor that it is shown to. -/
inductive VisitorStep where
  | function (name : String)
  | method (name : String)
  | eachKid (name : String)
  /-- Calls a method and returns, if the node is a token. -/
  | tokenReturn (name : String)
  /-- Calls the method of the first constant that is the node's tag, and gives up if none is. -/
  | matchTag (arms : List (String × String))
deriving DecidableEq

def codeArms? : List CodeLine → Option (List (String × String))
  | [.otherTag, .close] => some []
  | .arm tag method :: rest => (codeArms? rest).map ((tag, method) :: ·)
  | _ => none

/-- Giving up at once is a choice among no constants. Nothing stands behind a choice. -/
def visitorSteps? : List CodeLine → Option (List VisitorStep)
  | [] => some []
  | .blank :: rest => visitorSteps? rest
  | .letTag :: rest => visitorSteps? rest
  | .function name :: rest => (visitorSteps? rest).map (.function name :: ·)
  | .method name :: rest => (visitorSteps? rest).map (.method name :: ·)
  | .forKids :: .kidMethod name :: .close :: rest =>
    (visitorSteps? rest).map (.eachKid name :: ·)
  | .ifToken :: .method name :: .returns :: .close :: rest =>
    (visitorSteps? rest).map (.tokenReturn name :: ·)
  | .matchTag :: rest => (codeArms? rest).map fun arms => [.matchTag arms]
  | [.giveUp] => some [.matchTag []]
  | _ => none

def methodSteps? (body : List String) : Option (List VisitorStep) :=
  (body.mapM codeLine?).bind visitorSteps?

def functionSteps? (body : List String) : Option (List VisitorStep) :=
  (block? "\x7b" body).bind fun (_, body) => methodSteps? body

def constantVariant? (line : String) : Option (String × String) := do
  let cs ← after? "    pub(super) const " line
  let name ← upTo? ':' cs
  let value ← AstTags.afterLead? "= ".toList (cs.dropWhile (· != '='))
  let _ ← AstTags.afterLead? " as ".toList (value.dropWhile (· != ' '))
  return (name, ← upTo? ' ' value)

def constantVariants (name : String) (doc : List String) : List (String × String) :=
  (moduleLines name doc).filterMap constantVariant?

/-- The bodies of the trait's methods and of the free functions, and the router's constants. -/
structure VisitorCode where
  methods : List (String × List VisitorStep)
  functions : List (String × List VisitorStep)
  constants : List (String × String)

def steps? (read : List String → Option (List VisitorStep)) (declared : String × List String) :
    Option (String × List VisitorStep) :=
  (read declared.2).map (declared.1, ·)

def visitorCode? (visitor walk : String) : Option VisitorCode := do
  let methods ← (bodies methodForm (linesOf visitor)).mapM (steps? methodSteps?)
  let functions ← (bodies functionForm (linesOf walk)).mapM (steps? functionSteps?)
  return ⟨methods, functions, constantVariants "dispatch_tags" (linesOf walk)⟩

def variantPath (s : Settings) (tag : String) : String :=
  s.tagEnum ++ ("::" ++ tag)

def visitorCode (s : Settings) (routes : List Route) : VisitorCode where
  methods := ("visit", [.function "dispatch"]) ::
    (routes.map fun r => (r.visitName, [.function r.walkName])) ++
      [("visit_children", [.function "walk_children"]), ("visit_token", [])]
  functions := ("dispatch", [.tokenReturn "visit_token",
      .matchTag (routes.map fun r => (r.tag, r.visitName))]) ::
    (routes.map fun r => (r.walkName, [.method "visit_children"])) ++
      [("walk_children", [.eachKid "visit"])]
  constants := routes.map fun r => (r.tag, variantPath s r.tag)

theorem between?_eq_none {start line : String} (h : after? start line = none) (ending : String) :
    between? start ending line = none := by
  rw [between?, h, Option.bind_none]

theorem nameIn?_eq_none {start line : String} (h : after? start line = none) (ending : String) :
    nameIn? start ending line = none := by
  rw [nameIn?, between?_eq_none h, Option.filter_none]

theorem codeArm?_eq_none {line : String} (h : after? "        dispatch_tags::" line = none) :
    codeArm? line = none := by
  rw [codeArm?, between?_eq_none h]
  rfl

theorem nameIn?_append {name : String} (h : ∀ c ∈ name.toList, isNameLike c)
    (start ending : String) : nameIn? start ending (start ++ (name ++ ending)) = some name := by
  rw [nameIn?, between?_append, Option.filter_some, if_pos (List.all_eq_true.mpr h)]

theorem codeLine?_routerArm {r : Route} (h : r.NameLike) :
    codeLine? (routerArm r) = some (.arm r.tag r.visitName) := by
  have hsplit : routerArm r =
      "        dispatch_tags::" ++ ((r.tag ++ (" => v." ++ r.visitName)) ++ "(n),") := by
    unfold routerArm
    simp only [String.append_assoc]
  have hcs : (r.tag ++ (" => v." ++ r.visitName)).toList =
      r.tag.toList ++ ' ' :: ("=> v.".toList ++ r.visitName.toList) := by
    simp
  have hlead : AstTags.afterLead? " => v.".toList
      (' ' :: ("=> v.".toList ++ r.visitName.toList)) = some r.visitName.toList :=
    AstTags.afterLead?_append " => v.".toList r.visitName.toList
  have hspace : isNameLike ' ' = false := by decide
  have harm : codeArm? (routerArm r) = some (.arm r.tag r.visitName) := by
    rw [codeArm?, hsplit, between?_append]
    simp only [Option.bind_eq_bind, Option.bind_some]
    rw [hcs, dropWhile_append_cons h.tag hspace, takeWhile_append_cons h.tag hspace, hlead,
      Option.bind_some, if_pos (List.all_eq_true.mpr h.visitName), String.ofList_toList,
      String.ofList_toList]
  rw [codeLine?, harm]
  rfl

theorem codeLine?_of_lacks {line : String} (harm : after? "        dispatch_tags::" line = none)
    (hinner : after? "        v." line = none) (houter : after? "    v." line = none) :
    codeLine? line = ((nameIn? "        " "(self, n);" line).map .function
      <|> (between? "    if tag < " "::PRODUCTION_BASE \x7b" line).map (fun _ => .ifToken)
      <|> fixedLines.lookup line) := by
  rw [codeLine?, codeArm?_eq_none harm, nameIn?_eq_none hinner, nameIn?_eq_none hinner,
    nameIn?_eq_none houter]
  rfl

theorem codeLine?_walkCall {r : Route} (h : r.NameLike) :
    codeLine? ("        " ++ (r.walkName ++ "(self, n);")) = some (.function r.walkName) := by
  have hline : "        " ++ (r.walkName ++ "(self, n);") =
      "        walk_" ++ (r.stem ++ "(self, n);") := by
    rw [Route.walkName, String.append_assoc, ← String.append_assoc]
    rfl
  have hcall := nameIn?_append h.walkName "        " "(self, n);"
  rw [hline] at hcall ⊢
  rw [codeLine?_of_lacks (after?_of_clash (by decide) _) (after?_of_clash (by decide) _)
    (after?_of_clash (by decide) _), hcall]
  rfl

theorem codeLine?_ifToken (s : Settings) :
    codeLine? ("    if tag < " ++ (s.runtime ++ "::PRODUCTION_BASE \x7b")) = some .ifToken := by
  have hcall : nameIn? "        " "(self, n);"
      ("    if tag < " ++ (s.runtime ++ "::PRODUCTION_BASE \x7b")) = none :=
    nameIn?_eq_none (after?_of_clash (by decide) _) _
  rw [codeLine?_of_lacks (after?_of_clash (by decide) _) (after?_of_clash (by decide) _)
    (after?_of_clash (by decide) _), hcall, between?_append]
  rfl

theorem methodSteps?_walkCall {r : Route} (h : r.NameLike) :
    methodSteps? ["        " ++ (r.walkName ++ "(self, n);")] = some [.function r.walkName] := by
  rw [methodSteps?, List.mapM_cons, codeLine?_walkCall h]
  rfl

theorem functionSteps?_append (s : Settings) (body : List String) :
    functionSteps? (visitorBounds s ++ "\x7b" :: body) = methodSteps? body := by
  have hbrace : ∀ l ∈ visitorBounds s, after? "\x7b" l = none := by
    unfold visitorBounds
    simp only [String.append_assoc]
    exact Starts.after?_eq_none (by repeat constructor) (by decide)
  rw [functionSteps?, block?_append fun l hl => ne_of_after?_eq_none (hbrace l hl)]
  rfl

theorem codeArms?_map_append (arms : List (String × String)) :
    codeArms? (arms.map (fun arm => .arm arm.1 arm.2) ++ [.otherTag, .close]) = some arms := by
  induction arms with
  | nil => rfl
  | cons arm arms ih =>
    rw [List.map_cons, List.cons_append, codeArms?, ih]
    rfl

def routerLead (s : Settings) : List String :=
  ["    let tag = n.tag();",
   "    if tag < " ++ s.runtime ++ "::PRODUCTION_BASE \x7b",
   "        v.visit_token(n);",
   "        return;",
   "    \x7d",
   ""]

theorem mapM_codeLine?_routerLead (s : Settings) : (routerLead s).mapM codeLine? =
    some [.letTag, .ifToken, .method "visit_token", .returns, .close, .blank] := by
  have hlet : codeLine? "    let tag = n.tag();" = some .letTag := by decide
  have hbehind : ["        v.visit_token(n);", "        return;", "    \x7d", ""].mapM codeLine? =
      some [.method "visit_token", .returns, .close, .blank] := by decide +kernel
  rw [routerLead, List.mapM_cons, hlet, List.mapM_cons, String.append_assoc, codeLine?_ifToken,
    hbehind]
  rfl

theorem exists_codeLines_routerBody {routes : List Route} (h : ∀ r ∈ routes, r.NameLike) :
    ∃ lines, (routerBody routes).mapM codeLine? = some lines ∧
      visitorSteps? lines = some [.matchTag (routes.map fun r => (r.tag, r.visitName))] := by
  have harms := mapM_map_some fun r hmem => codeLine?_routerArm (h r hmem)
  have hfirst : ["    match tag \x7b"].mapM codeLine? = some [.matchTag] := by decide +kernel
  have hlast : ["        _ => panic!(\"Unknown AST node tag \x7btag\x7d\"),", "    \x7d"].mapM
      codeLine? = some [.otherTag, .close] := by decide +kernel
  unfold routerBody
  split
  · next hempty =>
    refine ⟨[.giveUp], by decide +kernel, ?_⟩
    rw [List.isEmpty_iff.mp hempty]
    rfl
  · refine ⟨.matchTag :: (routes.map (fun r => .arm r.tag r.visitName) ++ [.otherTag, .close]),
      ?_, ?_⟩
    · simp only [List.mapM_append, hfirst, harms, hlast]
      rfl
    · have hcodeArms := codeArms?_map_append (routes.map fun r => (r.tag, r.visitName))
      rw [List.map_map] at hcodeArms
      rw [visitorSteps?]
      exact congrArg (Option.map _) hcodeArms

theorem visitorSteps?_routerLead (lines : List CodeLine) :
    visitorSteps? ([.letTag, .ifToken, .method "visit_token", .returns, .close, .blank] ++ lines) =
      (visitorSteps? lines).map (.tokenReturn "visit_token" :: ·) := by
  simp [visitorSteps?]

theorem functionSteps?_dispatch (s : Settings) {routes : List Route}
    (h : ∀ r ∈ routes, r.NameLike) : functionSteps? (routerOpening s ++ routerBody routes) =
      some [.tokenReturn "visit_token", .matchTag (routes.map fun r => (r.tag, r.visitName))] := by
  have hsplit : routerOpening s ++ routerBody routes =
      visitorBounds s ++ "\x7b" :: (routerLead s ++ routerBody routes) := by
    simp [routerOpening, routerLead]
  obtain ⟨lines, hlines, hsteps⟩ := exists_codeLines_routerBody h
  rw [hsplit, functionSteps?_append, methodSteps?, List.mapM_append, mapM_codeLine?_routerLead,
    hlines]
  exact (visitorSteps?_routerLead lines).trans (congrArg (Option.map _) hsteps)

theorem functionSteps?_tagWalk (s : Settings) :
    functionSteps? (visitorBounds s ++ ["\x7b", "    v.visit_children(n);"]) =
      some [.method "visit_children"] := by
  have hbody : methodSteps? ["    v.visit_children(n);"] = some [.method "visit_children"] := by
    decide +kernel
  rw [functionSteps?_append, hbody]

theorem functionSteps?_childrenWalk (s : Settings) :
    functionSteps? (visitorBounds s ++ "\x7b" :: childrenLoop) = some [.eachKid "visit"] := by
  have hbody : methodSteps? childrenLoop = some [.eachKid "visit"] := by decide +kernel
  rw [functionSteps?_append, hbody]

section

variable (s : Settings) (hr : ∀ c ∈ s.runtime.toList, Settings.isPathChar c)
variable (he : ∀ c ∈ s.tagEnum.toList, Settings.isPathChar c)

include hr he

theorem constantVariant?_tagConstant {tag : String} (h : ∀ c ∈ tag.toList, isNameLike c) :
    constantVariant? (tagConstant s tag) = some (tag, variantPath s tag) := by
  -- The value has a name of its own, so that no step in front of it takes it apart.
  obtain ⟨value, hvalue⟩ : ∃ value, value = (variantPath s tag).toList ++
      ' ' :: ("as ".toList ++ (s.runtime.toList ++ "::NodeTag;".toList)) := ⟨_, rfl⟩
  have hsplit : tagConstant s tag = "    pub(super) const " ++ (tag ++ (": " ++ (s.runtime ++
      ("::NodeTag = " ++ (variantPath s tag ++ (" as " ++ (s.runtime ++ "::NodeTag;"))))))) := by
    unfold tagConstant variantPath
    simp only [String.append_assoc]
  have hcs : (tag ++ (": " ++ (s.runtime ++ ("::NodeTag = " ++ (variantPath s tag ++ (" as " ++
      (s.runtime ++ "::NodeTag;"))))))).toList = tag.toList ++ ':' :: (" ".toList ++
        (s.runtime.toList ++ ("::NodeTag ".toList ++ '=' :: ' ' :: value))) := by
    rw [hvalue]
    simp
  have hname := ne_of_isNameLike h (by decide : isNameLike ':' = false)
  have hdrop : (tag.toList ++ ':' :: (" ".toList ++ (s.runtime.toList ++ ("::NodeTag ".toList ++
      '=' :: ' ' :: value)))).dropWhile (· != '=') = "= ".toList ++ value := by
    have htag := ne_of_isNameLike h (by decide : isNameLike '=' = false)
    have hruntime := Settings.bne_of_isPathChar hr (by decide : Settings.isPathChar '=' = false)
    rw [List.dropWhile_append_of_pos fun c hc => bne_iff_ne.mpr (htag c hc),
      List.dropWhile_cons_of_pos (by decide),
      List.dropWhile_append_of_pos (List.all_eq_true.mp (by decide)),
      List.dropWhile_append_of_pos hruntime,
      dropWhile_append_cons (List.all_eq_true.mp (by decide)) (by decide)]
    rfl
  have hpath : ∀ c ∈ (variantPath s tag).toList, c ≠ ' ' := by
    have htag := ne_of_isNameLike h (by decide : isNameLike ' ' = false)
    have henum := Settings.bne_of_isPathChar he (by decide : Settings.isPathChar ' ' = false)
    simp only [variantPath, String.toList_append, List.forall_mem_append]
    exact ⟨fun c hc => bne_iff_ne.mp (henum c hc), by simp, htag⟩
  have hbehind : value.dropWhile (· != ' ') =
      " as ".toList ++ (s.runtime.toList ++ "::NodeTag;".toList) := by
    rw [hvalue, dropWhile_append_cons (fun c hc => bne_iff_ne.mpr (hpath c hc)) (by decide)]
    rfl
  rw [constantVariant?, hsplit, after?_append, hcs]
  simp only [Option.bind_eq_bind, Option.bind_some]
  rw [upTo?_append hname, hdrop, AstTags.afterLead?_append, Option.bind_some, Option.bind_some,
    hbehind, AstTags.afterLead?_append, Option.bind_some, hvalue, upTo?_append hpath,
    String.ofList_toList, String.ofList_toList]
  rfl

theorem filterMap_constantVariant?_tagModuleBody {tags : List String}
    (h : ∀ tag ∈ tags, ∀ c ∈ tag.toList, isNameLike c) :
    (tagModuleBody s tags).filterMap constantVariant? =
      tags.map fun tag => (tag, variantPath s tag) := by
  have hconstants := filterMap_map_some fun tag hmem =>
    constantVariant?_tagConstant s hr he (h tag hmem)
  have hassertions : (tags.map (anchorAssertion s)).filterMap constantVariant? = [] := by
    rw [List.filterMap_eq_nil_iff, List.forall_mem_map]
    intro tag _
    unfold anchorAssertion
    simp only [String.append_assoc]
    rw [constantVariant?, after?_of_clash (by decide) _]
    rfl
  unfold tagModuleBody
  rw [List.filterMap_append, hconstants, List.filterMap_cons_none (by decide), hassertions,
    List.append_nil]

theorem constantVariants_visitorWalk {routes : List Route} (h : ∀ r ∈ routes, r.NameLike) :
    constantVariants "dispatch_tags" (visitorWalk s routes) =
      routes.map fun r => (r.tag, variantPath s r.tag) := by
  have htags : ∀ tag ∈ routes.map (·.tag), ∀ c ∈ tag.toList, isNameLike c := by
    rw [List.forall_mem_map]
    exact fun r hmem => (h r hmem).tag
  rw [constantVariants, moduleLines_visitorWalk]
  split
  · next hempty => simp [hempty]
  · rw [filterMap_constantVariant?_tagModuleBody s hr he htags, List.map_map]
    rfl

end

section

variable (s : Settings) {routes : List Route} (h : ∀ r ∈ routes, r.NameLike)

include h

theorem mapM_steps?_visitorTrait :
    (bodies methodForm (visitorTrait s routes)).mapM (steps? methodSteps?) =
      some (visitorCode s routes).methods := by
  have hmethods : (routes.map fun r =>
      (r.visitName, ["        " ++ (r.walkName ++ "(self, n);")])).mapM (steps? methodSteps?) =
        some (routes.map fun r => (r.visitName, [.function r.walkName])) := by
    refine mapM_map_some fun r hmem => ?_
    rw [steps?, methodSteps?_walkCall (h r hmem)]
    rfl
  have hvisit : steps? methodSteps? ("visit", ["        dispatch(self, n);"]) =
      some ("visit", [.function "dispatch"]) := by decide +kernel
  have hothers : [("visit_children", ["        walk_children(self, n);"]), ("visit_token", [])].mapM
      (steps? methodSteps?) =
        some [("visit_children", [.function "walk_children"]), ("visit_token", [])] := by
    decide +kernel
  rw [bodies_visitorTrait s routes h, List.mapM_append, List.mapM_cons, hvisit, hmethods, hothers]
  rfl

theorem mapM_steps?_visitorWalk :
    (bodies functionForm (visitorWalk s routes)).mapM (steps? functionSteps?) =
      some (visitorCode s routes).functions := by
  have hwalks : (routes.map fun r =>
      (r.walkName, visitorBounds s ++ ["\x7b", "    v.visit_children(n);"])).mapM
        (steps? functionSteps?) =
          some (routes.map fun r => (r.walkName, [.method "visit_children"])) := by
    refine mapM_map_some fun r _ => ?_
    rw [steps?, functionSteps?_tagWalk]
    rfl
  rw [bodies_visitorWalk s h, List.mapM_append, List.mapM_cons, hwalks, List.mapM_cons, steps?,
    functionSteps?_dispatch s h, steps?, functionSteps?_childrenWalk]
  rfl

theorem visitorCode?_documents (hr : ∀ c ∈ s.runtime.toList, Settings.isPathChar c)
    (he : ∀ c ∈ s.tagEnum.toList, Settings.isPathChar c) :
    visitorCode? (text (visitorTrait s routes)) (text (visitorWalk s routes)) =
      some (visitorCode s routes) := by
  rw [visitorCode?, linesOf_text _ (oneLine_visitorTrait s hr routes h),
    linesOf_text _ (oneLine_visitorWalk s hr he h), mapM_steps?_visitorTrait s h,
    mapM_steps?_visitorWalk s h, constantVariants_visitorWalk s hr he h]
  rfl

end

end TagVocab.Document

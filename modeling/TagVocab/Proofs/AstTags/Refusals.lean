import TagVocab.Proofs.AstTags.Clashes

/-!
# Refused tags

Tags are routed one after the other, and the first one that has no method of its own is reported.
Every tag of a text has its lead in front of a word, so nothing but its stem can be held against it:
the stem is one of the visitor's own, or an earlier tag has it already.
-/

namespace TagVocab.AstTags

open Text

variable {lead text tag : String} {before tags : List String} {fault : RouteFault}

def routeOf (lead tag : String) : Route :=
  ⟨tag, stemOf lead tag⟩

def StemsFree (lead : String) (tags : List String) : Prop :=
  (tags.map (stemOf lead)).Nodup ∧ ∀ tag ∈ tags, stemOf lead tag ∉ reservedStems

/-- The stem of a tag is reserved, or it is that of a tag `before` it. -/
def Refused (lead : String) (before : List String) (tag : String) : Prop :=
  stemOf lead tag ∈ reservedStems ∨ ∃ other ∈ before, stemOf lead other = stemOf lead tag

/-- What is reported of a refused tag. That its stem is reserved comes first. -/
inductive Reported (lead : String) (before : List String) (tag : String) : RouteFault → Prop where
  | reserved (h : stemOf lead tag ∈ reservedStems) :
      Reported lead before tag (.shadows tag ("visit_" ++ stemOf lead tag))
  | taken {other : String} (hfree : stemOf lead tag ∉ reservedStems) (hother : other ∈ before)
      (h : stemOf lead other = stemOf lead tag) :
      Reported lead before tag (.collides other tag ("visit_" ++ stemOf lead tag))

theorem Reported.refused (h : Reported lead before tag fault) : Refused lead before tag := by
  cases h with
  | reserved h => exact Or.inl h
  | taken hfree hother h => exact Or.inr ⟨_, hother, h⟩

theorem Reported.kind_eq (h : Reported lead before tag fault) :
    fault.failure.kind = .invariantViolation := by
  cases h <;> rfl

theorem Reported.context_eq (h : Reported lead before tag fault) :
    fault.failure.context = [("tag", tag)] := by
  cases h <;> rfl

theorem exists_routes_iff_stemsFree (hroutable : ∀ tag ∈ tags, ∃ r, route lead tag = .ok r) :
    (∃ routes, routesAfter lead [] tags = .ok routes) ↔ StemsFree lead tags :=
  exists_routesAfter_iff hroutable List.nodup_nil

theorem routesAfter_cons_cases (hroutable : ∃ r, route lead tag = .ok r) :
    (∃ fault, routesAfter lead (before.map (routeOf lead)) (tag :: tags) = .error fault ∧
      Reported lead before tag fault) ∨
    (¬ Refused lead before tag ∧ routesAfter lead (before.map (routeOf lead)) (tag :: tags) =
      routesAfter lead ((before ++ [tag]).map (routeOf lead)) tags) := by
  obtain ⟨r, hr⟩ := hroutable
  obtain rfl := eq_of_route hr
  have hreserved := visitName_mem_reservedMethods_iff ⟨tag, stemOf lead tag⟩
  rw [routesAfter, hr]
  dsimp only
  by_cases hstem : stemOf lead tag ∈ reservedStems
  · rw [if_pos (hreserved.mpr hstem)]
    exact Or.inl ⟨_, rfl, .reserved hstem⟩
  · rw [if_neg (mt hreserved.mp hstem)]
    cases hfind : (before.map (routeOf lead)).find? (·.stem = stemOf lead tag) with
    | some r =>
      obtain ⟨other, hother, rfl⟩ := List.mem_map.mp (List.mem_of_find?_eq_some hfind)
      have hsame : stemOf lead other = stemOf lead tag := by
        have hstems := List.find?_some hfind
        exact of_decide_eq_true hstems
      exact Or.inl ⟨_, rfl, .taken hstem hother hsame⟩
    | none =>
      refine Or.inr ⟨?_, ?_⟩
      · rintro (h | ⟨other, hother, hsame⟩)
        · exact hstem h
        · exact find?_stem_eq_none_iff.mp hfind
            (List.mem_map.mpr ⟨routeOf lead other, List.mem_map_of_mem hother, hsame⟩)
      · rw [List.map_append]
        rfl

/-- A run that ends early has met only tags that are not refused before the one that it reports. -/
theorem exists_reported_of_routesAfter (hroutable : ∀ tag ∈ tags, ∃ r, route lead tag = .ok r)
    (h : routesAfter lead (before.map (routeOf lead)) tags = .error fault) :
    ∃ met tag rest, tags = met ++ tag :: rest ∧ Reported lead (before ++ met) tag fault ∧
      ∀ earlier other later, met = earlier ++ other :: later →
        ¬ Refused lead (before ++ earlier) other := by
  induction tags generalizing before with
  | nil => cases h
  | cons tag tags ih =>
    obtain ⟨htag, hrest⟩ := List.forall_mem_cons.mp hroutable
    obtain ⟨fault', hstep, hreported⟩ | ⟨hnew, hstep⟩ := routesAfter_cons_cases htag
    · obtain rfl := Except.error.inj (hstep.symm.trans h)
      refine ⟨[], tag, tags, rfl, ?_, by simp⟩
      rwa [List.append_nil]
    · obtain ⟨met, refused, rest, rfl, hreported, hmet⟩ := ih hrest (hstep.symm.trans h)
      refine ⟨tag :: met, refused, rest, rfl, ?_, ?_⟩
      · rwa [List.append_cons]
      · intro earlier other later hsplit
        cases earlier with
        | nil =>
          obtain ⟨rfl, -⟩ := List.cons.inj hsplit
          rwa [List.append_nil]
        | cons first earlier =>
          obtain ⟨rfl, hbehind⟩ := List.cons.inj hsplit
          rw [List.append_cons]
          exact hmet earlier other later hbehind

theorem eq_map_routeOf {routes : List Route} (h : (ofText lead text).routes = .ok routes) :
    routes = (ofText lead text).names.map (routeOf lead) := by
  have hrouted : Routed lead (ofText lead text).names routes := routed_routes h
  have hroute : routes.map (fun r => routeOf lead r.tag) = routes :=
    (List.map_congr_left fun r hr => (eq_of_route (hrouted.route_eq r hr)).symm).trans
      routes.map_id'
  rw [← hrouted.tags_eq, List.map_map]
  exact hroute.symm

theorem stemOf_of_mem_names (h : tag ∈ (ofText lead text).names) :
    ∃ word, word ≠ [] ∧ tag.toList = lead.toList ++ word ∧
      (stemOf lead tag).toList = lower word := by
  obtain ⟨word, hne, -, htag⟩ := eq_append_of_mem_names h
  refine ⟨word, hne, htag, ?_⟩
  rw [stemOf, String.toList_ofList, htag, List.drop_left]

/-- The tags of a text are routed exactly if their stems are free, each of them to its stem, which
is the word behind the lead in lower case. Otherwise the first tag is reported whose stem is reserved
or that of an earlier tag. No tag is ever reported as malformed. -/
theorem routes_refuse_first (lead text : String) :
    (∀ tag ∈ (ofText lead text).names, ∃ word, word ≠ [] ∧ tag.toList = lead.toList ++ word ∧
      (stemOf lead tag).toList = lower word) ∧
    (∀ fault, (ofText lead text).routes = .error fault →
      fault.failure.kind ≠ .malformedTagName) ∧
    (∀ routes, (ofText lead text).routes = .ok routes ↔
      StemsFree lead (ofText lead text).names ∧
        routes = (ofText lead text).names.map (routeOf lead)) ∧
    (¬ StemsFree lead (ofText lead text).names →
      ∃ before tag after fault, (ofText lead text).names = before ++ tag :: after ∧
        Refused lead before tag ∧
        (∀ earlier other later, before = earlier ++ other :: later →
          ¬ Refused lead earlier other) ∧
        (ofText lead text).routes = .error fault ∧ Reported lead before tag fault ∧
        fault.failure.kind = .invariantViolation ∧ fault.failure.context = [("tag", tag)]) := by
  have hroutable : ∀ tag ∈ (ofText lead text).names, ∃ r, route lead tag = .ok r :=
    fun tag htag => exists_route_of_mem_names htag
  have hfree : (∃ routes, (ofText lead text).routes = .ok routes) ↔
      StemsFree lead (ofText lead text).names := exists_routes_iff_stemsFree hroutable
  have hreported : ∀ fault, (ofText lead text).routes = .error fault →
      ∃ before tag after, (ofText lead text).names = before ++ tag :: after ∧
        Reported lead before tag fault ∧ ∀ earlier other later,
          before = earlier ++ other :: later → ¬ Refused lead earlier other := fun fault h =>
    @exists_reported_of_routesAfter lead [] _ fault hroutable h
  refine ⟨fun tag htag => stemOf_of_mem_names htag, ?_, ?_, ?_⟩
  · intro fault h
    obtain ⟨before, tag, after, -, hfault, -⟩ := hreported fault h
    simp [hfault.kind_eq]
  · intro routes
    constructor
    · intro h
      exact ⟨hfree.mp ⟨routes, h⟩, eq_map_routeOf h⟩
    · rintro ⟨hstems, hroutes⟩
      obtain ⟨found, h⟩ := hfree.mpr hstems
      rw [hroutes, ← eq_map_routeOf h, h]
  · intro hstems
    cases h : (ofText lead text).routes with
    | ok routes => exact absurd (hfree.mp ⟨routes, h⟩) hstems
    | error fault =>
      obtain ⟨before, tag, after, hnames, hfault, hfirst⟩ := hreported fault h
      exact ⟨before, tag, after, fault, hnames, hfault.refused, hfirst, rfl, hfault,
        hfault.kind_eq, hfault.context_eq⟩

def caseVariants : String :=
  "AST_A,\nAST_b,\nAST_a,\nAST_CHILDREN,\n"

theorem names_caseVariants :
    (ofText "AST_" caseVariants).names = ["AST_A", "AST_b", "AST_a", "AST_CHILDREN"] := by
  rw [names_ofText]
  decide

theorem routes_refuse_first_caseVariants :
    ¬ StemsFree "AST_" (ofText "AST_" caseVariants).names ∧
    ∃ before after, (ofText "AST_" caseVariants).names = before ++ "AST_a" :: after ∧
      Refused "AST_" before "AST_a" ∧
      (ofText "AST_" caseVariants).routes = .error (.collides "AST_A" "AST_a" "visit_a") := by
  have hclash : ¬ StemsFree "AST_" (ofText "AST_" caseVariants).names := by
    rw [names_caseVariants]
    rintro ⟨hstems, -⟩
    exact absurd hstems (by decide)
  refine ⟨hclash, ?_⟩
  obtain ⟨before, tag, after, fault, hnames, hrefused, -, hroutes, -, -, hcontext⟩ :=
    (routes_refuse_first "AST_" caseVariants).2.2.2 hclash
  have hcollides : (ofText "AST_" caseVariants).routes =
      .error (.collides "AST_A" "AST_a" "visit_a") := by
    rw [routes, names_caseVariants]
    decide
  obtain rfl := Except.error.inj (hcollides.symm.trans hroutes)
  obtain rfl : "AST_a" = tag := by simpa [RouteFault.failure] using hcontext
  exact ⟨before, after, hnames, hrefused, hcollides⟩
end TagVocab.AstTags

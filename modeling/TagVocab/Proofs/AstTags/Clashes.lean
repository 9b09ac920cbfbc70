import TagVocab.Proofs.Generation

/-!
# Clashing tags

The tags of a text can be routed exactly if their stems tell them apart and leave the methods alone
that every visitor has.
-/

namespace TagVocab.AstTags

open Text

variable {lead text tag : String} {tags : List String} {done : List Route}

def stemOf (lead tag : String) : String :=
  String.ofList (lower (tag.toList.drop lead.toList.length))

def reservedStems : List String :=
  ["children", "token"]

/-- Two tags have one stem, or a tag has the stem of a method that every visitor has. -/
def Clash (lead : String) (tags : List String) : Prop :=
  (∃ a ∈ tags, ∃ b ∈ tags, a ≠ b ∧ stemOf lead a = stemOf lead b) ∨
    ∃ a ∈ tags, stemOf lead a ∈ reservedStems

theorem eq_of_route {r : Route} (h : route lead tag = .ok r) : r = ⟨tag, stemOf lead tag⟩ := by
  obtain ⟨word, htag, hstem⟩ := stem_of_route h
  have hdrop : tag.toList.drop lead.toList.length = word := by rw [htag, List.drop_left]
  rw [stemOf, hdrop, ← hstem, String.ofList_toList, ← tag_eq_of_route h]

theorem visitName_mem_reservedMethods_iff (r : Route) :
    r.visitName ∈ reservedMethods ↔ r.stem ∈ reservedStems := by
  have hvisit : "visit_" ++ r.stem ≠ "visit" := by
    intro h
    have hlength := congrArg String.length h
    rw [String.length_append] at hlength
    have hlead : "visit_".length = 6 := rfl
    have hown : "visit".length = 5 := rfl
    omega
  have hchildren : "visit_children" = "visit_" ++ "children" := rfl
  have htoken : "visit_token" = "visit_" ++ "token" := rfl
  simp only [reservedMethods, reservedStems, Route.visitName, List.mem_cons, List.not_mem_nil,
    or_false, hvisit, false_or, hchildren, htoken, String.append_right_inj]

theorem find?_stem_eq_none_iff {stem : String} :
    done.find? (·.stem = stem) = none ↔ stem ∉ done.map (·.stem) := by
  simp [List.find?_eq_none]

theorem exists_routesAfter_iff (hroutable : ∀ tag ∈ tags, ∃ r, route lead tag = .ok r)
    (hdone : (done.map (·.stem)).Nodup) :
    (∃ routes, routesAfter lead done tags = .ok routes) ↔
      (done.map (·.stem) ++ tags.map (stemOf lead)).Nodup ∧
        ∀ tag ∈ tags, stemOf lead tag ∉ reservedStems := by
  induction tags generalizing done with
  | nil => simpa [routesAfter] using hdone
  | cons tag tags ih =>
    obtain ⟨⟨r, hr⟩, hrest⟩ := List.forall_mem_cons.mp hroutable
    obtain rfl := eq_of_route hr
    rw [routesAfter, hr, List.forall_mem_cons]
    dsimp only
    by_cases hreserved : (⟨tag, stemOf lead tag⟩ : Route).visitName ∈ reservedMethods
    · rw [if_pos hreserved]
      have hstem : stemOf lead tag ∈ reservedStems :=
        (visitName_mem_reservedMethods_iff _).mp hreserved
      simp [hstem]
    · rw [if_neg hreserved]
      have hstem : stemOf lead tag ∉ reservedStems :=
        mt (visitName_mem_reservedMethods_iff ⟨tag, stemOf lead tag⟩).mpr hreserved
      -- The next stem is either one that was met before, or it joins those that were met.
      by_cases hold : stemOf lead tag ∈ done.map (·.stem)
      · have hnodup : ¬ (done.map (·.stem) ++ (tag :: tags).map (stemOf lead)).Nodup := by
          intro h
          exact (List.nodup_append.mp h).2.2 _ hold _ List.mem_cons_self rfl
        obtain ⟨other, hfind⟩ :=
          Option.ne_none_iff_exists'.mp (mt find?_stem_eq_none_iff.mp (not_not.mpr hold))
        rw [hfind]
        simp only [reduceCtorEq, exists_false, hnodup, false_and]
      · rw [find?_stem_eq_none_iff.mpr hold]
        have hnext : ((done ++ [(⟨tag, stemOf lead tag⟩ : Route)]).map (·.stem)).Nodup := by
          rw [List.map_append, List.map_singleton, ← List.concat_eq_append]
          exact hdone.concat hold
        rw [ih hrest hnext, List.map_append, List.append_assoc, and_iff_right hstem]
        rfl

/-- The tags of a text have routes exactly if they do not clash. -/
theorem exists_routes_iff (lead text : String) :
    (∃ routes, (ofText lead text).routes = .ok routes) ↔ ¬ Clash lead (ofText lead text).names := by
  have hroutable : ∀ tag ∈ (ofText lead text).names, ∃ r, route lead tag = .ok r :=
    fun tag htag => exists_route_of_mem_names htag
  have hnames : (ofText lead text).names.Nodup := SymbolList.names_nodup _
  have hroutes : (∃ routes, routesAfter lead [] (ofText lead text).names = .ok routes) ↔ _ :=
    exists_routesAfter_iff hroutable List.nodup_nil
  rw [List.map_nil, List.nil_append, List.nodup_map_iff_inj_on hnames] at hroutes
  have hlead : (ofText lead text).lead = lead := rfl
  rw [routes, hlead, hroutes, Clash, not_or]
  push Not
  refine and_congr (forall₂_congr fun a _ => forall₂_congr fun b _ => ?_) Iff.rfl
  exact not_imp_not.symm

end TagVocab.AstTags

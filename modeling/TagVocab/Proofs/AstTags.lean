import Mathlib.Data.List.Nodup
import Mathlib.Tactic.SplitIfs
import TagVocab.AstTags.Routes
import TagVocab.Proofs.SymbolList
import TagVocab.Proofs.Text.LetterCase

/-!
# Tags and their routes

What every tag of an enumeration is made of, and what the routes of an enumeration's tags have in
common: they are the tags in order, their stems tell them apart, and no method of theirs is one that
every visitor has.
-/

namespace TagVocab

open Text

namespace AstTags

theorem eq_append_of_afterLead? {lead cs rest : List Char} (h : afterLead? lead cs = some rest) :
    cs = lead ++ rest := by
  induction lead generalizing cs with
  | nil =>
    rw [afterLead?, Option.some.injEq] at h
    exact h
  | cons l lead ih =>
    cases cs with
    | nil => exact nomatch h
    | cons c cs =>
      rw [afterLead?, Option.ite_none_right_eq_some] at h
      obtain ⟨rfl, hrest⟩ := h
      rw [ih hrest, List.cons_append]

theorem eq_append_of_lineTag? {lead line tag : List Char} (h : lineTag? lead line = some tag) :
    ∃ word, word ≠ [] ∧ (∀ c ∈ word, isWordChar c) ∧ tag = lead ++ word := by
  unfold lineTag? at h
  simp only [Option.bind_eq_bind, Option.bind_eq_some_iff] at h
  obtain ⟨rest, -, behind, -, h⟩ := h
  refine ⟨rest.takeWhile isWordChar, ?_, List.all_eq_true.mp List.all_takeWhile, ?_⟩
  · intro hempty
    simp [hempty] at h
  · split_ifs at h
    · exact nomatch h
    · split at h
      · split_ifs at h
        exact (Option.some.inj h).symm
      · exact nomatch h

def declaredTags (lead text : String) : List String :=
  ((lines text.toList).filterMap (lineTag? lead.toList)).map String.ofList

theorem names_ofText (lead text : String) :
    (ofText lead text).names = (declaredTags lead text).eraseDups :=
  SymbolList.names_pushAll_empty .astNode _

theorem eq_append_of_mem_names {lead text tag : String} (h : tag ∈ (ofText lead text).names) :
    ∃ word, word ≠ [] ∧ (∀ c ∈ word, isWordChar c) ∧ tag.toList = lead.toList ++ word := by
  rw [names_ofText, List.mem_eraseDups] at h
  obtain ⟨cs, hcs, rfl⟩ := List.mem_map.mp h
  obtain ⟨line, -, hline⟩ := List.mem_filterMap.mp hcs
  rw [String.toList_ofList]
  exact eq_append_of_lineTag? hline

/-- Routes of `tags`, in order, with methods that are new and told apart. -/
structure Routed (lead : String) (tags : List String) (routes : List Route) : Prop where
  tags_eq : routes.map (·.tag) = tags
  route_eq : ∀ r ∈ routes, route lead r.tag = .ok r
  unreserved : ∀ r ∈ routes, r.visitName ∉ reservedMethods
  stems_nodup : (routes.map (·.stem)).Nodup

theorem tag_eq_of_route {lead tag : String} {r : Route} (h : route lead tag = .ok r) :
    r.tag = tag := by
  unfold route at h
  split at h
  · rw [← Except.ok.inj h]
  · exact nomatch h

theorem Routed.concat {lead : String} {tags : List String} {done : List Route}
    (hd : Routed lead tags done) {tag : String} {r : Route} (hr : route lead tag = .ok r)
    (hnew : r.visitName ∉ reservedMethods) (hf : done.find? (·.stem = r.stem) = none) :
    Routed lead (tags ++ [tag]) (done ++ [r]) := by
  have htag := tag_eq_of_route hr
  constructor
  · simp [hd.tags_eq, htag]
  · intro q hq
    rcases List.mem_append.mp hq with hq | hq
    · exact hd.route_eq q hq
    · obtain rfl := List.mem_singleton.mp hq
      rw [htag, hr]
  · intro q hq
    rcases List.mem_append.mp hq with hq | hq
    · exact hd.unreserved q hq
    · obtain rfl := List.mem_singleton.mp hq
      exact hnew
  · rw [List.map_append, List.map_singleton, List.nodup_append]
    refine ⟨hd.stems_nodup, List.nodup_singleton _, ?_⟩
    intro stem hstem other hother heq
    obtain ⟨q, hq, rfl⟩ := List.mem_map.mp hstem
    rw [List.mem_singleton.mp hother] at heq
    exact List.find?_eq_none.mp hf q hq (by simpa using heq)

theorem routed_routesAfter {lead : String} {tags earlier : List String} {done routes : List Route}
    (hd : Routed lead earlier done) (h : routesAfter lead done tags = .ok routes) :
    Routed lead (earlier ++ tags) routes := by
  induction tags generalizing earlier done with
  | nil =>
    rw [routesAfter, Except.ok.injEq] at h
    rwa [List.append_nil, ← h]
  | cons tag tags ih =>
    unfold routesAfter at h
    cases hr : route lead tag with
    | error fault => simp [hr] at h
    | ok r =>
      rw [hr] at h
      dsimp only at h
      split_ifs at h with hnew
      cases hf : done.find? (·.stem = r.stem) with
      | some other => simp [hf] at h
      | none =>
        rw [hf] at h
        have hrest := ih (hd.concat hr hnew hf) h
        rwa [List.append_assoc] at hrest

theorem routed_routes {t : AstTags} {routes : List Route} (h : t.routes = .ok routes) :
    Routed t.lead t.names routes := by
  have hd : Routed t.lead [] [] := by
    constructor <;> simp
  exact routed_routesAfter hd h

theorem isNameLike_of_mem_names {lead text tag : String}
    (hl : ∀ c ∈ lead.toList, Settings.isIdentifierChar c) (h : tag ∈ (ofText lead text).names) :
    ∀ c ∈ tag.toList, isNameLike c := by
  obtain ⟨word, -, hword, htag⟩ := eq_append_of_mem_names h
  rw [htag, List.forall_mem_append]
  constructor
  · intro c hc
    simp [isNameLike, hl c hc]
  · intro c hc
    exact isNameLike_of_isWordChar (hword c hc)

theorem stem_of_route {lead tag : String} {r : Route} (h : route lead tag = .ok r) :
    ∃ word, tag.toList = lead.toList ++ word ∧ r.stem.toList = lower word := by
  unfold route at h
  split at h
  · next c rest hafter =>
    rw [← Except.ok.inj h]
    exact ⟨c :: rest, eq_append_of_afterLead? hafter, String.toList_ofList⟩
  · exact nomatch h

theorem isNameLike_stem {lead tag : String} {r : Route} (h : route lead tag = .ok r)
    (htag : ∀ c ∈ tag.toList, isNameLike c) : ∀ c ∈ r.stem.toList, isNameLike c := by
  obtain ⟨word, hword, hstem⟩ := stem_of_route h
  rw [hword, List.forall_mem_append] at htag
  rw [hstem]
  exact isNameLike_lower htag.2

end AstTags

end TagVocab

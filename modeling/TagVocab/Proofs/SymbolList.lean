import Mathlib.Data.List.Induction
import TagVocab.SymbolList

/-!
# First occurrences

What a symbol list holds after any run of pushes: the first occurrences of the pushed names. No push
moves a symbol that is listed, so that of two runs, one after the other, the second adds its new names
behind those of the first.
-/

namespace TagVocab.SymbolList

theorem eraseDups_concat (names : List String) (name : String) :
    (names ++ [name]).eraseDups =
      if name ∈ names then names.eraseDups else names.eraseDups ++ [name] := by
  rw [List.eraseDups_append]
  by_cases h : name ∈ names
  · simp [List.removeAll, h]
  · simp [List.removeAll, h, List.eraseDups_cons]

theorem eraseDups_filter (p : String → Bool) (names : List String) :
    (names.filter p).eraseDups = names.eraseDups.filter p := by
  induction names using List.reverseRecOn with
  | nil => rfl
  | append_singleton names name ih =>
    rw [List.filter_append, eraseDups_concat]
    by_cases hp : p name
    · rw [List.filter_cons_of_pos hp, List.filter_nil, eraseDups_concat, ih]
      by_cases h : name ∈ names
      · simp [h, hp]
      · simp [h, hp]
    · rw [List.filter_cons_of_neg hp, List.filter_nil, List.append_nil, ih]
      by_cases h : name ∈ names
      · simp [h]
      · simp [h, hp]

/-- One push keeps the list at the first occurrences of what was pushed. -/
theorem names_push_of_eraseDups {l : SymbolList} {pushed : List String}
    (h : l.names = pushed.eraseDups) (name : String) :
    (l.push name).2.names = (pushed ++ [name]).eraseDups := by
  rw [names_push, eraseDups_concat, h]
  simp only [List.mem_eraseDups]

theorem names_pushAll_of_eraseDups {l : SymbolList} {pushed : List String}
    (h : l.names = pushed.eraseDups) (names : List String) :
    (l.pushAll names).names = (pushed ++ names).eraseDups := by
  induction names generalizing l pushed with
  | nil => simpa [pushAll] using h
  | cons name names ih =>
    have hp := ih (names_push_of_eraseDups h name)
    rw [List.append_assoc] at hp
    exact hp

theorem names_pushAll_empty (space : SymbolSpace) (names : List String) :
    ((empty space).pushAll names).names = names.eraseDups :=
  @names_pushAll_of_eraseDups (empty space) [] rfl names

theorem pushAll_append (l : SymbolList) (names others : List String) :
    l.pushAll (names ++ others) = (l.pushAll names).pushAll others :=
  List.foldl_append

theorem keeps_push (l : SymbolList) (name : String) : l.toList <+: (l.push name).2.toList := by
  rw [toList_push]
  split
  · exact List.prefix_rfl
  · exact List.prefix_append _ _

theorem keeps_pushAll (l : SymbolList) (names : List String) :
    l.toList <+: (l.pushAll names).toList := by
  induction names generalizing l with
  | nil => exact List.prefix_rfl
  | cons name names ih => exact (l.keeps_push name).trans (ih (l.push name).2)

/-- Whether `longer` lists all symbols of `l`, each at its ordinal, and behind them those names of
`other` that `l` does not list. -/
structure Prolongs (longer l other : SymbolList) : Prop where
  names_eq : longer.names = l.names ++ other.names.filter (· ∉ l.names)
  kept : l.toList <+: longer.toList

theorem prolongs_pushAll_append (space : SymbolSpace) (names others : List String) :
    Prolongs ((empty space).pushAll (names ++ others)) ((empty space).pushAll names)
      ((empty space).pushAll others) := by
  constructor
  case names_eq =>
    rw [names_pushAll_empty, names_pushAll_empty, names_pushAll_empty, List.eraseDups_append,
      List.removeAll, eraseDups_filter]
    congr 1
    refine List.filter_congr fun name _ => ?_
    simp
  case kept =>
    rw [pushAll_append]
    exact keeps_pushAll _ others

theorem Prolongs.size_le {longer l other : SymbolList} (h : longer.Prolongs l other) :
    l.size ≤ longer.size := by
  rw [← length_names, ← length_names, h.names_eq, List.length_append]
  exact Nat.le_add_right _ _

end TagVocab.SymbolList

import Std.Data.HashSet
import TagVocab.Tag

/-!
# Symbol lists

The symbols of one space in the order in which their names were first met. No name is listed twice,
and a symbol carries its position as its ordinal.
-/

namespace TagVocab

structure TagSymbol where
  name : String
  space : SymbolSpace
  /-- The position within the space. -/
  ordinal : Nat
deriving DecidableEq

structure SymbolList where
  space : SymbolSpace
  symbols : Array TagSymbol
  seen : Std.HashSet String
  mem_seen : ∀ name, name ∈ seen ↔ name ∈ symbols.toList.map (·.name)
  nodup : (symbols.toList.map (·.name)).Nodup
  placed : ∀ (i : Nat) symbol, symbols.toList[i]? = some symbol →
    symbol.ordinal = i ∧ symbol.space = space

namespace SymbolList

def empty (space : SymbolSpace) : SymbolList where
  space := space
  symbols := #[]
  seen := {}
  mem_seen := by simp
  nodup := by simp
  placed := by simp

def names (l : SymbolList) : List String :=
  l.symbols.toList.map (·.name)

def size (l : SymbolList) : Nat :=
  l.symbols.size

def isEmpty (l : SymbolList) : Bool :=
  l.symbols.isEmpty

def toList (l : SymbolList) : List TagSymbol :=
  l.symbols.toList

/-- Lists `name` at the end, and says whether it was new. -/
def push (l : SymbolList) (name : String) : Bool × SymbolList :=
  if h : name ∈ l.seen then
    (false, l)
  else
    (true, { l with
      symbols := l.symbols.push ⟨name, l.space, l.symbols.size⟩
      seen := l.seen.insert name
      mem_seen := fun other => by
        simp only [Std.HashSet.mem_insert, beq_iff_eq, Array.toList_push, List.map_append,
          List.map_cons, List.map_nil, List.mem_append, List.mem_singleton, l.mem_seen]
        exact ⟨fun h => h.symm.imp_right Eq.symm, fun h => h.symm.imp_left Eq.symm⟩
      nodup := by
        rw [Array.toList_push, List.map_append, List.map_singleton, List.nodup_append]
        refine ⟨l.nodup, List.pairwise_singleton _ name, fun a ha b hb hab => ?_⟩
        obtain rfl : a = name := hab.trans (List.mem_singleton.mp hb)
        exact h ((l.mem_seen a).mpr ha)
      placed := fun i symbol hi => by
        rw [Array.toList_push, List.getElem?_append] at hi
        split at hi
        case isTrue => exact l.placed i symbol hi
        case isFalse hge =>
          rw [List.getElem?_singleton, Option.ite_none_right_eq_some, Option.some.injEq] at hi
          obtain ⟨hlt, rfl⟩ := hi
          rw [Array.length_toList] at hge hlt
          exact ⟨Nat.le_antisymm (Nat.le_of_not_lt hge) (Nat.le_of_sub_eq_zero hlt), rfl⟩ })

def pushAll (l : SymbolList) (names : List String) : SymbolList :=
  names.foldl (fun l name => (l.push name).2) l

theorem names_nodup (l : SymbolList) : l.names.Nodup :=
  l.nodup

@[simp] theorem length_toList (l : SymbolList) : l.toList.length = l.size :=
  Array.length_toList

@[simp] theorem map_name_toList (l : SymbolList) : l.toList.map (·.name) = l.names :=
  rfl

@[simp] theorem length_names (l : SymbolList) : l.names.length = l.size := by
  rw [← map_name_toList, List.length_map, length_toList]

/-- The symbols are known by their names alone. -/
theorem toList_eq_mapIdx (l : SymbolList) :
    l.toList = l.names.mapIdx fun ordinal name => ⟨name, l.space, ordinal⟩ := by
  refine List.ext_getElem? fun i => ?_
  rw [List.getElem?_mapIdx, ← map_name_toList, List.getElem?_map]
  cases h : l.toList[i]? with
  | none => rfl
  | some symbol =>
    obtain ⟨hordinal, hspace⟩ := l.placed i symbol h
    rw [← hordinal, ← hspace]
    rfl

@[simp] theorem space_push (l : SymbolList) (name : String) :
    (l.push name).2.space = l.space := by
  unfold push
  split <;> rfl

theorem toList_push (l : SymbolList) (name : String) :
    (l.push name).2.toList =
      if name ∈ l.names then l.toList else l.toList ++ [⟨name, l.space, l.size⟩] := by
  have hn : name ∈ l.seen ↔ name ∈ l.names := l.mem_seen name
  unfold push
  split
  · next h => exact (if_pos (hn.mp h)).symm
  · next h => exact Array.toList_push.trans (if_neg (h ∘ hn.mpr)).symm

theorem names_push (l : SymbolList) (name : String) :
    (l.push name).2.names = if name ∈ l.names then l.names else l.names ++ [name] := by
  rw [← map_name_toList, toList_push]
  split
  · rfl
  · rw [List.map_append]
    rfl

end SymbolList

end TagVocab

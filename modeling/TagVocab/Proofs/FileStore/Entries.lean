import Mathlib.Data.List.Basic
import TagVocab.FileStore.Operations

/-!
# Entries of a store

What stands where after an entry is put in place or taken away. One store extends another if all that
stands in the other stands in it as well. A staged file gets a place that no entry had, so it comes
and goes without a trace.
-/

namespace TagVocab.FileStore

variable {s t : FileStore} {loc place : Location} {e : Entry}

@[simp]
theorem home_set (s : FileStore) (loc : Location) (e : Entry) : (s.set loc e).home = s.home :=
  rfl

theorem get?_of_ne_root (h : loc ≠ []) : s.get? loc = s.entries.lookup loc :=
  if_neg h

theorem hasDirectory_iff : s.hasDirectory loc = true ↔ s.get? loc = some .directory := by
  unfold hasDirectory
  split <;> simp_all

theorem hasDirectory_congr (h : t.get? loc = s.get? loc) : t.hasDirectory loc = s.hasDirectory loc := by
  unfold hasDirectory
  rw [h]

theorem lookup_filter_ne {entries : List (Location × Entry)} (h : loc ≠ place) :
    (entries.filter (·.1 ≠ place)).lookup loc = entries.lookup loc := by
  induction entries with
  | nil => rfl
  | cons entry entries ih =>
    by_cases he : entry.1 = place
    · rw [List.filter_cons_of_neg (by simpa using he), ih, List.lookup_cons,
        beq_false_of_ne (he ▸ h)]
    · rw [List.filter_cons_of_pos (by simpa using he), List.lookup_cons, List.lookup_cons, ih]

theorem get?_set_of_ne (h : loc ≠ place) : (s.set place e).get? loc = s.get? loc := by
  rcases eq_or_ne loc [] with rfl | hroot
  · rfl
  · rw [get?_of_ne_root hroot, get?_of_ne_root hroot, set, List.lookup_cons, beq_false_of_ne h]
    exact lookup_filter_ne h

theorem get?_set_of_not_mem {locs : List Location} (h : place ∉ locs) :
    ∀ l ∈ locs, (s.set place e).get? l = s.get? l :=
  fun _ hl => get?_set_of_ne (ne_of_mem_of_not_mem hl h)

theorem get?_set_self (h : place ≠ []) : (s.set place e).get? place = some e := by
  rw [get?_of_ne_root h, set, List.lookup_cons_self]

theorem erase_set (s : FileStore) (place : Location) (e : Entry) :
    (s.set place e).erase place = s.erase place := by
  simp [set, erase]

theorem set_set (s : FileStore) (place : Location) (e e' : Entry) :
    (s.set place e).set place e' = s.set place e' := by
  rw [set, erase_set]
  rfl

theorem erase_of_not_mem (h : place ∉ s.entries.map (·.1)) : s.erase place = s := by
  have hall : s.entries.filter (·.1 ≠ place) = s.entries := by
    refine List.filter_eq_self.mpr fun entry hentry => ?_
    simpa using fun hp : entry.1 = place => h (hp ▸ List.mem_map_of_mem hentry)
  rw [erase, hall]

theorem get?_of_not_mem (hne : place ≠ []) (h : place ∉ s.entries.map (·.1)) :
    s.get? place = none := by
  rw [get?_of_ne_root hne, List.lookup_eq_none_iff]
  intro entry hentry
  simpa using fun hp : place = entry.1 => h (hp ▸ List.mem_map_of_mem hentry)

theorem le_foldl {α : Type} {f : Nat → α → Nat} (hf : ∀ n x, n ≤ f n x) (xs : List α) (n : Nat) :
    n ≤ xs.foldl f n := by
  induction xs generalizing n with
  | nil => exact Nat.le_refl n
  | cons x xs ih => exact Nat.le_trans (hf n x) (ih (f n x))

theorem le_foldl_of_mem {α : Type} {f : Nat → α → Nat} (hf : ∀ n x, n ≤ f n x) {xs : List α} {x : α}
    (hx : x ∈ xs) {k : Nat} (hk : ∀ n, k ≤ f n x) (n : Nat) : k ≤ xs.foldl f n := by
  obtain ⟨before, behind, rfl⟩ := List.append_of_mem hx
  rw [List.foldl_append, List.foldl_cons]
  exact Nat.le_trans (hk _) (le_foldl hf behind _)

theorem freshName_not_mem (hmem : (loc, e) ∈ s.entries) : s.freshName ∉ loc := by
  intro hfresh
  have hnames : ∀ (n : Nat) (entry : Location × Entry),
      n ≤ entry.1.foldl (fun n name => max n name.length) n :=
    fun n entry => le_foldl (fun n name => Nat.le_max_left n name.length) entry.1 n
  have hle := le_foldl_of_mem hnames hmem
    (le_foldl_of_mem (fun n name => Nat.le_max_left n name.length) hfresh
      (fun n => Nat.le_max_right n _)) 0
  simp only [freshName, String.length_append, String.length_ofList, List.length_replicate] at hle
  have hlead : ".tmp".length = 4 := by decide
  omega

theorem staged_not_mem (s : FileStore) (dir : Location) :
    dir ++ [s.freshName] ∉ s.entries.map (·.1) := by
  intro hmem
  obtain ⟨⟨loc, e⟩, hentry, rfl⟩ := List.mem_map.mp hmem
  exact freshName_not_mem hentry (by simp)

/-- All that stands in `s` stands in `t` as well, and relative paths start at the same place. -/
structure Extends (s t : FileStore) : Prop where
  home : t.home = s.home
  get? : ∀ {loc : Location} {e : Entry}, s.get? loc = some e → t.get? loc = some e

namespace Extends

theorem refl (s : FileStore) : Extends s s :=
  ⟨rfl, id⟩

theorem hasDirectory (h : Extends s t) (hdir : s.hasDirectory loc = true) :
    t.hasDirectory loc = true :=
  hasDirectory_iff.mpr (h.get? (hasDirectory_iff.mp hdir))

end Extends

theorem extends_set (h : s.get? place = none) : Extends s (s.set place e) := by
  refine ⟨rfl, fun {loc _} hloc => ?_⟩
  have hne : loc ≠ place := by
    rintro rfl
    simp [h] at hloc
  rwa [get?_set_of_ne hne]

end TagVocab.FileStore

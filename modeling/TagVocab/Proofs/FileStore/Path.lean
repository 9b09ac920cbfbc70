import Mathlib.Data.List.Basic
import TagVocab.FileStore.Path
import TagVocab.Settings

/-!
# Names of a path

A plain name stands for one entry of a directory. Joined to the path of the directory it is the last
name of the new path, and the names before it are those of the directory.
-/

namespace TagVocab.Path

variable {dir name path : String}

structure IsPlain (name : String) : Prop where
  ne_empty : name ≠ ""
  no_slash : '/' ∉ name.toList
  ne_dot : name ≠ "."
  ne_dots : name ≠ ".."

theorem isPlain_of_isPlainFileName (h : Settings.isPlainFileName name = true) : IsPlain name := by
  simp only [Settings.isPlainFileName, Bool.and_eq_true, Bool.not_eq_true', bne_iff_ne, ne_eq,
    List.any_eq_false, Bool.or_eq_true, decide_eq_true_eq, not_or] at h
  exact ⟨by simpa using h.1.1.1, fun hmem => (h.1.1.2 _ hmem).1 rfl, h.1.2, h.2⟩

theorem names_empty : names "" = [] := by
  decide

theorem names_of_toList_eq {front back : String}
    (h : path.toList = front.toList ++ '/' :: back.toList) :
    names path = names front ++ names back := by
  rw [names, h, List.splitOn_append_cons_self, List.filterMap_append]
  rfl

namespace IsPlain

theorem toList_ne_nil (h : IsPlain name) : name.toList ≠ [] := by
  simpa using h.ne_empty

theorem names_eq (h : IsPlain name) : names name = [name] := by
  rw [names, List.splitOn_eq_singleton h.no_slash]
  simp [h.ne_empty]

theorem not_isAbsolute (h : IsPlain name) : isAbsolute name = false := by
  rw [isAbsolute, decide_eq_false_iff_not]
  exact fun hhead => h.no_slash (List.mem_of_mem_head? hhead)

theorem not_endsWithSlash (h : IsPlain name) : endsWithSlash name = false := by
  rw [endsWithSlash, decide_eq_false_iff_not]
  exact fun hlast => h.no_slash (List.mem_of_mem_getLast? hlast)

/-- What stands in front of a name that is joined to the path of a directory. The slash between them
is part of the path already, or it is added. -/
theorem join_cases (h : IsPlain name) (dir : String) :
    dir = "" ∧ join dir name = name ∨
      ∃ front : String, (dir.toList = front.toList ++ ['/'] ∨ dir = front ∧ dir ≠ "") ∧
        (join dir name).toList = front.toList ++ '/' :: name.toList := by
  by_cases hdir : dir = ""
  · exact Or.inl ⟨hdir, by simp [join, hdir]⟩
  · right
    cases hslash : endsWithSlash dir with
    | true =>
      obtain ⟨front, hfront⟩ := List.getLast?_eq_some_iff.mp (of_decide_eq_true hslash)
      exact ⟨String.ofList front, Or.inl (by simpa using hfront),
        by simp [join, h.not_isAbsolute, hdir, hslash, hfront]⟩
    | false =>
      exact ⟨dir, Or.inr ⟨rfl, hdir⟩, by simp [join, h.not_isAbsolute, hdir, hslash]⟩

theorem names_join (h : IsPlain name) (dir : String) : names (join dir name) = names dir ++ [name] := by
  obtain ⟨rfl, hjoin⟩ | ⟨front, hdir, hjoin⟩ := h.join_cases dir
  · rw [hjoin, h.names_eq, names_empty, List.nil_append]
  · have hnames : names dir = names front := by
      obtain hdir | ⟨rfl, -⟩ := hdir
      · have hback : dir.toList = front.toList ++ '/' :: "".toList := hdir
        rw [names_of_toList_eq hback, names_empty, List.append_nil]
      · rfl
    rw [names_of_toList_eq hjoin, h.names_eq, hnames]

theorem endsWithSlash_join (h : IsPlain name) (dir : String) :
    endsWithSlash (join dir name) = false := by
  obtain ⟨-, hjoin⟩ | ⟨front, -, hjoin⟩ := h.join_cases dir
  · rw [hjoin, h.not_endsWithSlash]
  · have hlast : (join dir name).toList.getLast? = name.toList.getLast? := by
      rw [hjoin, List.getLast?_append_of_ne_nil _ (List.cons_ne_nil _ _),
        List.getLast?_cons_of_ne_nil h.toList_ne_nil]
    rw [endsWithSlash, hlast]
    exact h.not_endsWithSlash

theorem isAbsolute_join (h : IsPlain name) (dir : String) :
    isAbsolute (join dir name) = isAbsolute dir := by
  obtain ⟨rfl, hjoin⟩ | ⟨front, hdir, hjoin⟩ := h.join_cases dir
  · rw [hjoin, h.not_isAbsolute]
    rfl
  · rw [isAbsolute, isAbsolute, hjoin]
    obtain hdir | ⟨rfl, hne⟩ := hdir
    · rw [hdir, List.head?_append, List.head?_append]
      rfl
    · have hcons : dir.toList ≠ [] := by simpa using hne
      rw [List.head?_append_of_ne_nil _ hcons]

end IsPlain

end TagVocab.Path

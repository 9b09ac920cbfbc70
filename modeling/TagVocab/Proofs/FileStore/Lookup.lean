import TagVocab.Proofs.FileStore.Entries

/-!
# Looking paths up

Where a path leads is settled by the locations that a lookup comes by: for each name, the directory
that it is looked up in and the entry of that name there. A store that is the same at all of them
leads to the same place, and a store with more entries leads wherever the one with fewer led.
-/

namespace TagVocab.FileStore

variable {s t : FileStore} {here dir loc place : Location} {name path : String}
  {names xs ys : List String} {links : Nat} {fault : FileFault}

/-- A lookup that has come as far as `p`, and then follows more names. -/
def proceed (s : FileStore) (p : Progress) (names : List String) : Progress :=
  match p with
  | .arrived loc => s.advance loc names
  | .link dir target rest => .link dir target (rest ++ names)
  | .stuck fault => .stuck fault

/-- The locations that following names comes by, up to the first link. -/
def crossed (s : FileStore) (here : Location) : List String → List Location
  | [] => [here]
  | name :: rest =>
    here ::
      if s.hasDirectory here then
        (here ++ [name]) ::
          match s.advance here [name] with
          | .arrived loc => s.crossed loc rest
          | _ => []
      else
        []

def visited (s : FileStore) : (links : Nat) → Location → List String → List Location
  | 0, _, _ => []
  | links + 1, here, names =>
    s.crossed here names ++
      match s.advance here names with
      | .link dir target rest => s.visited links (startOf dir target) (Path.steps target ++ rest)
      | _ => []

def reached (s : FileStore) (path : String) : Except FileFault Location :=
  s.followFrom path (Path.names path)

def crossings (s : FileStore) (path : String) : List Location :=
  s.visited (Path.linkLimit + 1) (startOf s.home path) (Path.names path)

theorem advance_cons (s : FileStore) (here : Location) (name : String) (rest : List String) :
    s.advance here (name :: rest) = s.proceed (s.advance here [name]) rest := by
  simp only [advance]
  split
  · rfl
  split
  · rfl
  split
  · rfl
  split
  · rfl
  cases s.get? (here ++ [name]) with
  | none => rfl
  | some e => cases e <;> rfl

theorem advance_append (s : FileStore) (here : Location) (xs ys : List String) :
    s.advance here (xs ++ ys) = s.proceed (s.advance here xs) ys := by
  induction xs generalizing here with
  | nil => rfl
  | cons name xs ih =>
    rw [List.cons_append, advance_cons, advance_cons s here name xs]
    cases s.advance here [name] with
    | arrived loc => exact ih loc
    | link dir target rest => simp [proceed]
    | stuck fault => rfl

theorem hasDirectory_of_advance (hstuck : ∀ fault, s.advance here [name] ≠ .stuck fault) :
    s.hasDirectory here = true := by
  cases hdir : s.hasDirectory here with
  | true => rfl
  | false => exact absurd (by simp [advance, hdir]) (hstuck .notDirectory)

theorem advance_file {content : ByteArray} (h : s.get? here = some (.file content)) :
    s.advance here (name :: names) = .stuck .notDirectory := by
  simp [advance, hasDirectory, h]

theorem exists_entry_of_advance (hdot : name ≠ ".") (hdots : name ≠ "..")
    (hstuck : ∀ fault, s.advance here [name] ≠ .stuck fault) :
    name.utf8ByteSize ≤ Path.nameLimit ∧ ∃ e, s.get? (here ++ [name]) = some e := by
  have hdir := hasDirectory_of_advance hstuck
  by_cases hlimit : Path.nameLimit < name.utf8ByteSize
  · exact absurd (by simp [advance, hdir, hdot, hdots, hlimit]) (hstuck .nameTooLong)
  · refine ⟨Nat.le_of_not_lt hlimit, ?_⟩
    cases hget : s.get? (here ++ [name]) with
    | none => exact absurd (by simp [advance, hdir, hdot, hdots, hlimit, hget]) (hstuck .missing)
    | some e => exact ⟨e, rfl⟩

theorem advance_eq_arrived_iff (hdot : name ≠ ".") (hdots : name ≠ "..") :
    s.advance here [name] = .arrived loc ↔
      s.hasDirectory here = true ∧ name.utf8ByteSize ≤ Path.nameLimit ∧
        (∃ e, s.get? (here ++ [name]) = some e ∧ ∀ target, e ≠ .link target) ∧
        loc = here ++ [name] := by
  cases hdir : s.hasDirectory here with
  | false => simp [advance, hdir]
  | true =>
    by_cases hlimit : Path.nameLimit < name.utf8ByteSize
    · simp [advance, hdir, hdot, hdots, hlimit, Nat.not_le_of_lt hlimit]
    · have hle := Nat.le_of_not_lt hlimit
      cases hget : s.get? (here ++ [name]) with
      | none => simp [advance, hdir, hdot, hdots, hlimit, hget]
      | some e => cases e <;> simp [advance, hdir, hdot, hdots, hlimit, hle, hget, eq_comm]

theorem crossed_cons_of_arrived {rest : List String} (h : s.advance here [name] = .arrived loc) :
    s.crossed here (name :: rest) = here :: (here ++ [name]) :: s.crossed loc rest := by
  have hstuck : ∀ fault, s.advance here [name] ≠ .stuck fault := by simp [h]
  have hdir : s.hasDirectory here = true := hasDirectory_of_advance hstuck
  simp only [crossed, hdir, h, if_true]

/-! ### Stores that agree where a lookup comes by -/

theorem advance_single_congr (hhere : t.get? here = s.get? here)
    (hentry : s.hasDirectory here = true → t.get? (here ++ [name]) = s.get? (here ++ [name])) :
    t.advance here [name] = s.advance here [name] := by
  cases hdir : s.hasDirectory here with
  | false => simp [advance, hasDirectory_congr hhere, hdir]
  | true => simp only [advance, hasDirectory_congr hhere, hentry hdir]

theorem advance_congr (h : ∀ loc ∈ s.crossed here names, t.get? loc = s.get? loc) :
    t.advance here names = s.advance here names ∧ t.crossed here names = s.crossed here names := by
  induction names generalizing here with
  | nil => exact ⟨rfl, rfl⟩
  | cons name rest ih =>
    have hhere : t.get? here = s.get? here := h _ (by simp [crossed])
    have hstep : t.advance here [name] = s.advance here [name] :=
      advance_single_congr hhere fun hdir => h _ (by simp [crossed, hdir])
    rw [advance_cons t here name rest, advance_cons s here name rest, crossed, crossed, hstep,
      hasDirectory_congr hhere]
    cases hadv : s.advance here [name] with
    | arrived loc =>
      have hrest : ∀ l ∈ s.crossed loc rest, t.get? l = s.get? l :=
        fun l hl => h l (by simp [crossed_cons_of_arrived hadv, hl])
      obtain ⟨hadvance, hcrossed⟩ := ih hrest
      exact ⟨hadvance, by simp only [hcrossed]⟩
    | link dir target rest => exact ⟨rfl, rfl⟩
    | stuck fault => exact ⟨rfl, rfl⟩

theorem follow_congr (h : ∀ loc ∈ s.visited links here names, t.get? loc = s.get? loc) :
    t.follow links here names = s.follow links here names ∧
      t.visited links here names = s.visited links here names := by
  induction links generalizing here names with
  | zero => exact ⟨rfl, rfl⟩
  | succ links ih =>
    have hfirst : ∀ loc ∈ s.crossed here names, t.get? loc = s.get? loc :=
      fun loc hloc => h loc (List.mem_append_left _ hloc)
    obtain ⟨hadvance, hcrossed⟩ := advance_congr hfirst
    rw [follow, follow, visited, visited, hadvance, hcrossed]
    cases hadv : s.advance here names with
    | arrived loc => exact ⟨rfl, rfl⟩
    | stuck fault => exact ⟨rfl, rfl⟩
    | link dir target rest =>
      have hbehind : ∀ loc ∈ s.visited links (startOf dir target) (Path.steps target ++ rest),
          t.get? loc = s.get? loc :=
        fun loc hloc => h loc (by simp [visited, hadv, hloc])
      obtain ⟨hfollow, hvisited⟩ := ih hbehind
      exact ⟨hfollow, by simp only [hvisited]⟩

theorem mem_crossed_of_arrived (h : s.advance here names = .arrived loc) :
    loc ∈ s.crossed here names := by
  induction names generalizing here with
  | nil =>
    obtain rfl : here = loc := by simpa [advance] using h
    exact List.mem_singleton_self here
  | cons name rest ih =>
    rw [advance_cons] at h
    cases hadv : s.advance here [name] with
    | arrived mid =>
      rw [hadv] at h
      simp [crossed_cons_of_arrived hadv, ih h]
    | link dir target rest => simp [hadv, proceed] at h
    | stuck fault => simp [hadv, proceed] at h

theorem mem_visited_of_follow (h : s.follow links here names = .ok loc) :
    loc ∈ s.visited links here names := by
  induction links generalizing here names with
  | zero => simp [follow] at h
  | succ links ih =>
    rw [follow] at h
    cases hadv : s.advance here names with
    | arrived mid =>
      obtain rfl : mid = loc := by simpa [hadv] using h
      exact List.mem_append_left _ (mem_crossed_of_arrived hadv)
    | stuck fault => simp [hadv] at h
    | link dir target rest =>
      rw [hadv] at h
      simp [visited, hadv, ih h]

theorem mem_crossings_of_reached (h : s.reached path = .ok loc) : loc ∈ s.crossings path :=
  mem_visited_of_follow h

theorem reached_congr (hhome : t.home = s.home)
    (h : ∀ loc ∈ s.crossings path, t.get? loc = s.get? loc) :
    t.reached path = s.reached path ∧ t.crossings path = s.crossings path := by
  rw [reached, reached, followFrom, followFrom, crossings, crossings, hhome]
  exact follow_congr h

/-! ### Following names in two parts -/

/-- Names behind others are followed from where the others lead, with the links that are left. -/
theorem exists_follow_append (h : s.follow links here xs = .ok loc) (ys : List String) :
    ∃ left, s.follow links here (xs ++ ys) = s.follow (left + 1) loc ys := by
  induction links generalizing here xs with
  | zero => simp [follow] at h
  | succ links ih =>
    rw [follow] at h
    cases hadv : s.advance here xs with
    | arrived mid =>
      obtain rfl : mid = loc := by simpa [hadv] using h
      refine ⟨links, ?_⟩
      rw [follow, follow, advance_append, hadv]
      rfl
    | stuck fault => simp [hadv] at h
    | link dir target rest =>
      rw [hadv] at h
      obtain ⟨left, hfollow⟩ := ih h
      refine ⟨left, ?_⟩
      rw [follow, advance_append, hadv]
      simpa [proceed] using hfollow

theorem exists_follow_of_append (h : s.follow links here (xs ++ ys) = .ok loc) :
    ∃ mid, s.follow links here xs = .ok mid := by
  induction links generalizing here xs with
  | zero => simp [follow] at h
  | succ links ih =>
    rw [follow, advance_append] at h
    rw [follow]
    cases hadv : s.advance here xs with
    | arrived mid => exact ⟨mid, rfl⟩
    | stuck fault => simp [hadv, proceed] at h
    | link dir target rest =>
      rw [hadv] at h
      exact ih (by simpa [proceed] using h)

theorem followFrom_concat (h : s.followFrom path xs = .ok dir)
    (hadv : s.advance dir [name] = .arrived loc) : s.followFrom path (xs ++ [name]) = .ok loc := by
  obtain ⟨left, hleft⟩ := exists_follow_append h [name]
  rw [followFrom, hleft, follow, hadv]

/-- If names lead somewhere, the last of them does from where those before it lead. -/
theorem exists_followFrom_of_concat (h : s.followFrom path (xs ++ [name]) = .ok loc) :
    ∃ dir, s.followFrom path xs = .ok dir ∧ ∀ fault, s.advance dir [name] ≠ .stuck fault := by
  obtain ⟨dir, hdir⟩ := exists_follow_of_append h
  obtain ⟨left, hleft⟩ := exists_follow_append hdir [name]
  refine ⟨dir, hdir, fun fault hstuck => ?_⟩
  rw [followFrom, hleft, follow, hstuck] at h
  cases h

/-! ### More entries -/

theorem advance_single_of_extends (h : Extends s t)
    (hstuck : ∀ fault, s.advance here [name] ≠ .stuck fault) :
    t.advance here [name] = s.advance here [name] := by
  have hdir := hasDirectory_of_advance hstuck
  simp only [advance, hdir, h.hasDirectory hdir, Bool.not_true, Bool.false_eq_true, if_false]
    at hstuck ⊢
  split
  · rfl
  split
  · rfl
  split
  · rfl
  cases hget : s.get? (here ++ [name]) with
  | none => simp_all
  | some e => rw [h.get? hget]

theorem advance_of_extends (h : Extends s t)
    (hstuck : ∀ fault, s.advance here names ≠ .stuck fault) :
    t.advance here names = s.advance here names := by
  induction names generalizing here with
  | nil => rfl
  | cons name rest ih =>
    rw [advance_cons] at hstuck
    rw [advance_cons, advance_cons s here name rest]
    cases hadv : s.advance here [name] with
    | arrived loc =>
      rw [advance_single_of_extends h (by simp [hadv]), hadv]
      rw [hadv] at hstuck
      exact ih hstuck
    | link dir target rest => rw [advance_single_of_extends h (by simp [hadv]), hadv]; rfl
    | stuck fault => exact absurd (by rw [hadv]; rfl) (hstuck fault)

/-- Where a lookup leads somewhere, more entries do not change where. -/
theorem follow_of_extends (h : Extends s t) (hfollow : s.follow links here names = .ok loc) :
    t.follow links here names = .ok loc := by
  induction links generalizing here names with
  | zero => simp [follow] at hfollow
  | succ links ih =>
    rw [follow] at hfollow ⊢
    cases hadv : s.advance here names with
    | arrived mid =>
      rw [advance_of_extends h (by simp [hadv]), hadv]
      rwa [hadv] at hfollow
    | stuck fault => simp [hadv] at hfollow
    | link dir target rest =>
      rw [advance_of_extends h (by simp [hadv]), hadv]
      rw [hadv] at hfollow
      exact ih hfollow

theorem followFrom_of_extends (h : Extends s t) (hfollow : s.followFrom path names = .ok loc) :
    t.followFrom path names = .ok loc := by
  rw [followFrom, h.home]
  exact follow_of_extends h hfollow

end TagVocab.FileStore

import TagVocab.Proofs.FileStore.Directories

/-!
# Putting a file in place

A file that is put in place by way of a staged one stands there afterwards, and all else is as it
was. After a failure everything is as it was, the staged file included.
-/

namespace TagVocab.FileStore

variable {s t : FileStore} {loc staged : Location} {dir name path : String} {content : ByteArray}

theorem stage_eq_ok (h : s.stage dir = .ok (staged, t)) :
    ∃ loc, s.reached dir = .ok loc ∧ s.hasDirectory loc = true ∧
      staged = loc ++ [s.freshName] ∧ t = s.set staged (.file .empty) := by
  have hend : ∃ loc, s.reached dir = .ok loc ∧
      (if !s.hasDirectory loc then throw .notDirectory
        else do
          s.allow .stage (loc ++ [s.freshName])
          pure (loc ++ [s.freshName], s.set (loc ++ [s.freshName]) (.file .empty))) =
        (.ok (staged, t) : Except FileFault _) := by
    unfold stage at h
    split at h
    · next hempty =>
      obtain rfl : dir = "" := by simpa using hempty
      exact ⟨s.home, rfl, h⟩
    · obtain ⟨loc, hloc, h⟩ := bind_eq_ok_iff.mp h
      exact ⟨loc, (locate_eq_ok_iff.mp hloc).2.1, h⟩
  obtain ⟨loc, hreached, h⟩ := hend
  obtain ⟨hdir, h⟩ := check_eq_ok_iff.mp h
  obtain ⟨-, -, h⟩ := bind_eq_ok_iff.mp h
  obtain ⟨rfl, rfl⟩ := Prod.mk.inj (pure_eq_ok_iff.mp h)
  exact ⟨loc, hreached, by simpa using hdir, rfl, rfl⟩

theorem rename_eq_ok (h : s.rename staged path = .ok t) :
    ∃ dir name e, s.IsEntry path dir name ∧ s.hasDirectory (dir ++ [name]) = false ∧
      s.get? staged = some e ∧ t = (s.erase staged).set (dir ++ [name]) e := by
  obtain ⟨-, -, h⟩ := bind_eq_ok_iff.mp h
  simp only [throw_bind, check_eq_ok_iff] at h
  obtain ⟨-, h⟩ := h
  obtain ⟨⟨dir, name?⟩, hparent, h⟩ := bind_eq_ok_iff.mp h
  obtain ⟨hcheck, hfollow, hdir, hname⟩ := locateParent_eq_ok_iff.mp hparent
  cases name? with
  | none => exact absurd h throw_ne_ok
  | some name =>
    simp only [check_eq_ok_iff] at h
    obtain ⟨hdots, hlimit, -, -, hfree, h⟩ := h
    obtain ⟨hdot, hdots⟩ := not_or.mp hdots
    cases hget : s.get? staged with
    | none => exact absurd (by simpa only [hget] using h) throw_ne_ok
    | some e =>
      rw [hget] at h
      obtain rfl := pure_eq_ok_iff.mp h
      exact ⟨dir, name, e, ⟨hcheck, hfollow, hdir, hname, hdot, hdots, Nat.le_of_not_lt hlimit⟩,
        by simpa using hfree, rfl, rfl⟩

theorem followFrom_join (hplain : Path.IsPlain name) (s : FileStore) (dir : String)
    (names : List String) : s.followFrom (Path.join dir name) names = s.followFrom dir names := by
  simp only [followFrom, startOf, hplain.isAbsolute_join]

theorem isEntry_join_iff (hplain : Path.IsPlain name) {entry : String} :
    s.IsEntry (Path.join dir name) loc entry ↔
      name = entry ∧ Path.check (Path.join dir name) = .ok () ∧ s.reached dir = .ok loc ∧
        s.hasDirectory loc = true ∧ name.utf8ByteSize ≤ Path.nameLimit := by
  have hparent : s.followFrom (Path.join dir name) (Path.names (Path.join dir name)).dropLast =
      s.reached dir := by
    rw [followFrom_join hplain, hplain.names_join, List.dropLast_concat, reached]
  have hlast : (Path.names (Path.join dir name)).getLast? = some name := by
    rw [hplain.names_join, List.getLast?_concat]
  constructor
  · intro h
    obtain rfl : name = entry := Option.some.inj (hlast.symm.trans h.last)
    exact ⟨rfl, h.check, hparent ▸ h.parent, h.hasDirectory, h.size_le⟩
  · rintro ⟨rfl, hcheck, hreached, hdir, hsize⟩
    exact ⟨hcheck, hparent.trans hreached, hdir, hlast, hplain.ne_dot, hplain.ne_dots, hsize⟩

/-- No entry had the place of a staged file, so without that file the store is what it was. -/
theorem erase_staged (h : s.stage dir = .ok (staged, t)) (written : ByteArray) :
    (t.set staged (.file written)).erase staged = s := by
  obtain ⟨loc, -, -, rfl, rfl⟩ := stage_eq_ok h
  rw [set_set, erase_set, erase_of_not_mem (staged_not_mem s loc)]

/-- A write that is refused when the file is staged already leaves no trace of it. -/
theorem replace_of_refused {e : SystemError} (hstage : s.stage dir = .ok (staged, t))
    (h : t.medium.refusal? .write t.entries staged = some e) (path : String) (content : ByteArray) :
    s.replace dir path content = (.error (.refused e), s) := by
  unfold replace fill allow
  simp only [hstage, h, erase_staged hstage]

/-- Putting a file in place leaves no trace if it fails, and else it moves the staged file. -/
theorem replace_fails_or_moves (s : FileStore) (dir path : String) (content : ByteArray) :
    (∃ fault, s.replace dir path content = (.error fault, s)) ∨
      ∃ staged t u, s.stage dir = .ok (staged, t) ∧
        (t.set staged (.file content)).rename staged path = .ok u ∧
        s.replace dir path content = (.ok (), u) := by
  cases hstage : s.stage dir with
  | error fault => exact Or.inl ⟨fault, by simp only [replace, hstage]⟩
  | ok result =>
    obtain ⟨staged, t⟩ := result
    cases hwrite : t.medium.refusal? .write t.entries staged with
    | some e => exact Or.inl ⟨.refused e, replace_of_refused hstage hwrite _ content⟩
    | none =>
      have hfill : t.fill staged content = (.ok (), t.set staged (.file content)) := by
        simp only [fill, allow, hwrite]
      cases hrename : (do
          (t.set staged (.file content)).allow .sync staged
          (t.set staged (.file content)).rename staged path) with
      | error fault =>
        exact Or.inl ⟨fault, by simp only [replace, hstage, hfill, hrename, erase_staged hstage]⟩
      | ok u =>
        obtain ⟨-, -, hmoved⟩ := bind_eq_ok_iff.mp hrename
        exact Or.inr ⟨staged, t, u, rfl, hmoved, by simp only [replace, hstage, hfill, hrename]⟩

theorem eq_set_of_moved {u : FileStore} (hplain : Path.IsPlain name)
    (hstage : s.stage dir = .ok (staged, t))
    (h : (t.set staged (.file content)).rename staged (Path.join dir name) = .ok u) :
    ∃ loc, s.IsEntry (Path.join dir name) loc name ∧ s.hasDirectory (loc ++ [name]) = false ∧
      u = s.set (loc ++ [name]) (.file content) := by
  obtain ⟨loc', entry, e, hentry, hfree, hget, rfl⟩ := rename_eq_ok h
  rw [erase_staged hstage]
  obtain ⟨loc, hreached, hdir, hstaged, rfl⟩ := stage_eq_ok hstage
  have hne : staged ≠ [] := by simp [hstaged]
  -- Nothing stood at the staged file's place, so the way to the directory does not touch it.
  have hext : Extends s (s.set staged (.file content)) :=
    extends_set (get?_of_not_mem hne (hstaged ▸ staged_not_mem s loc))
  rw [set_set] at hentry hfree hget
  obtain ⟨rfl, hcheck, hloc', -, hsize⟩ := (isEntry_join_iff hplain).mp hentry
  obtain rfl : loc = loc' :=
    Except.ok.inj ((followFrom_of_extends hext hreached).symm.trans hloc')
  obtain rfl : .file content = e := by simpa [get?_set_self hne] using hget
  refine ⟨loc, (isEntry_join_iff hplain).mpr ⟨rfl, hcheck, hreached, hdir, hsize⟩, ?_, rfl⟩
  exact Bool.eq_false_iff.mpr fun h => absurd (hext.hasDirectory h) (by simp [hfree])

/-- All that putting a file in place can do. Whichever step fails, the staged file is gone. -/
theorem replace_cases (hplain : Path.IsPlain name) (s : FileStore) (dir : String)
    (content : ByteArray) :
    (∃ fault, s.replace dir (Path.join dir name) content = (.error fault, s)) ∨
      ∃ loc, s.IsEntry (Path.join dir name) loc name ∧ s.hasDirectory (loc ++ [name]) = false ∧
        s.replace dir (Path.join dir name) content =
          (.ok (), s.set (loc ++ [name]) (.file content)) := by
  rcases s.replace_fails_or_moves dir (Path.join dir name) content with
    hfails | ⟨staged, t, u, hstage, hmoved, hreplace⟩
  · exact Or.inl hfails
  · obtain ⟨loc, hentry, hfree, rfl⟩ := eq_set_of_moved hplain hstage hmoved
    exact Or.inr ⟨loc, hentry, hfree, hreplace⟩

/-! ### Reading back -/

theorem read_eq_ok_iff :
    s.read path = .ok content ↔
      ∃ loc, s.locate path = .ok loc ∧ s.get? loc = some (.file content) := by
  simp only [read, bind_eq_ok_iff]
  refine exists_congr fun loc => and_congr_right fun _ => ?_
  split
  · next hget => simp [hget, pure_eq_ok_iff]
  · next hget => simp [hget, throw_ne_ok]
  · next hfile _ => exact ⟨fun h => absurd h throw_ne_ok, fun hget => absurd hget (hfile content)⟩

theorem read_join_eq_ok_iff (hplain : Path.IsPlain name) :
    s.read (Path.join dir name) = .ok content ↔ Path.check (Path.join dir name) = .ok () ∧
      ∃ loc, s.reached (Path.join dir name) = .ok loc ∧ s.get? loc = some (.file content) := by
  simp only [read_eq_ok_iff, locate_eq_ok_iff, hplain.endsWithSlash_join, Bool.false_eq_true,
    false_implies, and_true, and_assoc, exists_and_left]

theorem IsEntry.read (hplain : Path.IsPlain name) (h : s.IsEntry (Path.join dir name) loc name)
    (hget : s.get? (loc ++ [name]) = some (.file content)) :
    s.read (Path.join dir name) = .ok content :=
  (read_join_eq_ok_iff hplain).mpr ⟨h.check, loc ++ [name], h.reached hget (by simp), hget⟩

theorem read_join_congr (hplain : Path.IsPlain name) (hhome : t.home = s.home)
    (h : ∀ l ∈ s.crossings (Path.join dir name), t.get? l = s.get? l)
    (hread : s.read (Path.join dir name) = .ok content) :
    t.read (Path.join dir name) = .ok content := by
  obtain ⟨hcheck, loc, hreached, hget⟩ := (read_join_eq_ok_iff hplain).mp hread
  refine (read_join_eq_ok_iff hplain).mpr ⟨hcheck, loc, ?_, ?_⟩
  · rw [(reached_congr hhome h).1, hreached]
  · rw [h loc (mem_crossings_of_reached hreached), hget]

end TagVocab.FileStore

import TagVocab.Proofs.FileStore.Lookup
import TagVocab.Proofs.FileStore.Path

/-!
# Making directories

Making directories only adds entries. A directory that was made is there afterwards, and one that is
there is left as it is.
-/

namespace TagVocab.FileStore

variable {s t : FileStore} {dir loc : Location} {name path : String} {links : Nat}

section Checks

variable {ε α β : Type} {fault : ε} {a : α} {b : β}

theorem bind_eq_ok_iff {x : Except ε α} {f : α → Except ε β} :
    x >>= f = .ok b ↔ ∃ a, x = .ok a ∧ f a = .ok b := by
  cases x with
  | error fault => simp [bind, Except.bind]
  | ok a => simp [bind, Except.bind]

theorem pure_eq_ok_iff {a' : α} : (pure a : Except ε α) = .ok a' ↔ a = a' := by
  simp [pure, Except.pure]

theorem throw_ne_ok : (throw fault : Except ε α) ≠ .ok a := by
  simp [throw, throwThe, MonadExceptOf.throw]

theorem throw_bind {f : α → Except ε β} : (throw fault >>= f) = throw fault :=
  rfl

theorem check_eq_ok_iff {p : Prop} [Decidable p] {x : Except ε α} :
    (if p then throw fault else x) = .ok a ↔ ¬p ∧ x = .ok a := by
  by_cases hp : p <;> simp [hp, throw_ne_ok]

end Checks

/-- A slash at the end of a path asks for a directory, and leads no further. -/
theorem followFrom_steps_iff :
    s.followFrom path (Path.steps path) = .ok loc ↔
      s.reached path = .ok loc ∧
        (Path.endsWithSlash path = true → s.hasDirectory loc = true) := by
  unfold reached Path.steps
  cases hslash : Path.endsWithSlash path with
  | false => simp
  | true =>
    simp only [if_true, forall_const]
    constructor
    · intro h
      obtain ⟨mid, hmid, hstuck⟩ := exists_followFrom_of_concat h
      have hdir := hasDirectory_of_advance hstuck
      have hdot : s.advance mid ["."] = .arrived mid := by simp [advance, hdir]
      obtain rfl : mid = loc := by simpa [followFrom_concat hmid hdot] using h
      exact ⟨hmid, hdir⟩
    · rintro ⟨h, hdir⟩
      exact followFrom_concat h (by simp [advance, hdir])

theorem locate_eq_ok_iff :
    s.locate path = .ok loc ↔ Path.check path = .ok () ∧ s.reached path = .ok loc ∧
      (Path.endsWithSlash path = true → s.hasDirectory loc = true) := by
  rw [locate, bind_eq_ok_iff, ← followFrom_steps_iff]
  exact ⟨fun ⟨_, hcheck, hreached⟩ => ⟨hcheck, hreached⟩,
    fun ⟨hcheck, hreached⟩ => ⟨(), hcheck, hreached⟩⟩

theorem isDirectory_iff :
    s.isDirectory path = true ↔
      Path.check path = .ok () ∧ ∃ loc, s.reached path = .ok loc ∧ s.hasDirectory loc = true := by
  have hiff : s.isDirectory path = true ↔
      ∃ loc, s.locate path = .ok loc ∧ s.hasDirectory loc = true := by
    unfold isDirectory
    cases s.locate path <;> simp
  rw [hiff]
  simp only [locate_eq_ok_iff]
  constructor
  · rintro ⟨loc, ⟨hcheck, hreached, -⟩, hdir⟩
    exact ⟨hcheck, loc, hreached, hdir⟩
  · rintro ⟨hcheck, loc, hreached, hdir⟩
    exact ⟨loc, ⟨hcheck, hreached, fun _ => hdir⟩, hdir⟩

theorem locateParent_eq_ok_iff {name? : Option String} :
    s.locateParent path = .ok (dir, name?) ↔
      Path.check path = .ok () ∧ s.followFrom path (Path.names path).dropLast = .ok dir ∧
        s.hasDirectory dir = true ∧ (Path.names path).getLast? = name? := by
  simp only [locateParent, bind_eq_ok_iff, throw_bind, check_eq_ok_iff, pure_eq_ok_iff]
  constructor
  · rintro ⟨_, hcheck, mid, hfollow, hdir, heq⟩
    obtain ⟨rfl, hlast⟩ := Prod.mk.inj heq
    exact ⟨hcheck, hfollow, by simpa using hdir, hlast⟩
  · rintro ⟨hcheck, hfollow, hdir, rfl⟩
    exact ⟨(), hcheck, dir, hfollow, by simpa using hdir, rfl⟩

/-- A path is that of the entry `name` of the directory at `dir`, whatever stands there. -/
structure IsEntry (s : FileStore) (path : String) (dir : Location) (name : String) : Prop where
  check : Path.check path = .ok ()
  parent : s.followFrom path (Path.names path).dropLast = .ok dir
  hasDirectory : s.hasDirectory dir = true
  last : (Path.names path).getLast? = some name
  ne_dot : name ≠ "."
  ne_dots : name ≠ ".."
  size_le : name.utf8ByteSize ≤ Path.nameLimit

namespace IsEntry

theorem of_extends (h : s.IsEntry path dir name) (hext : Extends s t) : t.IsEntry path dir name :=
  { h with
    parent := followFrom_of_extends hext h.parent
    hasDirectory := hext.hasDirectory h.hasDirectory }

theorem reached {e : Entry} (h : s.IsEntry path dir name) (hget : s.get? (dir ++ [name]) = some e)
    (hlink : ∀ target, e ≠ .link target) : s.reached path = .ok (dir ++ [name]) := by
  have hadv : s.advance dir [name] = .arrived (dir ++ [name]) :=
    (advance_eq_arrived_iff h.ne_dot h.ne_dots).mpr
      ⟨h.hasDirectory, h.size_le, ⟨e, hget, hlink⟩, rfl⟩
  have hreached := followFrom_concat h.parent hadv
  rwa [List.dropLast_append_getLast? name h.last] at hreached

end IsEntry

/-! ### Making one directory -/

theorem makeDirectory_eq_ok (h : s.makeDirectory path = .ok t) :
    ∃ dir name, s.IsEntry path dir name ∧ s.get? (dir ++ [name]) = none ∧
      t = s.set (dir ++ [name]) .directory := by
  obtain ⟨⟨dir, name?⟩, hparent, h⟩ := bind_eq_ok_iff.mp h
  obtain ⟨hcheck, hfollow, hdir, hname⟩ := locateParent_eq_ok_iff.mp hparent
  cases name? with
  | none => exact absurd h throw_ne_ok
  | some name =>
    simp only [throw_bind, check_eq_ok_iff] at h
    obtain ⟨hdots, hlimit, h⟩ := h
    obtain ⟨hdot, hdots⟩ := not_or.mp hdots
    cases hget : s.get? (dir ++ [name]) with
    | some e => exact absurd (by simpa only [hget] using h) throw_ne_ok
    | none =>
      rw [hget] at h
      obtain rfl := pure_eq_ok_iff.mp h
      exact ⟨dir, name, ⟨hcheck, hfollow, hdir, hname, hdot, hdots, Nat.le_of_not_lt hlimit⟩, hget,
        rfl⟩

theorem extends_of_makeDirectory (h : s.makeDirectory path = .ok t) : Extends s t := by
  obtain ⟨dir, name, -, hget, rfl⟩ := makeDirectory_eq_ok h
  exact extends_set hget

theorem isDirectory_of_makeDirectory (h : s.makeDirectory path = .ok t) :
    t.isDirectory path = true := by
  have hext := extends_of_makeDirectory h
  obtain ⟨dir, name, hentry, hget, rfl⟩ := makeDirectory_eq_ok h
  have hplace : (s.set (dir ++ [name]) .directory).get? (dir ++ [name]) = some .directory :=
    get?_set_self (by simp)
  exact isDirectory_iff.mpr ⟨hentry.check, dir ++ [name],
    (hentry.of_extends hext).reached hplace (by simp), hasDirectory_iff.mpr hplace⟩

theorem makeDirectory_of_isDirectory (h : s.isDirectory path = true) :
    s.makeDirectory path = .error .alreadyExists := by
  obtain ⟨hcheck, loc, hreached, hloc⟩ := isDirectory_iff.mp h
  unfold FileStore.reached at hreached
  obtain hnil | ⟨xs, name, hconcat⟩ := List.eq_nil_or_concat' (Path.names path)
  · have hparent : s.locateParent path = .ok (loc, none) :=
      locateParent_eq_ok_iff.mpr ⟨hcheck, by simpa [hnil] using hreached, hloc, by simp [hnil]⟩
    rw [makeDirectory, hparent]
    rfl
  · rw [hconcat] at hreached
    obtain ⟨dir, hdir, hstuck⟩ := exists_followFrom_of_concat hreached
    have hparent : s.locateParent path = .ok (dir, some name) :=
      locateParent_eq_ok_iff.mpr ⟨hcheck, by simpa [hconcat] using hdir,
        hasDirectory_of_advance hstuck, by simp [hconcat]⟩
    rw [makeDirectory, hparent]
    by_cases hdots : name = "." ∨ name = ".."
    · simp [bind, Except.bind, hdots, throw, throwThe, MonadExceptOf.throw]
    · obtain ⟨hdot, hdots'⟩ := not_or.mp hdots
      obtain ⟨hlimit, e, hget⟩ := exists_entry_of_advance hdot hdots' hstuck
      simp [bind, Except.bind, hdots, Nat.not_lt.mpr hlimit, hget, throw, throwThe,
        MonadExceptOf.throw]

/-! ### Making a directory and those above it -/

theorem isDirectory_of_acceptExisting {fault : FileFault} (h : s.acceptExisting path fault = .ok ()) :
    s.isDirectory path = true := by
  unfold acceptExisting at h
  split at h
  · next hcond => exact hcond.2
  · cases h

theorem isDirectory_of_makeDirectories {above : List String}
    (h : s.makeDirectories (path :: above) = (.ok (), t)) : t.isDirectory path = true := by
  rw [makeDirectories] at h
  split at h
  · next hmake => cases h; exact isDirectory_of_makeDirectory hmake
  · split at h
    · cases h
    · split at h
      · next hmake => cases h; exact isDirectory_of_makeDirectory hmake
      · obtain ⟨haccept, rfl⟩ := Prod.mk.inj h
        exact isDirectory_of_acceptExisting haccept
  · obtain ⟨haccept, rfl⟩ := Prod.mk.inj h
    exact isDirectory_of_acceptExisting haccept

/-- The directory is there afterwards. The empty path is that of the home, which is not made. -/
theorem isDirectory_of_createDirectories (h : s.createDirectories path = (.ok (), t)) :
    path = "" ∨ t.isDirectory path = true := by
  unfold createDirectories at h
  split at h
  · next hempty => exact Or.inl (by simpa using hempty)
  · exact Or.inr (isDirectory_of_makeDirectories h)

theorem createDirectories_of_isDirectory (h : path = "" ∨ s.isDirectory path = true) :
    s.createDirectories path = (.ok (), s) := by
  obtain rfl | hdir := h
  · rfl
  · unfold createDirectories
    split
    · rfl
    · simp [makeDirectories, makeDirectory_of_isDirectory hdir, acceptExisting, hdir]

end TagVocab.FileStore

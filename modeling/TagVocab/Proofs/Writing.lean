import TagVocab.Proofs.FileStore.Replacing
import TagVocab.Writing

/-!
# Written documents stay

A document counts as up to date if the way to it leads to its content, through links as well, but it
is the entry of its name that is replaced. What was up to date stays so as long as nothing that is
written later replaces an entry on the way to it.
-/

namespace TagVocab.FileStore

variable {s t : FileStore} {loc place : Location} {dir : String} {a : Artifact}
  {artifacts written pending : List Artifact}

/-! ### Runs on a store -/

theorem run_bind {α β : Type} (x : ExceptT Failure (StateM FileStore) α)
    (f : α → ExceptT Failure (StateM FileStore) β) (s : FileStore) :
    (x >>= f).run s =
      match x.run s with
      | (.ok a, t) => (f a).run t
      | (.error failure, t) => (.error failure, t) := by
  rw [ExceptT.run_bind]
  change StateT.bind x.run _ s = _
  unfold StateT.bind
  change (match x.run s with | (result, t) => _) = _
  rcases x.run s with ⟨result, t⟩
  cases result <;> rfl

theorem isUpToDate_iff {content : ByteArray} {result : Except FileFault ByteArray} :
    FileAccess.isUpToDate content (result.mapError FileFault.error) = true ↔
      result = .ok content := by
  cases result with
  | error e => simp [Except.mapError, FileAccess.isUpToDate]
  | ok old =>
    change old.beq content = true ↔ _
    simp [ByteArray.beq, ByteArray.ext_iff]

theorem writeArtifact_run (s : FileStore) (dir : String) (a : Artifact) :
    (access.writeArtifact dir a).run s =
      if FileAccess.isUpToDate a.contents.toUTF8
          ((s.read (Path.join dir a.name)).mapError FileFault.error) then
        (.ok (), s)
      else
        match s.replace dir (Path.join dir a.name) a.contents.toUTF8 with
        | (.ok _, t) => (.ok (), t)
        | (.error fault, t) =>
          (.error (SystemError.failureAt "write::write_atomic" "path" (Path.join dir a.name)
            fault.error), t) := by
  rw [FileAccess.writeArtifact, run_bind]
  by_cases hdate : FileAccess.isUpToDate a.contents.toUTF8
      ((s.read (Path.join dir a.name)).mapError FileFault.error) = true
  · rw [if_pos hdate]
    change ExceptT.run (m := StateM FileStore) (if FileAccess.isUpToDate a.contents.toUTF8
      ((s.read (Path.join dir a.name)).mapError FileFault.error) = true then _ else _) s = _
    rw [if_pos hdate]
    rfl
  · rw [if_neg hdate]
    change ExceptT.run (m := StateM FileStore) (if FileAccess.isUpToDate a.contents.toUTF8
      ((s.read (Path.join dir a.name)).mapError FileFault.error) = true then _ else _) s = _
    rw [if_neg hdate]
    change (((s.replace dir (Path.join dir a.name) a.contents.toUTF8).1.mapError _).mapError _,
      (s.replace dir (Path.join dir a.name) a.contents.toUTF8).2) = _
    rcases s.replace dir (Path.join dir a.name) a.contents.toUTF8 with ⟨result, t⟩
    cases result <;> rfl

theorem writeArtifacts_run (s : FileStore) (dir : String) (artifacts : List Artifact) :
    (access.writeArtifacts dir artifacts).run s =
      match s.createDirectories dir with
      | (.ok _, t) => (artifacts.forM (access.writeArtifact dir)).run t
      | (.error fault, t) =>
        (.error (SystemError.failureAt "write::create_dir" "dir" dir fault.error), t) := by
  have hcreate : (FileAccess.attempt (SystemError.failureAt "write::create_dir" "dir" dir)
      (access.createDirectories dir)).run s =
      (((s.createDirectories dir).1.mapError FileFault.error).mapError
        (SystemError.failureAt "write::create_dir" "dir" dir), (s.createDirectories dir).2) := rfl
  rw [FileAccess.writeArtifacts, run_bind, hcreate]
  rcases s.createDirectories dir with ⟨result, t⟩
  cases result <;> rfl

theorem forM_writeArtifact_run (s : FileStore) (dir : String) (a : Artifact)
    (artifacts : List Artifact) :
    ((a :: artifacts).forM (access.writeArtifact dir)).run s =
      match (access.writeArtifact dir a).run s with
      | (.ok _, t) => (artifacts.forM (access.writeArtifact dir)).run t
      | (.error failure, t) => (.error failure, t) := by
  change (access.writeArtifact dir a >>= fun _ => artifacts.forM (access.writeArtifact dir)).run s = _
  rw [run_bind]
  rcases (access.writeArtifact dir a).run s with ⟨result, t⟩
  cases result <;> rfl

theorem writeArtifact_of_read (h : s.read (Path.join dir a.name) = .ok a.contents.toUTF8) :
    (access.writeArtifact dir a).run s = (.ok (), s) := by
  rw [writeArtifact_run, if_pos (isUpToDate_iff.mpr h)]

/-- All that writing one document can do. -/
theorem writeArtifact_cases (hplain : Path.IsPlain a.name) (s : FileStore) (dir : String) :
    s.read (Path.join dir a.name) = .ok a.contents.toUTF8 ∧
        (access.writeArtifact dir a).run s = (.ok (), s) ∨
      (∃ fault : FileFault, (access.writeArtifact dir a).run s =
        (.error (SystemError.failureAt "write::write_atomic" "path" (Path.join dir a.name)
          fault.error), s)) ∨
      ∃ loc, s.IsEntry (Path.join dir a.name) loc a.name ∧
        s.hasDirectory (loc ++ [a.name]) = false ∧
        (access.writeArtifact dir a).run s =
          (.ok (), s.set (loc ++ [a.name]) (.file a.contents.toUTF8)) := by
  rw [writeArtifact_run]
  split
  · next hdate => exact Or.inl ⟨isUpToDate_iff.mp hdate, rfl⟩
  · right
    obtain ⟨fault, hreplace⟩ | ⟨loc, hentry, hfree, hreplace⟩ :=
      replace_cases hplain s dir a.contents.toUTF8
    · exact Or.inl ⟨fault, by rw [hreplace]⟩
    · exact Or.inr ⟨loc, hentry, hfree, by rw [hreplace]⟩

/-! ### Documents in the way of each other -/

/-- A place is not on the way to the directory, nor to a document that was written into it. -/
structure IsClear (s : FileStore) (dir : String) (written : List Artifact) (place : Location) :
    Prop where
  dir_clear : place ∉ s.crossings dir
  written_clear : ∀ a ∈ written, place ∉ s.crossings (Path.join dir a.name)

/-- Whenever a document has to be put in place, its place is not on the way to the directory, nor to
a document that was written before. -/
def Untangled (dir : String) : FileStore → (written pending : List Artifact) → Prop
  | _, _, [] => True
  | s, written, a :: pending =>
    (s.read (Path.join dir a.name) = .ok a.contents.toUTF8 ∨
        ∀ loc, s.reached dir = .ok loc → s.IsClear dir written (loc ++ [a.name])) ∧
      Untangled dir ((access.writeArtifact dir a).run s).2 (written ++ [a]) pending

instance : Decidable (s.IsClear dir written place) :=
  decidable_of_iff
    (place ∉ s.crossings dir ∧ ∀ a ∈ written, place ∉ s.crossings (Path.join dir a.name))
    ⟨fun h => ⟨h.1, h.2⟩, fun h => ⟨h.dir_clear, h.written_clear⟩⟩

instance {ε α : Type} (p : α → Prop) [DecidablePred p] :
    (x : Except ε α) → Decidable (∀ a, x = .ok a → p a)
  | .ok a => decidable_of_iff (p a) (by simp)
  | .error _ => isTrue (by simp)

instance decidableUntangled (dir : String) :
    ∀ (s : FileStore) (written pending : List Artifact), Decidable (Untangled dir s written pending)
  | _, _, [] => isTrue trivial
  | s, written, a :: pending =>
    have := decidableUntangled dir ((access.writeArtifact dir a).run s).2 (written ++ [a]) pending
    inferInstanceAs (Decidable ((_ ∨ _) ∧ _))

/-- The documents that were written into the directory at `loc` are there. -/
structure InPlace (s : FileStore) (dir : String) (loc : Location) (written : List Artifact) :
    Prop where
  reached : s.reached dir = .ok loc
  isDirectory : dir = "" ∨ s.isDirectory dir = true
  plain : ∀ a ∈ written, Path.IsPlain a.name
  read : ∀ a ∈ written, s.read (Path.join dir a.name) = .ok a.contents.toUTF8

theorem isDirectory_congr (hhome : t.home = s.home)
    (h : ∀ l ∈ s.crossings dir, t.get? l = s.get? l) (hdir : s.isDirectory dir = true) :
    t.isDirectory dir = true := by
  obtain ⟨hcheck, loc, hreached, hloc⟩ := isDirectory_iff.mp hdir
  refine isDirectory_iff.mpr ⟨hcheck, loc, ?_, ?_⟩
  · rw [(reached_congr hhome h).1, hreached]
  · rw [hasDirectory_congr (h loc (mem_crossings_of_reached hreached)), hloc]

namespace InPlace

theorem append (h : s.InPlace dir loc written) (hplain : Path.IsPlain a.name)
    (hread : s.read (Path.join dir a.name) = .ok a.contents.toUTF8) :
    s.InPlace dir loc (written ++ [a]) where
  reached := h.reached
  isDirectory := h.isDirectory
  plain := List.forall_mem_append.mpr ⟨h.plain, List.forall_mem_singleton.mpr hplain⟩
  read := List.forall_mem_append.mpr ⟨h.read, List.forall_mem_singleton.mpr hread⟩

/-- What is in place stays there when an entry out of its way is replaced. -/
theorem set (h : s.InPlace dir loc written) (hclear : s.IsClear dir written place) (e : Entry) :
    (s.set place e).InPlace dir loc written := by
  have hdir := get?_set_of_not_mem (s := s) (e := e) hclear.dir_clear
  exact {
    reached := (reached_congr (home_set _ _ _) hdir).1.trans h.reached
    isDirectory := h.isDirectory.imp_right (isDirectory_congr (home_set _ _ _) hdir)
    plain := h.plain
    read := fun a ha => read_join_congr (h.plain a ha) (home_set _ _ _)
      (get?_set_of_not_mem (hclear.written_clear a ha)) (h.read a ha) }

theorem step (h : s.InPlace dir loc written) (hplain : Path.IsPlain a.name)
    (hclear : s.read (Path.join dir a.name) = .ok a.contents.toUTF8 ∨
      s.IsClear dir written (loc ++ [a.name]))
    (hrun : (access.writeArtifact dir a).run s = (.ok (), t)) :
    t.InPlace dir loc (written ++ [a]) := by
  obtain hread | hclear := hclear
  · obtain rfl : s = t := (Prod.mk.inj ((writeArtifact_of_read hread).symm.trans hrun)).2
    exact h.append hplain hread
  obtain ⟨hread, hsame⟩ | ⟨fault, herror⟩ | ⟨loc', hentry, -, hset⟩ :=
    writeArtifact_cases hplain s dir
  · obtain rfl : s = t := (Prod.mk.inj (hsame.symm.trans hrun)).2
    exact h.append hplain hread
  · cases (Prod.mk.inj (herror.symm.trans hrun)).1
  · obtain rfl := (Prod.mk.inj (hset.symm.trans hrun)).2
    obtain ⟨-, hcheck, hreached, hdir, hsize⟩ := (isEntry_join_iff hplain).mp hentry
    obtain rfl : loc = loc' := Except.ok.inj (h.reached.symm.trans hreached)
    -- The directory is where it was, so the path of `a` leads to the new file.
    have hstays := h.set hclear (.file a.contents.toUTF8)
    have hloc : loc ≠ loc ++ [a.name] := by simp
    have hentry : (s.set (loc ++ [a.name]) (.file a.contents.toUTF8)).IsEntry
        (Path.join dir a.name) loc a.name :=
      (isEntry_join_iff hplain).mpr
        ⟨rfl, hcheck, hstays.reached, (hasDirectory_congr (get?_set_of_ne hloc)).trans hdir, hsize⟩
    exact hstays.append hplain (hentry.read hplain (get?_set_self (by simp)))

theorem run (h : s.InPlace dir loc written) (hplain : ∀ a ∈ pending, Path.IsPlain a.name)
    (hclear : Untangled dir s written pending)
    (hrun : (pending.forM (access.writeArtifact dir)).run s = (.ok (), t)) :
    t.InPlace dir loc (written ++ pending) := by
  induction pending generalizing written s with
  | nil =>
    obtain rfl : s = t := (Prod.mk.inj hrun).2
    simpa using h
  | cons a pending ih =>
    obtain ⟨ha, hrest⟩ := List.forall_mem_cons.mp hplain
    obtain ⟨hfirst, hclear⟩ := hclear
    rw [forM_writeArtifact_run] at hrun
    rcases hstep : (access.writeArtifact dir a).run s with ⟨result, u⟩
    rw [hstep] at hrun hclear
    cases result with
    | error failure => cases (Prod.mk.inj hrun).1
    | ok _ =>
      have hnext := h.step ha (hfirst.imp_right fun hclear => hclear loc h.reached) hstep
      simpa using ih hnext hrest hclear hrun

end InPlace

theorem forM_writeArtifact_of_read
    (h : ∀ a ∈ artifacts, s.read (Path.join dir a.name) = .ok a.contents.toUTF8) :
    (artifacts.forM (access.writeArtifact dir)).run s = (.ok (), s) := by
  induction artifacts with
  | nil => rfl
  | cons a artifacts ih =>
    obtain ⟨ha, hrest⟩ := List.forall_mem_cons.mp h
    rw [forM_writeArtifact_run, writeArtifact_of_read ha]
    exact ih hrest

/-- Documents that were written are in place, and writing them again changes nothing, as long as none
of them takes a place on the way to another one. -/
theorem writeArtifacts_inPlace (hplain : ∀ a ∈ artifacts, Path.IsPlain a.name)
    (hclear : Untangled dir (s.createDirectories dir).2 [] artifacts)
    (hrun : (access.writeArtifacts dir artifacts).run s = (.ok (), t)) :
    (∀ a ∈ artifacts, t.read (Path.join dir a.name) = .ok a.contents.toUTF8) ∧
      (access.writeArtifacts dir artifacts).run t = (.ok (), t) := by
  rw [writeArtifacts_run] at hrun
  rcases hcreate : s.createDirectories dir with ⟨result, u⟩
  rw [hcreate] at hrun hclear
  cases result with
  | error fault => cases (Prod.mk.inj hrun).1
  | ok _ =>
    have hdir := isDirectory_of_createDirectories hcreate
    have hreached : ∃ loc, u.reached dir = .ok loc := by
      obtain rfl | hdir := hdir
      · exact ⟨u.home, rfl⟩
      · obtain ⟨-, loc, hreached, -⟩ := isDirectory_iff.mp hdir
        exact ⟨loc, hreached⟩
    obtain ⟨loc, hreached⟩ := hreached
    have hstart : u.InPlace dir loc [] :=
      ⟨hreached, hdir, List.forall_mem_nil _, List.forall_mem_nil _⟩
    have hend := hstart.run hplain hclear hrun
    refine ⟨hend.read, ?_⟩
    rw [writeArtifacts_run, createDirectories_of_isDirectory hend.isDirectory]
    exact forM_writeArtifact_of_read hend.read

theorem eq_of_isOk {ε σ : Type} {result : Except ε Unit × σ} (h : result.1.isOk = true) :
    result = (.ok (), result.2) := by
  obtain ⟨_ | _, _⟩ := result
  · cases h
  · rfl

/-- A directory that is reached by a link, with links at the places of documents: one leads out of
the directory, one to a document that is written later, and one to a document written before. -/
def linked : FileStore where
  entries := [(["gen"], .link "out"), (["out"], .directory), (["out", "a.rs"], .link "../old.rs"),
    (["out", "b.rs"], .link "c.rs"), (["out", "c.rs"], .file "old\n".toUTF8),
    (["out", "d.rs"], .link "b.rs"), (["old.rs"], .file "one\n".toUTF8)]

def linkedDocuments : List Artifact :=
  [⟨"a.rs", "one\n"⟩, ⟨"b.rs", "two\n"⟩, ⟨"c.rs", "three\n"⟩, ⟨"d.rs", "two\n"⟩]

theorem writeArtifacts_inPlace_linked :
    (∀ a ∈ linkedDocuments, Path.IsPlain a.name) ∧
      Untangled "gen" (linked.createDirectories "gen").2 [] linkedDocuments ∧
      ∃ t, (access.writeArtifacts "gen" linkedDocuments).run linked = (.ok (), t) ∧
        (∀ a ∈ linkedDocuments, t.read (Path.join "gen" a.name) = .ok a.contents.toUTF8) ∧
        (access.writeArtifacts "gen" linkedDocuments).run t = (.ok (), t) := by
  have hplain : ∀ a ∈ linkedDocuments, Path.IsPlain a.name := by
    have hnames : ∀ a ∈ linkedDocuments, Settings.isPlainFileName a.name = true := by decide
    exact fun a ha => Path.isPlain_of_isPlainFileName (hnames a ha)
  have hclear : Untangled "gen" (linked.createDirectories "gen").2 [] linkedDocuments := by
    decide +kernel
  have hok : ((access.writeArtifacts "gen" linkedDocuments).run linked).1.isOk = true := by
    decide +kernel
  have hrun := eq_of_isOk hok
  exact ⟨hplain, hclear, _, hrun, writeArtifacts_inPlace hplain hclear hrun⟩

/-- The place of one document is a link to the place of the next one. -/
def tangled : FileStore where
  entries := [(["out"], .directory), (["out", "a.rs"], .link "b.rs"),
    (["out", "b.rs"], .file "one\n".toUTF8)]

def tangledDocuments : List Artifact :=
  [⟨"a.rs", "one\n"⟩, ⟨"b.rs", "two\n"⟩]

/-- Distinct plain names are not enough: what is up to date by way of a link can be written over. -/
theorem not_forall_writeArtifacts_inPlace :
    ¬∀ (s t : FileStore) (dir : String) (artifacts : List Artifact),
      (∀ a ∈ artifacts, Path.IsPlain a.name) → (artifacts.map (·.name)).Nodup →
      (access.writeArtifacts dir artifacts).run s = (.ok (), t) →
      (∀ a ∈ artifacts, t.read (Path.join dir a.name) = .ok a.contents.toUTF8) ∧
        (access.writeArtifacts dir artifacts).run t = (.ok (), t) := by
  intro hall
  have hplain : ∀ a ∈ tangledDocuments, Path.IsPlain a.name := by
    have hnames : ∀ a ∈ tangledDocuments, Settings.isPlainFileName a.name = true := by decide
    exact fun a ha => Path.isPlain_of_isPlainFileName (hnames a ha)
  have hok : ((access.writeArtifacts "out" tangledDocuments).run tangled).1.isOk = true := by
    decide +kernel
  have hread := (hall tangled _ "out" tangledDocuments hplain (by decide) (eq_of_isOk hok)).1
  exact absurd hread (by decide +kernel)

/-- A link on the way to the directory can be written over as well: here it leads from `out/b.rs` to
`out`, so that the document takes its place. -/
example :
    let s : FileStore := { entries := [(["out"], .directory), (["out", "b.rs"], .link ".")] }
    let written := (access.writeArtifacts "out/b.rs" [⟨"b.rs", "two\n"⟩]).run s
    written.1.isOk = true ∧ written.2.read (Path.join "out/b.rs" "b.rs") = .error .notDirectory := by
  decide +kernel

end TagVocab.FileStore

import TagVocab.Proofs.Writing

/-!
# Writing leaves the rest alone

Whether it succeeds or fails, writing documents changes no entry but those of their names: each of
them is as it was, or a file with the content of its document. A file that is put in place can cut
off the way to the directory, but leads it nowhere else, so the names are those of one directory all
along.
-/

namespace TagVocab.FileStore

variable {s t u : FileStore} {here loc : Location} {dir path : String}
  {names paths above : List String} {links : Nat} {a : Artifact} {artifacts pending : List Artifact}

/-! ### Directories on the way -/

/-- Nothing stood at a location, and now there is the directory of one of `paths`. -/
structure IsMade (s t : FileStore) (paths : List String) (loc : Location) : Prop where
  get?_before : s.get? loc = none
  get?_after : t.get? loc = some .directory
  exists_path : ∃ path ∈ paths, ∃ dir name, t.IsEntry path dir name ∧ loc = dir ++ [name]

/-- What `t` does not have from `s` are directories of `paths`. -/
def OnlyMakes (s t : FileStore) (paths : List String) : Prop :=
  ∀ loc, t.get? loc = s.get? loc ∨ IsMade s t paths loc

namespace OnlyMakes

theorem refl (s : FileStore) (paths : List String) : OnlyMakes s s paths :=
  fun _ => Or.inl rfl

theorem trans (hst : OnlyMakes s t above) (htu : OnlyMakes t u paths) (hext : Extends t u)
    (hsub : above ⊆ paths) : OnlyMakes s u paths := by
  intro loc
  obtain hsame | hmade := hst loc
  · obtain hsame' | hmade := htu loc
    · exact Or.inl (hsame'.trans hsame)
    · exact Or.inr ⟨hsame ▸ hmade.get?_before, hmade.get?_after, hmade.exists_path⟩
  · obtain ⟨p, hp, dir, name, hentry, hloc⟩ := hmade.exists_path
    exact Or.inr ⟨hmade.get?_before, hext.get? hmade.get?_after, p, hsub hp, dir, name,
      hentry.of_extends hext, hloc⟩

end OnlyMakes

theorem makeDirectory_onlyMakes (h : s.makeDirectory path = .ok t) :
    OnlyMakes s t (path :: above) := by
  have hext := extends_of_makeDirectory h
  obtain ⟨dir, name, hentry, hget, rfl⟩ := makeDirectory_eq_ok h
  intro loc
  by_cases hloc : loc = dir ++ [name]
  · subst hloc
    exact Or.inr ⟨hget, get?_set_self (by simp), path, List.mem_cons_self, dir, name,
      hentry.of_extends hext, rfl⟩
  · exact Or.inl (get?_set_of_ne hloc)

theorem makeDirectories_onlyMakes (s : FileStore) (paths : List String) :
    OnlyMakes s (s.makeDirectories paths).2 paths := by
  induction paths with
  | nil => exact .refl s []
  | cons path above ih =>
    have hsub : above ⊆ path :: above := List.subset_cons_self path above
    rw [makeDirectories]
    split
    · next hmake => exact makeDirectory_onlyMakes hmake
    · split
      · next t hrest =>
        rw [hrest] at ih
        exact ih.trans (.refl t _) (.refl t) hsub
      · next t hrest =>
        rw [hrest] at ih
        split
        · next hmake =>
          exact ih.trans (makeDirectory_onlyMakes hmake) (extends_of_makeDirectory hmake) hsub
        · exact ih.trans (.refl t _) (.refl t) hsub
    · exact .refl s _

/-- Making a directory makes it and those above it, if anything. -/
theorem createDirectories_onlyMakes (s : FileStore) (path : String) :
    OnlyMakes s (s.createDirectories path).2 (path :: Path.above path) := by
  unfold createDirectories
  split
  · exact .refl s _
  · exact makeDirectories_onlyMakes s _

/-! ### Files over entries -/

/-- Some entries of `s` have given way to files in `t`. -/
structure Overlaid (s t : FileStore) : Prop where
  home : t.home = s.home
  get? : ∀ loc, t.get? loc = s.get? loc ∨ ∃ content, t.get? loc = some (.file content)

namespace Overlaid

theorem get?_eq (h : Overlaid s t) {e : Entry} (hget : t.get? loc = some e)
    (hfile : ∀ content, e ≠ .file content) : s.get? loc = some e := by
  obtain hsame | ⟨content, hcontent⟩ := h.get? loc
  · rw [← hsame, hget]
  · exact absurd (Option.some.inj (hget.symm.trans hcontent)) (hfile content)

theorem hasDirectory (h : Overlaid s t) (hdir : t.hasDirectory loc = true) :
    s.hasDirectory loc = true :=
  hasDirectory_iff.mpr (h.get?_eq (hasDirectory_iff.mp hdir) (by simp))

/-- Names that come to a directory or to a link have come by no file. -/
theorem advance_eq (h : Overlaid s t) {p : Progress} (hp : t.advance here names = p)
    (hend : ∀ loc, p = .arrived loc → t.hasDirectory loc = true)
    (hstuck : ∀ fault, p ≠ .stuck fault) : s.advance here names = p := by
  induction names generalizing here with
  | nil => exact hp
  | cons name rest ih =>
    have hdir : t.hasDirectory here = true := by
      by_contra hno
      exact hstuck .notDirectory (by simp [← hp, advance, hno])
    simp only [advance, hdir, h.hasDirectory hdir, Bool.not_true, Bool.false_eq_true, if_false]
      at hp ⊢
    split
    · next hdot => exact ih ((if_pos hdot).symm.trans hp)
    · next hdot =>
      rw [if_neg hdot] at hp
      split
      · next hdots => exact ih ((if_pos hdots).symm.trans hp)
      · next hdots =>
        rw [if_neg hdots] at hp
        split
        · next hlimit => exact absurd ((if_pos hlimit).symm.trans hp).symm (hstuck .nameTooLong)
        · next hlimit =>
          rw [if_neg hlimit] at hp
          cases hget : t.get? (here ++ [name]) with
          | none => exact absurd (by simpa [hget] using hp.symm) (hstuck .missing)
          | some e =>
            rw [hget] at hp
            cases e with
            | directory =>
              rw [h.get?_eq hget (by simp)]
              exact ih hp
            | link target =>
              rw [h.get?_eq hget (by simp)]
              exact hp
            | file content =>
              -- The lookup ends at the file, or is stuck there.
              cases rest with
              | nil => simpa [FileStore.hasDirectory, hget] using hend (here ++ [name]) hp.symm
              | cons next rest => exact absurd ((advance_file hget).symm.trans hp).symm (hstuck _)

theorem follow_eq (h : Overlaid s t) (hfollow : t.follow links here names = .ok loc)
    (hdir : t.hasDirectory loc = true) : s.follow links here names = .ok loc := by
  induction links generalizing here names with
  | zero => simp [follow] at hfollow
  | succ links ih =>
    rw [follow] at hfollow ⊢
    cases hadv : t.advance here names with
    | arrived mid =>
      obtain rfl : mid = loc := by simpa [hadv] using hfollow
      rw [h.advance_eq hadv (by simpa using hdir) (by simp)]
    | stuck fault => simp [hadv] at hfollow
    | link dir target rest =>
      rw [hadv] at hfollow
      rw [h.advance_eq hadv (by simp) (by simp)]
      exact ih hfollow

theorem reached_eq (h : Overlaid s t) (hreached : t.reached path = .ok loc)
    (hdir : t.hasDirectory loc = true) : s.reached path = .ok loc := by
  rw [reached, followFrom, h.home] at hreached
  exact h.follow_eq hreached hdir

end Overlaid

/-! ### Documents -/

/-- All that was changed in `s` is that some of `artifacts` are in place in the directory at `dir`. -/
structure OnlyPlaces (s t : FileStore) (dir : String) (artifacts : List Artifact) : Prop where
  home : t.home = s.home
  get? : ∀ loc, t.get? loc = s.get? loc ∨
    ∃ a ∈ artifacts, ∃ parent, s.reached dir = .ok parent ∧ loc = parent ++ [a.name] ∧
      t.get? loc = some (.file a.contents.toUTF8)

namespace OnlyPlaces

theorem refl (s : FileStore) (dir : String) (artifacts : List Artifact) :
    OnlyPlaces s s dir artifacts :=
  ⟨rfl, fun _ => Or.inl rfl⟩

theorem overlaid (h : OnlyPlaces s t dir artifacts) : Overlaid s t :=
  ⟨h.home, fun loc => (h.get? loc).imp_right fun ⟨a, _, _, _, _, hget⟩ => ⟨a.contents.toUTF8, hget⟩⟩

theorem step (h : OnlyPlaces s t dir artifacts) (ha : a ∈ artifacts) (hplain : Path.IsPlain a.name) :
    OnlyPlaces s ((access.writeArtifact dir a).run t).2 dir artifacts := by
  obtain ⟨-, hsame⟩ | ⟨fault, hsame⟩ | ⟨parent, hentry, -, hset⟩ := writeArtifact_cases hplain t dir
  · rwa [hsame]
  · rwa [hsame]
  · rw [hset]
    obtain ⟨-, -, hreached, hdir, -⟩ := (isEntry_join_iff hplain).mp hentry
    -- The directory is found in `t`, so it is the one that the way led to in `s`.
    have hparent : s.reached dir = .ok parent := h.overlaid.reached_eq hreached hdir
    refine ⟨h.home, fun loc => ?_⟩
    by_cases hloc : loc = parent ++ [a.name]
    · subst hloc
      exact Or.inr ⟨a, ha, parent, hparent, rfl, get?_set_self (by simp)⟩
    · rw [get?_set_of_ne hloc]
      exact h.get? loc

theorem run (h : OnlyPlaces s t dir artifacts) (hsub : pending ⊆ artifacts)
    (hplain : ∀ a ∈ artifacts, Path.IsPlain a.name) :
    OnlyPlaces s ((pending.forM (access.writeArtifact dir)).run t).2 dir artifacts := by
  induction pending generalizing t with
  | nil => exact h
  | cons a pending ih =>
    obtain ⟨ha, hrest⟩ := List.cons_subset.mp hsub
    have hstep := h.step ha (hplain a ha)
    rw [forM_writeArtifact_run]
    rcases hrun : (access.writeArtifact dir a).run t with ⟨result, u⟩
    rw [hrun] at hstep
    cases result with
    | error failure => exact hstep
    | ok _ => exact ih hstep hrest

end OnlyPlaces

theorem eq_of_writeArtifact_error {failure : Failure} (hplain : Path.IsPlain a.name)
    (h : (access.writeArtifact dir a).run s = (.error failure, t)) : s = t := by
  obtain ⟨-, hsame⟩ | ⟨fault, hsame⟩ | ⟨parent, -, -, hset⟩ := writeArtifact_cases hplain s dir
  · cases (Prod.mk.inj (hsame.symm.trans h)).1
  · exact (Prod.mk.inj (hsame.symm.trans h)).2
  · cases (Prod.mk.inj (hset.symm.trans h)).1

/-- A failure is that of one document, which leaves everything as the documents before it left it. -/
theorem exists_of_forM_writeArtifact_error {failure : Failure}
    (hplain : ∀ a ∈ artifacts, Path.IsPlain a.name)
    (h : (artifacts.forM (access.writeArtifact dir)).run s = (.error failure, t)) :
    ∃ before a behind, artifacts = before ++ a :: behind ∧
      (before.forM (access.writeArtifact dir)).run s = (.ok (), t) ∧
      (access.writeArtifact dir a).run t = (.error failure, t) := by
  induction artifacts generalizing s with
  | nil => cases (Prod.mk.inj h).1
  | cons a artifacts ih =>
    obtain ⟨ha, hrest⟩ := List.forall_mem_cons.mp hplain
    rw [forM_writeArtifact_run] at h
    rcases hrun : (access.writeArtifact dir a).run s with ⟨result, u⟩
    rw [hrun] at h
    cases result with
    | error failure' =>
      obtain rfl := eq_of_writeArtifact_error ha (hrun.trans h)
      exact ⟨[], a, artifacts, rfl, rfl, hrun.trans h⟩
    | ok _ =>
      obtain ⟨before, b, behind, rfl, hbefore, hfail⟩ := ih hrest h
      refine ⟨a :: before, b, behind, rfl, ?_, hfail⟩
      rw [forM_writeArtifact_run, hrun]
      exact hbefore

/-- Writing documents changes no entry but those of their names, each of which is then a file with
the content of one of them, and makes no directory but those on the way. If it fails, it is at one
document: those before it are written, and neither it nor those behind it have changed anything. -/
theorem writeArtifacts_frame {result : Except Failure Unit}
    (hplain : ∀ a ∈ artifacts, Path.IsPlain a.name)
    (hrun : (access.writeArtifacts dir artifacts).run s = (result, t)) :
    (∀ loc, t.get? loc = s.get? loc ∨
      (IsMade s (s.createDirectories dir).2 (dir :: Path.above dir) loc ∧
        t.get? loc = some .directory) ∨
      ∃ a ∈ artifacts, ∃ parent, (s.createDirectories dir).2.reached dir = .ok parent ∧
        loc = parent ++ [a.name] ∧ t.get? loc = some (.file a.contents.toUTF8)) ∧
    ∀ failure, result = .error failure →
      (∃ fault, s.createDirectories dir = (.error fault, t)) ∨
      ∃ before a behind, artifacts = before ++ a :: behind ∧
        (access.writeArtifacts dir before).run s = (.ok (), t) ∧
        (access.writeArtifact dir a).run t = (.error failure, t) := by
  have hmakes := createDirectories_onlyMakes s dir
  rw [writeArtifacts_run] at hrun
  rcases hcreate : s.createDirectories dir with ⟨created, made⟩
  rw [hcreate] at hrun hmakes
  cases created with
  | error fault =>
    obtain ⟨rfl, rfl⟩ := Prod.mk.inj hrun
    refine ⟨fun loc => ?_, fun failure _ => Or.inl ⟨fault, rfl⟩⟩
    exact (hmakes loc).imp_right fun hmade => Or.inl ⟨hmade, hmade.get?_after⟩
  | ok _ =>
    dsimp only at hrun hmakes ⊢
    have hplaces := (OnlyPlaces.refl made dir artifacts).run (List.Subset.refl artifacts) hplain
    rw [hrun] at hplaces
    constructor
    · intro loc
      obtain hsame | hplaced := hplaces.get? loc
      · obtain hbefore | hmade := hmakes loc
        · exact Or.inl (hsame.trans hbefore)
        · exact Or.inr (Or.inl ⟨hmade, hsame.trans hmade.get?_after⟩)
      · exact Or.inr (Or.inr hplaced)
    · rintro failure rfl
      obtain ⟨before, a, behind, hsplit, hbefore, hfail⟩ :=
        exists_of_forM_writeArtifact_error hplain hrun
      refine Or.inr ⟨before, a, behind, hsplit, ?_, hfail⟩
      rw [writeArtifacts_run, hcreate]
      exact hbefore

/-- A directory that is reached by way of one that is still missing. In it a link stands at the place
of the first document, and a directory at that of the second. -/
def blocked : FileStore where
  entries := [(["old.rs"], .file "old\n".toUTF8), (["out"], .directory),
    (["out", "a.rs"], .link "../old.rs"), (["out", "b.rs"], .directory)]

/-- A store with room for one more file. Of what comes next, only two bytes are written. -/
def filling : FileStore where
  entries := [(["out"], .directory), (["out", "b.rs"], .file "old\n".toUTF8)]
  medium :=
    { refusal? := fun step entries _ =>
        if step = .write ∧ 3 < entries.length then
          some (.numbered 28 "StorageFull" "No space left on device")
        else
          none
      written := fun content => content.extract 0 2 }

def threeDocuments : List Artifact :=
  [⟨"a.rs", "one\n"⟩, ⟨"b.rs", "two\n"⟩, ⟨"c.rs", "three\n"⟩]

theorem isPlain_of_threeDocuments : ∀ a ∈ threeDocuments, Path.IsPlain a.name := by
  have hnames : ∀ a ∈ threeDocuments, Settings.isPlainFileName a.name = true := by decide
  exact fun a ha => Path.isPlain_of_isPlainFileName (hnames a ha)

theorem writeArtifacts_frame_blocked :
    (∀ a ∈ threeDocuments, Path.IsPlain a.name) ∧
      (∃ failure t, (access.writeArtifacts "out/sub/.." threeDocuments).run blocked =
          (.error failure, t) ∧
        (∀ loc, t.get? loc = blocked.get? loc ∨
          (IsMade blocked (blocked.createDirectories "out/sub/..").2
            ["out/sub/..", "out/sub", "out"] loc ∧ t.get? loc = some .directory) ∨
          ∃ a ∈ threeDocuments, loc = ["out", a.name] ∧
            t.get? loc = some (.file a.contents.toUTF8)) ∧
        ∃ before a behind, threeDocuments = before ++ a :: behind ∧
          (access.writeArtifacts "out/sub/.." before).run blocked = (.ok (), t) ∧
          (access.writeArtifact "out/sub/.." a).run t = (.error failure, t)) ∧
      ∃ failure t, (access.writeArtifacts "out" threeDocuments).run filling = (.error failure, t) ∧
        failure.message = "No space left on device (os error 28)" ∧
        (∀ loc, t.get? loc = filling.get? loc ∨
          ∃ a ∈ threeDocuments, loc = ["out", a.name] ∧
            t.get? loc = some (.file a.contents.toUTF8)) ∧
        t.read "out/b.rs" = .ok "old\n".toUTF8 ∧ t.read "out/c.rs" = .error .missing := by
  refine ⟨isPlain_of_threeDocuments, ?_, ?_⟩
  · have hmade : (blocked.createDirectories "out/sub/..").1.isOk = true := by decide +kernel
    have hreached :
        (blocked.createDirectories "out/sub/..").2.reached "out/sub/.." = .ok ["out"] := by
      decide +kernel
    have hfails :
        ((access.writeArtifacts "out/sub/.." threeDocuments).run blocked).1.isOk = false := by
      decide +kernel
    rcases hrun : (access.writeArtifacts "out/sub/.." threeDocuments).run blocked with ⟨result, t⟩
    rw [hrun] at hfails
    cases result with
    | ok _ => cases hfails
    | error failure =>
      obtain ⟨hframe, hfailure⟩ := writeArtifacts_frame isPlain_of_threeDocuments hrun
      refine ⟨failure, t, rfl, fun loc => ?_, ?_⟩
      · refine (hframe loc).imp_right (Or.imp_right ?_)
        rintro ⟨a, ha, parent, hparent, rfl, hget⟩
        obtain rfl : ["out"] = parent := Except.ok.inj (hreached.symm.trans hparent)
        exact ⟨a, ha, rfl, hget⟩
      · obtain ⟨fault, hfault⟩ | hdocument := hfailure failure rfl
        · rw [hfault] at hmade
          cases hmade
        · exact hdocument
  · have hfails : ((access.writeArtifacts "out" threeDocuments).run filling).1.mapError
        Failure.message = .error "No space left on device (os error 28)" := by
      decide +kernel
    have hold : ((access.writeArtifacts "out" threeDocuments).run filling).2.read "out/b.rs" =
        .ok "old\n".toUTF8 := by
      decide +kernel
    have hnone : ((access.writeArtifacts "out" threeDocuments).run filling).2.read "out/c.rs" =
        .error .missing := by
      decide +kernel
    have hmade : (filling.createDirectories "out").2 = filling := rfl
    have hreached : filling.reached "out" = .ok ["out"] := by decide +kernel
    rcases hrun : (access.writeArtifacts "out" threeDocuments).run filling with ⟨result, t⟩
    rw [hrun] at hfails hold hnone
    cases result with
    | ok _ => cases hfails
    | error failure =>
      obtain ⟨hframe, -⟩ := writeArtifacts_frame isPlain_of_threeDocuments hrun
      refine ⟨failure, t, rfl, Except.error.inj hfails, fun loc => ?_, hold, hnone⟩
      rw [hmade] at hframe
      obtain hsame | ⟨hnew, -⟩ | ⟨a, ha, parent, hparent, rfl, hget⟩ := hframe loc
      · exact Or.inl hsame
      · cases hnew.get?_before.symm.trans hnew.get?_after
      · obtain rfl : ["out"] = parent := Except.ok.inj (hreached.symm.trans hparent)
        exact Or.inr ⟨a, ha, rfl, hget⟩

end TagVocab.FileStore

import TagVocab.Proofs.Session.Reading

/-!
# All or nothing

A command that cannot be read, or whose texts do not generate all of their documents, leaves every
file as it was. One that succeeds answers with the paths of exactly the documents that its texts
generate.
-/

namespace TagVocab

namespace Generation

variable {settings : Settings} {text : String} {artifacts : List Artifact}

open FileStore

theorem map_name_of_ofAst (h : ofAst settings text = .ok artifacts) :
    artifacts.map (·.name) =
      [settings.outputs.visitor, settings.outputs.visitorWalk, settings.outputs.astTags] := by
  obtain ⟨-, -, h⟩ := bind_eq_ok_iff.mp h
  obtain ⟨routes, -, h⟩ := bind_eq_ok_iff.mp h
  rw [← pure_eq_ok_iff.mp h]
  rfl

theorem map_name_of_ofGrammar (h : ofGrammar settings text = .ok artifacts) :
    artifacts.map (·.name) = [settings.outputs.grammarSymbols] := by
  obtain ⟨-, -, h⟩ := bind_eq_ok_iff.mp h
  obtain ⟨spaces, -, h⟩ := bind_eq_ok_iff.mp h
  rw [← pure_eq_ok_iff.mp h]
  rfl

end Generation

namespace Session

open FileStore

variable {settings : Settings} {texts : Texts} {artifacts : List Artifact}

/-- The names of the documents that texts generate, in their order. -/
def Texts.outputNames (o : OutputNames) : Texts → List String
  | .ast _ => [o.visitor, o.visitorWalk, o.astTags]
  | .grammar _ => [o.grammarSymbols]
  | .both _ _ => [o.visitor, o.visitorWalk, o.astTags, o.grammarSymbols]

theorem Texts.Generates.map_name (h : texts.Generates settings artifacts) :
    artifacts.map (·.name) = texts.outputNames settings.outputs := by
  cases texts with
  | ast text => exact Generation.map_name_of_ofAst h
  | grammar text => exact Generation.map_name_of_ofGrammar h
  | both astText grammarText =>
    obtain ⟨a, g, ha, hg, rfl⟩ := h
    rw [List.map_append, Generation.map_name_of_ofAst ha, Generation.map_name_of_ofGrammar hg]
    rfl

/-- Nothing is written unless settings and texts were read and all documents were generated, and
nothing is printed then. Otherwise the documents are written, and the paths that come back and are
printed are theirs. -/
theorem runCommand_allOrNothing (s : FileStore) (stdin : Except SystemError ByteArray)
    (c : Command) :
    ((¬∃ settings texts artifacts, Reads s stdin c settings texts ∧
        texts.Generates settings artifacts) →
      ∃ failure, (runCommand access (pure stdin) c).run s = (.error failure, s) ∧
        (report (.error failure)).out = "") ∧
    (∀ settings texts artifacts, Reads s stdin c settings texts →
      texts.Generates settings artifacts →
      ∀ t, (access.writeArtifacts c.outDir artifacts).run s = (.ok (), t) →
        (runCommand access (pure stdin) c).run s =
          (.ok (artifacts.map fun a => Path.join c.outDir a.name), t)) ∧
    ∀ paths t, (runCommand access (pure stdin) c).run s = (.ok paths, t) →
      ∃ settings texts artifacts, Reads s stdin c settings texts ∧
        texts.Generates settings artifacts ∧
        (access.writeArtifacts c.outDir artifacts).run s = (.ok (), t) ∧
        paths = artifacts.map (fun a => Path.join c.outDir a.name) ∧
        paths = (texts.outputNames settings.outputs).map (Path.join c.outDir) ∧
        (report (.ok paths)).out = String.join (paths.map (· ++ "\n")) := by
  refine ⟨fun hnone => ?_, fun settings texts artifacts hreads hgenerates t hwrite => ?_,
    fun paths t hok => ?_⟩
  · obtain ⟨settings, texts, artifacts, hreads, hgenerate, -⟩ |
      ⟨settings, texts, failure, -, -, hrun⟩ | ⟨failure, -, -, hrun⟩ := runCommand_cases s stdin c
    · exact absurd ⟨settings, texts, artifacts, hreads, Texts.generate_eq_ok_iff.mp hgenerate⟩ hnone
    · exact ⟨failure, hrun, rfl⟩
    · exact ⟨failure, hrun, rfl⟩
  · rw [runCommand_of_reads hreads, Texts.generate_eq_ok_iff.mpr hgenerates]
    dsimp only
    rw [hwrite]
  · obtain ⟨settings, texts, artifacts, hreads, hgenerate, hrun⟩ |
      ⟨settings, texts, failure, -, -, hrun⟩ | ⟨failure, -, -, hrun⟩ := runCommand_cases s stdin c
    · rw [hok] at hrun
      have hgenerates := Texts.generate_eq_ok_iff.mp hgenerate
      rcases hwrite : (access.writeArtifacts c.outDir artifacts).run s with ⟨result, u⟩
      rw [hwrite] at hrun
      cases result with
      | error failure => cases (Prod.mk.inj hrun).1
      | ok _ =>
        obtain ⟨hpaths, rfl⟩ := Prod.mk.inj hrun
        obtain rfl := Except.ok.inj hpaths
        refine ⟨settings, texts, artifacts, hreads, hgenerates, hwrite, rfl, ?_, rfl⟩
        rw [← hgenerates.map_name, List.map_map]
        rfl
    · cases (Prod.mk.inj (hok.symm.trans hrun)).1
    · cases (Prod.mk.inj (hok.symm.trans hrun)).1

/-- A sound enumeration beside a grammar that is missing, and an old document of the enumeration. -/
def halfGiven : FileStore where
  entries := [(["ast.rs"], .file "AST_A,\n".toUTF8), (["gen"], .directory),
    (["gen", "ast_tags.rs"], .file "old\n".toUTF8)]

theorem runCommand_allOrNothing_halfGiven :
    ∃ failure, (runCommand access (pure (.ok "unit\n".toUTF8))
        ⟨.both "ast.rs" "parse.y", "gen", none⟩).run halfGiven = (.error failure, halfGiven) ∧
      (report (.error failure)).out = "" := by
  have hmissing : halfGiven.read "parse.y" = .error .missing := by decide +kernel
  refine (runCommand_allOrNothing halfGiven (.ok "unit\n".toUTF8)
    ⟨.both "ast.rs" "parse.y", "gen", none⟩).1 ?_
  rintro ⟨settings, texts, artifacts, hreads, -⟩
  have htexts := hreads.texts
  cases texts with
  | ast text => exact htexts.elim
  | grammar text => exact htexts.elim
  | both astText grammarText => cases hmissing.symm.trans htexts.2

end Session

end TagVocab

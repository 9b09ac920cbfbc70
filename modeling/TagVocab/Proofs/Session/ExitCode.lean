import TagVocab.Proofs.AstTags.Clashes
import TagVocab.Proofs.Session.Reading

/-!
# The exit code

A command that is run exits with 2 exactly if its texts break the tag contract, and with 1 on any
other failure. Arguments that are no command exit with 2 as well, so the code tells a broken contract
apart only from what happens after the arguments were understood.
-/

namespace TagVocab

theorem UsageAnswer.exitCode_of_ne_help {answer : UsageAnswer} (h : answer ≠ .help) :
    answer.exitCode = 2 := by
  cases answer <;> first | rfl | exact absurd rfl h

namespace Generation

variable {settings : Settings}

open GrammarSymbols

theorem exists_ofAst_iff (hs : settings.validate = .ok ()) (text : String) :
    (∃ artifacts, ofAst settings text = .ok artifacts) ↔
      ¬ AstTags.Clash settings.lead (AstTags.ofText settings.lead text).names := by
  rw [← AstTags.exists_routes_iff, ofAst, validSettings, hs, foundRoutes]
  cases (AstTags.ofText settings.lead text).routes with
  | ok routes => exact iff_of_true ⟨_, rfl⟩ ⟨_, rfl⟩
  | error fault => exact iff_of_false (by rintro ⟨_, ⟨⟩⟩) (by rintro ⟨_, ⟨⟩⟩)

theorem exists_ofGrammar_iff (hs : settings.validate = .ok ()) (text : String) :
    (∃ artifacts, ofGrammar settings text = .ok artifacts) ↔
      (declaredTokens text).eraseDups.length ≤ 742 := by
  rw [← tokens_names_ofText, SymbolList.length_names, ← exists_assignedSpaces_iff,
    ofGrammar_of_validate hs]
  cases assignedSpaces (ofText text) with
  | ok spaces => exact iff_of_true ⟨_, rfl⟩ ⟨_, rfl⟩
  | error fault => exact iff_of_false (by rintro ⟨_, ⟨⟩⟩) (by rintro ⟨_, ⟨⟩⟩)

end Generation

namespace FileStore

variable {s t : FileStore} {dir : String} {a : Artifact} {artifacts : List Artifact}
  {failure : Failure}

theorem breaksContract_of_writeArtifact_error
    (h : (access.writeArtifact dir a).run s = (.error failure, t)) :
    failure.kind.breaksContract = false := by
  rw [writeArtifact_run] at h
  split at h
  · cases (Prod.mk.inj h).1
  · rcases hreplace : s.replace dir (Path.join dir a.name) a.contents.toUTF8 with ⟨result, u⟩
    rw [hreplace] at h
    cases result with
    | ok _ => cases (Prod.mk.inj h).1
    | error fault =>
      rw [← Except.error.inj (Prod.mk.inj h).1]
      exact fault.error.breaksContract_kind

theorem breaksContract_of_forM_writeArtifact_error
    (h : (artifacts.forM (access.writeArtifact dir)).run s = (.error failure, t)) :
    failure.kind.breaksContract = false := by
  induction artifacts generalizing s with
  | nil => cases (Prod.mk.inj h).1
  | cons a artifacts ih =>
    rw [forM_writeArtifact_run] at h
    rcases hrun : (access.writeArtifact dir a).run s with ⟨result, u⟩
    rw [hrun] at h
    cases result with
    | error _ => exact breaksContract_of_writeArtifact_error (hrun.trans h)
    | ok _ => exact ih h

/-- Documents that cannot be written are no broken contract. -/
theorem breaksContract_of_writeArtifacts_error
    (h : (access.writeArtifacts dir artifacts).run s = (.error failure, t)) :
    failure.kind.breaksContract = false := by
  rw [writeArtifacts_run] at h
  rcases hcreate : s.createDirectories dir with ⟨created, made⟩
  rw [hcreate] at h
  cases created with
  | error fault =>
    rw [← Except.error.inj (Prod.mk.inj h).1]
    exact fault.error.breaksContract_kind
  | ok _ => exact breaksContract_of_forM_writeArtifact_error h

end FileStore

namespace Session

open FileStore GrammarSymbols

variable {s : FileStore} {stdin : Except SystemError ByteArray} {args : List String} {c : Command}
  {settings : Settings} {texts : Texts}

/-- The tags of the enumeration clash, or there are too many tokens for their tags. -/
def Texts.BreaksContract (settings : Settings) : Texts → Prop
  | .ast text => AstTags.Clash settings.lead (AstTags.ofText settings.lead text).names
  | .grammar text => 742 < (declaredTokens text).eraseDups.length
  | .both astText grammarText =>
    AstTags.Clash settings.lead (AstTags.ofText settings.lead astText).names ∨
      742 < (declaredTokens grammarText).eraseDups.length

namespace Texts

theorem exists_generates_iff (hs : settings.validate = .ok ()) (texts : Texts) :
    (∃ artifacts, texts.Generates settings artifacts) ↔ ¬ texts.BreaksContract settings := by
  cases texts with
  | ast text => exact Generation.exists_ofAst_iff hs text
  | grammar text => exact (Generation.exists_ofGrammar_iff hs text).trans Nat.not_lt.symm
  | both astText grammarText =>
    rw [BreaksContract, not_or, ← Generation.exists_ofAst_iff hs, Nat.not_lt,
      ← Generation.exists_ofGrammar_iff hs]
    constructor
    · rintro ⟨_, a, g, ha, hg, -⟩
      exact ⟨⟨a, ha⟩, ⟨g, hg⟩⟩
    · rintro ⟨⟨a, ha⟩, ⟨g, hg⟩⟩
      exact ⟨a ++ g, a, g, ha, hg, rfl⟩

theorem breaksContract_of_generate_error (hs : settings.validate = .ok ()) {failure : Failure}
    (h : texts.generate settings = .error failure) : failure.kind.breaksContract = true := by
  cases texts with
  | ast text =>
    rw [Generation.kind_of_ofAst_error hs h]
    rfl
  | grammar text =>
    rw [Generation.kind_of_ofGrammar_error hs h]
    rfl
  | both astText grammarText =>
    cases hg : Generation.ofGrammar settings grammarText with
    | error failure' =>
      obtain rfl : failure' = failure :=
        Except.error.inj ((Generation.ofBoth_of_ofGrammar_error hg).symm.trans h)
      rw [Generation.kind_of_ofGrammar_error hs hg]
      rfl
    | ok g =>
      cases ha : Generation.ofAst settings astText with
      | error failure' =>
        obtain rfl : failure' = failure :=
          Except.error.inj ((Generation.ofBoth_of_ofAst_error hg ha).symm.trans h)
        rw [Generation.kind_of_ofAst_error hs ha]
        rfl
      | ok a => cases h.symm.trans (Generation.ofBoth_eq_ok_iff.mpr ⟨a, g, ha, hg, rfl⟩)

end Texts

/-! ### Commands -/

/-- A command fails with a broken contract exactly if it could be read and its texts break it. -/
theorem runCommand_breaksContract_iff {result : Except Failure (List String)} {t : FileStore}
    (hrun : (runCommand access (pure stdin) c).run s = (result, t)) :
    (∃ failure, result = .error failure ∧ failure.kind.breaksContract = true) ↔
      ∃ settings texts, Reads s stdin c settings texts ∧ texts.BreaksContract settings := by
  constructor
  · rintro ⟨failure, rfl, hkind⟩
    obtain ⟨settings, texts, artifacts, hreads, -, hcase⟩ |
      ⟨settings, texts, failure', hreads, hgenerate, hcase⟩ | ⟨failure', -, hother, hcase⟩ :=
      runCommand_cases s stdin c
    · rw [hrun] at hcase
      rcases hwrite : (access.writeArtifacts c.outDir artifacts).run s with ⟨result, u⟩
      rw [hwrite] at hcase
      cases result with
      | ok _ => cases (Prod.mk.inj hcase).1
      | error failure' =>
        obtain rfl := Except.error.inj (Prod.mk.inj hcase).1
        cases hkind.symm.trans (breaksContract_of_writeArtifacts_error hwrite)
    · refine ⟨settings, texts, hreads, ?_⟩
      by_contra hkeeps
      obtain ⟨artifacts, hgenerates⟩ :=
        (Texts.exists_generates_iff hreads.settings.validate texts).mpr hkeeps
      cases hgenerate.symm.trans (Texts.generate_eq_ok_iff.mpr hgenerates)
    · obtain rfl := Except.error.inj (Prod.mk.inj (hrun.symm.trans hcase)).1
      cases hkind.symm.trans hother
  · rintro ⟨settings, texts, hreads, hbreaks⟩
    have hvalid := hreads.settings.validate
    rw [runCommand_of_reads hreads] at hrun
    cases hgenerate : texts.generate settings with
    | ok artifacts =>
      have hkeeps := (Texts.exists_generates_iff hvalid texts).mp
        ⟨artifacts, Texts.generate_eq_ok_iff.mp hgenerate⟩
      exact absurd hbreaks hkeeps
    | error failure =>
      rw [hgenerate] at hrun
      exact ⟨failure, (Prod.mk.inj hrun).1.symm,
        Texts.breaksContract_of_generate_error hvalid hgenerate⟩

theorem exitCode_report_eq_two_iff {result : Except Failure (List String)} :
    (report result).exitCode = 2 ↔
      ∃ failure, result = .error failure ∧ failure.kind.breaksContract = true := by
  cases result with
  | ok paths => simp [report]
  | error failure => simp [report]

theorem exitCode_report_error {failure : Failure} (h : failure.kind.breaksContract = false) :
    (report (.error failure)).exitCode = 1 := by
  simp [report, h]

/-! ### Arguments -/

variable (s stdin args)

def exitCode : Nat :=
  ((runOn access (pure stdin) args).run s).1.exitCode

/-- The arguments are a command that can be read, and its texts break the contract. -/
def BreaksContract : Prop :=
  ∃ c settings texts, CommandLine.parse args = .ok (.run c) ∧ Reads s stdin c settings texts ∧
    texts.BreaksContract settings

def Fails : Prop :=
  (∃ answer, CommandLine.parse args = .error answer ∧ answer ≠ .help) ∨
    ∃ c failure t, CommandLine.parse args = .ok (.run c) ∧
      (runCommand access (pure stdin) c).run s = (.error failure, t)

/-- The exit code tells a broken contract apart from every other failure. -/
structure ToldApart : Prop where
  broken : exitCode s stdin args = 2 ↔ BreaksContract s stdin args
  other : Fails s stdin args → ¬ BreaksContract s stdin args → exitCode s stdin args = 1

variable {s stdin args}

theorem exitCode_of_parse_error {answer : UsageAnswer}
    (hparse : CommandLine.parse args = .error answer) :
    exitCode s stdin args = answer.exitCode := by
  rw [exitCode, runOn, hparse]
  rfl

theorem exitCode_of_parse_run (hparse : CommandLine.parse args = .ok (.run c)) :
    exitCode s stdin args = (report ((runCommand access (pure stdin) c).run s).1).exitCode := by
  rw [exitCode, runOn, hparse]
  rfl

theorem breaksContract_iff_of_parse_run (hparse : CommandLine.parse args = .ok (.run c)) :
    BreaksContract s stdin args ↔
      ∃ settings texts, Reads s stdin c settings texts ∧ texts.BreaksContract settings := by
  simp [BreaksContract, hparse]

theorem toldApart_of_parse_run (hparse : CommandLine.parse args = .ok (.run c)) :
    ToldApart s stdin args := by
  rcases hrun : (runCommand access (pure stdin) c).run s with ⟨result, t⟩
  have hcode : exitCode s stdin args = (report result).exitCode := by
    rw [exitCode_of_parse_run hparse, hrun]
  have hbroken : exitCode s stdin args = 2 ↔ BreaksContract s stdin args := by
    rw [hcode, exitCode_report_eq_two_iff, runCommand_breaksContract_iff hrun,
      breaksContract_iff_of_parse_run hparse]
  refine ⟨hbroken, fun hfails hkeeps => ?_⟩
  obtain ⟨answer, hanswer, -⟩ | ⟨c', failure, u, hparse', hfail⟩ := hfails
  · cases hparse.symm.trans hanswer
  · obtain rfl := Request.run.inj (Except.ok.inj (hparse.symm.trans hparse'))
    obtain rfl : result = .error failure := (Prod.mk.inj (hrun.symm.trans hfail)).1
    have hkind : failure.kind.breaksContract = false := by
      by_contra hkind
      rw [Bool.not_eq_false] at hkind
      exact hkeeps (hbroken.mp (hcode.trans (exitCode_report_eq_two_iff.mpr ⟨failure, rfl, hkind⟩)))
    rw [hcode, exitCode_report_error hkind]

theorem not_breaksContract_of_parse (hparse : ∀ c, CommandLine.parse args ≠ .ok (.run c)) :
    ¬ BreaksContract s stdin args :=
  fun ⟨c, _, _, hrun, _⟩ => hparse c hrun

theorem toldApart_of_exitCode_eq_zero (hcode : exitCode s stdin args = 0)
    (hparse : ∀ c, CommandLine.parse args ≠ .ok (.run c))
    (hhelp : ∀ answer, CommandLine.parse args = .error answer → answer = .help) :
    ToldApart s stdin args := by
  have hne : exitCode s stdin args ≠ 2 := by
    rw [hcode]
    decide
  refine ⟨iff_of_false hne (not_breaksContract_of_parse hparse), fun hfails => ?_⟩
  obtain ⟨answer, hanswer, hother⟩ | ⟨c, failure, t, hrun, -⟩ := hfails
  · exact absurd (hhelp answer hanswer) hother
  · exact absurd hrun (hparse c)

/-- The exit code tells a broken contract apart unless the arguments were not understood. -/
theorem toldApart_iff (s : FileStore) (stdin : Except SystemError ByteArray) (args : List String) :
    ToldApart s stdin args ↔
      ∀ answer, CommandLine.parse args = .error answer → answer = .help := by
  cases hparse : CommandLine.parse args with
  | error answer =>
    have hcode : exitCode s stdin args = answer.exitCode := exitCode_of_parse_error hparse
    have hrun : ∀ c, CommandLine.parse args ≠ .ok (.run c) := by simp [hparse]
    constructor
    · rintro htold answer' hanswer
      obtain rfl := Except.error.inj hanswer
      by_contra hhelp
      have hbroken := htold.broken.mp (hcode.trans (UsageAnswer.exitCode_of_ne_help hhelp))
      exact not_breaksContract_of_parse hrun hbroken
    · intro hhelp
      obtain rfl := hhelp answer rfl
      exact toldApart_of_exitCode_eq_zero hcode hrun (by simp [hparse])
  | ok request =>
    refine iff_of_true ?_ (by simp)
    cases request with
    | run c => exact toldApart_of_parse_run hparse
    | version =>
      have hcode : exitCode s stdin args = 0 := by
        rw [exitCode, runOn, hparse]
        rfl
      exact toldApart_of_exitCode_eq_zero hcode (by simp [hparse]) (by simp [hparse])

/-- A command that lacks its output directory exits as if it had broken the contract. -/
theorem not_forall_toldApart :
    ¬ ∀ (s : FileStore) (stdin : Except SystemError ByteArray) (args : List String),
      ToldApart s stdin args := by
  intro h
  have hparse : CommandLine.parse ["ast"] = .error .missingOption := by decide +kernel
  have hcode : exitCode {} (.ok .empty) ["ast"] = 2 := exitCode_of_parse_error hparse
  obtain ⟨c, _, _, hrun, -⟩ := (h {} (.ok .empty) ["ast"]).broken.mp hcode
  cases hparse.symm.trans hrun

end Session

end TagVocab

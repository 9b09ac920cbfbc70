import TagVocab.Proofs.Generation
import TagVocab.Proofs.Writing
import TagVocab.Session

/-!
# What a command reads

Settings and texts are read from the store as it is before the run, and reading changes nothing. What
cannot be read ends the run with a failure that is no broken tag contract.
-/

namespace TagVocab

theorem decodeText_eq_ok_iff {bytes : ByteArray} {text : String} :
    decodeText bytes = .ok text ↔ bytes = text.toUTF8 := by
  unfold decodeText String.fromUTF8?
  by_cases hbytes : bytes.IsValidUTF8
  · rw [dif_pos hbytes]
    constructor
    · intro h
      rw [← Except.ok.inj h]
      rfl
    · rintro rfl
      rfl
  · rw [dif_neg hbytes]
    constructor
    · intro h
      cases h
    · rintro rfl
      exact absurd text.isValidUTF8 hbytes

theorem mapError_eq_ok_iff {ε ε' α : Type} {f : ε → ε'} {x : Except ε α} {a : α} :
    x.mapError f = .ok a ↔ x = .ok a := by
  cases x <;> simp [Except.mapError]

theorem exists_of_mapError_eq_error {ε ε' α : Type} {f : ε → ε'} {x : Except ε α} {e : ε'}
    (h : x.mapError f = .error e) : ∃ e', f e' = e := by
  cases x with
  | ok a => cases h
  | error e' => exact ⟨e', Except.error.inj h⟩

/-- Trouble with files is no broken contract. -/
theorem SystemError.breaksContract_kind (e : SystemError) : e.kind.breaksContract = false := by
  unfold kind
  split
  · rfl
  split <;> rfl

namespace Settings

theorem kind_of_documentFault (fault : DocumentFault) : fault.failure.kind = .configInvalid := by
  cases fault with
  | malformed => rfl
  | unknownKey key known => rfl
  | wrongKind found expected => rfl
  | defect d => cases d <;> rfl

theorem validate_of_ofToml {document : String} {settings : Settings}
    (h : ofToml document = .ok settings) : settings.validate = .ok () := by
  unfold ofToml at h
  split at h
  · cases h
  · obtain ⟨s, -, h⟩ := FileStore.bind_eq_ok_iff.mp h
    split at h
    · cases h
    · next hvalid =>
      obtain rfl := FileStore.pure_eq_ok_iff.mp h
      exact hvalid

end Settings

namespace FileStore

variable {α β : Type} {s : FileStore}

/-- The run of `x` on `s` yields what `p` holds of, and otherwise fails with no broken contract. The
store is the same in any case. -/
def Fetches (x : ExceptT Failure (StateM FileStore) α) (s : FileStore) (p : α → Prop) : Prop :=
  ∃ result : Except Failure α, x.run s = (result, s) ∧ (∀ a, result = .ok a ↔ p a) ∧
    ∀ failure, result = .error failure → failure.kind.breaksContract = false

namespace Fetches

variable {x : ExceptT Failure (StateM FileStore) α} {p q : α → Prop}

theorem run_eq_ok (h : Fetches x s p) {a : α} (ha : p a) : x.run s = (.ok a, s) := by
  obtain ⟨result, hrun, hok, -⟩ := h
  rw [hrun, (hok a).mpr ha]

theorem exists_run_eq_error (h : Fetches x s p) (hnone : ∀ a, ¬ p a) :
    ∃ failure, failure.kind.breaksContract = false ∧ x.run s = (.error failure, s) := by
  obtain ⟨result, hrun, hok, herror⟩ := h
  cases result with
  | ok a => exact absurd ((hok a).mp rfl) (hnone a)
  | error failure => exact ⟨failure, herror failure rfl, hrun⟩

theorem congr (h : Fetches x s p) (hpq : ∀ a, p a ↔ q a) : Fetches x s q := by
  obtain ⟨result, hrun, hok, herror⟩ := h
  exact ⟨result, hrun, fun a => (hok a).trans (hpq a), herror⟩

theorem bind (h : Fetches x s p) {f : α → ExceptT Failure (StateM FileStore) β}
    {r : α → β → Prop} (hf : ∀ a, Fetches (f a) s (r a)) :
    Fetches (x >>= f) s fun b => ∃ a, p a ∧ r a b := by
  obtain ⟨result, hrun, hok, herror⟩ := h
  cases result with
  | error failure =>
    refine ⟨.error failure, by rw [run_bind, hrun], fun b => ?_, ?_⟩
    · simp [← hok]
    · simpa using herror failure rfl
  | ok a =>
    obtain ⟨result, hrun', hok', herror'⟩ := hf a
    refine ⟨result, by rw [run_bind, hrun, ← hrun'], fun b => ?_, herror'⟩
    rw [hok' b]
    simp [← hok]

end Fetches

theorem fetches_attempt {failure : SystemError → Failure}
    (hfailure : ∀ e, (failure e).kind.breaksContract = false)
    {result : StateM FileStore (Except SystemError α)} {fetched : Except SystemError α}
    (hrun : result.run s = (fetched, s)) :
    Fetches (FileAccess.attempt failure result) s fun a => fetched = .ok a := by
  have hattempt : (FileAccess.attempt failure result).run s = (fetched.mapError failure, s) := by
    change ((result.run s).1.mapError failure, (result.run s).2) = _
    rw [hrun]
  refine ⟨_, hattempt, fun a => mapError_eq_ok_iff, fun f hf => ?_⟩
  obtain ⟨e, rfl⟩ := exists_of_mapError_eq_error hf
  exact hfailure e

/-- Bytes that can be fetched are a text if they encode one. -/
theorem fetches_text {failure : SystemError → Failure}
    (hfailure : ∀ e, (failure e).kind.breaksContract = false)
    {result : StateM FileStore (Except SystemError ByteArray)}
    {fetched : Except SystemError ByteArray} (hrun : result.run s = (fetched, s)) :
    Fetches (do
      let bytes ← FileAccess.attempt failure result
      FileAccess.attempt failure (pure (decodeText bytes))) s
      fun text => fetched = .ok text.toUTF8 := by
  have hdecode : ∀ bytes, Fetches (FileAccess.attempt failure (pure (decodeText bytes))) s
      fun text => decodeText bytes = .ok text :=
    fun bytes => fetches_attempt hfailure rfl
  refine ((fetches_attempt hfailure hrun).bind hdecode).congr fun text => ?_
  simp [decodeText_eq_ok_iff]

theorem fetches_readText (s : FileStore) (operation path : String) :
    Fetches (access.readText operation path) s fun text => s.read path = .ok text.toUTF8 := by
  have htext : Fetches (access.readText operation path) s
      fun text => (s.read path).mapError FileFault.error = .ok text.toUTF8 :=
    fetches_text (fun e => e.breaksContract_kind) rfl
  exact htext.congr fun text => mapError_eq_ok_iff

end FileStore

namespace Session

inductive Texts where
  | ast (text : String)
  | grammar (text : String)
  | both (astText grammarText : String)

namespace Texts

/-- The documents that settings and texts generate. Two texts generate theirs only if each of them
does. -/
def Generates (settings : Settings) : Texts → List Artifact → Prop
  | .ast text, artifacts => Generation.ofAst settings text = .ok artifacts
  | .grammar text, artifacts => Generation.ofGrammar settings text = .ok artifacts
  | .both astText grammarText, artifacts => ∃ a g, Generation.ofAst settings astText = .ok a ∧
      Generation.ofGrammar settings grammarText = .ok g ∧ artifacts = a ++ g

/-- What becomes of settings and texts: their documents, or a failure. -/
def generate (settings : Settings) : Texts → Except Failure (List Artifact)
  | .ast text => Generation.ofAst settings text
  | .grammar text => Generation.ofGrammar settings text
  | .both astText grammarText => Generation.ofBoth settings astText grammarText

theorem generate_eq_ok_iff {settings : Settings} {texts : Texts} {artifacts : List Artifact} :
    texts.generate settings = .ok artifacts ↔ texts.Generates settings artifacts := by
  cases texts with
  | ast text => exact Iff.rfl
  | grammar text => exact Iff.rfl
  | both astText grammarText => exact Generation.ofBoth_eq_ok_iff

end Texts

variable (s : FileStore) (stdin : Except SystemError ByteArray)

def SettingsAre : Option String → Settings → Prop
  | some path, settings => ∃ document : String, s.read path = .ok document.toUTF8 ∧
      Settings.ofToml document = .ok settings
  | none, settings => settings = {}

def InputIs : Option String → String → Prop
  | some path, text => s.read path = .ok text.toUTF8
  | none, text => stdin = .ok text.toUTF8

def TextsAre : Source → Texts → Prop
  | .ast input, .ast text => InputIs s stdin input text
  | .grammar input, .grammar text => InputIs s stdin input text
  | .both astPath grammarPath, .both astText grammarText =>
    s.read astPath = .ok astText.toUTF8 ∧ s.read grammarPath = .ok grammarText.toUTF8
  | _, _ => False

/-- The settings and the texts of a command can be read, and are these. -/
structure Reads (c : Command) (settings : Settings) (texts : Texts) : Prop where
  settings : SettingsAre s c.config settings
  texts : TextsAre s stdin c.source texts

variable {s stdin} {c : Command} {settings : Settings} {texts : Texts} {source : Source}

theorem SettingsAre.validate {config : Option String} (h : SettingsAre s config settings) :
    settings.validate = .ok () := by
  cases config with
  | none =>
    obtain rfl : settings = {} := h
    rfl
  | some path =>
    obtain ⟨document, -, hsettings⟩ := h
    exact Settings.validate_of_ofToml hsettings

open FileStore

theorem fetches_commandSettings (s : FileStore) (c : Command) :
    Fetches (commandSettings access c) s (SettingsAre s c.config) := by
  unfold commandSettings
  cases c.config with
  | none => exact ⟨.ok {}, rfl, fun settings => by simp [SettingsAre, eq_comm], by simp⟩
  | some path =>
    have hparse : ∀ document, Fetches (ExceptT.mk (pure ((Settings.ofToml document).mapError
        fun fault => fault.failure.withContext "path" path))) s
        fun settings => Settings.ofToml document = .ok settings := by
      intro document
      refine ⟨_, rfl, fun settings => mapError_eq_ok_iff, fun failure hfailure => ?_⟩
      obtain ⟨fault, rfl⟩ := exists_of_mapError_eq_error hfailure
      change (Settings.DocumentFault.failure fault).kind.breaksContract = false
      rw [Settings.kind_of_documentFault]
      rfl
    exact (fetches_readText s "config::from_path" path).bind hparse

theorem fetches_readInput (s : FileStore) (stdin : Except SystemError ByteArray)
    (input : Option String) :
    Fetches (readInput access (pure stdin) input) s (InputIs s stdin input) := by
  cases input with
  | some path => exact fetches_readText s "cli::read_file" path
  | none => exact fetches_text (fun e => e.breaksContract_kind) rfl

theorem generate_of_textsAre (h : TextsAre s stdin source texts) :
    (generate access (pure stdin) settings source).run s = (texts.generate settings, s) := by
  cases source with
  | ast input =>
    cases texts with
    | ast text =>
      rw [generate, run_bind, (fetches_readInput s stdin input).run_eq_ok h]
      rfl
    | grammar text => exact h.elim
    | both astText grammarText => exact h.elim
  | grammar input =>
    cases texts with
    | ast text => exact h.elim
    | grammar text =>
      rw [generate, run_bind, (fetches_readInput s stdin input).run_eq_ok h]
      rfl
    | both astText grammarText => exact h.elim
  | both astPath grammarPath =>
    cases texts with
    | ast text => exact h.elim
    | grammar text => exact h.elim
    | both astText grammarText =>
      rw [generate, run_bind, (fetches_readText s _ astPath).run_eq_ok h.1]
      dsimp only
      rw [run_bind, (fetches_readText s _ grammarPath).run_eq_ok h.2]
      rfl

theorem generate_of_not_textsAre (settings : Settings)
    (h : ∀ texts, ¬ TextsAre s stdin source texts) :
    ∃ failure, failure.kind.breaksContract = false ∧
      (generate access (pure stdin) settings source).run s = (.error failure, s) := by
  cases source with
  | ast input =>
    obtain ⟨failure, hkind, hrun⟩ :=
      (fetches_readInput s stdin input).exists_run_eq_error fun text => h (.ast text)
    exact ⟨failure, hkind, by rw [generate, run_bind, hrun]⟩
  | grammar input =>
    obtain ⟨failure, hkind, hrun⟩ :=
      (fetches_readInput s stdin input).exists_run_eq_error fun text => h (.grammar text)
    exact ⟨failure, hkind, by rw [generate, run_bind, hrun]⟩
  | both astPath grammarPath =>
    have hast := fetches_readText s "cli::read_file" astPath
    by_cases hread : ∃ text : String, s.read astPath = .ok text.toUTF8
    · obtain ⟨text, hread⟩ := hread
      obtain ⟨failure, hkind, hrun⟩ :=
        (fetches_readText s "cli::read_file" grammarPath).exists_run_eq_error
          fun other hother => h (.both text other) ⟨hread, hother⟩
      refine ⟨failure, hkind, ?_⟩
      rw [generate, run_bind, hast.run_eq_ok hread]
      dsimp only
      rw [run_bind, hrun]
    · obtain ⟨failure, hkind, hrun⟩ := hast.exists_run_eq_error fun text ht => hread ⟨text, ht⟩
      exact ⟨failure, hkind, by rw [generate, run_bind, hrun]⟩

/-! ### Running a command -/

theorem runCommand_of_reads (h : Reads s stdin c settings texts) :
    (runCommand access (pure stdin) c).run s =
      match texts.generate settings with
      | .error failure => (.error failure, s)
      | .ok artifacts =>
        match (access.writeArtifacts c.outDir artifacts).run s with
        | (.ok _, t) => (.ok (artifacts.map fun a => Path.join c.outDir a.name), t)
        | (.error failure, t) => (.error failure, t) := by
  rw [runCommand, run_bind, (fetches_commandSettings s c).run_eq_ok h.settings]
  dsimp only
  rw [run_bind, generate_of_textsAre h.texts]
  cases texts.generate settings with
  | error failure => rfl
  | ok artifacts =>
    dsimp only
    rw [run_bind]
    rcases (access.writeArtifacts c.outDir artifacts).run s with ⟨result, t⟩
    cases result <;> rfl

theorem runCommand_of_not_reads (h : ∀ settings texts, ¬ Reads s stdin c settings texts) :
    ∃ failure, failure.kind.breaksContract = false ∧
      (runCommand access (pure stdin) c).run s = (.error failure, s) := by
  have hsettings := fetches_commandSettings s c
  by_cases hread : ∃ settings, SettingsAre s c.config settings
  · obtain ⟨settings, hread⟩ := hread
    obtain ⟨failure, hkind, hrun⟩ := generate_of_not_textsAre settings
      fun texts htexts => h settings texts ⟨hread, htexts⟩
    refine ⟨failure, hkind, ?_⟩
    rw [runCommand, run_bind, hsettings.run_eq_ok hread]
    dsimp only
    rw [run_bind, hrun]
  · obtain ⟨failure, hkind, hrun⟩ :=
      hsettings.exists_run_eq_error fun settings hs => hread ⟨settings, hs⟩
    exact ⟨failure, hkind, by rw [runCommand, run_bind, hrun]⟩

/-- All that running a command can do. -/
theorem runCommand_cases (s : FileStore) (stdin : Except SystemError ByteArray) (c : Command) :
    (∃ settings texts artifacts, Reads s stdin c settings texts ∧
        texts.generate settings = .ok artifacts ∧
        (runCommand access (pure stdin) c).run s =
          match (access.writeArtifacts c.outDir artifacts).run s with
          | (.ok _, t) => (.ok (artifacts.map fun a => Path.join c.outDir a.name), t)
          | (.error failure, t) => (.error failure, t)) ∨
      (∃ settings texts failure, Reads s stdin c settings texts ∧
        texts.generate settings = .error failure ∧
        (runCommand access (pure stdin) c).run s = (.error failure, s)) ∨
      ∃ failure, (∀ settings texts, ¬ Reads s stdin c settings texts) ∧
        failure.kind.breaksContract = false ∧
        (runCommand access (pure stdin) c).run s = (.error failure, s) := by
  by_cases hreads : ∃ settings texts, Reads s stdin c settings texts
  · obtain ⟨settings, texts, hreads⟩ := hreads
    have hrun := runCommand_of_reads hreads
    cases hgenerate : texts.generate settings with
    | ok artifacts =>
      rw [hgenerate] at hrun
      exact Or.inl ⟨settings, texts, artifacts, hreads, hgenerate, hrun⟩
    | error failure =>
      rw [hgenerate] at hrun
      exact Or.inr (Or.inl ⟨settings, texts, failure, hreads, hgenerate, hrun⟩)
  · have hnone : ∀ settings texts, ¬ Reads s stdin c settings texts :=
      fun settings texts h => hreads ⟨settings, texts, h⟩
    obtain ⟨failure, hkind, hrun⟩ := runCommand_of_not_reads hnone
    exact Or.inr (Or.inr ⟨failure, hnone, hkind, hrun⟩)

end Session

end TagVocab

import TagVocab.CommandLine
import TagVocab.Settings.FromToml
import TagVocab.Writing

/-!
# Sessions

One run of the program: settings and inputs are read, documents are generated, and only then is
anything written. The exit status tells a broken tag contract apart from all other trouble.
-/

namespace TagVocab

structure Outcome where
  exitCode : Nat
  out : String := ""
  err : String := ""
  usage : Option UsageAnswer := none

namespace Session

variable {m : Type → Type} [Monad m] (files : FileAccess m)

def loadSettings (path : String) : ExceptT Failure m Settings := do
  let text ← files.readText "config::from_path" path
  ExceptT.mk <| pure <| (Settings.ofToml text).mapError fun fault =>
    fault.failure.withContext "path" path

/-- The settings of a command, which are the default ones if it names no file. -/
def commandSettings (c : Command) : ExceptT Failure m Settings :=
  match c.config with
  | some path => loadSettings files path
  | none => pure {}

/-- The text of an input, from `stdin` if no file is named. -/
def readInput (stdin : m (Except SystemError ByteArray)) : Option String → ExceptT Failure m String
  | some path => files.readText "cli::read_file" path
  | none => do
    let failure := fun e : SystemError => e.failure.withOperation "cli::read_stdin"
    let bytes ← FileAccess.attempt failure stdin
    FileAccess.attempt failure (pure (decodeText bytes))

def generate (stdin : m (Except SystemError ByteArray)) (s : Settings) :
    Source → ExceptT Failure m (List Artifact)
  | .ast input => do
    let text ← readInput files stdin input
    ExceptT.mk (pure (Generation.ofAst s text))
  | .grammar input => do
    let text ← readInput files stdin input
    ExceptT.mk (pure (Generation.ofGrammar s text))
  | .both ast grammar => do
    let ast ← files.readText "cli::read_file" ast
    let grammar ← files.readText "cli::read_file" grammar
    ExceptT.mk (pure (Generation.ofBoth s ast grammar))

/-- Runs a command. The result is the paths of its documents. -/
def runCommand (stdin : m (Except SystemError ByteArray)) (c : Command) :
    ExceptT Failure m (List String) := do
  let s ← commandSettings files c
  let artifacts ← generate files stdin s c.source
  files.writeArtifacts c.outDir artifacts
  return artifacts.map fun a => Path.join c.outDir a.name

def report : Except Failure (List String) → Outcome
  | .ok paths => { exitCode := 0, out := String.join (paths.map (· ++ "\n")) }
  | .error f =>
    { exitCode := if f.kind.breaksContract then 2 else 1
      err := "Error: " ++ f.summary ++ "\n" }

def runOn (stdin : m (Except SystemError ByteArray)) (args : List String) : m Outcome :=
  match CommandLine.parse args with
  | .error answer => pure { exitCode := answer.exitCode, usage := some answer }
  | .ok .version => pure { exitCode := 0, out := "nodetag 0.1.0\n" }
  | .ok (.run c) => report <$> (runCommand files stdin c).run

def run (stdin : m ByteArray) (args : List String) : m Outcome :=
  runOn files (.ok <$> stdin) args

end Session

end TagVocab

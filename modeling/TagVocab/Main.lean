import TagVocab.Session

/-!
# The program

Runs a session on the files and streams of the system.
-/

namespace TagVocab

def SystemError.reported (e : IO.Error) : SystemError :=
  match e with
  | .noFileOrDirectory .. => FileFault.missing.error
  | .alreadyExists .. => FileFault.alreadyExists.error
  | .inappropriateType .. => FileFault.notDirectory.error
  | .permissionDenied .. => .numbered 13 "PermissionDenied" "Permission denied"
  | e => .custom "Other" (toString e)

def caught {α : Type} (action : IO α) : IO (Except SystemError α) := do
  match ← action.toBaseIO with
  | .ok a => return .ok a
  | .error e => return .error (.reported e)

/-- Makes a file in a directory and opens it. Names that are taken are passed over, up to a point. -/
def openStaged (dir : String) : Nat → IO (String × IO.FS.Handle)
  | 0 => throw (IO.userError "no name is left for a new file")
  | tries + 1 => do
    let random ← IO.getRandomBytes 6
    let path := Path.join dir (random.foldl (fun name byte => name ++ toString byte) ".tmp")
    try
      return (path, ← IO.FS.Handle.mk path .writeNew)
    catch e =>
      match e with
      | .alreadyExists .. => openStaged dir tries
      | e => throw e

def systemFiles : FileAccess IO where
  read path := caught (IO.FS.readBinFile path)
  createDirectories path := caught <|
    if path.isEmpty then pure () else IO.FS.createDirAll path
  replace dir path content := caught do
    let (staged, handle) ← openStaged dir 64
    try
      handle.write content
      handle.flush
      IO.FS.rename staged path
    catch e =>
      try IO.FS.removeFile staged catch _ => pure ()
      throw e

end TagVocab

open TagVocab in
def main (args : List String) : IO UInt32 := do
  let stdin := caught do (← IO.getStdin).readBinToEnd
  let outcome ← Session.runOn systemFiles stdin args
  IO.print outcome.out
  match outcome.usage with
  | some answer => IO.eprintln answer.name
  | none => IO.eprint outcome.err
  return UInt32.ofNat outcome.exitCode

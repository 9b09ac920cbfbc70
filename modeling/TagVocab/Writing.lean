import TagVocab.FileAccess
import TagVocab.Generation

/-!
# Writing documents

Documents go into one directory, one after the other. A file that is up to date is left alone.
-/

namespace TagVocab.FileAccess

variable {m : Type → Type} [Monad m] (files : FileAccess m)

def isUpToDate (content : ByteArray) : Except SystemError ByteArray → Bool
  | .ok old => old == content
  | .error _ => false

def writeArtifact (dir : String) (a : Artifact) : ExceptT Failure m Unit := do
  let path := Path.join dir a.name
  let content := a.contents.toUTF8
  if isUpToDate content (← ExceptT.lift (files.read path)) then
    return
  attempt (SystemError.failureAt "write::write_atomic" "path" path)
    (files.replace dir path content)

/-- Writes documents into a directory, up to the first failure. -/
def writeArtifacts (dir : String) (artifacts : List Artifact) : ExceptT Failure m Unit := do
  attempt (SystemError.failureAt "write::create_dir" "dir" dir) (files.createDirectories dir)
  artifacts.forM (files.writeArtifact dir)

end TagVocab.FileAccess

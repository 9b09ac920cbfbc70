import TagVocab.FileStore.Operations

/-!
# Access to files

What generation does with files, wherever they are kept: in a store, or outside the program.
-/

namespace TagVocab

structure FileAccess (m : Type → Type) where
  read : String → m (Except SystemError ByteArray)
  createDirectories : String → m (Except SystemError Unit)
  /-- Puts a file in place at a path, staged in the directory that comes first. -/
  replace : String → String → ByteArray → m (Except SystemError Unit)

def FileStore.access : FileAccess (StateM FileStore) where
  read path s := ((s.read path).mapError FileFault.error, s)
  createDirectories path s :=
    let (result, s) := s.createDirectories path
    (result.mapError FileFault.error, s)
  replace dir path content s :=
    let (result, s) := s.replace dir path content
    (result.mapError FileFault.error, s)

def decodeText (bytes : ByteArray) : Except SystemError String :=
  match String.fromUTF8? bytes with
  | some text => .ok text
  | none => .error FileFault.notText.error

def SystemError.failureAt (operation key path : String) (e : SystemError) : Failure :=
  (e.failure.withOperation operation).withContext key path

namespace FileAccess

variable {m : Type → Type} [Monad m]

def attempt {α : Type} (failure : SystemError → Failure) (result : m (Except SystemError α)) :
    ExceptT Failure m α :=
  ExceptT.mk ((·.mapError failure) <$> result)

def readText (files : FileAccess m) (operation path : String) : ExceptT Failure m String := do
  let failure := SystemError.failureAt operation "path" path
  let bytes ← attempt failure (files.read path)
  attempt failure (pure (decodeText bytes))

end FileAccess

end TagVocab

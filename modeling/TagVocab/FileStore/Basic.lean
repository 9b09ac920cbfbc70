import TagVocab.Failure

/-!
# File stores

A file system as a value: what stands at each location, counted from the root. Links hold a path and
are followed only by those that look one up. What the medium under it refuses is part of the store,
so that whatever is said of all stores is said of all trouble of that kind.
-/

namespace TagVocab

/-- The names that lead from the root to an entry. -/
abbrev Location := List String

inductive Entry where
  | file (content : ByteArray)
  | directory
  | link (target : String)

inductive PlacingStep where
  | stage
  | write
  | sync
  | rename
deriving DecidableEq

/-- What is under a store. It may refuse any step, depending on all that the store holds and on where
the staged file is. -/
structure Medium where
  refusal? : PlacingStep → List (Location × Entry) → Location → Option SystemError :=
    fun _ _ _ => none
  /-- What is written of a content if the write is refused. -/
  written : ByteArray → ByteArray := fun _ => .empty

structure FileStore where
  home : Location := []
  entries : List (Location × Entry) := []
  medium : Medium := {}

inductive FileFault where
  | missing
  | alreadyExists
  | notDirectory
  | isDirectory
  | invalidArgument
  | notEmpty
  | busy
  | nameTooLong
  | tooManyLinks
  | nulInPath
  | notText
  | refused (e : SystemError)
deriving DecidableEq

def FileFault.error : FileFault → SystemError
  | missing => .numbered 2 "NotFound" "No such file or directory"
  | busy => .numbered 16 "ResourceBusy" "Device or resource busy"
  | alreadyExists => .numbered 17 "AlreadyExists" "File exists"
  | notDirectory => .numbered 20 "NotADirectory" "Not a directory"
  | isDirectory => .numbered 21 "IsADirectory" "Is a directory"
  | invalidArgument => .numbered 22 "InvalidInput" "Invalid argument"
  | nameTooLong => .numbered 36 "InvalidFilename" "File name too long"
  | notEmpty => .numbered 39 "DirectoryNotEmpty" "Directory not empty"
  | tooManyLinks => .numbered 40 "FilesystemLoop" "Too many levels of symbolic links"
  | nulInPath => .fixed "InvalidInput" "file name contained an unexpected NUL byte"
  | notText => .fixed "InvalidData" "stream did not contain valid UTF-8"
  | refused e => e

namespace FileStore

/-- What stands at a location. The root is always a directory. -/
def get? (s : FileStore) (loc : Location) : Option Entry :=
  if loc = [] then some .directory else s.entries.lookup loc

def erase (s : FileStore) (loc : Location) : FileStore :=
  { s with entries := s.entries.filter (·.1 ≠ loc) }

def set (s : FileStore) (loc : Location) (e : Entry) : FileStore :=
  { s with entries := (loc, e) :: (s.erase loc).entries }

def hasDirectory (s : FileStore) (loc : Location) : Bool :=
  match s.get? loc with
  | some .directory => true
  | _ => false

end FileStore

end TagVocab

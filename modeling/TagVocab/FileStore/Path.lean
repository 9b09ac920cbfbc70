import TagVocab.FileStore.Basic

/-!
# Paths

A path is followed name by name. Links are followed too, at most `linkLimit` of them, and every name
but the last must lead to a directory.
-/

namespace TagVocab

namespace Path

def nameLimit : Nat := 255

def pathLimit : Nat := 4095

def linkLimit : Nat := 40

/-- The names of a path, without the empty ones between two slashes. -/
def names (path : String) : List String :=
  (path.toList.splitOn '/').filterMap fun cs =>
    if cs.isEmpty then none else some (String.ofList cs)

def endsWithSlash (path : String) : Bool :=
  path.toList.getLast? = some '/'

def isAbsolute (path : String) : Bool :=
  path.toList.head? = some '/'

/-- The names to follow. A slash at the end asks for a directory, and so does a dot. -/
def steps (path : String) : List String :=
  names path ++ if endsWithSlash path then ["."] else []

def check (path : String) : Except FileFault Unit :=
  if path.toList.contains '\x00' then .error .nulInPath
  else if path.isEmpty then .error .missing
  else if pathLimit < path.utf8ByteSize then .error .nameTooLong
  else .ok ()

def join (dir name : String) : String :=
  if isAbsolute name || dir.isEmpty then name
  else if endsWithSlash dir then dir ++ name
  else dir ++ "/" ++ name

/-- The paths of the directories above that of `path`, the nearest first. Dots are left out of them,
except in front. -/
def above (path : String) : List String :=
  let all := names path
  let parts := all.take 1 ++ (all.drop 1).filter (· ≠ ".")
  let start := if isAbsolute path then "/" else ""
  (List.range parts.length).reverse.filterMap fun n =>
    if n = 0 then none else some (start ++ "/".intercalate (parts.take n))

end Path

namespace FileStore

inductive Progress where
  | arrived (loc : Location)
  | link (dir : Location) (target : String) (rest : List String)
  | stuck (fault : FileFault)

def advance (s : FileStore) (here : Location) : List String → Progress
  | [] => .arrived here
  | name :: rest =>
    if !s.hasDirectory here then .stuck .notDirectory
    else if name = "." then s.advance here rest
    else if name = ".." then s.advance here.dropLast rest
    else if Path.nameLimit < name.utf8ByteSize then .stuck .nameTooLong
    else
      match s.get? (here ++ [name]) with
      | none => .stuck .missing
      | some (.link target) => .link here target rest
      | some _ => s.advance (here ++ [name]) rest

def startOf (here : Location) (path : String) : Location :=
  if Path.isAbsolute path then [] else here

/-- Follows names from `here`, and fewer than `links` links. -/
def follow (s : FileStore) : (links : Nat) → Location → List String → Except FileFault Location
  | 0, _, _ => .error .tooManyLinks
  | links + 1, here, steps =>
    match s.advance here steps with
    | .arrived loc => .ok loc
    | .stuck fault => .error fault
    | .link dir target rest => s.follow links (startOf dir target) (Path.steps target ++ rest)

def followFrom (s : FileStore) (path : String) (steps : List String) : Except FileFault Location :=
  s.follow (Path.linkLimit + 1) (startOf s.home path) steps

/-- The location of the entry that a path leads to, which is no link. -/
def locate (s : FileStore) (path : String) : Except FileFault Location := do
  Path.check path
  s.followFrom path (Path.steps path)

def locateParent (s : FileStore) (path : String) : Except FileFault (Location × Option String) := do
  Path.check path
  let names := Path.names path
  let dir ← s.followFrom path names.dropLast
  if !s.hasDirectory dir then
    throw .notDirectory
  return (dir, names.getLast?)

/-- Where a file lands that is written to `path` from the directory `here`: links at the end of the
path are written through, fewer than `links` of them, and nothing need stand there yet. -/
def landing (s : FileStore) : (links : Nat) → Location → String → Except FileFault Location
  | 0, _, _ => .error .tooManyLinks
  | links + 1, here, path => do
    Path.check path
    let names := Path.names path
    let dir ← s.follow (links + 1) (startOf here path) names.dropLast
    if !s.hasDirectory dir then
      throw .notDirectory
    match names.getLast? with
    | none => throw .isDirectory
    | some name =>
      if name = "." ∨ name = ".." ∨ Path.endsWithSlash path then
        throw .isDirectory
      if Path.nameLimit < name.utf8ByteSize then
        throw .nameTooLong
      match s.get? (dir ++ [name]) with
      | some (.link target) => s.landing links dir target
      | some .directory => throw .isDirectory
      | _ => return dir ++ [name]

def isDirectory (s : FileStore) (path : String) : Bool :=
  match s.locate path with
  | .ok loc => s.hasDirectory loc
  | .error _ => false

end FileStore

end TagVocab

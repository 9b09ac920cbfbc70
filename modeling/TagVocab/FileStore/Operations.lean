import TagVocab.FileStore.Path

/-!
# Operations on file stores

Reading files, making directories, and putting a file in place. A new file is first staged under a
name of its own and then renamed, so that no half-written file is ever seen; what stood at its
place is replaced, and a link is not written through. Stores are filled entry by entry with `place`.
-/

namespace TagVocab.FileStore

def read (s : FileStore) (path : String) : Except FileFault ByteArray := do
  match s.get? (← s.locate path) with
  | some (.file content) => return content
  | some .directory => throw .isDirectory
  | _ => throw .missing

/-- Makes one directory. Nothing may stand at its place, not even a link that leads nowhere. -/
def makeDirectory (s : FileStore) (path : String) : Except FileFault FileStore := do
  let (dir, name?) ← s.locateParent path
  match name? with
  | none => throw .alreadyExists
  | some name =>
    if name = "." ∨ name = ".." then
      throw .alreadyExists
    if Path.nameLimit < name.utf8ByteSize then
      throw .nameTooLong
    match s.get? (dir ++ [name]) with
    | some _ => throw .alreadyExists
    | none => return s.set (dir ++ [name]) .directory

/-- A directory that is there already is as good as one just made. -/
def acceptExisting (s : FileStore) (path : String) (fault : FileFault) : Except FileFault Unit :=
  if fault = .alreadyExists ∧ s.isDirectory path then .ok () else .error fault

/-- Makes the first of `paths`, if need be after the others. Those made before a fault stay. -/
def makeDirectories (s : FileStore) : List String → Except FileFault Unit × FileStore
  | [] => (.ok (), s)
  | path :: above =>
    match s.makeDirectory path with
    | .ok s => (.ok (), s)
    | .error .missing =>
      match s.makeDirectories above with
      | (.error fault, s) => (.error fault, s)
      | (.ok (), s) =>
        match s.makeDirectory path with
        | .ok s => (.ok (), s)
        | .error fault => (s.acceptExisting path fault, s)
    | .error fault => (s.acceptExisting path fault, s)

def createDirectories (s : FileStore) (path : String) : Except FileFault Unit × FileStore :=
  if path.isEmpty then (.ok (), s) else s.makeDirectories (path :: Path.above path)

/-- A name that no entry has: it is longer than each of their names. -/
def freshName (s : FileStore) : String :=
  let longest := s.entries.foldl (fun n (loc, _) => loc.foldl (fun n name => max n name.length) n) 0
  ".tmp" ++ String.ofList (List.replicate longest '0')

/-- Passes a step for the staged file at `staged`, if the medium does not refuse it. -/
def allow (s : FileStore) (step : PlacingStep) (staged : Location) : Except FileFault Unit :=
  match s.medium.refusal? step s.entries staged with
  | some e => .error (.refused e)
  | none => .ok ()

def stage (s : FileStore) (dir : String) : Except FileFault (Location × FileStore) := do
  let dir ← if dir.isEmpty then pure s.home else s.locate dir
  if !s.hasDirectory dir then
    throw .notDirectory
  let staged := dir ++ [s.freshName]
  s.allow .stage staged
  return (staged, s.set staged (.file .empty))

/-- Writes the content of a staged file. If that is refused, a part of it may have been written. -/
def fill (s : FileStore) (staged : Location) (content : ByteArray) :
    Except FileFault Unit × FileStore :=
  match s.allow .write staged with
  | .error fault => (.error fault, s.set staged (.file (s.medium.written content)))
  | .ok () => (.ok (), s.set staged (.file content))

/-- Moves the file at `source` to a path, over what stands there unless it is a directory. A NUL in
the path counts as a bad argument here. -/
def rename (s : FileStore) (source : Location) (path : String) : Except FileFault FileStore := do
  s.allow .rename source
  if path.toList.contains '\x00' then
    throw .invalidArgument
  let (dir, name?) ← s.locateParent path
  match name? with
  | none => throw .busy
  | some name =>
    if name = "." ∨ name = ".." then
      throw .busy
    if Path.nameLimit < name.utf8ByteSize then
      throw .nameTooLong
    if Path.endsWithSlash path then
      throw .notDirectory
    let target := dir ++ [name]
    if target.isPrefixOf source.dropLast then
      throw .notEmpty
    if s.hasDirectory target then
      throw .isDirectory
    match s.get? source with
    | some e => return (s.erase source).set target e
    | none => throw .missing

/-- Puts a file in place by way of a staged one in `dir`, which is gone afterwards in any case. -/
def replace (s : FileStore) (dir path : String) (content : ByteArray) :
    Except FileFault Unit × FileStore :=
  match s.stage dir with
  | .error fault => (.error fault, s)
  | .ok (staged, s) =>
    match s.fill staged content with
    | (.error fault, s) => (.error fault, s.erase staged)
    | (.ok (), s) =>
      match (do s.allow .sync staged; s.rename staged path) with
      | .error fault => (.error fault, s.erase staged)
      | .ok s => (.ok (), s)

def listing (s : FileStore) : List (String × Entry) :=
  s.entries.filterMap fun (loc, e) =>
    if s.home.isPrefixOf loc && s.home.length < loc.length then
      some ("/".intercalate (loc.drop s.home.length), e)
    else
      none

def emptyAt (home : Location) : FileStore where
  home := home
  entries := (List.range home.length).map fun n => (home.take (n + 1), .directory)

/-- Writes a file through the links that its path ends in. -/
def write (s : FileStore) (path : String) (content : ByteArray) : Except FileFault FileStore := do
  let loc ← s.landing (Path.linkLimit + 1) s.home path
  return s.set loc (.file content)

def makeLink (s : FileStore) (path target : String) : Except FileFault FileStore := do
  let (dir, name?) ← s.locateParent path
  match name? with
  | none => throw .alreadyExists
  | some name =>
    match s.get? (dir ++ [name]) with
    | some _ => throw .alreadyExists
    | none => return s.set (dir ++ [name]) (.link target)

/-- Makes an entry, and the directories above it. One that cannot be made is left out. -/
def place (s : FileStore) (path : String) (e : Entry) : FileStore :=
  let s := (s.makeDirectories (Path.above path)).2
  match e with
  | .directory => (s.createDirectories path).2
  | .file content => (s.write path content).toOption.getD s
  | .link target => (s.makeLink path target).toOption.getD s

end TagVocab.FileStore

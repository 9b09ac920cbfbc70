import TagVocab.Text.Quoted

/-!
# Failures

What every operation reports when it cannot do its work: a kind, a message, the chain of operations
it passed through and the values that locate it. The operation in charge is kept apart; those that
it was called from move into the context, in order.
-/

namespace TagVocab

inductive FailureKind where
  | configInvalid
  | malformedTagName
  | rangeOverflow
  | invariantViolation
  | fileNotFound
  | permissionDenied
  | ioFailed
deriving DecidableEq

namespace FailureKind

def all : List FailureKind :=
  [configInvalid, malformedTagName, rangeOverflow, invariantViolation, fileNotFound,
   permissionDenied, ioFailed]

def name : FailureKind → String
  | configInvalid => "ConfigInvalid"
  | malformedTagName => "MalformedTagName"
  | rangeOverflow => "RangeOverflow"
  | invariantViolation => "InvariantViolation"
  | fileNotFound => "FileNotFound"
  | permissionDenied => "PermissionDenied"
  | ioFailed => "IoFailed"

/-- Whether the input broke the tag contract, as opposed to trouble with settings or files. -/
def breaksContract : FailureKind → Bool
  | malformedTagName | rangeOverflow | invariantViolation => true
  | configInvalid | fileNotFound | permissionDenied | ioFailed => false

end FailureKind

structure Origin where
  summary : String
  report : String

structure Failure where
  kind : FailureKind
  message : String
  operation : String := ""
  context : List (String × String) := []
  origin : Option Origin := none

namespace Failure

/-- Puts `operation` in charge. The one that was in charge before it is kept as called by it. -/
def withOperation (f : Failure) (operation : String) : Failure :=
  { f with
    context := if f.operation.isEmpty then f.context else f.context ++ [("called", f.operation)]
    operation := operation }

def withContext (f : Failure) (key value : String) : Failure :=
  { f with context := f.context ++ [(key, value)] }

def withOrigin (f : Failure) (origin : Origin) : Failure :=
  { f with origin := some origin }

/-- The failure in one line, if its values have no line breaks. -/
def summary (f : Failure) : String :=
  f.kind.name
    ++ (if f.operation.isEmpty then "" else " at " ++ f.operation)
    ++ (if f.context.isEmpty then "" else
        ", context \x7b " ++ ", ".intercalate (f.context.map fun (k, v) => k ++ ": " ++ v) ++ " \x7d")
    ++ (if f.message.isEmpty then "" else " => " ++ f.message)

def report (f : Failure) : String :=
  f.kind.name ++ " at " ++ f.operation ++ "\n"
    ++ (if f.message.isEmpty then "" else "\n    Message: " ++ f.message ++ "\n")
    ++ (if f.context.isEmpty then "" else
        "\n    Context:\n"
          ++ String.join (f.context.map fun (k, v) => "        " ++ k ++ ": " ++ v ++ "\n"))
    ++ (match f.origin with
        | none => ""
        | some origin => "\n    Source: " ++ origin.report ++ "\n")

def asOrigin (f : Failure) : Origin :=
  ⟨f.summary, f.report⟩

end Failure

structure SystemError where
  category : String
  message : String
  report : String
deriving DecidableEq

namespace SystemError

def categories : List String :=
  ["NotFound", "PermissionDenied", "ConnectionRefused", "ConnectionReset", "HostUnreachable",
   "NetworkUnreachable", "ConnectionAborted", "NotConnected", "AddrInUse", "AddrNotAvailable",
   "NetworkDown", "BrokenPipe", "AlreadyExists", "WouldBlock", "NotADirectory", "IsADirectory",
   "DirectoryNotEmpty", "ReadOnlyFilesystem", "StaleNetworkFileHandle", "InvalidInput",
   "InvalidData", "TimedOut", "WriteZero", "StorageFull", "NotSeekable", "QuotaExceeded",
   "FileTooLarge", "ResourceBusy", "ExecutableFileBusy", "Deadlock", "CrossesDevices",
   "TooManyLinks", "InvalidFilename", "ArgumentListTooLong", "Interrupted", "Unsupported",
   "UnexpectedEof", "OutOfMemory", "Other"]

def custom (category message : String) : SystemError :=
  ⟨category, message,
    "Custom \x7b kind: " ++ category ++ ", error: " ++ Text.quote message ++ " \x7d"⟩

def fixed (category message : String) : SystemError :=
  ⟨category, message,
    "Error \x7b kind: " ++ category ++ ", message: " ++ Text.quote message ++ " \x7d"⟩

def numbered (number : Nat) (category sentence : String) : SystemError :=
  ⟨category, sentence ++ " (os error " ++ toString number ++ ")",
    "Os \x7b code: " ++ toString number ++ ", kind: " ++ category ++ ", message: "
      ++ Text.quote sentence ++ " \x7d"⟩

def kind (e : SystemError) : FailureKind :=
  if e.category = "NotFound" then .fileNotFound
  else if e.category = "PermissionDenied" then .permissionDenied
  else .ioFailed

def failure (e : SystemError) : Failure :=
  { kind := e.kind, message := e.message, operation := "io"
    origin := some ⟨e.message, e.report⟩ }

end SystemError

end TagVocab

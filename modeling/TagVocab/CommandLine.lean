/-!
# The command line

A command names what to generate from, options say where from and where to. Arguments are taken one
by one: an option's value is settled when the next option or the end comes, so that the first fault
met is the one reported.
-/

namespace TagVocab

/-- What to generate from. An input that is not given is standard input. -/
inductive Source where
  | ast (input : Option String)
  | grammar (input : Option String)
  | both (ast grammar : String)
deriving DecidableEq

structure Command where
  source : Source
  outDir : String
  config : Option String
deriving DecidableEq

inductive Request where
  | version
  | run (command : Command)
deriving DecidableEq

inductive UsageAnswer where
  | help
  | helpOnMissing
  | missingOption
  | unknownArgument
  | unknownCommand
  | invalidValue
  | unexpectedValue
  | repeatedOption
deriving DecidableEq

namespace UsageAnswer

def name : UsageAnswer → String
  | help => "DisplayHelp"
  | helpOnMissing => "DisplayHelpOnMissingArgumentOrSubcommand"
  | missingOption => "MissingRequiredArgument"
  | unknownArgument => "UnknownArgument"
  | unknownCommand => "InvalidSubcommand"
  | invalidValue => "InvalidValue"
  | unexpectedValue => "TooManyValues"
  | repeatedOption => "ArgumentConflict"

/-- Help that was asked for is no error. -/
def exitCode : UsageAnswer → Nat
  | help => 0
  | _ => 2

end UsageAnswer

namespace CommandLine

inductive CommandName where
  | ast
  | grammar
  | all
deriving DecidableEq

def CommandName.ofText? : String → Option CommandName
  | "ast" => some .ast
  | "grammar" => some .grammar
  | "all" => some .all
  | _ => none

inductive Flag where
  | input
  | outDir
  | config
  | ast
  | grammar
deriving DecidableEq

namespace Flag

def long : Flag → List Char
  | input => "input".toList
  | outDir => "out-dir".toList
  | config => "config".toList
  | ast => "ast".toList
  | grammar => "grammar".toList

def short? : Flag → Option Char
  | input => some 'i'
  | outDir => some 'o'
  | config => some 'c'
  | ast | grammar => none

def ofCommand : CommandName → List Flag
  | .ast | .grammar => [input, outDir, config]
  | .all => [ast, grammar, outDir, config]

end Flag

inductive Argument where
  /-- Two hyphens: no options follow. -/
  | hyphens
  | long (name : List Char) (value : Option String)
  | short (letter : Char) (rest : List Char)
  | plain (text : String)

def Argument.ofText (text : String) : Argument :=
  match text.toList with
  | ['-', '-'] => .hyphens
  | '-' :: '-' :: cs =>
    let name := cs.takeWhile (· ≠ '=')
    match cs.dropWhile (· ≠ '=') with
    | [] => .long name none
    | _ :: value => .long name (some (String.ofList value))
  | '-' :: c :: cs => .short c cs
  | _ => .plain text

/-- The value that follows an option's letter in the same argument, with or without an equals
sign. -/
def attachedValue? : List Char → Option String
  | [] => none
  | '=' :: cs => some (String.ofList cs)
  | cs => some (String.ofList cs)

/-- The options given so far. The last one may lack its value, and is not settled yet. -/
structure Given where
  settled : List (Flag × String) := []
  pending : Option (Flag × Option String) := none

namespace Given

def settle (g : Given) : Except UsageAnswer Given :=
  match g.pending with
  | none => .ok g
  | some (_, none) => .error .invalidValue
  | some (flag, some value) =>
    if g.settled.any (·.1 = flag) then .error .repeatedOption
    else if value.isEmpty then .error .invalidValue
    else .ok { settled := g.settled ++ [(flag, value)] }

/-- Meets another option. A value in the same argument settles it at once. -/
def meet (g : Given) (flag : Flag) (value : Option String) : Except UsageAnswer Given := do
  let g ← g.settle
  let g := { g with pending := some (flag, value) }
  if value.isSome then g.settle else return g

def help {α : Type} (g : Given) : Except UsageAnswer α := do
  let _ ← g.settle
  throw .help

def value? (g : Given) (flag : Flag) : Option String :=
  g.settled.lookup flag

def take (flags : List Flag) (g : Given) : List String → Except UsageAnswer Given
  | [] => g.settle
  | arg :: rest =>
    match Argument.ofText arg with
    | .hyphens => if rest.isEmpty then g.settle else throw .unknownArgument
    | .long name value =>
      if name = "help".toList then
        if value.isSome then throw .unexpectedValue else g.help
      else
        match flags.find? (·.long = name) with
        | none => throw .unknownArgument
        | some flag => do take flags (← g.meet flag value) rest
    | .short letter more =>
      if letter = 'h' then
        g.help
      else
        match flags.find? (·.short? = some letter) with
        | none => throw .unknownArgument
        | some flag => do take flags (← g.meet flag (attachedValue? more)) rest
    | .plain text =>
      match g.pending with
      | some (flag, none) => take flags { g with pending := some (flag, some text) } rest
      | _ => throw .unknownArgument

end Given

def required (g : Given) (flag : Flag) : Except UsageAnswer String :=
  match g.value? flag with
  | some value => .ok value
  | none => .error .missingOption

def command (name : CommandName) (g : Given) : Except UsageAnswer Command := do
  let outDir ← required g .outDir
  let source ← match name with
    | .ast => pure (.ast (g.value? .input))
    | .grammar => pure (.grammar (g.value? .input))
    | .all => do
      let ast ← required g .ast
      let grammar ← required g .grammar
      pure (.both ast grammar)
  return { source, outDir, config := g.value? .config }

/-- What follows the word `help`: the names of commands to help with. Commands have no commands of
their own. -/
def help : List String → UsageAnswer
  | [] => .help
  | [name] => if name = "help" || (CommandName.ofText? name).isSome then .help else .unknownCommand
  | _ => .unknownCommand

def parse : List String → Except UsageAnswer Request
  | [] => .error .helpOnMissing
  | arg :: rest =>
    match CommandName.ofText? arg with
    | some name => do
      let given ← Given.take (Flag.ofCommand name) {} rest
      return .run (← command name given)
    | none =>
      match Argument.ofText arg with
      | .hyphens =>
        match rest with
        | [] => .error .helpOnMissing
        | next :: _ =>
          .error (if next = "help" || (CommandName.ofText? next).isSome then .unknownArgument
            else .unknownCommand)
      | .long name value =>
        if name = "help".toList then .error (if value.isSome then .unexpectedValue else .help)
        else if name = "version".toList then
          if value.isSome then .error .unexpectedValue else .ok .version
        else .error .unknownArgument
      | .short letter _ =>
        if letter = 'h' then .error .help
        else if letter = 'V' then .ok .version
        else .error .unknownArgument
      | .plain text => .error (if text = "help" then help rest else .unknownCommand)

end CommandLine

end TagVocab

import TagVocab.Toml.Scalar
import TagVocab.Toml.Table

/-!
# Reading TOML

A document is read line by line into its tables. Readers give back what they read and the rest of the
text. Their fuel is the length of the text: each step of a reader takes at least one character.
-/

namespace TagVocab.Toml

def depthLimit : Nat := 80

def skipSpace (cs : List Char) : List Char :=
  cs.dropWhile fun c => c = ' ' || c = '\t'

def afterBreak? : List Char → Option (List Char)
  | '\n' :: cs => some cs
  | '\r' :: '\n' :: cs => some cs
  | _ => none

def skipBreaks : List Char → List Char
  | [] => []
  | '\r' :: '\n' :: cs => skipBreaks cs
  | c :: cs => if c = ' ' || c = '\t' || c = '\n' then skipBreaks cs else c :: cs

/-- Characters that may stand in comments and strings as they are. -/
def isPlain (c : Char) : Bool :=
  c = '\t' || (' ' ≤ c && c ≠ '\x7f')

def skipComment : List Char → List Char
  | '#' :: cs => cs.dropWhile isPlain
  | cs => cs

/-- What follows the end of a line, which may have a comment in front of it. -/
def afterLine? (cs : List Char) : Option (List Char) :=
  match skipComment (skipSpace cs) with
  | [] => some []
  | cs => afterBreak? cs

def skipLayout : Nat → List Char → List Char
  | 0, cs => cs
  | fuel + 1, cs =>
    match skipBreaks cs with
    | '#' :: rest =>
      match afterBreak? (skipComment ('#' :: rest)) with
      | some rest => skipLayout fuel rest
      | none => '#' :: rest
    | rest => rest

def codePoint? (width : Nat) (cs : List Char) : Option (Char × List Char) :=
  let digits := cs.take width
  let n := ofDigits 16 digits
  if digits.length = width && digits.all isHexDigit && Nat.isValidChar n then
    some (Char.ofNat n, cs.drop width)
  else
    none

def escaped? : List Char → Option (Char × List Char)
  | 'b' :: cs => some ('\x08', cs)
  | 't' :: cs => some ('\t', cs)
  | 'n' :: cs => some ('\n', cs)
  | 'f' :: cs => some ('\x0c', cs)
  | 'r' :: cs => some ('\r', cs)
  | '"' :: cs => some ('"', cs)
  | '\\' :: cs => some ('\\', cs)
  | 'u' :: cs => codePoint? 4 cs
  | 'U' :: cs => codePoint? 8 cs
  | _ => none

def basic? : Nat → List Char → Option (List Char × List Char)
  | 0, _ => none
  | _, [] => none
  | _ + 1, '"' :: cs => some ([], cs)
  | fuel + 1, '\\' :: cs => do
    let (c, cs) ← escaped? cs
    let (s, cs) ← basic? fuel cs
    return (c :: s, cs)
  | fuel + 1, c :: cs => do
    if !isPlain c then none
    let (s, cs) ← basic? fuel cs
    return (c :: s, cs)

def literal? (cs : List Char) : Option (List Char × List Char) :=
  let inside (c : Char) := isPlain c && c ≠ '\''
  match cs.dropWhile inside with
  | '\'' :: rest => some (cs.takeWhile inside, rest)
  | _ => none

/-- Up to two quotes may stand in front of the three that close a string of several lines. -/
def closing? (quote : Char) (cs : List Char) : Option (List Char × List Char) :=
  let n := (cs.takeWhile (· = quote)).length
  if 3 ≤ n ∧ n ≤ 5 then some (List.replicate (n - 3) quote, cs.drop n) else none

/-- A string of several lines up to its closing quotes. A backslash is followed by an escaped
character, if `escapes`, or at the end of a line by blanks that are not part of the string. -/
def multiLine? (quote : Char) (escapes : Bool) : Nat → List Char → Option (List Char × List Char)
  | 0, _ => none
  | _, [] => none
  | fuel + 1, c :: cs =>
    if c = quote && (cs.take 2).length = 2 && (cs.take 2).all (· = quote) then
      closing? quote (c :: cs)
    else if c = '\\' && escapes then
      match afterBreak? (skipSpace cs) with
      | some rest => multiLine? quote escapes fuel (skipBreaks rest)
      | none => do
        let (c, cs) ← escaped? cs
        let (s, cs) ← multiLine? quote escapes fuel cs
        return (c :: s, cs)
    else
      match afterBreak? (c :: cs) with
      | some rest => do
        let (s, cs) ← multiLine? quote escapes fuel rest
        return ('\n' :: s, cs)
      | none => do
        if !isPlain c then none
        let (s, cs) ← multiLine? quote escapes fuel cs
        return (c :: s, cs)

/-- A line break behind the opening quotes is not part of the string. -/
def skipFirstBreak (cs : List Char) : List Char :=
  (afterBreak? cs).getD cs

def string? (cs : List Char) : Option (String × List Char) := do
  let (s, rest) ← match cs with
    | '"' :: '"' :: '"' :: cs => multiLine? '"' true cs.length (skipFirstBreak cs)
    | '\'' :: '\'' :: '\'' :: cs => multiLine? '\'' false cs.length (skipFirstBreak cs)
    | '"' :: cs => basic? cs.length cs
    | '\'' :: cs => literal? cs
    | _ => none
  return (String.ofList s, rest)

def isBareKeyChar (c : Char) : Bool :=
  c.isAlphanum || c = '_' || c = '-'

def keyPart? (cs : List Char) : Option (String × List Char) :=
  match cs with
  | '"' :: cs => (basic? cs.length cs).map fun (s, rest) => (String.ofList s, rest)
  | '\'' :: cs => (literal? cs).map fun (s, rest) => (String.ofList s, rest)
  | cs =>
    let part := cs.takeWhile isBareKeyChar
    if part.isEmpty then none else some (String.ofList part, cs.dropWhile isBareKeyChar)

def keyParts? : Nat → List Char → Option (List String × List Char)
  | 0, _ => none
  | fuel + 1, cs => do
    let (part, rest) ← keyPart? (skipSpace cs)
    match skipSpace rest with
    | '.' :: rest => do
      let (parts, rest) ← keyParts? fuel rest
      return (part :: parts, rest)
    | rest => return ([part], rest)

def key? (cs : List Char) : Option (List String × List Char) :=
  keyParts? (depthLimit - 1) cs

/-- The values of an array up to its closing bracket. A comma may follow the last one. -/
def elements? (value? : List Char → Option (Value × List Char)) :
    Nat → List Char → Option (List Value × List Char)
  | 0, _ => none
  | fuel + 1, cs =>
    match skipLayout cs.length cs with
    | ']' :: rest => some ([], rest)
    | rest => do
      let (v, rest) ← value? rest
      match skipLayout rest.length rest with
      | ',' :: rest => do
        let (vs, rest) ← elements? value? fuel rest
        return (v :: vs, rest)
      | ']' :: rest => return ([v], rest)
      | _ => none

def pairs? (value? : List Char → Option (Value × List Char)) :
    Nat → Entries → List Char → Option (Entries × List Char)
  | 0, _, _ => none
  | fuel + 1, es, cs => do
    let (path, rest) ← key? cs
    let (v, rest) ← value? (skipSpace (← after? '=' rest))
    let es ← Entries.insertDotted v path es
    match skipSpace rest with
    | ',' :: rest => pairs? value? fuel es rest
    | '}' :: rest => return (es, rest)
    | _ => none

def isScalarChar (c : Char) : Bool :=
  c.isAlphanum || c = '+' || c = '-' || c = '_' || c = '.' || c = ':'

/-- A value that is one run of characters. Only between a date and a time may it have a space. -/
def scalarRun? (cs : List Char) : Option (Value × List Char) :=
  let run := cs.takeWhile isScalarChar
  let rest := cs.dropWhile isScalarChar
  let longer := run ++ ' ' :: (rest.drop 1).takeWhile isScalarChar
  if rest.head? = some ' ' && isDateTime longer then
    some (.dateTime, cs.drop longer.length)
  else
    (scalar? run).map (·, rest)

def value? : (depth : Nat) → List Char → Option (Value × List Char)
  | 0, _ => none
  | depth + 1, cs =>
    match cs with
    | '[' :: cs => do
      if depth = 0 then none
      let (vs, rest) ← elements? (value? depth) (cs.length + 1) cs
      return (.array vs, rest)
    | '{' :: cs => do
      if depth = 0 then none
      match skipSpace cs with
      | '}' :: rest => return (.table [], rest)
      | cs =>
        let (es, rest) ← pairs? (value? depth) cs.length [] cs
        return (.table (closeEntries es), rest)
    | '"' :: _ | '\'' :: _ => (string? cs).map fun (s, rest) => (.string s, rest)
    | _ => scalarRun? cs

/-- The tables read so far, and the path of the one that keys go to. -/
structure Draft where
  root : Entries := []
  path : List String := []

namespace Draft

def enter (d : Draft) (path : List String) (opened : String → Entries → Option Entries) :
    Option Draft := do
  let key ← path.getLast?
  let root ← Entries.atHeader (opened key) path.dropLast d.root
  return { root, path }

def insert (d : Draft) (path : List String) (v : Value) : Option Draft := do
  let root ← Entries.atHeader (Entries.insertDotted v path) d.path d.root
  return { d with root }

def readStatement? (d : Draft) (cs : List Char) : Option (Draft × List Char) :=
  match cs with
  | '[' :: '[' :: cs => do
    let (path, rest) ← key? cs
    let rest ← after? ']' (← after? ']' rest)
    return (← d.enter path Entries.openElement, rest)
  | '[' :: cs => do
    let (path, rest) ← key? cs
    let rest ← after? ']' rest
    return (← d.enter path Entries.openTable, rest)
  | cs => do
    let (path, rest) ← key? cs
    let (v, rest) ← value? depthLimit (skipSpace (← after? '=' rest))
    return (← d.insert path v, rest)

def readLines? : Nat → Draft → List Char → Option Draft
  | 0, d, cs => if cs.isEmpty then some d else none
  | fuel + 1, d, cs =>
    if cs.isEmpty then
      some d
    else
      match afterLine? cs with
      | some rest => readLines? fuel d rest
      | none => do
        let (d, rest) ← d.readStatement? (skipSpace cs)
        readLines? fuel d (← afterLine? rest)

end Draft

/-- A document may start with a byte order mark. -/
def skipMark : List Char → List Char
  | '\ufeff' :: cs => cs
  | cs => cs

def read? (text : String) : Option (List (String × Value)) :=
  let cs := skipMark text.toList
  (Draft.readLines? cs.length {} cs).map fun d => closeEntries d.root

end TagVocab.Toml

import TagVocab.Toml.Value

/-!
# Tables under construction

A document fills its tables from headers and dotted keys. No key is given twice, a table has one
header at most, and a table made by dotted keys is open to dotted keys alone.
-/

namespace TagVocab.Toml

inductive TableOrigin where
  | header
  /-- As a table around one that has a header. -/
  | around
  | dotted
deriving DecidableEq

/-- A value that is complete, a table, or an array of tables whose last one is being filled. -/
inductive Item where
  | value (v : Value)
  | table (origin : TableOrigin) (entries : List (String × Item))
  | tables (elements : List (List (String × Item)))

abbrev Entries := List (String × Item)

namespace Entries

def find? (es : Entries) (key : String) : Option Item :=
  es.lookup key

def replace (es : Entries) (key : String) (item : Item) : Entries :=
  es.map fun (k, old) => if k = key then (k, item) else (k, old)

def remove (es : Entries) (key : String) : Entries :=
  es.filter (·.1 ≠ key)

def add (es : Entries) (key : String) (item : Item) : Entries :=
  es ++ [(key, item)]

def inLast (f : Entries → Option Entries) : List Entries → Option (List Entries)
  | [] => none
  | [last] => (f last).map ([·])
  | t :: ts => (inLast f ts).map (t :: ·)

/-- Sets a dotted key. Tables on the way must come from dotted keys, or stand around others if the
way leads on from there. -/
def insertDotted (v : Value) : List String → Entries → Option Entries
  | [], _ => none
  | [key], es => match es.find? key with
    | none => some (es.add key (.value v))
    | some _ => none
  | key :: path, es => match es.find? key with
    | none => do
      let inner ← insertDotted v path []
      return es.add key (.table .dotted inner)
    | some (.table .dotted inner) => do
      let inner ← insertDotted v path inner
      return es.replace key (.table .dotted inner)
    | some (.table .around inner) => do
      if path.length ≤ 1 then none
      let inner ← insertDotted v path inner
      return es.replace key (.table .around inner)
    | some (.tables ts) => do
      if path.length ≤ 1 then none
      let ts ← inLast (insertDotted v path) ts
      return es.replace key (.tables ts)
    | some (.table .header _) | some (.value _) => none

/-- Goes down a header's path and applies `f` to the table at its end. Tables that are not there yet
are made. -/
def atHeader (f : Entries → Option Entries) : List String → Entries → Option Entries
  | [], es => f es
  | key :: path, es => match es.find? key with
    | none => do
      let inner ← atHeader f path []
      return es.add key (.table .around inner)
    | some (.table origin inner) => do
      let inner ← atHeader f path inner
      return es.replace key (.table origin inner)
    | some (.tables ts) => do
      let ts ← inLast (atHeader f path) ts
      return es.replace key (.tables ts)
    | some (.value _) => none

/-- Opens the table of a header. A table that stood around others moves to the end. -/
def openTable (key : String) (es : Entries) : Option Entries :=
  match es.find? key with
  | none => some (es.add key (.table .header []))
  | some (.table .around inner) => some ((es.remove key).add key (.table .header inner))
  | some _ => none

def openElement (key : String) (es : Entries) : Option Entries :=
  match es.find? key with
  | none => some (es.add key (.tables [[]]))
  | some (.tables ts) => some (es.replace key (.tables (ts ++ [[]])))
  | some _ => none

end Entries

mutual

def Item.close : Item → Value
  | .value v => v
  | .table _ entries => .table (closeEntries entries)
  | .tables elements => .array (closeTables elements)
termination_by structural item => item

def closeEntries : List (String × Item) → List (String × Value)
  | [] => []
  | (key, item) :: rest => (key, item.close) :: closeEntries rest
termination_by structural entries => entries

def closeTables : List (List (String × Item)) → List Value
  | [] => []
  | entries :: rest => .table (closeEntries entries) :: closeTables rest
termination_by structural elements => elements

end

end TagVocab.Toml

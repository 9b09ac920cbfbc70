import TagVocab.Settings
import TagVocab.Toml.Reader

/-!
# Settings from TOML

Every setting has a default, so any part of a document may be left out. A key that is no setting, or
a value of the wrong kind, is refused where the document first has one.
-/

namespace TagVocab.Settings

inductive DocumentFault where
  | malformed
  | unknownKey (key : String) (known : List String)
  | wrongKind (found : Toml.Value) (expected : String)
  | defect (d : Defect)

def DocumentFault.failure : DocumentFault → Failure
  | malformed => unreadable "<syntax>"
  | unknownKey key known => unreadable <|
    "unknown field `" ++ key ++ "`, expected one of "
      ++ ", ".intercalate (known.map fun k => "`" ++ k ++ "`")
  | wrongKind found expected => unreadable <|
    "invalid type: " ++ found.description ++ ", expected " ++ expected
  | defect d => d.failure
where
  unreadable (what : String) : Failure :=
    { kind := .configInvalid
      message := "invalid TOML: " ++ what
      operation := "config::from_toml"
      origin := some ⟨what, what⟩ }

/-- The only key of a time, where a time stands for a table. -/
def dateTimeKey : String := "$__toml_private_datetime"

def text (v : Toml.Value) : Except DocumentFault String :=
  match v with
  | .string s => .ok s
  | v => .error (.wrongKind v "a string")

def outputKeys : List String :=
  ["visitor", "visitor_walk", "ast_tags", "grammar_symbols"]

def setOutput (o : OutputNames) (key : String) (v : Toml.Value) :
    Except DocumentFault OutputNames :=
  match key with
  | "visitor" => return { o with visitor := ← text v }
  | "visitor_walk" => return { o with visitorWalk := ← text v }
  | "ast_tags" => return { o with astTags := ← text v }
  | "grammar_symbols" => return { o with grammarSymbols := ← text v }
  | _ => .error (.unknownKey key outputKeys)

def setOutputs (o : OutputNames) : List (String × Toml.Value) → Except DocumentFault OutputNames
  | [] => .ok o
  | (key, v) :: rest => do setOutputs (← setOutput o key v) rest

/-- File names are a table, or an array that gives them in order. What an array leaves out has its
default, and what it has beyond them is not looked at. -/
def readOutputs (v : Toml.Value) : Except DocumentFault OutputNames :=
  match v with
  | .table entries => setOutputs {} entries
  | .array values => setOutputs {} (outputKeys.zip values)
  | .dateTime => .error (.unknownKey dateTimeKey outputKeys)
  | v => .error (.wrongKind v "struct OutputNames")

def keys : List String :=
  ["ast_prefix", "runtime_crate", "ast_tag_enum", "grammar_module", "outputs"]

def set (s : Settings) (key : String) (v : Toml.Value) : Except DocumentFault Settings :=
  match key with
  | "ast_prefix" => return { s with lead := ← text v }
  | "runtime_crate" => return { s with runtime := ← text v }
  | "ast_tag_enum" => return { s with tagEnum := ← text v }
  | "grammar_module" => return { s with grammarModule := ← text v }
  | "outputs" => return { s with outputs := ← readOutputs v }
  | _ => .error (.unknownKey key keys)

def setAll (s : Settings) : List (String × Toml.Value) → Except DocumentFault Settings
  | [] => .ok s
  | (key, v) :: rest => do setAll (← set s key v) rest

def ofToml (document : String) : Except DocumentFault Settings :=
  match Toml.read? document with
  | none => .error .malformed
  | some entries => do
    let s ← setAll {} entries
    match s.validate with
    | .error d => .error (.defect d)
    | .ok () => return s

end TagVocab.Settings

import TagVocab.Decimal.Binary64
import TagVocab.Text.Quoted

/-!
# TOML values

What a TOML document holds. Tables keep the order of their keys.
-/

namespace TagVocab.Toml

inductive Value where
  | string (s : String)
  | integer (i : Int)
  | float (x : Binary64)
  | boolean (b : Bool)
  | dateTime
  | array (values : List Value)
  | table (entries : List (String × Value))

/-- How a value is called when another one was expected in its place. -/
def Value.description : Value → String
  | string s => "string " ++ Text.quote s
  | integer i => "integer `" ++ toString i ++ "`"
  | float x => "floating point `" ++ x.text ++ "`"
  | boolean b => "boolean `" ++ toString b ++ "`"
  | array _ => "sequence"
  | dateTime | table _ => "map"

end TagVocab.Toml

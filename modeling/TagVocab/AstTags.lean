import TagVocab.Text.Blank
import TagVocab.Text.Word
import TagVocab.SymbolList

/-!
# AST tags

The tags that an enumeration declares, one to a line: the tag, a value that is not looked at, a
comma and a comment. Every tag starts with the same lead, such as `AST_`.
-/

namespace TagVocab

structure AstTags where
  lead : String
  tags : SymbolList

namespace AstTags

open Text

def afterLead? : List Char → List Char → Option (List Char)
  | [], cs => some cs
  | _ :: _, [] => none
  | l :: lead, c :: cs => if l = c then afterLead? lead cs else none

def skipValue? : List Char → Option (List Char)
  | '=' :: cs =>
    let digits := skipBlanks cs
    if digits.head?.any isDecimalDigit then some (skipBlanks (digits.dropWhile isDecimalDigit))
    else none
  | cs => some cs

def endsLine : List Char → Bool
  | [] => true
  | '/' :: '/' :: _ => true
  | _ => false

/-- The tag that a line declares, if it does. Blanks may stand at both ends of the line and between
its parts. -/
def lineTag? (lead line : List Char) : Option (List Char) := do
  let rest ← afterLead? lead (trim line)
  let word := rest.takeWhile isWordChar
  let rest ← skipValue? (skipBlanks (rest.dropWhile isWordChar))
  if word.isEmpty then none
  match rest with
  | ',' :: rest => if endsLine (skipBlanks rest) then some (lead ++ word) else none
  | _ => none

def ofText (lead text : String) : AstTags where
  lead := lead
  tags := (SymbolList.empty .astNode).pushAll
    (((lines text.toList).filterMap (lineTag? lead.toList)).map String.ofList)

def names (t : AstTags) : List String :=
  t.tags.names

end AstTags

end TagVocab

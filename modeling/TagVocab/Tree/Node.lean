import TagVocab.Tag

/-!
# Tree nodes

A node of a parse tree or of an abstract syntax tree: a tag, kids in source order, a text such as a
lexeme, and a number.
-/

namespace TagVocab

structure Node where
  tag : Tag
  kids : List Node := []
  text : String := ""
  value : Int64 := 0
deriving Inhabited

namespace Node

def text? (n : Node) : Option String :=
  if n.text.isEmpty then none else some n.text

def kid? (n : Node) (index : Nat) : Option Node :=
  n.kids[index]?

def append (n kid : Node) : Node :=
  { n with kids := n.kids ++ [kid] }

def prepend (n kid : Node) : Node :=
  { n with kids := kid :: n.kids }

mutual

/-- Whether two trees agree in shape and in every field. -/
def same : Node → Node → Bool
  | ⟨tag, kids, text, value⟩, ⟨tag', kids', text', value'⟩ =>
    tag == tag' && text == text' && value == value' && sameKids kids kids'
termination_by structural n => n

def sameKids : List Node → List Node → Bool
  | [], [] => true
  | n :: ns, n' :: ns' => same n n' && sameKids ns ns'
  | _, _ => false
termination_by structural ns => ns

end

instance : BEq Node := ⟨same⟩

end Node

end TagVocab

import TagVocab.Document.VisitorTrait
import TagVocab.Document.VisitorWalk
import TagVocab.Proofs.Document.Reading

/-!
# The parts of the visitor documents

What the two visitor documents declare and what they refer to, taken from their texts alone: the
methods and functions with the calls in their bodies, the arms and fallbacks of the router, and the
constants with the assertions about them.
-/

namespace TagVocab.Document

open Text

def upTo? (stop : Char) (cs : List Char) : Option String :=
  if stop ∈ cs then some (String.ofList (cs.takeWhile (· != stop))) else none

/-- A method or function, and the names that are called in its body. -/
structure Declared where
  name : String
  calls : List String
deriving DecidableEq

/-- How declarations are written: what their first line starts with, what stands behind the name,
the line that closes the body, and the call that a line of a body makes. -/
structure DeclarationForm where
  opening : String
  behindName : Char
  closing : String
  call? : String → Option String

/-- The body behind a first line that goes on as `cs`. It is empty if that line ends with a brace
that closes it. -/
def bodyBehind (form : DeclarationForm) (cs : List Char) (rest : List String) : List String :=
  if cs.getLast? = some '\x7d' then [] else rest.takeWhile (· != form.closing)

def declarations (form : DeclarationForm) : List String → List Declared
  | [] => []
  | line :: rest =>
    match after? form.opening line with
    | none => declarations form rest
    | some cs =>
      ⟨(upTo? form.behindName cs).getD "", (bodyBehind form cs rest).filterMap form.call?⟩ ::
        declarations form rest

/-- The names of declarations with all the lines of their bodies. -/
def bodies (form : DeclarationForm) : List String → List (String × List String)
  | [] => []
  | line :: rest =>
    match after? form.opening line with
    | none => bodies form rest
    | some cs =>
      ((upTo? form.behindName cs).getD "", bodyBehind form cs rest) :: bodies form rest

def functionCall? (line : String) : Option String := do
  let cs ← after? "        " line
  let _ ← AstTags.afterLead? "(self".toList (cs.dropWhile (· != '('))
  upTo? '(' cs

def routerArm? (line : String) : Option (String × String) := do
  let cs ← after? "        dispatch_tags::" line
  let tag ← upTo? ' ' cs
  let cs ← AstTags.afterLead? " => v.".toList (cs.dropWhile (· != ' '))
  return (tag, ← upTo? '(' cs)

def methodCall? (line : String) : Option String :=
  (routerArm? line).map (·.2) <|> (after? "    v." line).bind (upTo? '(')
    <|> (after? "        v." line).bind (upTo? '(')

def methodForm : DeclarationForm where
  opening := "    fn "
  behindName := '('
  closing := "    \x7d"
  call? := functionCall?

def functionForm : DeclarationForm where
  opening := "pub fn "
  behindName := '<'
  closing := "\x7d"
  call? := methodCall?

def isFallback (line : String) : Bool :=
  (after? "        _ => panic!(\"Unknown AST node tag " line).isSome ||
    (after? "    panic!(\"Unknown AST node tag " line).isSome

/-- The lines of a module. There are none if there is no such module. -/
def moduleLines (name : String) (doc : List String) : List String :=
  (((locate? ("mod " ++ name ++ " \x7b") doc).bind fun (_, rest) => block? "\x7d" rest).map
    (·.1)).getD []

def declaredConstant? (line : String) : Option String :=
  (after? "    pub(super) const " line).bind (upTo? ':')

def anchoredConstant? (line : String) : Option String := do
  let cs ← after? "    const _: () = assert!(" line
  let bound ← AstTags.afterLead? " >= ".toList (cs.dropWhile (· != ' '))
  if "::PRODUCTION_BASE".toList <:+ bound.takeWhile (· != ',') then upTo? ' ' cs else none

def traitMethods (contents : String) : List Declared :=
  declarations methodForm (linesOf contents)

structure WalkParts where
  functions : List Declared
  arms : List (String × String)
  fallbacks : Nat
  constants : List String
  anchored : List String

def walkParts (contents : String) : WalkParts where
  functions := declarations functionForm (linesOf contents)
  arms := (linesOf contents).filterMap routerArm?
  fallbacks := (linesOf contents).countP isFallback
  constants := (moduleLines "dispatch_tags" (linesOf contents)).filterMap declaredConstant?
  anchored := (moduleLines "dispatch_tags" (linesOf contents)).filterMap anchoredConstant?

section

variable {name : String}

theorem moduleLines_eq_nil {doc : List String}
    (h : ∀ l ∈ doc, after? ("mod " ++ name ++ " \x7b") l = none) : moduleLines name doc = [] := by
  have hnone := locate?_append h []
  rw [List.append_nil, locate?] at hnone
  rw [moduleLines, hnone]
  rfl

theorem moduleLines_append {before body : List String}
    (hbefore : ∀ l ∈ before, after? ("mod " ++ name ++ " \x7b") l = none)
    (hbody : ∀ l ∈ body, l ≠ "\x7d") (behind : List String) :
    moduleLines name (before ++ ("mod " ++ name ++ " \x7b") :: (body ++ "\x7d" :: behind)) =
      body := by
  have hopening : after? ("mod " ++ name ++ " \x7b") ("mod " ++ name ++ " \x7b") = some [] := by
    simpa using after?_append ("mod " ++ name ++ " \x7b") ""
  rw [moduleLines, locate?_append hbefore, locate?_cons hopening, Option.bind_some]
  dsimp only
  rw [block?_append hbody]
  rfl

end

section

variable {form : DeclarationForm}

theorem upTo?_append {stop : Char} {cs : List Char} (h : ∀ c ∈ cs, c ≠ stop) (rest : List Char) :
    upTo? stop (cs ++ stop :: rest) = some (String.ofList cs) := by
  have htake : (cs ++ stop :: rest).takeWhile (· != stop) = cs :=
    takeWhile_append_cons (fun c hc => bne_iff_ne.mpr (h c hc)) (by simp) rest
  rw [upTo?, if_pos (by simp), htake]

theorem declarations_eq_map_bodies (ls : List String) : declarations form ls =
    (bodies form ls).map fun (name, body) => ⟨name, body.filterMap form.call?⟩ := by
  induction ls with
  | nil => rfl
  | cons line rest ih =>
    rw [declarations, bodies]
    cases after? form.opening line with
    | none => exact ih
    | some cs =>
      dsimp only
      rw [ih, List.map_cons]

theorem bodies_append {before : List String}
    (h : ∀ l ∈ before, after? form.opening l = none) (rest : List String) :
    bodies form (before ++ rest) = bodies form rest := by
  induction before with
  | nil => rfl
  | cons l before ih =>
    rw [List.forall_mem_cons] at h
    rw [List.cons_append, bodies, h.1]
    exact ih h.2

/-- A declaration whose body ends with the first line that closes it. -/
theorem bodies_cons {line : String} {name tail : List Char} {body : List String}
    (hline : after? form.opening line = some (name ++ form.behindName :: tail))
    (hname : ∀ c ∈ name, c ≠ form.behindName)
    (htail : (form.behindName :: tail).getLast? ≠ some '\x7d')
    (hbody : ∀ l ∈ body, l ≠ form.closing ∧ after? form.opening l = none)
    (hclosing : after? form.opening form.closing = none) (rest : List String) :
    bodies form (line :: (body ++ form.closing :: rest)) =
      (String.ofList name, body) :: bodies form rest := by
  have hlast : (name ++ form.behindName :: tail).getLast? ≠ some '\x7d' := by
    rw [List.getLast?_cons] at htail
    rwa [List.getLast?_append, List.getLast?_cons, Option.some_or]
  have htake : (body ++ form.closing :: rest).takeWhile (· != form.closing) = body := by
    rw [List.takeWhile_append_of_pos fun l hl => bne_iff_ne.mpr (hbody l hl).1,
      List.takeWhile_cons_of_neg (by simp), List.append_nil]
  have hbehind : bodies form (body ++ form.closing :: rest) = bodies form rest := by
    rw [bodies_append fun l hl => (hbody l hl).2, bodies, hclosing]
  rw [bodies, hline]
  dsimp only
  rw [upTo?_append hname, bodyBehind, if_neg hlast, htake, hbehind, Option.getD_some]

theorem bodies_flatMap {α : Type} {lines : α → List String} {body : α → String × List String}
    {as : List α} (h : ∀ a ∈ as, ∀ rest, bodies form (lines a ++ rest) = body a :: bodies form rest)
    (rest : List String) :
    bodies form (as.flatMap lines ++ rest) = as.map body ++ bodies form rest := by
  induction as with
  | nil => rfl
  | cons a as ih =>
    rw [List.forall_mem_cons] at h
    rw [List.flatMap_cons, List.append_assoc, h.1, ih h.2, List.map_cons, List.cons_append]

end

end TagVocab.Document

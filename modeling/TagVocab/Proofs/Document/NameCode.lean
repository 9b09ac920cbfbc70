import Mathlib.Data.List.Basic
import Mathlib.Data.List.Find
import TagVocab.Proofs.Document.NameLiterals
import TagVocab.Proofs.Document.VisitorCode

/-!
# The code of the names

The function that names tags, and the two printers, as the lines of their documents give them. The
function knows the host's tags, and asks the grammar's module for all others.
-/

namespace TagVocab

open Text

namespace Document

def printerBody? (doc : List String) : Option (List String) := do
  let (_, doc) ← locate? "    fn node_tag_to_string(&self, tag: " doc
  let (body, _) ← block? "    \x7d" doc
  return body

def defaultName? (contents : String) : Option String := do
  let (_, doc) ← locate? "static GRAMMAR_SYMBOL_NAMES: [&str; " (linesOf contents)
  let (_, doc) ← block? "];" doc
  match ← printerBody? doc with
  | [line] => do
    let literal ← between? "        grammar_symbol_name(tag).unwrap_or(" ").to_string()" line
    (decodeLiteral literal.toList).map String.ofList
  | _ => none

/-- The code of a document of tag names: the arms with their names, the variants of their constants,
and the path of the module that is asked about all other tags. -/
structure NameCode where
  arms : List (String × String)
  constants : List (String × String)
  grammar : String

def decodedArm? (line : String) : Option (String × String) := do
  let (tag, literal) ← nameArm? line
  let name ← decodeLiteral literal
  return (tag, String.ofList name)

def lastArm? : List String → Option String
  | [comment, other, closing] => do
    let _ ← after? "        // " comment
    let grammar ← between? "        _ => " "::grammar_symbol_name(tag)," other
    if closing = "    \x7d" then some grammar else none
  | _ => none

def decodedArms? : List String → Option (List (String × String) × String)
  | [] => none
  | line :: rest =>
    match decodedArm? line with
    | some arm => (decodedArms? rest).map fun (arms, grammar) => (arm :: arms, grammar)
    | none => (lastArm? (line :: rest)).map ([], ·)

def nameBody? : List String → Option (List (String × String) × String)
  | [line] => (between? "    " "::grammar_symbol_name(tag)" line).map ([], ·)
  | first :: rest => if first = "    match tag \x7b" then decodedArms? rest else none
  | [] => none

def delegate? (line : String) : Option String := do
  let cs ← after? "            None => <" line
  let grammar ← endingIn? "::ParseTreePrint".toList (cs.takeWhile (· != ' '))
  let _ ← endingIn? "::ParseTreePrint, tag),".toList cs
  return String.ofList grammar

/-- A printer that shows the name of a tag, and leaves tags without one to another printer. -/
def delegates (grammar : String) (body : List String) : Bool :=
  match body with
  | [choice, named, unnamed, closing] =>
    choice = "        match ast_tag_name(tag) \x7b" ∧
      named = "            Some(name) => name.to_string()," ∧ delegate? unnamed = some grammar ∧
      closing = "        \x7d"
  | _ => false

def nameCode? (contents : String) : Option NameCode := do
  let (_, doc) ← locate? "pub fn ast_tag_name(tag: " (linesOf contents)
  let (body, doc) ← block? "\x7d" doc
  let (arms, grammar) ← nameBody? body
  if delegates grammar (← printerBody? doc) then
    return ⟨arms, constantVariants "ast_tag_values" (linesOf contents), grammar⟩
  else none

def nameCode (s : Settings) (tags : List String) : NameCode where
  arms := tags.map fun tag => (tag, tag)
  constants := tags.map fun tag => (tag, variantPath s tag)
  grammar := s.grammarModule

theorem decodedArm?_nameArm {tag : String} (h : ∀ c ∈ tag.toList, isNameLike c) :
    decodedArm? (nameArm tag) = some (tag, tag) := by
  rw [decodedArm?, nameArm?_nameArm h]
  simp [decodeLiteral_encodeLiteral]

section

variable (s : Settings)

def lastArm : List String :=
  ["        // not an AST tag, so assume it's a parse tree node",
   "        _ => " ++ s.grammarModule ++ "::grammar_symbol_name(tag),",
   "    \x7d"]

theorem decodedArms?_lastArm : decodedArms? (lastArm s) = some ([], s.grammarModule) := by
  have hcomment :
      decodedArm? "        // not an AST tag, so assume it's a parse tree node" = none := by
    decide +kernel
  have hafter : (after? "        // "
      "        // not an AST tag, so assume it's a parse tree node").isSome := by decide +kernel
  obtain ⟨note, hnote⟩ := Option.isSome_iff_exists.mp hafter
  have hlast : lastArm? (lastArm s) = some s.grammarModule := by
    rw [lastArm, lastArm?, hnote, String.append_assoc, between?_append]
    rfl
  rw [lastArm] at hlast ⊢
  rw [decodedArms?, hcomment]
  exact congrArg (Option.map _) hlast

theorem decodedArms?_append {tags : List String}
    (h : ∀ tag ∈ tags, ∀ c ∈ tag.toList, isNameLike c) :
    decodedArms? (tags.map nameArm ++ lastArm s) =
      some (tags.map fun tag => (tag, tag), s.grammarModule) := by
  induction tags with
  | nil => exact decodedArms?_lastArm s
  | cons tag tags ih =>
    rw [List.forall_mem_cons] at h
    rw [List.map_cons, List.cons_append, decodedArms?, decodedArm?_nameArm h.1, ih h.2]
    rfl

theorem nameBody?_nameBody {tags : List String}
    (h : ∀ tag ∈ tags, ∀ c ∈ tag.toList, isNameLike c) :
    nameBody? (nameBody s tags) = some (tags.map fun tag => (tag, tag), s.grammarModule) := by
  unfold nameBody
  split
  · next hempty =>
    rw [List.isEmpty_iff.mp hempty, nameBody?, String.append_assoc, between?_append]
    rfl
  · next hne =>
    have hlines : ["    match tag \x7b"] ++ tags.map nameArm ++ lastArm s =
        "    match tag \x7b" :: (tags.map nameArm ++ lastArm s) := by simp
    obtain ⟨second, rest, hrest⟩ : ∃ second rest,
        tags.map nameArm ++ lastArm s = second :: rest := by
      cases tags <;> exact ⟨_, _, rfl⟩
    have harms := decodedArms?_append s h
    rw [← lastArm, hlines]
    rw [hrest] at harms ⊢
    rw [nameBody?, if_pos rfl, harms]
    simp

theorem delegate?_line (hg : ∀ c ∈ s.grammarModule.toList, Settings.isPathChar c) :
    delegate? ("            None => <" ++ (s.grammarModule ++ ("::ParseTreePrint as " ++
      (s.runtime ++ ("::TreePrint>::node_tag_to_string(&" ++ (s.grammarModule ++
        "::ParseTreePrint, tag),")))))) = some s.grammarModule := by
  obtain ⟨behind, hbehind⟩ : ∃ behind, behind = "as ".toList ++ (s.runtime.toList ++
      ("::TreePrint>::node_tag_to_string(&".toList ++ s.grammarModule.toList)) := ⟨_, rfl⟩
  have hcs : (s.grammarModule ++ ("::ParseTreePrint as " ++ (s.runtime ++
      ("::TreePrint>::node_tag_to_string(&" ++ (s.grammarModule ++
        "::ParseTreePrint, tag),"))))).toList =
          (s.grammarModule.toList ++ "::ParseTreePrint".toList) ++ ' ' :: (behind ++
            "::ParseTreePrint, tag),".toList) := by
    rw [hbehind]
    simp
  have hspace : ∀ c ∈ s.grammarModule.toList ++ "::ParseTreePrint".toList, (c != ' ') = true := by
    rw [List.forall_mem_append]
    exact ⟨Settings.bne_of_isPathChar hg (by decide), List.all_eq_true.mp (by decide)⟩
  have hending : (s.grammarModule.toList ++ "::ParseTreePrint".toList) ++ ' ' :: (behind ++
      "::ParseTreePrint, tag),".toList) = ((s.grammarModule.toList ++ "::ParseTreePrint".toList) ++
        ' ' :: behind) ++ "::ParseTreePrint, tag),".toList := by
    simp
  rw [delegate?, after?_append, hcs]
  simp only [Option.bind_eq_bind, Option.bind_some]
  rw [takeWhile_append_cons hspace (by decide), endingIn?_append, Option.bind_some, hending,
    endingIn?_append, Option.bind_some, String.ofList_toList]
  rfl

theorem printerBody?_append {before body : List String}
    (hbefore : ∀ l ∈ before, after? "    fn node_tag_to_string(&self, tag: " l = none)
    (hbody : ∀ l ∈ body, l ≠ "    \x7d") (rest : List String) :
    printerBody? (before ++ ("    fn node_tag_to_string(&self, tag: " ++
      (s.runtime ++ "::NodeTag) -> String \x7b")) :: (body ++ "    \x7d" :: rest)) = some body := by
  rw [printerBody?, locate?_append hbefore, locate?_cons (after?_append _ _)]
  simp only [Option.bind_eq_bind, Option.bind_some]
  rw [block?_append hbody]
  rfl

def delegatingBody : List String :=
  ["        match ast_tag_name(tag) \x7b",
   "            Some(name) => name.to_string(),",
   "            None => <" ++ s.grammarModule ++ "::ParseTreePrint as " ++ s.runtime
     ++ "::TreePrint>::node_tag_to_string(&" ++ s.grammarModule ++ "::ParseTreePrint, tag),",
   "        \x7d"]

def delegatingPrinter : List String :=
  ["",
   "/// Prints ASTs. Parse-tree nodes are named by `ParseTreePrint`.",
   "#[derive(Debug, Clone, Copy, Default)]",
   "pub struct AstTreePrint;",
   "",
   "impl " ++ s.runtime ++ "::TreePrint for AstTreePrint \x7b"]
    ++ ("    fn node_tag_to_string(&self, tag: " ++ (s.runtime ++ "::NodeTag) -> String \x7b")) ::
      (delegatingBody s ++ ["    \x7d", "\x7d"])

theorem delegates_delegatingBody (hg : ∀ c ∈ s.grammarModule.toList, Settings.isPathChar c) :
    delegates s.grammarModule (delegatingBody s) := by
  unfold delegatingBody
  simp [delegates, String.append_assoc, delegate?_line s hg]

theorem printerBody?_delegatingPrinter :
    printerBody? (delegatingPrinter s) = some (delegatingBody s) := by
  refine printerBody?_append s ?_ ?_ ["\x7d"]
  · simp only [String.append_assoc]
    exact Starts.after?_eq_none (by repeat constructor) (by decide)
  · intro l hl
    refine ne_of_after?_eq_none ?_
    revert l
    unfold delegatingBody
    simp only [String.append_assoc]
    exact Starts.after?_eq_none (by repeat constructor) (by decide)

def namesComment : List String :=
  ["/// Name of an AST tag.",
   "///",
   "/// Any other tag is assumed to belong to a parse tree node and is looked up",
   "/// in the grammar symbol table.",
   "#[deny(unreachable_patterns)]"]

theorem astNames_eq (tags : List String) : astNames s tags =
    header ++ (tagModule "ast_tag_values" s tags false ++ (namesComment ++
      ("pub fn ast_tag_name(tag: " ++ (s.runtime ++ "::NodeTag) -> Option<&'static str> \x7b")) ::
        (nameBody s tags ++ "\x7d" :: delegatingPrinter s))) := by
  simp [astNames, namesComment, delegatingPrinter, delegatingBody, String.append_assoc]

theorem ne_brace_of_mem_nameBody {tags : List String} : ∀ l ∈ nameBody s tags, l ≠ "\x7d" := by
  have hbody : ∀ l ∈ nameBody s tags, after? "\x7d" l = none := by
    have harms : ∀ l ∈ tags.map nameArm, after? "\x7d" l = none := by
      rw [List.forall_mem_map]
      intro tag _
      unfold nameArm
      simp only [String.append_assoc]
      exact after?_of_clash (by decide) _
    unfold nameBody
    simp only [String.append_assoc]
    split
    · exact Starts.after?_eq_none (by repeat constructor) (by decide)
    · rw [List.forall_mem_append, List.forall_mem_append]
      exact ⟨⟨Starts.after?_eq_none (by repeat constructor) (by decide), harms⟩,
        Starts.after?_eq_none (by repeat constructor) (by decide)⟩
  exact fun l hl => ne_of_after?_eq_none (hbody l hl)

theorem moduleLines_astNames (tags : List String) :
    moduleLines "ast_tag_values" (astNames s tags) = tags.map (tagConstant s) := by
  have hname : "mod " ++ "ast_tag_values" ++ " \x7b" = "mod ast_tag_values \x7b" := rfl
  have hheader : ∀ l ∈ header, after? "mod ast_tag_values \x7b" l = none :=
    Starts.after?_eq_none (by repeat constructor) (by decide)
  rw [astNames_eq]
  cases tags with
  | nil =>
    have hbehind : ∀ l ∈ namesComment ++ ("pub fn ast_tag_name(tag: " ++ (s.runtime ++
        "::NodeTag) -> Option<&'static str> \x7b")) :: (nameBody s [] ++ "\x7d" ::
          delegatingPrinter s), after? "mod ast_tag_values \x7b" l = none := by
      unfold namesComment nameBody delegatingPrinter delegatingBody
      simp only [String.append_assoc, List.isEmpty_nil, if_true]
      exact Starts.after?_eq_none (by repeat constructor) (by decide)
    refine moduleLines_eq_nil ?_
    rw [hname, List.forall_mem_append]
    exact ⟨hheader, hbehind⟩
  | cons tag tags =>
    have hmodule : tagModule "ast_tag_values" s (tag :: tags) false =
        "mod ast_tag_values \x7b" :: ((tag :: tags).map (tagConstant s) ++ ["\x7d", ""]) := by
      simp [tagModule]
    have hbrace : ∀ l ∈ (tag :: tags).map (tagConstant s), l ≠ "\x7d" := by
      rw [List.forall_mem_map]
      exact fun tag _ => (inner_tagConstant s tag).ne_brace
    rw [hmodule, List.cons_append, List.append_assoc, ← hname]
    rw [← hname] at hheader
    exact moduleLines_append hheader hbrace _

theorem constantVariants_astNames (hr : ∀ c ∈ s.runtime.toList, Settings.isPathChar c)
    (he : ∀ c ∈ s.tagEnum.toList, Settings.isPathChar c) {tags : List String}
    (h : ∀ tag ∈ tags, ∀ c ∈ tag.toList, isNameLike c) :
    constantVariants "ast_tag_values" (astNames s tags) =
      tags.map fun tag => (tag, variantPath s tag) := by
  rw [constantVariants, moduleLines_astNames]
  exact filterMap_map_some fun tag hmem => constantVariant?_tagConstant s hr he (h tag hmem)

theorem after?_tagModule_astNames (tags : List String) :
    ∀ l ∈ tagModule "ast_tag_values" s tags false, after? "pub fn ast_tag_name(tag: " l = none := by
  have hconstants :
      ∀ l ∈ tags.map (tagConstant s), after? "pub fn ast_tag_name(tag: " l = none := by
    rw [List.forall_mem_map]
    intro tag _
    unfold tagConstant
    simp only [String.append_assoc]
    exact after?_of_clash (by decide) _
  have hname : "mod " ++ "ast_tag_values" ++ " \x7b" = "mod ast_tag_values \x7b" := rfl
  unfold tagModule
  rw [hname]
  split
  · exact List.forall_mem_nil _
  · simp only [List.forall_mem_append]
    exact ⟨⟨⟨Starts.after?_eq_none (by repeat constructor) (by decide), hconstants⟩,
      List.forall_mem_nil _⟩, Starts.after?_eq_none (by repeat constructor) (by decide)⟩

theorem nameCode?_astNames (hr : ∀ c ∈ s.runtime.toList, Settings.isPathChar c)
    (he : ∀ c ∈ s.tagEnum.toList, Settings.isPathChar c)
    (hg : ∀ c ∈ s.grammarModule.toList, Settings.isPathChar c) {tags : List String}
    (h : ∀ tag ∈ tags, ∀ c ∈ tag.toList, isNameLike c) :
    nameCode? (text (astNames s tags)) = some (nameCode s tags) := by
  have hheader : ∀ l ∈ header, after? "pub fn ast_tag_name(tag: " l = none :=
    Starts.after?_eq_none (by repeat constructor) (by decide)
  have hcomment : ∀ l ∈ namesComment, after? "pub fn ast_tag_name(tag: " l = none :=
    Starts.after?_eq_none (by repeat constructor) (by decide)
  have hlocate : locate? "pub fn ast_tag_name(tag: " (astNames s tags) =
      some ((s.runtime ++ "::NodeTag) -> Option<&'static str> \x7b").toList,
        nameBody s tags ++ "\x7d" :: delegatingPrinter s) := by
    rw [astNames_eq, locate?_append hheader, locate?_append (after?_tagModule_astNames s tags),
      locate?_append hcomment, locate?_cons (after?_append _ _)]
  rw [nameCode?, linesOf_text _ (oneLine_astNames s hr he hg h), hlocate]
  simp only [Option.bind_eq_bind, Option.bind_some]
  rw [block?_append (ne_brace_of_mem_nameBody s)]
  simp only [Option.bind_some, nameBody?_nameBody s h, printerBody?_delegatingPrinter,
    constantVariants_astNames s hr he h]
  rw [if_pos (delegates_delegatingBody s hg)]
  rfl

def behindNames : List String :=
  "" :: (nameLookup s ++ ["",
    "/// Prints parse trees, naming nodes by grammar symbol.",
    "#[derive(Debug, Clone, Copy, Default)]",
    "pub struct ParseTreePrint;",
    "",
    "impl " ++ s.runtime ++ "::TreePrint for ParseTreePrint \x7b"])

theorem printerBody?_parseTreePrinter :
    printerBody? ("" :: (nameLookup s ++ "" :: parseTreePrinter s)) =
      some ["        grammar_symbol_name(tag).unwrap_or(" ++ (quote unknownTagName ++
        ").to_string()")] := by
  have hbefore : ∀ l ∈ behindNames s, after? "    fn node_tag_to_string(&self, tag: " l = none := by
    unfold behindNames nameLookup
    simp only [String.append_assoc]
    exact Starts.after?_eq_none (by repeat constructor) (by decide)
  have hbody : ∀ l ∈ ["        grammar_symbol_name(tag).unwrap_or(" ++ (quote unknownTagName ++
      ").to_string()")], l ≠ "    \x7d" := fun l hl =>
    ne_of_after?_eq_none (Starts.after?_eq_none (by repeat constructor) (by decide) l hl)
  have hlines : "" :: (nameLookup s ++ "" :: parseTreePrinter s) =
      behindNames s ++ ("    fn node_tag_to_string(&self, tag: " ++ (s.runtime ++
        "::NodeTag) -> String \x7b")) :: (["        grammar_symbol_name(tag).unwrap_or(" ++
          (quote unknownTagName ++ ").to_string()")] ++ "    \x7d" :: ["\x7d"]) := by
    simp [behindNames, parseTreePrinter, String.append_assoc]
  rw [hlines, printerBody?_append s hbefore hbody]

theorem defaultName?_symbolTable (hr : ∀ c ∈ s.runtime.toList, Settings.isPathChar c)
    (symbols : GrammarSymbols) (spaces : TagSpaces)
    (ht : ∀ symbol ∈ symbols.tokens.toList, GrammarSymbols.Plain symbol.name)
    (hp : ∀ symbol ∈ symbols.productions.toList, GrammarSymbols.Plain symbol.name) :
    defaultName? (text (symbolTable s symbols spaces)) = some unknownTagName := by
  have hrt : OneLine s.runtime.toList := oneLine_of_forall (by decide) (by decide) hr
  have hlines := linesOf_text _ (oneLine_symbolTable s symbols spaces hrt ht hp)
  rw [defaultName?, hlines, locate?_symbolTable, GrammarTable.locate?_nameTable]
  simp only [Option.bind_eq_bind, Option.bind_some, GrammarTable.block?_nameElement,
    printerBody?_parseTreePrinter]
  rw [between?_append, Option.bind_some, quote, String.toList_ofList, decodeLiteral_encodeLiteral,
    Option.map_some, String.ofList_toList]

end

namespace NameCode

/-- The name of a tag, given the values of the variants and the answers of the grammar's module. -/
def name? (code : NameCode) (value : String → Tag) (grammar? : Tag → Option String) (tag : Tag) :
    Option String :=
  match code.arms.find? fun arm => (code.constants.lookup arm.1).map value = some tag with
  | some arm => some arm.2
  | none => grammar? tag

def shown (code : NameCode) (value : String → Tag) (grammar? : Tag → Option String)
    (other : Tag → String) (tag : Tag) : String :=
  match code.name? value grammar? tag with
  | some name => name
  | none => other tag

theorem name?_nameCode (s : Settings) (tags : List String) (value : String → Tag)
    (grammar? : Tag → Option String) (tag : Tag) :
    (nameCode s tags).name? value grammar? tag =
      match tags.find? fun name => value (variantPath s name) = tag with
      | some name => some name
      | none => grammar? tag := by
  have hfind : (nameCode s tags).arms.find? (fun arm =>
      ((nameCode s tags).constants.lookup arm.1).map value = some tag) =
        (tags.find? fun name => value (variantPath s name) = tag).map fun name => (name, name) := by
    rw [nameCode, List.find?_map]
    refine congrArg (Option.map _) (List.find?_congr fun name hmem => ?_)
    simp [List.lookup_graph _ hmem]
  rw [name?, hfind]
  cases tags.find? fun name => value (variantPath s name) = tag <;> rfl

end NameCode

end Document

end TagVocab

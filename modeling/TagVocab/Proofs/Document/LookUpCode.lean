import Mathlib.Algebra.Group.Nat.Defs
import TagVocab.SymbolNames

/-!
# The code of the look-up

The statements of a look-up function as its lines give them, and their run. Subtraction below zero,
addition beyond 64 bits and an index past the end of the table trap. The statements that every
symbol table holds agree with the look-up rule and never trap.
-/

namespace TagVocab.Document

def isCodeWordChar (c : Char) : Bool :=
  c.isAlphanum || c = '_' || c = '.'

/-- The words of a line of code, and every other character but spaces on its own. -/
def codeWords : List Char → List (List Char)
  | [] => []
  | c :: cs =>
    if c = ' ' then codeWords cs
    else if isCodeWordChar c && cs.head?.any isCodeWordChar then
      (codeWords cs).modifyHead (c :: ·)
    else [c] :: codeWords cs

inductive LookUpStep where
  /-- Opens a block that is run if the left value is below the right one. -/
  | ifBelow (left right : String)
  /-- Opens a block that is run if the left value is not below the right one. -/
  | ifNotBelow (left right : String)
  | close
  | letDistance (name value base : String)
  | giveNone
  | giveName (positions : List String)
deriving DecidableEq

/-- The statement of one line, if it holds one. A line of another form is refused. -/
def lookUpStep? (line : List Char) : Option (Option LookUpStep) :=
  match (codeWords line).map String.ofList with
  | [] => some none
  | "/" :: "/" :: _ => some none
  | ["if", left, "<", right, "\x7b"] => some (some (.ifBelow left right))
  | ["if", left, ">", "=", right, "\x7b"] => some (some (.ifNotBelow left right))
  | ["\x7d"] => some (some .close)
  | ["let", name, "=", "(", value, "-", base, ")", "as", "usize", ";"] =>
    some (some (.letDistance name value base))
  | ["return", "None", ";"] => some (some .giveNone)
  | ["return", "Some", "(", "GRAMMAR_SYMBOL_NAMES", "[", position, "]", ")", ";"] =>
    some (some (.giveName [position]))
  | ["Some", "(", "GRAMMAR_SYMBOL_NAMES", "[", position, "+", other, "]", ")"] =>
    some (some (.giveName [position, other]))
  | _ => none

def lookUpSteps? (lines : List (List Char)) : Option (List LookUpStep) :=
  (lines.mapM lookUpStep?).map fun steps => steps.flatMap Option.toList

inductive LookUpTrap where
  | belowZero
  | beyondWord
  | outOfBounds
  | noValue
deriving DecidableEq

abbrev LookUpValues := List (String × Nat)

def LookUpValues.value (values : LookUpValues) (name : String) : Except LookUpTrap Nat :=
  match values.lookup name with
  | some n => .ok n
  | none => .error .noValue

/-- The sum of some values, which has to fit in 64 bits. -/
def LookUpValues.total (values : LookUpValues) : List String → Except LookUpTrap Nat
  | [] => .ok 0
  | name :: names => do
    let n ← values.value name
    let sum ← values.total names
    if n + sum < 2 ^ 64 then .ok (n + sum) else .error .beyondWord

def nameAt (table : List String) (position : Nat) : Except LookUpTrap (Option String) :=
  match table[position]? with
  | some name => .ok (some name)
  | none => .error .outOfBounds

/-- Runs statements that stand inside of `skipped` blocks that are not run. -/
def runLookUp (table : List String) (values : LookUpValues) (skipped : Nat) :
    List LookUpStep → Except LookUpTrap (Option String)
  | [] => .error .noValue
  | .close :: steps => runLookUp table values (skipped - 1) steps
  | .ifBelow left right :: steps =>
    if skipped = 0 then do
      let l ← values.value left
      let r ← values.value right
      runLookUp table values (if l < r then 0 else 1) steps
    else runLookUp table values (skipped + 1) steps
  | .ifNotBelow left right :: steps =>
    if skipped = 0 then do
      let l ← values.value left
      let r ← values.value right
      runLookUp table values (if l < r then 1 else 0) steps
    else runLookUp table values (skipped + 1) steps
  | .letDistance name value base :: steps =>
    if skipped = 0 then do
      let n ← values.value value
      let b ← values.value base
      if n < b then .error .belowZero
      else runLookUp table ((name, n - b) :: values) 0 steps
    else runLookUp table values skipped steps
  | .giveNone :: steps =>
    if skipped = 0 then .ok none else runLookUp table values skipped steps
  | .giveName positions :: steps =>
    if skipped = 0 then do
      let position ← values.total positions
      nameAt table position
    else runLookUp table values skipped steps

/-- The statements that look a tag up: among the tokens if it lies below the productions. -/
def lookUpSteps : List LookUpStep :=
  [.ifBelow "tag" "TOKEN_RANGE.base", .giveNone, .close,
   .ifBelow "tag" "PRODUCTION_RANGE.base",
   .letDistance "which_token" "tag" "TOKEN_RANGE.base",
   .ifNotBelow "which_token" "TOKEN_RANGE.count", .giveNone, .close,
   .giveName ["which_token"], .close,
   .letDistance "which_production" "tag" "PRODUCTION_RANGE.base",
   .ifNotBelow "which_production" "PRODUCTION_RANGE.count", .giveNone, .close,
   .giveName ["TOKEN_RANGE.count", "which_production"]]

def lookUpValues (constants : List (String × SymbolRange)) (tag : Tag) : LookUpValues :=
  ("tag", tag.toNat) :: constants.flatMap fun (name, range) =>
    [(name ++ ".base", range.base.toNat), (name ++ ".count", range.count)]

section

variable (tokens productions : SymbolRange) (tag : Tag)

def rangeValues : LookUpValues :=
  lookUpValues [("TOKEN_RANGE", tokens), ("PRODUCTION_RANGE", productions)] tag

theorem rangeValues_eq : rangeValues tokens productions tag =
    [("tag", tag.toNat), ("TOKEN_RANGE.base", tokens.base.toNat),
     ("TOKEN_RANGE.count", tokens.count), ("PRODUCTION_RANGE.base", productions.base.toNat),
     ("PRODUCTION_RANGE.count", productions.count)] :=
  rfl

theorem toNat_sub_of_not_lt {a b : Tag} (h : ¬ a < b) : (a - b).toNat = a.toNat - b.toNat :=
  UInt32.toNat_sub_of_le a b (UInt32.not_lt.mp h)

theorem nameAt_of_lt {names : List String} {position : Nat} (h : position < names.length) :
    nameAt names position = .ok names[position]? := by
  rw [nameAt, List.getElem?_eq_getElem h]

theorem LookUpValues.total_cons {values : LookUpValues} {name : String} {names : List String}
    {n sum : Nat} (hn : values.value name = .ok n) (hs : values.total names = .ok sum)
    (hword : n + sum < 2 ^ 64) : values.total (name :: names) = .ok (n + sum) := by
  rw [total, hn, hs]
  exact if_pos hword

/-- The statements find the name that the look-up rule finds, without a trap: no sum is too large
unless there are far too many tokens. -/
theorem runLookUp_lookUpSteps {names : List String}
    (hnames : names.length = tokens.count + productions.count)
    (hword : tokens.count + 2 ^ 32 ≤ 2 ^ 64) :
    runLookUp names (rangeValues tokens productions tag) 0 lookUpSteps =
      .ok (SymbolNames.name? ⟨⟨tokens, productions⟩, names⟩ tag) := by
  have hlt (b : Tag) : tag < b ↔ tag.toNat < b.toNat := UInt32.lt_iff_toNat_lt
  have htag : tag.toNat < 2 ^ 32 := tag.toNat_lt
  rw [rangeValues_eq]
  unfold lookUpSteps SymbolNames.name? SymbolNames.position?
  by_cases hlow : tag < tokens.base
  · simp [runLookUp, LookUpValues.value, List.lookup_cons, bind, Except.bind, hlow, (hlt _).mp hlow]
  · have hlow' : ¬ tag.toNat < tokens.base.toNat := mt (hlt _).mpr hlow
    by_cases hmid : tag < productions.base
    · have hmid' : tag.toNat < productions.base.toNat := (hlt _).mp hmid
      by_cases hc : tag.toNat - tokens.base.toNat < tokens.count
      · have hi : tag.toNat - tokens.base.toNat < names.length := by omega
        have hw : tag.toNat - tokens.base.toNat + 0 < 2 ^ 64 := by omega
        have htotal : LookUpValues.total (("which_token", tag.toNat - tokens.base.toNat) ::
            rangeValues tokens productions tag) ["which_token"] =
              .ok (tag.toNat - tokens.base.toNat) :=
          LookUpValues.total_cons rfl rfl hw
        rw [rangeValues_eq] at htotal
        simp [runLookUp, LookUpValues.value, htotal, List.lookup_cons, bind, Except.bind,
          hlow, hlow', hmid, hmid', toNat_sub_of_not_lt hlow, hc, nameAt_of_lt hi]
      · simp [runLookUp, LookUpValues.value, List.lookup_cons, bind, Except.bind,
          hlow, hlow', hmid, hmid', toNat_sub_of_not_lt hlow, hc]
    · have hmid' : ¬ tag.toNat < productions.base.toNat := mt (hlt _).mpr hmid
      by_cases hc : tag.toNat - productions.base.toNat < productions.count
      · have hi : tokens.count + (tag.toNat - productions.base.toNat) < names.length := by omega
        have hw : tag.toNat - productions.base.toNat + 0 < 2 ^ 64 := by omega
        have hsum : tokens.count + (tag.toNat - productions.base.toNat) < 2 ^ 64 := by omega
        have htotal : LookUpValues.total
            (("which_production", tag.toNat - productions.base.toNat) ::
              rangeValues tokens productions tag) ["TOKEN_RANGE.count", "which_production"] =
              .ok (tokens.count + (tag.toNat - productions.base.toNat)) :=
          LookUpValues.total_cons rfl (LookUpValues.total_cons rfl rfl hw) hsum
        rw [rangeValues_eq] at htotal
        simp [runLookUp, LookUpValues.value, htotal, List.lookup_cons, bind, Except.bind,
          hlow, hlow', hmid, hmid', toNat_sub_of_not_lt hmid, hc, nameAt_of_lt hi]
      · simp [runLookUp, LookUpValues.value, List.lookup_cons, bind, Except.bind,
          hlow, hlow', hmid, hmid', toNat_sub_of_not_lt hmid, hc]

end

end TagVocab.Document

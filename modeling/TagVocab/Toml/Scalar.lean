import TagVocab.Toml.Value

/-!
# Numbers, truth values and times

Values that are written as one run of letters, digits and signs.
-/

namespace TagVocab.Toml

def digitValue (c : Char) : Nat :=
  if c.isDigit then c.toNat - '0'.toNat
  else if 'a' ≤ c then c.toNat - 'a'.toNat + 10
  else c.toNat - 'A'.toNat + 10

def ofDigits (base : Nat) (digits : List Char) : Nat :=
  digits.foldl (fun n c => n * base + digitValue c) 0

/-- The digits of a run that may have single underscores between digits, and nothing else. -/
def groupedDigits? (isDigit : Char → Bool) : List Char → Option (List Char)
  | [] => none
  | [c] => if isDigit c then some [c] else none
  | c :: '_' :: cs => if isDigit c then (groupedDigits? isDigit cs).map (c :: ·) else none
  | c :: cs => if isDigit c then (groupedDigits? isDigit cs).map (c :: ·) else none

/-- Decimal digits without a zero in front of others. -/
def plainDigits? (cs : List Char) : Option (List Char) := do
  let digits ← groupedDigits? Char.isDigit cs
  if digits.head? = some '0' && 1 < digits.length then none else some digits

def splitSign : List Char → Bool × List Char
  | '-' :: cs => (true, cs)
  | '+' :: cs => (false, cs)
  | cs => (false, cs)

def isHexDigit (c : Char) : Bool :=
  c.isDigit || ('a' ≤ c && c ≤ 'f') || ('A' ≤ c && c ≤ 'F')

/-- A whole number of 64 bits. Numbers to another base than ten have no sign. -/
def integer? (cs : List Char) : Option Int := do
  let i : Int ← match cs with
    | '0' :: 'x' :: ds => (groupedDigits? isHexDigit ds).map (ofDigits 16 ·)
    | '0' :: 'o' :: ds => (groupedDigits? (fun c => '0' ≤ c && c ≤ '7') ds).map (ofDigits 8 ·)
    | '0' :: 'b' :: ds => (groupedDigits? (fun c => c = '0' || c = '1') ds).map (ofDigits 2 ·)
    | cs =>
      let (negative, ds) := splitSign cs
      (plainDigits? ds).map fun ds => if negative then -(ofDigits 10 ds : Int) else ofDigits 10 ds
  if Int64.minValue.toInt ≤ i ∧ i ≤ Int64.maxValue.toInt then some i else none

def exponent? : List Char → Option Int
  | [] => some 0
  | e :: cs =>
    if e = 'e' || e = 'E' then
      let (negative, ds) := splitSign cs
      (groupedDigits? Char.isDigit ds).map fun ds =>
        if negative then -(ofDigits 10 ds : Int) else ofDigits 10 ds
    else
      none

def isDigitOrUnderscore (c : Char) : Bool :=
  c.isDigit || c = '_'

/-- A number with a fraction or an exponent, infinity, or no number at all. A number that is too
large is refused, but not its negative. -/
def float? (cs : List Char) : Option Binary64 := do
  let (negative, cs) := splitSign cs
  if cs = ['i', 'n', 'f'] then
    return .infinite negative
  if cs = ['n', 'a', 'n'] then
    return .nan
  let whole ← plainDigits? (cs.takeWhile isDigitOrUnderscore)
  let x ← match cs.dropWhile isDigitOrUnderscore with
    | [] => none
    | '.' :: cs => do
      let fraction ← groupedDigits? Char.isDigit (cs.takeWhile isDigitOrUnderscore)
      let e ← exponent? (cs.dropWhile isDigitOrUnderscore)
      pure (Binary64.ofDecimal negative (ofDigits 10 (whole ++ fraction)) (e - fraction.length))
    | cs => do
      let e ← exponent? cs
      pure (Binary64.ofDecimal negative (ofDigits 10 whole) e)
  if x = .infinite false then none else some x

def twoDigits? (limit : Nat) : List Char → Option (Nat × List Char)
  | a :: b :: cs =>
    let n := ofDigits 10 [a, b]
    if a.isDigit && b.isDigit && n ≤ limit then some (n, cs) else none
  | _ => none

def after? (c : Char) : List Char → Option (List Char)
  | [] => none
  | d :: cs => if d = c then some cs else none

def isLeapYear (year : Nat) : Bool :=
  year % 4 = 0 && (year % 100 ≠ 0 || year % 400 = 0)

def daysIn (year month : Nat) : Nat :=
  if month = 2 then if isLeapYear year then 29 else 28
  else if month = 4 || month = 6 || month = 9 || month = 11 then 30
  else 31

def afterDate? (cs : List Char) : Option (List Char) := do
  let (century, cs) ← twoDigits? 99 cs
  let (year, cs) ← twoDigits? 99 cs
  let (month, cs) ← twoDigits? 12 (← after? '-' cs)
  let (day, cs) ← twoDigits? 31 (← after? '-' cs)
  if 1 ≤ month ∧ 1 ≤ day ∧ day ≤ daysIn (century * 100 + year) month then some cs else none

def afterTime? (cs : List Char) : Option (List Char) := do
  let (_, cs) ← twoDigits? 23 cs
  let (_, cs) ← twoDigits? 59 (← after? ':' cs)
  let (_, cs) ← twoDigits? 60 (← after? ':' cs)
  match cs with
  | '.' :: ds => if (ds.takeWhile Char.isDigit).isEmpty then none else ds.dropWhile Char.isDigit
  | cs => some cs

def afterOffset? : List Char → Option (List Char)
  | 'Z' :: cs => some cs
  | 'z' :: cs => some cs
  | sign :: cs => do
    if sign ≠ '+' ∧ sign ≠ '-' then none
    let (_, cs) ← twoDigits? 23 cs
    let (_, cs) ← twoDigits? 59 (← after? ':' cs)
    return cs
  | [] => none

/-- A date, a time of day, or both; only where there are both may an offset follow. -/
def isDateTime (cs : List Char) : Bool :=
  match afterDate? cs with
  | some [] => true
  | some (c :: rest) =>
    (c = 'T' || c = 't' || c = ' ') &&
      match afterTime? rest with
      | some [] => true
      | some rest => afterOffset? rest = some []
      | none => false
  | none => afterTime? cs = some []

def scalar? (cs : List Char) : Option Value :=
  if cs = ['t', 'r', 'u', 'e'] then
    some (.boolean true)
  else if cs = ['f', 'a', 'l', 's', 'e'] then
    some (.boolean false)
  else
    match integer? cs with
    | some i => some (.integer i)
    | none =>
      match float? cs with
      | some x => some (.float x)
      | none => if isDateTime cs then some .dateTime else none

end TagVocab.Toml

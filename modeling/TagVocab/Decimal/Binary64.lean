/-!
# Decimal numbers in 64 bits

The double-precision number nearest to a decimal one, and the shortest decimal that reads back as a
given number. Both work on exact natural numbers.
-/

namespace TagVocab

/-- A finite number is `mantissa * 2 ^ exponent`, with its sign beside it. -/
inductive Binary64 where
  | finite (negative : Bool) (mantissa : Nat) (exponent : Int)
  | infinite (negative : Bool)
  | nan
deriving DecidableEq

namespace Binary64

/-- `n / d` to the nearest whole number, a tie to the even one. -/
def roundDiv (n d : Nat) : Nat :=
  let q := n / d
  let rest := 2 * (n % d)
  if rest > d || (rest == d && q % 2 == 1) then q + 1 else q

def mantissaLimit : Nat := 1 <<< 53

def minExponent : Int := -1074

def maxExponent : Int := 971

def ofRatio (negative : Bool) (n d : Nat) : Binary64 :=
  let low : Int := n.log2 - d.log2 - 53
  let quotient (q : Int) := (n <<< (-q).toNat, d <<< q.toNat)
  let wide := quotient low
  let q := max minExponent (if mantissaLimit ≤ wide.1 / wide.2 then low + 1 else low)
  let exact := quotient q
  let m := roundDiv exact.1 exact.2
  let (m, q) := if m = mantissaLimit then (mantissaLimit / 2, q + 1) else (m, q)
  if maxExponent < q then infinite negative else finite negative m q

/-- The number nearest to `m * 10 ^ e`. Exponents far out of reach are not multiplied out. -/
def ofDecimal (negative : Bool) (m : Nat) (e : Int) : Binary64 :=
  let digits := (Nat.toDigits 10 m).length
  if m = 0 || e + digits < -330 then finite negative 0 minExponent
  else if 310 < e + digits then infinite negative
  else ofRatio negative (m * Nat.pow 10 e.toNat) (Nat.pow 10 (-e).toNat)

/-- A multiple of `10 ^ k` that is nearer to `m * 2 ^ q` than to any other number, if there is one;
of two the nearer. -/
def onGrid? (m : Nat) (q k : Int) : Option Nat :=
  -- in units of a quarter of the last bit, `a / b` to the step of the grid
  let a := Nat.pow 10 (-k).toNat <<< (q - 2).toNat
  let b := Nat.pow 10 k.toNat <<< (2 - q).toNat
  let low := if m = mantissaLimit / 2 && minExponent < q then 4 * m - 1 else 4 * m - 2
  let high := 4 * m + 2
  let inside (d : Nat) :=
    if m % 2 = 0 then low * a ≤ d * b && d * b ≤ high * a else low * a < d * b && d * b < high * a
  let below := 4 * m * a / b
  let above := below + 1
  if inside below && !(inside above && above * b - 4 * m * a ≤ 4 * m * a - below * b) then
    some below
  else if inside above then
    some above
  else
    none

/-- Digits and exponent of the shortest decimal that is nearer to `m * 2 ^ q` than to any other
number. -/
def shortest (m : Nat) (q : Int) : Nat × Int :=
  let grids := (List.range 641).map fun (i : Nat) => (310 : Int) - i
  (grids.findSome? fun k => (onGrid? m q k).map (·, k)).getD (m, 0)

/-- `d * 10 ^ k` with a point and at least one digit on each side of it. -/
def positional (d : Nat) (k : Int) : String :=
  let digits := Nat.toDigits 10 d
  if 0 ≤ k then
    String.ofList (digits ++ List.replicate k.toNat '0') ++ ".0"
  else
    let places := (-k).toNat
    let padded := List.replicate (places + 1 - digits.length) '0' ++ digits
    String.ofList (padded.take (padded.length - places)) ++ "."
      ++ String.ofList (padded.drop (padded.length - places))

def text : Binary64 → String
  | nan => "NaN"
  | infinite negative => if negative then "-inf" else "inf"
  | finite negative m q =>
    (if negative then "-" else "") ++
      if m = 0 then "0.0" else
        let (d, k) := shortest m q
        positional d k

end Binary64

end TagVocab

/-
# Decimal notation

Reading decimal numbers as doubles and writing doubles in decimal: with the fewest digits
that read back, with a fixed number of places, or with a bounded number of significant
digits.

Main definitions:

* `Decimal.value` : the value of a run of digits;
* `Decimal.toBinary64` : the double nearest to `digits · 10 ^ exponent`;
* `Decimal.Shortest` : the fewest digits that single out a double;
* `Decimal.fixed` : a double with a given number of places;
* `Decimal.plain` : the shortest digits without an exponent.
-/
import Reachability.Text.Blank
import Reachability.Number.Binary64

namespace Reachability.Decimal

/-! ## Reading -/

/-- The value of a digit. -/
def digitValue (c : Char) : Nat := c.toNat - 0x30

/-- The value of a run of digits in the given base ten notation. -/
def value (digits : List Char) : Nat :=
  digits.foldl (fun v c => v * 10 + digitValue c) 0

/-- The double nearest to `± v · 10 ^ e`.  Exponents that lead far outside the range of the
format are settled without computing the power. -/
def toBinary64 (negative : Bool) (v : Nat) (e : Int) : Binary64 :=
  if v = 0 then Binary64.zero negative
  else if e ≥ 400 then Binary64.infinity negative
  else if e ≥ 0 then Binary64.ofRatio negative (v * Nat.pow 10 e.toNat) 1
  else if e + (v.log2 : Int) < -1200 then Binary64.zero negative
  else Binary64.ofRatio negative v (Nat.pow 10 (-e).toNat)

/-! ## Digits of natural numbers -/

/-- The character of a digit below ten. -/
def digitChar (d : Nat) : Char := Char.ofNat (0x30 + d)

/-- The decimal digits of a number, without leading zeros. -/
def digits (n : Nat) : List Char :=
  if n < 10 then [digitChar n] else digits (n / 10) ++ [digitChar (n % 10)]
termination_by n

/-- The decimal text of a number. -/
def ofNat (n : Nat) : String := String.ofList (digits n)

/-- The decimal text of an integer. -/
def ofInt (i : Int) : String :=
  if i < 0 then "-" ++ ofNat i.natAbs else ofNat i.natAbs

/-! ## Shortest digits -/

/-- Digits with a decimal point: the value `digits · 10 ^ exponent`. -/
structure Scaled where
  digits : Nat
  exponent : Int
deriving DecidableEq, Repr

/-- `num / den · 10 ^ (-e)` as a quotient of natural numbers. -/
def scaleDown (num den : Nat) (e : Int) : Nat × Nat :=
  if e ≥ 0 then (num, den * Nat.pow 10 e.toNat) else (num * Nat.pow 10 (-e).toNat, den)

/-- The largest `e` with `10 ^ e ≤ num / den`, for positive `num` and `den`. -/
def magnitude (num den : Nat) : Int :=
  let guess : Int := (((num.log2 : Int) - (den.log2 : Int)) * 30103).fdiv 100000
  let (n, d) := scaleDown num den (guess + 1)
  if n ≥ d then guess + 1
  else
    let (n, d) := scaleDown num den guess
    if n ≥ d then guess else guess - 1

/-- The reals that round to a positive double, with four times the significand as unit so
that the bounds are whole: they lie between `low` and `high`, the ends included if
`closed`. -/
structure Interval where
  low : Nat
  centre : Nat
  high : Nat
  exponent : Int
  closed : Bool

/-- The rounding interval of a positive finite double.  It reaches half a unit up and half
a unit down, but only a quarter of a unit down from a power of two. -/
def Interval.of (x : Binary64) : Interval :=
  let m := x.significand
  let narrow := x.fractionField = 0 ∧ x.exponentField > 1
  { low := if narrow then 4 * m - 1 else 4 * m - 2
    centre := 4 * m
    high := 4 * m + 2
    exponent := x.exponent - 2
    closed := m % 2 = 0 }

/-- A multiple of a power of two as a quotient of natural numbers. -/
def binaryRatio (m : Nat) (e : Int) : Nat × Nat :=
  if e ≥ 0 then (m * Nat.pow 2 e.toNat, 1) else (m, Nat.pow 2 (-e).toNat)

/-- Whether `candidate · 10 ^ e` lies in the interval. -/
def Interval.contains (i : Interval) (candidate : Nat) (e : Int) : Bool :=
  let test (bound : Nat) (below : Bool) : Bool :=
    let (bn, bd) := binaryRatio bound i.exponent
    let (n, d) := scaleDown bn bd e
    let lhs := candidate * d
    if below then n < lhs || (i.closed && n == lhs) else lhs < n || (i.closed && n == lhs)
  test i.low true && test i.high false

/-- The digits on the grid `10 ^ e` that lie in the interval and are nearest to its centre. -/
def Interval.onGrid? (i : Interval) (e : Int) : Option Scaled :=
  let (cn, cd) := binaryRatio i.centre i.exponent
  let (n, d) := scaleDown cn cd e
  let down := n / d
  let up := down + 1
  let nearer := if 2 * (n % d) < d then down
    else if d < 2 * (n % d) then up
    else if down % 2 = 0 then down else up
  let other := if nearer = down then up else down
  if i.contains nearer e then some ⟨nearer, e⟩
  else if i.contains other e then some ⟨other, e⟩
  else none

/-- Drops trailing zeros of the digits. -/
def Scaled.trim (fuel : Nat) (s : Scaled) : Scaled :=
  match fuel with
  | 0 => s
  | fuel + 1 =>
      if s.digits ≠ 0 ∧ s.digits % 10 = 0 then trim fuel ⟨s.digits / 10, s.exponent + 1⟩ else s

/-- The fewest digits that read back as the positive finite double, the nearest of those. -/
def shortest (x : Binary64) : Scaled :=
  let i := Interval.of x
  let (cn, cd) := binaryRatio i.centre i.exponent
  let top := magnitude cn cd
  let found := (List.range 17).findSome? fun (k : Nat) => i.onGrid? (top - k)
  (found.getD (let (n, d) := scaleDown cn cd (top - 16); ⟨n / d, top - 16⟩)).trim 400

/-! ## Writing -/

/-- Digits with a decimal point `places` from the right. -/
def withPoint (n places : Nat) : List Char :=
  let all := digits n
  let padded := List.replicate (places + 1 - all.length) '0' ++ all
  if places = 0 then padded
  else padded.take (padded.length - places) ++ '.' :: padded.drop (padded.length - places)

/-- The text of an infinity or a NaN. -/
def special (x : Binary64) : String :=
  if x.isNaN then "NaN" else if x.isNegative then "-inf" else "inf"

/-- The shortest digits, written without an exponent; a whole number has no point. -/
def plain (x : Binary64) : String :=
  if !x.isFinite then special x
  else
    let sign := if x.isNegative then "-" else ""
    if x.isZero then sign ++ "0"
    else
      let s := shortest x
      if s.exponent ≥ 0 then sign ++ ofNat (s.digits * Nat.pow 10 s.exponent.toNat)
      else sign ++ String.ofList (withPoint s.digits (-s.exponent).toNat)

/-- The exact value with the given number of places, a half going to the even digit. -/
def fixed (places : Nat) (x : Binary64) : String :=
  if !x.isFinite then special x
  else
    let (n, d) := binaryRatio x.significand x.exponent
    let rounded := Binary64.roundHalfEven (n * Nat.pow 10 places) d
    (if x.isNegative then "-" else "") ++ String.ofList (withPoint rounded places)

/-- How a number with an exponent is written. -/
structure ExponentForm where
  /-- Scaled digits `0.ddd · 10 ^ k` are positional for `k` from here … -/
  lowest : Int
  /-- … up to here. -/
  highest : Int
  /-- Between the mark `e` and a non-negative exponent. -/
  plusSign : String
  /-- The least number of digits of the exponent. -/
  width : Nat
  /-- Whether one digit before the exponent is followed by `.0`. -/
  pointAlways : Bool

/-- Scaled digits in positional notation or with an exponent, as the form says; a whole
number in positional notation ends in `.0`. -/
def ExponentForm.write (form : ExponentForm) (s : Scaled) : String :=
  let ds := digits s.digits
  let k := (ds.length : Int) + s.exponent
  if form.lowest ≤ k ∧ k ≤ form.highest then
    if s.exponent ≥ 0 then
      String.ofList (ds ++ List.replicate s.exponent.toNat '0') ++ ".0"
    else String.ofList (withPoint s.digits (-s.exponent).toNat)
  else
    let e := k - 1
    let fraction := ds.drop 1
    let mantissa := ds.take 1 ++
      (if fraction.isEmpty then if form.pointAlways then ".0".toList else []
        else '.' :: fraction)
    let es := digits e.natAbs
    let es := List.replicate (form.width - es.length) '0' ++ es
    String.ofList mantissa ++ "e" ++ (if e < 0 then "-" else form.plusSign) ++
      String.ofList es

/-- The value rounded to a number of significant digits, a half going up. -/
def significant (count : Nat) (x : Binary64) : Scaled :=
  let (n, d) := binaryRatio x.significand x.exponent
  let e := magnitude n d - (count - 1 : Nat)
  let (n, d) := scaleDown n d e
  Scaled.trim 400 ⟨(2 * n + d) / (2 * d), e⟩

end Reachability.Decimal

/-
# Double precision numbers

The numbers of the IEEE 754 format `binary64`, held by their bits.  Every operation
decodes its arguments to exact numbers, computes exactly and rounds the result once, to
the nearest number and in a tie to the one with an even last bit.

Main definitions:

* `Binary64.ofRatio` : the double nearest to a quotient of natural numbers;
* `Binary64.significand`, `Binary64.exponent` : the exact value of a finite double;
* `Binary64.add`, `Binary64.mul`, `Binary64.div` : arithmetic.
-/

namespace Reachability

/-- A double precision number, given by its bits: one for the sign, eleven for the
exponent and fifty-two for the fraction. -/
structure Binary64 where
  bits : UInt64
deriving DecidableEq, Repr, Inhabited

namespace Binary64

/-! ## Parts of the bits -/

/-- The value of the sign bit, the highest of sixty-four. -/
def signBit : Nat := 0x8000000000000000

/-- How many doubles share an exponent and a sign: one for each fraction of fifty-two bits. -/
def binade : Nat := 0x10000000000000

/-- Whether the sign bit is set. -/
def isNegative (x : Binary64) : Bool :=
  x.bits.toNat ≥ signBit

/-- The eleven bits of the exponent. -/
def exponentField (x : Binary64) : Nat :=
  x.bits.toNat / binade % 2048

/-- The fifty-two bits of the fraction. -/
def fractionField (x : Binary64) : Nat :=
  x.bits.toNat % binade

/-- Neither infinite nor a NaN. -/
def isFinite (x : Binary64) : Bool :=
  x.exponentField != 2047

/-- A NaN: the largest exponent with a fraction. -/
def isNaN (x : Binary64) : Bool :=
  x.exponentField == 2047 && x.fractionField != 0

/-- One of the two zeros. -/
def isZero (x : Binary64) : Bool :=
  x.exponentField == 0 && x.fractionField == 0

/-- A finite double is `± significand · 2 ^ exponent`. -/
def significand (x : Binary64) : Nat :=
  if x.exponentField = 0 then x.fractionField else binade + x.fractionField

/-- A finite double is `± significand · 2 ^ exponent`. -/
def exponent (x : Binary64) : Int :=
  if x.exponentField = 0 then -1074 else (x.exponentField : Int) - 1075

/-! ## Special values -/

/-- The bits of a magnitude with a sign put on top. -/
def ofMagnitude (negative : Bool) (magnitude : Nat) : Binary64 :=
  ⟨(magnitude + if negative then signBit else 0).toUInt64⟩

/-- The zero of either sign. -/
def zero (negative : Bool) : Binary64 := ofMagnitude negative 0

/-- The infinity of either sign. -/
def infinity (negative : Bool) : Binary64 := ofMagnitude negative (2047 * binade)

/-- The NaN that arithmetic yields. -/
def nan : Binary64 := ofMagnitude true (2047 * binade + binade / 2)

/-! ## Rounding -/

/-- The natural number nearest to `num / den`, the even one in a tie. -/
def roundHalfEven (num den : Nat) : Nat :=
  let q := num / den
  let r := num % den
  if 2 * r < den then q
  else if den < 2 * r then q + 1
  else if q % 2 = 0 then q else q + 1

/-- `num / den · 2 ^ (-e)` as a quotient of natural numbers. -/
def scaleDown (num den : Nat) (e : Int) : Nat × Nat :=
  if e ≥ 0 then (num, den * Nat.pow 2 e.toNat) else (num * Nat.pow 2 (-e).toNat, den)

/-- The exponent at which `num / den` has a significand of fifty-three bits, or -1074 if
that is larger. -/
def roundingExponent (num den : Nat) : Int :=
  let guess : Int := (num.log2 : Int) - (den.log2 : Int) - 52
  let (n, d) := scaleDown num den guess
  max (-1074) (if n < d * binade then guess - 1 else guess)

/-- The double nearest to `± num / den`, for a positive `den`. -/
def ofRatio (negative : Bool) (num den : Nat) : Binary64 :=
  if num = 0 then zero negative
  else
    let e := roundingExponent num den
    let (n, d) := scaleDown num den e
    let magnitude := (e + 1074).toNat * binade + roundHalfEven n d
    if magnitude ≥ 2047 * binade then infinity negative else ofMagnitude negative magnitude

/-- The double nearest to an integer. -/
def ofInt (i : Int) : Binary64 :=
  ofRatio (i < 0) i.natAbs 1

/-- The double nearest to a natural number. -/
def ofNat (n : Nat) : Binary64 :=
  ofRatio false n 1

/-! ## Arithmetic -/

/-- The signed significand over the exponent `e`, which must not be above the number's. -/
def signedAt (x : Binary64) (e : Int) : Int :=
  let m : Int := (x.significand * Nat.pow 2 (x.exponent - e).toNat : Nat)
  if x.isNegative then -m else m

/-- The double nearest to `i · 2 ^ e`; a zero takes the given sign. -/
def ofScaled (zeroNegative : Bool) (i : Int) (e : Int) : Binary64 :=
  if i = 0 then zero zeroNegative
  else if e ≥ 0 then ofRatio (i < 0) (i.natAbs * Nat.pow 2 e.toNat) 1
  else ofRatio (i < 0) i.natAbs (Nat.pow 2 (-e).toNat)

/-- The rounded sum. -/
def add (x y : Binary64) : Binary64 :=
  if x.isNaN || y.isNaN then nan
  else if !x.isFinite then
    if !y.isFinite && x.isNegative != y.isNegative then nan else x
  else if !y.isFinite then y
  else
    let e := min x.exponent y.exponent
    ofScaled (x.isNegative && y.isNegative) (x.signedAt e + y.signedAt e) e

/-- The rounded product. -/
def mul (x y : Binary64) : Binary64 :=
  let negative := x.isNegative != y.isNegative
  if x.isNaN || y.isNaN then nan
  else if !x.isFinite || !y.isFinite then
    if x.isZero || y.isZero then nan else infinity negative
  else
    let m := x.significand * y.significand
    ofScaled negative (if negative then -(m : Int) else m) (x.exponent + y.exponent)

/-- The rounded quotient. -/
def div (x y : Binary64) : Binary64 :=
  let negative := x.isNegative != y.isNegative
  if x.isNaN || y.isNaN then nan
  else if !x.isFinite then if y.isFinite then infinity negative else nan
  else if !y.isFinite then zero negative
  else if y.isZero then if x.isZero then nan else infinity negative
  else
    let e := x.exponent - y.exponent
    if e ≥ 0 then ofRatio negative (x.significand * Nat.pow 2 e.toNat) y.significand
    else ofRatio negative x.significand (y.significand * Nat.pow 2 (-e).toNat)

instance : Add Binary64 := ⟨add⟩
instance : Mul Binary64 := ⟨mul⟩
instance : Div Binary64 := ⟨div⟩

/-- The nearest double to one third, whose bits repeat the pattern of the fraction. -/
example : (ofNat 1 / ofNat 3).bits = 0x3fd5555555555555 := by decide +kernel

/-- A tenth and two tenths sum to just above three tenths. -/
example : (ofRatio false 1 10 + ofRatio false 2 10).bits = 0x3fd3333333333334 := by
  decide +kernel

/-- Half of the smallest double is a tie and goes to zero, three halves go to two. -/
example : (ofRatio false 1 (Nat.pow 2 1075)).bits = 0 ∧
    (ofRatio false 3 (Nat.pow 2 1075)).bits = 2 := by
  decide +kernel

end Binary64
end Reachability

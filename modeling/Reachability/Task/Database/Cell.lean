/-
# Cells

A column has a preferred type, but a row may hold values of any type in it.  On the way in,
a value is turned into the preferred type if nothing is lost by it; on the way out, a value
that does not fit is an error.

Main definitions:

* `Cell` : a stored value;
* `Cell.towardsInteger`, `Cell.towardsText` : what a column turns a value into;
* `Cell.integer?`, `Cell.text?`, `Cell.truth?` : how a value is taken out.
-/
import Reachability.Error
import Reachability.Number.Decimal

namespace Reachability

/-- A stored value. -/
inductive Cell
  | null
  | integer (i : Int64)
  | real (x : Binary64)
  | text (s : String)
deriving DecidableEq, Repr

namespace Cell

/-- The name of a value's type. -/
def typeName : Cell → String
  | null => "Null"
  | integer _ => "Integer"
  | real _ => "Real"
  | text _ => "Text"

/-- The cell of a truth value. -/
def ofBool (b : Bool) : Cell := .integer (if b then 1 else 0)

/-! ## Numbers in texts -/

/-- The blanks that may stand around a number. -/
def isBlank (c : Char) : Bool :=
  c == ' ' || ('\t' ≤ c && c ≤ '\r')

/-- Digits, a point and an exponent, with blanks around them: the sign, the digits, the
power of ten, and whether there is neither point nor exponent. -/
def numeral? (s : String) : Option (Bool × Nat × Int × Bool) := do
  let cs := (s.toList.dropWhile isBlank).reverse.dropWhile isBlank |>.reverse
  let (negative, cs) := match cs with
    | '-' :: rest => (true, rest)
    | '+' :: rest => (false, rest)
    | _ => (false, cs)
  let whole := cs.takeWhile Text.isDigit
  let rest := cs.dropWhile Text.isDigit
  let (hasPoint, fraction, rest) := match rest with
    | '.' :: more => (true, more.takeWhile Text.isDigit, more.dropWhile Text.isDigit)
    | _ => (false, [], rest)
  if whole.isEmpty && fraction.isEmpty then none
  else
    let value := Decimal.value (whole ++ fraction)
    let places : Int := fraction.length
    match rest with
    | [] => some (negative, value, -places, !hasPoint)
    | c :: more =>
        if c ≠ 'e' ∧ c ≠ 'E' then none
        else
          let (down, ds) := match more with
            | '-' :: ds => (true, ds)
            | '+' :: ds => (false, ds)
            | ds => (false, ds)
          if ds.isEmpty || !ds.all Text.isDigit then none
          else
            let e : Int := Decimal.value ds
            some (negative, value, (if down then -e else e) - places, false)

/-- The double at `± digits · 10 ^ e`; beyond the exponents of doubles only the direction
counts. -/
def scaledReal (negative : Bool) (digits : Nat) (e : Int) : Binary64 :=
  if digits = 0 then .zero negative
  else
    let size := ((Decimal.digits digits).length : Int) + e
    if size > 400 then .infinity negative
    else if size < -400 then .zero negative
    else if e ≥ 0 then .ofRatio negative (digits * Nat.pow 10 e.toNat) 1
    else .ofRatio negative digits (Nat.pow 10 (-e).toNat)

/-- The integer that a double is, if it lies strictly within the 64-bit range. -/
def wholeReal? (x : Binary64) : Option Int64 :=
  if !x.isFinite then none
  else
    let (n, d) := Decimal.binaryRatio x.significand x.exponent
    if n % d ≠ 0 then none
    else
      let i : Int := if x.isNegative then -(n / d : Nat) else (n / d : Nat)
      if Int64.minValue.toInt < i ∧ i < Int64.maxValue.toInt then some (Int64.ofInt i) else none

/-! ## The way in -/

/-- A double in a column of integers. -/
def ofReal (x : Binary64) : Cell :=
  match wholeReal? x with
  | some i => integer i
  | none => real x

/-- What a column of integers turns a value into: a text that is a number becomes one, and
a number without a fraction an integer. -/
def towardsInteger : Cell → Cell
  | real x => ofReal x
  | text s =>
      match numeral? s with
      | none => text s
      | some (negative, digits, e, isWhole) =>
          let i : Int := if negative then -digits else digits
          if isWhole ∧ Int64.minValue.toInt ≤ i ∧ i ≤ Int64.maxValue.toInt then
            integer (Int64.ofInt i)
          else ofReal (scaledReal negative digits e)
  | c => c

/-- Numbers as texts have fifteen digits at most, and a point or an exponent. -/
def realForm : Decimal.ExponentForm :=
  { lowest := -3, highest := 15, plusSign := "+", width := 2, pointAlways := true }

/-- The text of a double; a zero has no sign. -/
def realText (x : Binary64) : String :=
  if x.isNaN then "NaN"
  else if x.isZero then "0.0"
  else
    let sign := if x.isNegative then "-" else ""
    if !x.isFinite then sign ++ "Inf"
    else sign ++ realForm.write (Decimal.significant 15 x)

/-- What a column of texts turns a value into. -/
def towardsText : Cell → Cell
  | integer i => text (Decimal.ofInt i.toInt)
  | real x => text (realText x)
  | c => c

/-! ## The way out -/

/-- The error for a value of the wrong type. -/
def wrongType (c : Cell) (position : Nat) (column : String) : DatabaseError :=
  .columnType c.typeName position column

/-- An integer between two bounds. -/
def integer? (low high : Int) (position : Nat) (column : String) :
    Cell → Except DatabaseError Int
  | integer i =>
      if low ≤ i.toInt ∧ i.toInt ≤ high then .ok i.toInt
      else .error (.integerOutOfRange i.toInt position)
  | c => .error (c.wrongType position column)

/-- A text. -/
def text? (position : Nat) (column : String) : Cell → Except DatabaseError String
  | text s => .ok s
  | c => .error (c.wrongType position column)

/-- A truth value: every integer but zero is true. -/
def truth? (position : Nat) (column : String) : Cell → Except DatabaseError Bool
  | integer i => .ok (i != 0)
  | c => .error (c.wrongType position column)

end Cell
end Reachability

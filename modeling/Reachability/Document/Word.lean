/-
# Unquoted words

In YAML an unquoted word has no type of its own: `5` is a number where a number is wanted.
These are the rules by which a word is read as nothing, a truth value or a number.

Main definitions:

* `Word.isNull`, `Word.bool?`, `Word.nat?` : a word read as a value;
* `Word.isNumber` : whether a word is a number, so that it cannot stand for a text.
-/
import Reachability.Number.Decimal
import Reachability.Text.Split
import Reachability.Text.Percent

namespace Reachability.Word

/-! ## Constants -/

/-- The words for nothing. -/
def isNull (w : String) : Bool :=
  w == "" || w == "~" || w == "null" || w == "Null" || w == "NULL"

/-- The words for truth values. -/
def bool? (w : String) : Option Bool :=
  if w == "true" || w == "True" || w == "TRUE" then some true
  else if w == "false" || w == "False" || w == "FALSE" then some false
  else none

/-! ## Whole numbers -/

/-- The value of digits of a base, at least one of them. -/
def digitsOfBase? (base : Nat) (cs : List Char) : Option Nat :=
  if cs.isEmpty then none
  else cs.foldlM (fun v c => do
    let d ← Percent.hexValue? c
    if d < base then some (v * base + d) else none) 0

/-- Digits that begin with a superfluous zero are no number. -/
def hasSuperfluousZero (cs : List Char) : Bool :=
  let unsigned := match cs with
    | '-' :: rest => rest
    | '+' :: rest => rest
    | _ => cs
  match unsigned with
  | '0' :: c :: rest => (c :: rest).all Text.isDigit
  | _ => false

/-- A magnitude: hexadecimal, octal or binary after its mark, else decimal. -/
def magnitude? (whole cs : List Char) : Option Nat :=
  let marked := match cs with
    | '0' :: 'x' :: rest => digitsOfBase? 16 rest
    | '0' :: 'o' :: rest => digitsOfBase? 8 rest
    | '0' :: 'b' :: rest => digitsOfBase? 2 rest
    | _ => none
  match marked with
  | some n => some n
  | none => if hasSuperfluousZero whole then none else digitsOfBase? 10 cs

/-- The natural number that a word is, with or without a plus sign. -/
def nat? (w : String) : Option Nat :=
  match w.toList with
  | '+' :: rest => magnitude? w.toList rest
  | cs => magnitude? cs cs

/-- The integer that a word is. -/
def int? (w : String) : Option Int :=
  match w.toList with
  | '-' :: rest => (magnitude? w.toList rest).map fun n => -(n : Int)
  | _ => (nat? w).map Int.ofNat

/-! ## Numbers with a fraction -/

/-- An exponent, with or without a sign. -/
def exponent? (cs : List Char) : Option Int :=
  let (negative, digits) := match cs with
    | '-' :: digits => (true, digits)
    | '+' :: digits => (false, digits)
    | digits => (false, digits)
  if digits.isEmpty || !digits.all Text.isDigit then none
  else
    let e : Int := Decimal.value digits
    some (if negative then -e else e)

/-- The double that is nearest to digits with a fraction and an exponent, each as far as it is
there; at least one digit stands before the exponent. -/
def decimal? (cs : List Char) : Option Binary64 := do
  let whole := cs.takeWhile Text.isDigit
  let (fraction, rest) := match cs.dropWhile Text.isDigit with
    | '.' :: more => (more.takeWhile Text.isDigit, more.dropWhile Text.isDigit)
    | rest => ([], rest)
  let exponent ← match rest with
    | [] => some 0
    | c :: more => if c = 'e' ∨ c = 'E' then exponent? more else none
  if whole.isEmpty && fraction.isEmpty then none
  else
    some (Decimal.toBinary64 false (Decimal.value (whole ++ fraction))
      (exponent - fraction.length))

/-- The words for the special numbers. -/
def isSpecialNumber (w : String) : Bool :=
  [".inf", ".Inf", ".INF", "+.inf", "+.Inf", "+.INF", "-.inf", "-.Inf", "-.INF",
    ".nan", ".NaN", ".NAN"].contains w

/-- Whether an integer has room in 128 bits, with a sign or without. -/
def hasRoom (i : Int) : Bool :=
  -0x80000000000000000000000000000000 ≤ i && i ≤ 0xffffffffffffffffffffffffffffffff

/-- Whether a word is a number: an integer of at most 128 bits, a number below all that doubles
round to infinity, or a special one. -/
def isNumber (w : String) : Bool :=
  let cs := w.toList
  let unsigned := match cs with
    | '+' :: rest => rest
    | '-' :: rest => rest
    | _ => cs
  (int? w).any hasRoom ||
    (!hasSuperfluousZero cs && (isSpecialNumber w || (decimal? unsigned).any Binary64.isFinite))

end Reachability.Word

/-
# Punycode

Text in ASCII letters, digits and hyphens: first the ASCII characters of the text, then
numbers in a varying base that say which other characters are to be put where.

Main definitions:

* `Punycode.encode` : the ASCII form of a text;
* `Punycode.decode?` : the text of an ASCII form.
-/
import Reachability.Text.Split

namespace Reachability.Punycode

/-! ## Digits -/

/-- The digit of a value below 36: small letters, then figures. -/
def digit (n : Nat) : Char :=
  Char.ofNat (if n < 26 then 0x61 + n else 0x16 + n)

/-- The value of a digit. -/
def digitValue? (c : Char) : Option Nat :=
  let n := c.toNat
  if 0x61 ≤ n ∧ n ≤ 0x7a then some (n - 0x61)
  else if 0x41 ≤ n ∧ n ≤ 0x5a then some (n - 0x41)
  else if 0x30 ≤ n ∧ n ≤ 0x39 then some (n - 0x16)
  else none

/-- The least digit at a place that does not end a number. -/
def threshold (place bias : Nat) : Nat :=
  if place ≤ bias then 1 else if bias + 26 ≤ place then 26 else place - bias

theorem threshold_pos (place bias : Nat) : 0 < threshold place bias := by
  unfold threshold
  split
  · omega
  · split <;> omega

/-- Takes factors of 35 out of a difference, 36 to the bias for each. -/
def settle (delta bias : Nat) : Nat :=
  if 455 < delta then settle (delta / 35) (bias + 36) else bias + 36 * delta / (delta + 38)
termination_by delta
decreasing_by exact Nat.div_lt_self (by omega) (by omega)

/-- The bias behind a difference, `count` characters being known by then. -/
def adapt (delta count : Nat) (isFirst : Bool) : Nat :=
  let delta := if isFirst then delta / 700 else delta / 2
  settle (delta + delta / count) 0

/-! ## Encoding -/

/-- The digits of a number from a place on. -/
def digitsFrom (bias place n : Nat) : List Char :=
  let t := threshold place bias
  if n < t then [digit n]
  else digit (t + (n - t) % (36 - t)) :: digitsFrom bias (place + 36) ((n - t) / (36 - t))
termination_by n
decreasing_by
  have h := threshold_pos place bias
  have : (n - threshold place bias) / (36 - threshold place bias) ≤ n - threshold place bias :=
    Nat.div_le_self _ _
  omega

/-- What is known while a text is encoded. -/
structure Encoder where
  /-- The least code point that is not yet written. -/
  next : Nat
  delta : Nat
  bias : Nat
  /-- The number of characters that are written. -/
  written : Nat
  isFirst : Bool
  /-- The digits, last first. -/
  digits : List Char

/-- Passes a character of the text while the code point `m` is written. -/
def Encoder.pass (m : Nat) (e : Encoder) (c : Char) : Encoder :=
  if c.toNat < m then { e with delta := e.delta + 1 }
  else if c.toNat = m then
    { e with
      digits := (digitsFrom e.bias 36 e.delta).reverse ++ e.digits
      bias := adapt e.delta (e.written + 1) e.isFirst
      delta := 0, written := e.written + 1, isFirst := false }
  else e

/-- Writes every occurrence of a code point. -/
def Encoder.write (text : List Char) (e : Encoder) (m : Nat) : Encoder :=
  let start := { e with delta := e.delta + (m - e.next) * (e.written + 1), next := m }
  let e := text.foldl (pass m) start
  { e with delta := e.delta + 1, next := m + 1 }

/-- The code points above ASCII, ascending, each once. -/
def highPoints (text : List Char) : List Nat :=
  (((text.map Char.toNat).filter (0x80 ≤ ·)).mergeSort (· ≤ ·)).eraseDups

/-- The ASCII form of a text. -/
def encode (text : List Char) : List Char :=
  let basic := text.filter fun c => c.toNat < 0x80
  let start : Encoder := ⟨0x80, 0, 72, basic.length, true, []⟩
  let e := (highPoints text).foldl (Encoder.write text) start
  (if basic.isEmpty then [] else basic ++ ['-']) ++ e.digits.reverse

/-! ## Decoding -/

/-- The number at the start of some digits, and the digits behind it. -/
def number? (bias : Nat) : Nat → Nat → Nat → List Char → Option (Nat × List Char)
  | _, _, _, [] => none
  | place, weight, n, c :: rest => do
      let d ← digitValue? c
      let n := n + d * weight
      let t := threshold place bias
      if d < t then some (n, rest) else number? bias (place + 36) (weight * (36 - t)) n rest

/-- Puts the characters that the digits name into the text. -/
def insertAll? : Nat → Nat → Nat → Nat → List Char → List Char → Option (List Char)
  | _, _, _, _, text, [] => some text
  | 0, _, _, _, _, _ => none
  | fuel + 1, next, index, bias, text, digits => do
      let (n, rest) ← number? bias 36 1 0 digits
      let count := text.length + 1
      let place := index + n
      let point := next + place / count
      if h : point.isValidChar then
        let spot := place % count
        let text := text.take spot ++ Char.ofNatAux point h :: text.drop spot
        insertAll? fuel point (spot + 1) (adapt n count (index = 0)) text rest
      else none

/-- The text of an ASCII form. -/
def decode? (cs : List Char) : Option (List Char) :=
  let (basic, digits) := (Text.cutLast? '-' cs).getD ([], cs)
  insertAll? digits.length 0x80 0 72 basic digits

end Reachability.Punycode

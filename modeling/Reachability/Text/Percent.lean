/-
# Percent encoding

A byte may be written as a percent sign and two hexadecimal digits.  Decoding leaves a
percent sign alone that no two digits follow; encoding is steered by a set of bytes
that have to be written that way.

Main definitions:

* `Percent.decode` : on bytes;
* `Percent.decodeText?` : the decoded text, if its bytes are well-formed UTF-8;
* `Percent.encodeWhere` : text with the bytes of a set escaped.
-/
import Reachability.Text.Utf8

namespace Reachability.Percent

/-! ## Hexadecimal digits -/

/-- The value of a hexadecimal digit in either letter case. -/
def hexValue? (c : Char) : Option Nat :=
  let n := c.toNat
  if 0x30 ≤ n ∧ n ≤ 0x39 then some (n - 0x30)
  else if 0x41 ≤ n ∧ n ≤ 0x46 then some (n - 0x37)
  else if 0x61 ≤ n ∧ n ≤ 0x66 then some (n - 0x57)
  else none

/-- The capital hexadecimal digit of a value below sixteen. -/
def hexDigit (n : Nat) : Char :=
  Char.ofNat (if n < 10 then 0x30 + n else 0x37 + n)

/-- The value of a byte that is an ASCII hexadecimal digit. -/
def hexByte? (b : UInt8) : Option Nat :=
  hexValue? (Char.ofNat b.toNat)

/-! ## Decoding -/

/-- Replaces every percent sign with two digits by the byte they name. -/
def decode : List UInt8 → List UInt8
  | 0x25 :: a :: b :: rest =>
      match hexByte? a, hexByte? b with
      | some x, some y => (x * 16 + y).toUInt8 :: decode rest
      | _, _ => 0x25 :: decode (a :: b :: rest)
  | b :: rest => b :: decode rest
  | [] => []

/-- The decoded text, unless its bytes are no well-formed UTF-8. -/
def decodeText? (cs : List Char) : Option (List Char) :=
  Utf8.decode? (decode (Utf8.encode cs))

/-! ## Encoding -/

/-- The three characters that name a byte. -/
def escape (b : UInt8) : List Char :=
  ['%', hexDigit (b.toNat / 16), hexDigit (b.toNat % 16)]

/-- Writes a character: as it is if it is ASCII outside the set, else its bytes escaped. -/
def encodeCharWhere (inSet : Char → Bool) (c : Char) : List Char :=
  if c.toNat < 0x80 && !inSet c then [c]
  else (Utf8.encodeChar c).flatMap escape

/-- The text with the characters of the set and all characters above ASCII escaped. -/
def encodeWhere (inSet : Char → Bool) (cs : List Char) : List Char :=
  cs.flatMap (encodeCharWhere inSet)

end Reachability.Percent

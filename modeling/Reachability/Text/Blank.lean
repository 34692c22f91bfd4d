/-
# Blank and control characters

Which characters count as white space, which as control characters, and how white
space is stripped from the ends of a text.  Both classes are those of the Unicode
character database: white space is the property `White_Space`, control characters
are the general category `Cc`.

Main definitions:

* `Text.isBlank`, `Text.isControl` : the two classes;
* `Text.stripStart`, `Text.stripEnd`, `Text.strip` : stripping on lists of characters;
* `Text.stripped` : the same on a `String`.
-/

namespace Reachability.Text

/-! ## Character classes -/

/-- White space: the Unicode property `White_Space`. -/
def isBlank (c : Char) : Bool :=
  let n := c.toNat
  (0x09 ≤ n && n ≤ 0x0d) || n == 0x20 || n == 0x85 || n == 0xa0 || n == 0x1680 ||
    (0x2000 ≤ n && n ≤ 0x200a) || n == 0x2028 || n == 0x2029 || n == 0x202f ||
    n == 0x205f || n == 0x3000

/-- Control characters: the Unicode category `Cc`. -/
def isControl (c : Char) : Bool :=
  c.toNat < 0x20 || (0x7f ≤ c.toNat && c.toNat < 0xa0)

/-- The ten ASCII digits. -/
def isDigit (c : Char) : Bool :=
  0x30 ≤ c.toNat && c.toNat ≤ 0x39

/-! ## Stripping -/

/-- Drops the white space at the start. -/
def stripStart (cs : List Char) : List Char :=
  cs.dropWhile isBlank

/-- Drops the white space at the end. -/
def stripEnd (cs : List Char) : List Char :=
  (cs.reverse.dropWhile isBlank).reverse

/-- Drops the white space at both ends. -/
def strip (cs : List Char) : List Char :=
  stripEnd (stripStart cs)

/-- The text without white space at its ends. -/
def stripped (s : String) : String :=
  String.ofList (strip s.toList)

/-- A text of white space only, the empty text included. -/
def isBlankText (s : String) : Bool :=
  s.toList.all isBlank

/-- Drops every leading and trailing character that satisfies `p`. -/
def stripWhere (p : Char → Bool) (cs : List Char) : List Char :=
  ((cs.dropWhile p).reverse.dropWhile p).reverse

/-! ## Letter case -/

/-- Replaces the ASCII capitals by their small letters and keeps all else. -/
def lowerAscii (s : String) : String :=
  String.ofList (s.toList.map Char.toLower)

end Reachability.Text

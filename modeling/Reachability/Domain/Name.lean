/-
# Domain names

A domain name in any script has a form in ASCII, in which each label with other characters
is written in Punycode behind the mark `xn--`.  Names that differ only in letter case or in
compatible forms of characters have the same form.

Main definitions:

* `Domain.isLabel` : the rule for a label above ASCII;
* `Domain.toAscii?` : the ASCII form of a name.
-/
import Reachability.Domain.Composition
import Reachability.Domain.Direction
import Reachability.Domain.Joining
import Reachability.Domain.Mapping
import Reachability.Domain.Punycode
import Reachability.Text.Split

namespace Reachability.Domain

/-! ## Labels -/

/-- Whether all characters are ASCII. -/
def isAscii (cs : List Char) : Bool := cs.all fun c => c.toNat < 0x80

/-- The mark of a label in Punycode. -/
def mark : List Char := "xn--".toList

/-- Whether a label with characters above ASCII is well formed. -/
def isLabel (cs : List Char) : Bool :=
  !cs.head?.any isMark && joinersAllowed cs && cs.all (fun c => treatment c == .keep) &&
    composed cs == cs

/-- A label with its Punycode read, if it has any. -/
def readLabel? (cs : List Char) : Option (List Char) :=
  if mark.isPrefixOf cs then do
    let label ← Punycode.decode? (cs.drop mark.length)
    if isAscii label || !isLabel label then none else some label
  else if isAscii cs || isLabel cs then some cs
  else none

/-- The ASCII form of a label. -/
def writeLabel (cs : List Char) : List Char :=
  if isAscii cs then cs else mark ++ Punycode.encode cs

/-! ## Names -/

/-- The ASCII form of a name.  What takes the place of a character is looked at again. -/
def toAscii? (cs : List Char) : Option (List Char) := do
  let name := composed (← mapAll? cs)
  if name.any isForbidden then none
  let labels ← (Text.fields '.' name).mapM readLabel?
  if labels.any hasRight && !labels.all keepsDirection then none
  else some (['.'].intercalate (labels.map writeLabel))

end Reachability.Domain

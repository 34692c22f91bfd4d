/-
# Internet addresses

Addresses of both versions: how they are read from text and written.

Main definitions:

* `Ipv4.ofText?`, `Ipv6.ofText?` : the strict forms, four decimal parts and eight groups;
* `Ipv4.text`, `Ipv6.text` : the written forms, in which the longest run of zero groups is
  left out of an address of version 6;
* `Endpoint` : an address with a port;
* `bareHost` : an address as it is typed, without blanks and brackets around it.
-/
import Reachability.Number.Decimal
import Reachability.Text.Percent
import Reachability.Text.Split

namespace Reachability

/-! ## Types -/

/-- An address of version 4: four parts. -/
structure Ipv4 where
  a : UInt8
  b : UInt8
  c : UInt8
  d : UInt8
deriving DecidableEq, Repr

/-- An address of version 6: eight groups. -/
structure Ipv6 where
  groups : List UInt16
  length_eq : groups.length = 8
deriving DecidableEq, Repr

/-- An address of either version. -/
inductive IpAddress
  | v4 (ip : Ipv4)
  | v6 (ip : Ipv6)
deriving DecidableEq, Repr

/-! ## Version 4 -/

namespace Ipv4

/-- A part: one to three digits of a value below 256, without a superfluous zero. -/
def part? (cs : List Char) : Option UInt8 :=
  if cs.isEmpty || cs.length > 3 || !cs.all Text.isDigit then none
  else if cs.length > 1 && cs.head? == some '0' then none
  else
    let n := Decimal.value cs
    if n < 256 then some (UInt8.ofNat n) else none

/-- Four parts with points between them. -/
def ofChars? (cs : List Char) : Option Ipv4 :=
  match Text.fields '.' cs with
  | [a, b, c, d] => do return ⟨← part? a, ← part? b, ← part? c, ← part? d⟩
  | _ => none

/-- The address that a text is. -/
def ofText? (s : String) : Option Ipv4 := ofChars? s.toList

/-- The written form. -/
def text (ip : Ipv4) : String :=
  ".".intercalate ([ip.a, ip.b, ip.c, ip.d].map fun n => Decimal.ofNat n.toNat)

/-- The two groups that stand for the address within one of version 6. -/
def groups (ip : Ipv4) : List UInt16 :=
  [UInt16.ofNat (ip.a.toNat * 256 + ip.b.toNat), UInt16.ofNat (ip.c.toNat * 256 + ip.d.toNat)]

/-- The address of a 32-bit number. -/
def ofNat (n : Nat) : Ipv4 :=
  ⟨UInt8.ofNat (n >>> 24), UInt8.ofNat (n >>> 16), UInt8.ofNat (n >>> 8), UInt8.ofNat n⟩

end Ipv4

/-! ## Version 6 -/

namespace Ipv6

/-- A group: one to four hexadecimal digits. -/
def group? (cs : List Char) : Option UInt16 := do
  if cs.isEmpty || cs.length > 4 then none
  else
    let digits ← cs.mapM Percent.hexValue?
    some (UInt16.ofNat (digits.foldl (fun v d => v * 16 + d) 0))

/-- The groups between colons.  An address of version 4 may stand for the last two. -/
def groups? : List (List Char) → Option (List UInt16)
  | [] => some []
  | [last] =>
      match Ipv4.ofChars? last with
      | some ip => some ip.groups
      | none => (group? last).map ([·])
  | g :: rest => do return (← group? g) :: (← groups? rest)

/-- The groups before the gap, where no address of version 4 may stand. -/
def headGroups? (cs : List Char) : Option (List UInt16) :=
  if cs.isEmpty then some [] else (Text.fields ':' cs).mapM group?

/-- The groups behind the gap. -/
def tailGroups? (cs : List Char) : Option (List UInt16) :=
  if cs.isEmpty then some [] else groups? (Text.fields ':' cs)

/-- The texts before and behind the first gap. -/
def cutGap? : List Char → Option (List Char × List Char)
  | ':' :: ':' :: rest => some ([], rest)
  | c :: rest => (cutGap? rest).map fun (before, after) => (c :: before, after)
  | [] => none

/-- An address of exactly eight groups. -/
def ofGroups? (groups : List UInt16) : Option Ipv6 :=
  if h : groups.length = 8 then some ⟨groups, h⟩ else none

/-- Eight groups with colons between them, or fewer with a gap for the zeros, at least one,
that are left out. -/
def ofChars? (cs : List Char) : Option Ipv6 :=
  match cutGap? cs with
  | none => do ofGroups? (← tailGroups? cs)
  | some (before, after) => do
      let before ← headGroups? before
      let after ← tailGroups? after
      if before.length + after.length > 7 then none
      else ofGroups? (before ++ List.replicate (8 - before.length - after.length) 0 ++ after)

/-- The address that a text is. -/
def ofText? (s : String) : Option Ipv6 := ofChars? s.toList

/-- A group in small hexadecimal digits without leading zeros. -/
def groupText (g : UInt16) : String := String.ofList (Nat.toDigits 16 g.toNat)

/-- The length of the run of zeros at the start. -/
def zeroRun (groups : List UInt16) : Nat := (groups.takeWhile (· == 0)).length

/-- The first of the longest runs of zeros: its position and length. -/
def longestRun (groups : List UInt16) : Nat × Nat :=
  (List.range groups.length).foldl (fun best i =>
    let n := zeroRun (groups.drop i)
    if best.2 < n then (i, n) else best) (0, 0)

/-- Groups with colons between them. -/
def joined (groups : List UInt16) : String := ":".intercalate (groups.map groupText)

/-- The written form in groups: the first of the longest runs of at least two zeros is left
out. -/
def groupedText (ip : Ipv6) : String :=
  let (start, length) := longestRun ip.groups
  if length < 2 then joined ip.groups
  else joined (ip.groups.take start) ++ "::" ++ joined (ip.groups.drop (start + length))

/-- The address of version 4 that is mapped into one of version 6. -/
def mapped? (ip : Ipv6) : Option Ipv4 :=
  match ip.groups with
  | [0, 0, 0, 0, 0, 0xffff, high, low] => some (Ipv4.ofNat (high.toNat <<< 16 + low.toNat))
  | _ => none

/-- The written form; a mapped address keeps the form of version 4. -/
def text (ip : Ipv6) : String :=
  match ip.mapped? with
  | some v4 => "::ffff:" ++ v4.text
  | none => ip.groupedText

end Ipv6

/-! ## Either version -/

/-- The address that a text is. -/
def IpAddress.ofText? (s : String) : Option IpAddress :=
  match Ipv4.ofText? s with
  | some ip => some (.v4 ip)
  | none => (Ipv6.ofText? s).map .v6

/-- An address with a port. -/
structure Endpoint where
  ip : IpAddress
  port : UInt16
deriving DecidableEq, Repr

namespace Endpoint

/-- The written form; an address of version 6 stands in brackets. -/
def text (e : Endpoint) : String :=
  match e.ip with
  | .v4 ip => ip.text ++ ":" ++ Decimal.ofNat e.port.toNat
  | .v6 ip => "[" ++ ip.text ++ "]:" ++ Decimal.ofNat e.port.toNat

/-- Whether the address is of version 6. -/
def isV6 (e : Endpoint) : Bool :=
  match e.ip with
  | .v4 _ => false
  | .v6 _ => true

end Endpoint

/-! ## Typed addresses -/

/-- An address as it is typed, without blanks around it, opening brackets before it and
closing brackets behind it. -/
def bareHost (address : String) : String :=
  let cs := (Text.strip address.toList).dropWhile (· == '[')
  String.ofList (cs.reverse.dropWhile (· == ']')).reverse

end Reachability

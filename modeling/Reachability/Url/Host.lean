/-
# Hosts of URLs

A host is an address of version 6 in brackets, an address of version 4, or a name.  A name
whose last part is a number has to be an address of version 4; its parts may be written in
three bases, and the last part fills the places of those that are missing.

Main definitions:

* `UrlError` : what keeps a text from being a URL;
* `Url.Host.ofSpecial` : the host of a known scheme;
* `Url.Host.ofOther` : the host of any other scheme.
-/
import Reachability.Domain.Name
import Reachability.Text.Utf8
import Reachability.Url.Basic

namespace Reachability

/-! ## Errors -/

/-- What keeps a text from being a URL. -/
inductive UrlError
  | emptyHost
  | invalidDomain
  | invalidPort
  | invalidIpv4
  | invalidIpv6
  | invalidDomainCharacter
  | relativeWithoutBase
  | relativeToFlat
deriving DecidableEq, Repr

/-- The text of an error. -/
def UrlError.message : UrlError → String
  | emptyHost => "empty host"
  | invalidDomain => "invalid international domain name"
  | invalidPort => "invalid port number"
  | invalidIpv4 => "invalid IPv4 address"
  | invalidIpv6 => "invalid IPv6 address"
  | invalidDomainCharacter => "invalid domain character"
  | relativeWithoutBase => "relative URL without a base"
  | relativeToFlat => "relative URL with a cannot-be-a-base base"

namespace Url.Host

/-! ## Numbers in names -/

/-- The digits of a part and their base: sixteen behind `0x`, eight behind another zero. -/
def digitsOf : List Char → Nat × List Char
  | '0' :: 'x' :: ds => (16, ds)
  | '0' :: 'X' :: ds => (16, ds)
  | '0' :: d :: ds => (8, d :: ds)
  | ds => (10, ds)

/-- The number that a part is; no digits behind a mark of a base are zero. -/
def number? (part : List Char) : Option Nat :=
  if part.isEmpty then none
  else
    let (base, digits) := digitsOf part
    let values := digits.map fun c => (Percent.hexValue? c).getD 16
    if values.all (· < base) then some (values.foldl (fun n d => n * base + d) 0) else none

/-- The parts of a name; a point at the end counts for nothing. -/
def partsOf (name : List Char) : List (List Char) :=
  let parts := Text.fields '.' name
  if parts.length > 1 && parts.getLast? == some [] then parts.dropLast else parts

/-- Whether the last part of a name is a number. -/
def endsInNumber (name : List Char) : Bool :=
  match (partsOf name).getLast? with
  | some part => (!part.isEmpty && part.all Text.isDigit) || (number? part).isSome
  | none => false

/-- The address of version 4 that a name is. -/
def ipv4? (name : List Char) : Option Ipv4 := do
  let parts := partsOf name
  if parts.length > 4 then none
  else
    let numbers ← parts.mapM number?
    let last ← numbers.getLast?
    let others := numbers.dropLast
    if others.any (255 < ·) || 1 <<< (8 * (4 - others.length)) ≤ last then none
    else
      let high := (others ++ List.replicate (4 - others.length) 0).foldl (· * 256 + ·) 0
      some (Ipv4.ofNat (high + last))

/-! ## Hosts -/

/-- An address in brackets. -/
def bracketed (cs : List Char) : Except UrlError Host :=
  if cs.getLast? = some ']' then
    match Ipv6.ofChars? (cs.drop 1).dropLast with
    | some ip => .ok (.v6 ip)
    | none => .error .invalidIpv6
  else .error .invalidIpv6

/-- The host of a known scheme. -/
def ofSpecial (cs : List Char) : Except UrlError Host :=
  if cs.head? = some '[' then bracketed cs
  else match (Percent.decodeText? cs).bind Domain.toAscii? with
    | none => .error .invalidDomain
    | some [] => .error .emptyHost
    | some cs =>
        if endsInNumber cs then
          match ipv4? cs with
          | some ip => .ok (.v4 ip)
          | none => .error .invalidIpv4
        else .ok (.name (String.ofList cs))

/-- The characters that no host of any scheme may have. -/
def isForbiddenAnywhere (c : Char) : Bool :=
  c == '\x00' || c == '\t' || c == '\n' || c == '\r' || " #/:<>?@[\\]^|".toList.contains c

/-- The host of a scheme that is not known: kept as it is, with control characters and those
above ASCII escaped. -/
def ofOther (cs : List Char) : Except UrlError Host :=
  if cs.head? = some '[' then bracketed cs
  else if cs.any isForbiddenAnywhere then .error .invalidDomainCharacter
  else .ok (.name (String.ofList (Percent.encodeWhere Text.isControl cs)))

end Url.Host
end Reachability

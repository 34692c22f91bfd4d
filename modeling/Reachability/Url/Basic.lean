/-
# URLs

The address of a resource in its parts, and its text.  The scheme, the host and the path are
kept in the form in which they are written, so that two URLs are equal if their texts are.

Main definitions:

* `Url.Host`, `Url.Path`, `Url` : the parts;
* `Url.isSpecial`, `Url.defaultPort?` : the schemes that are known;
* `Url.text` : the text of a URL;
* `Url.withoutUser`, `Url.withoutFragment` : a URL with a part left out;
* `Url.lastSegment?` : the end of the path.
-/
import Reachability.Net.Address

namespace Reachability

/-! ## Parts -/

/-- Where a resource is. -/
inductive Url.Host
  /-- A name; the empty one stands where a place for a host is left empty. -/
  | name (s : String)
  | v4 (ip : Ipv4)
  | v6 (ip : Ipv6)
deriving DecidableEq, Repr

/-- What follows the host. -/
inductive Url.Path
  /-- A text without a hierarchy. -/
  | flat (s : String)
  /-- Parts with a slash before each. -/
  | segments (parts : List String)
deriving DecidableEq, Repr

/-- The address of a resource. -/
structure Url where
  scheme : String
  user : String := ""
  password : String := ""
  host : Option Url.Host := none
  /-- The port, if it is not the one that the scheme implies. -/
  port : Option UInt16 := none
  path : Url.Path := .segments []
  query : Option String := none
  fragment : Option String := none
deriving DecidableEq, Repr

namespace Url

/-! ## Schemes -/

/-- The port that a scheme implies. -/
def defaultPort? (scheme : String) : Option UInt16 :=
  if scheme = "http" ∨ scheme = "ws" then some 80
  else if scheme = "https" ∨ scheme = "wss" then some 443
  else if scheme = "ftp" then some 21
  else none

/-- The schemes whose URLs always have a host and a path. -/
def isSpecial (scheme : String) : Bool :=
  (defaultPort? scheme).isSome || scheme == "file"

/-- The schemes over which files are transferred. -/
def isTransferScheme (scheme : String) : Bool := scheme == "http" || scheme == "https"

/-! ## Texts -/

/-- A host; an address of version 6 stands in brackets. -/
def Host.text : Host → String
  | name s => s
  | v4 ip => ip.text
  | v6 ip => "[" ++ ip.groupedText ++ "]"

/-- A path. -/
def Path.text : Path → String
  | flat s => s
  | segments parts => String.join (parts.map ("/" ++ ·))

/-- The user and the password before a host. -/
def userText (u : Url) : String :=
  if u.user.isEmpty && u.password.isEmpty then ""
  else u.user ++ (if u.password.isEmpty then "" else ":" ++ u.password) ++ "@"

/-- What stands between the scheme and the path.  A path that starts with an empty segment
must not be taken for a host. -/
def authorityText (u : Url) : String :=
  match u.host with
  | some host =>
      "//" ++ u.userText ++ host.text ++
        u.port.elim "" fun port => ":" ++ Decimal.ofNat port.toNat
  | none =>
      match u.path with
      | .segments ("" :: _ :: _) => "/."
      | _ => ""

/-- The text of a URL. -/
def text (u : Url) : String :=
  u.scheme ++ ":" ++ u.authorityText ++ u.path.text ++ u.query.elim "" ("?" ++ ·) ++
    u.fragment.elim "" ("#" ++ ·)

/-! ## Parts left out -/

/-- A URL without its user and password. -/
def withoutUser (u : Url) : Url := { u with user := "", password := "" }

/-- A URL without its fragment. -/
def withoutFragment (u : Url) : Url := { u with fragment := none }

/-- The last segment of a path. -/
def lastSegment? (u : Url) : Option String :=
  match u.path with
  | .flat _ => none
  | .segments parts => parts.getLast?

end Url
end Reachability

/-
# Reading URLs

A text is a URL by itself if it starts with a scheme; otherwise it is read relative to
another URL, whose parts it takes over up to the first one that it gives.

Main definitions:

* `Url.parse` : the URL that a text is by itself;
* `Url.join` : the URL that a text is relative to another one.
-/
import Reachability.Url.Host

namespace Reachability.Url

/-! ## Sets of characters -/

/-- Escaped in a fragment, with control characters and those above ASCII. -/
def inFragment (c : Char) : Bool := Text.isControl c || " \"<>`".toList.contains c

/-- Escaped in a path. -/
def inPath (c : Char) : Bool := inFragment c || "#?\x7b\x7d".toList.contains c

/-- Escaped in a user and a password. -/
def inUser (c : Char) : Bool := inPath c || "/:;=@[\\]^|".toList.contains c

/-- Escaped in a query. -/
def inQuery (special : Bool) (c : Char) : Bool :=
  Text.isControl c || " \"#<>".toList.contains c || (special && c == '\'')

/-- A text with the characters of a set escaped. -/
def escaped (inSet : Char → Bool) (cs : List Char) : String :=
  String.ofList (Percent.encodeWhere inSet cs)

/-! ## Queries and fragments -/

/-- A URL with the query and the fragment that follow its path. -/
def withTail (u : Url) (cs : List Char) : Url :=
  let (beforeFragment, fragment) := match Text.cutFirst? '#' cs with
    | some (a, b) => (a, some (escaped inFragment b))
    | none => (cs, none)
  let query := match beforeFragment with
    | '?' :: q => some (escaped (inQuery (isSpecial u.scheme)) q)
    | _ => none
  { u with query, fragment }

/-! ## Paths -/

/-- Whether a query or a fragment starts with a character. -/
def endsPath (c : Char) : Bool := c == '?' || c == '#'

/-- Whether a character separates the segments of a path. -/
def isSlash (special : Bool) (c : Char) : Bool := c == '/' || (special && c == '\\')

/-- A letter with a colon or a bar behind it, which some systems put before their paths. -/
def isDrive : List Char → Bool
  | [a, b] => a.isAlpha && (b == ':' || b == '|')
  | _ => false

/-- Whether a text has a drive as its first segment. -/
def startsWithDrive (cs : List Char) : Bool :=
  isDrive (cs.take 2) &&
    match cs.drop 2 with
    | [] => true
    | c :: _ => isSlash true c || endsPath c

/-- The segments without the last one, which are given last first; a drive stays. -/
def parent : List String → List String
  | [] => []
  | part :: rest => if isDrive part.toList then part :: rest else rest

/-- Whether a segment stands for the current place. -/
def isCurrent (part : List Char) : Bool :=
  part == ".".toList || part.map Char.toLower == "%2e".toList

/-- Whether a segment stands for the place above. -/
def isUpward (part : List Char) : Bool :=
  let small := part.map Char.toLower
  ["..", ".%2e", "%2e.", "%2e%2e"].any fun s => small == s.toList

/-- Goes on from the segments before, which are given last first, by one more. -/
def enter (isFile : Bool) (before : List String) (part : List Char) (isLast : Bool) :
    List String :=
  if isUpward part then if isLast then "" :: parent before else parent before
  else if isCurrent part then if isLast then "" :: before else before
  else if isFile && before.isEmpty && isDrive part then
    String.ofList [part.headD 'C', ':'] :: before
  else escaped inPath part :: before

/-- Goes on by all segments. -/
def enterAll (isFile : Bool) (before : List String) : List (List Char) → List String
  | [] => before
  | [part] => enter isFile before part true
  | part :: rest => enterAll isFile (enter isFile before part false) rest

/-- The segments of a text. -/
def partsOf (special : Bool) (cs : List Char) : List (List Char) :=
  Text.fields '/' (cs.map fun c => if isSlash special c then '/' else c)

/-- The URL with a path that goes on from some segments, which are given last first, and with
what follows the path.  The path of a file does not start with empty segments. -/
def withPath (u : Url) (before : List String) (cs : List Char) : Url :=
  let isFile := u.scheme == "file"
  let parts := partsOf (isSpecial u.scheme) (cs.takeWhile (!endsPath ·))
  let all := (enterAll isFile before parts).reverse
  let all :=
    if isFile then
      let kept := all.dropWhile (· == "")
      if kept.isEmpty then [""] else kept
    else all
  withTail { u with path := .segments all } (cs.dropWhile (!endsPath ·))

/-- The URL with the path that starts behind its host. -/
def withRootedPath (u : Url) (cs : List Char) : Url :=
  match cs with
  | [] => if isSpecial u.scheme then { u with path := .segments [""] } else u
  | c :: rest =>
      if isSlash (isSpecial u.scheme) c then withPath u [] rest
      else if !isSpecial u.scheme && endsPath c then withTail { u with path := .segments [] } cs
      else withPath u [] cs

/-! ## Users, hosts and ports -/

/-- The port that stands behind a host, and what stands behind the port. -/
def readPort (scheme : String) (cs : List Char) : Except UrlError (Option UInt16 × List Char) :=
  let digits := cs.takeWhile Text.isDigit
  let rest := cs.dropWhile Text.isDigit
  let n := Decimal.value digits
  if 65535 < n then .error .invalidPort
  else if rest.isEmpty || rest.head? == some '\\' then
    if digits.isEmpty || defaultPort? scheme == some (UInt16.ofNat n) then .ok (none, rest)
    else .ok (some (UInt16.ofNat n), rest)
  else .error .invalidPort

/-- The host at the start of a text: up to a colon outside brackets. -/
def hostChars (inBrackets : Bool) : List Char → List Char
  | [] => []
  | c :: rest =>
      if c = ':' ∧ !inBrackets then []
      else c :: hostChars (if c = '[' then true else if c = ']' then false else inBrackets) rest

/-- The URL of a scheme with what follows two slashes. -/
def withAuthority (scheme : String) (cs : List Char) : Except UrlError Url := do
  let special := isSpecial scheme
  let inAuthority (c : Char) : Bool := !isSlash special c && !endsPath c
  let authority := cs.takeWhile inAuthority
  let rest := cs.dropWhile inAuthority
  let (userinfo, hostPort) := match Text.cutLast? '@' authority with
    | some (a, b) => (some a, b)
    | none => (none, authority)
  if userinfo == some [] && hostPort.isEmpty && !rest.isEmpty then throw .emptyHost
  let (user, password) := (Text.cutFirst? ':' (userinfo.getD [])).getD (userinfo.getD [], [])
  let hasUser := !user.isEmpty || !password.isEmpty
  let name := hostChars false hostPort
  let behind := hostPort.drop name.length
  if name.isEmpty && (special || hasUser || !behind.isEmpty) then throw .emptyHost
  let host ← if special then Host.ofSpecial name else Host.ofOther name
  let (port, behindPort) ← match behind with
    | ':' :: digits => readPort scheme digits
    | other => pure (none, other)
  return withRootedPath
    { scheme, user := escaped inUser user, password := escaped inUser password
      host := some host, port } (behindPort ++ rest)

/-! ## Files -/

/-- The URL of a file with what follows two slashes. -/
def withFileHost (cs : List Char) : Except UrlError Url := do
  let inHost (c : Char) : Bool := !isSlash true c && !endsPath c
  let name := cs.takeWhile inHost
  let isPath := name.isEmpty || isDrive name
  let host ← if isPath then pure (Host.name "") else Host.ofSpecial name
  let host := if host = .name "localhost" then .name "" else host
  let rest := if isDrive name then cs else cs.dropWhile inHost
  let u : Url := { scheme := "file", host := some host }
  let result := withRootedPath u rest
  match result.path with
  | .segments (first :: _) =>
      return if isDrive first.toList then { result with host := some (.name "") } else result
  | _ => return result

/-- The segments of a path, last first. -/
def segmentsBack (u : Url) : List String :=
  match u.path with
  | .flat _ => []
  | .segments parts => parts.reverse

/-- The URL of a file, relative to that of another file if there is one. -/
def readFile (base : Option Url) (cs : List Char) : Except UrlError Url :=
  let empty : Url := { scheme := "file", host := some (.name "") }
  match cs with
  | c :: rest =>
      if isSlash true c then
        match rest with
        | d :: more =>
            if isSlash true d then withFileHost more
            else .ok (withPath (rootOf empty rest) (driveOf rest) rest)
        | [] => .ok (withPath (rootOf empty rest) (driveOf rest) rest)
      else match base with
        | none => .ok (withPath empty [] cs)
        | some b =>
            if c = '?' ∨ c = '#' then
              let tail := withTail { b with query := none } cs
              .ok { tail with query := if c = '#' then b.query else tail.query }
            else if startsWithDrive cs then .ok (withPath empty [] cs)
            else .ok (withPath b (parent b.segmentsBack) cs)
  | [] => .ok (base.elim { empty with path := .segments [""] } withoutFragment)
where
  /-- The host that a path with one slash before it keeps. -/
  rootOf (empty : Url) (rest : List Char) : Url :=
    match base with
    | some b =>
        if startsWithDrive rest || (b.segmentsBack.getLast?.any fun s => isDrive s.toList) then
          empty
        else { empty with host := b.host }
    | none => empty
  /-- The drive that a path with one slash before it keeps. -/
  driveOf (rest : List Char) : List String :=
    match base with
    | some b =>
        if startsWithDrive rest then []
        else (b.segmentsBack.getLast?.filter fun s => isDrive s.toList).toList
    | none => []

/-! ## Any URL -/

/-- What a text without a scheme is relative to another URL. -/
def readRelative (base : Url) (cs : List Char) : Except UrlError Url :=
  match cs with
  | [] => .ok base.withoutFragment
  | '?' :: _ => .ok (withTail base cs)
  | '#' :: _ => .ok { withTail base cs with query := base.query }
  | c :: rest =>
      if isSlash true c then
        match rest with
        | d :: more =>
            if isSlash true d then
              if c = '/' ∧ d = '/' then withAuthority base.scheme more
              else withAuthority base.scheme (more.dropWhile (isSlash true))
            else .ok (withPath base [] rest)
        | [] => .ok (withPath base [] rest)
      else .ok (withPath base (base.segmentsBack.drop 1) cs)

/-- The scheme at the start of a text, in small letters, and what follows its colon. -/
def scheme? (cs : List Char) : Option (String × List Char) :=
  let isInside (c : Char) : Bool :=
    c.isAlphanum || c == '+' || c == '-' || c == '.'
  match cs.dropWhile isInside with
  | ':' :: rest =>
      if cs.head?.any Char.isAlpha then
        some (String.ofList ((cs.takeWhile isInside).map Char.toLower), rest)
      else none
  | _ => none

/-- The URL of a scheme that is not known. -/
def readOther (scheme : String) (cs : List Char) : Except UrlError Url :=
  match cs with
  | '/' :: '/' :: rest => withAuthority scheme rest
  | '/' :: rest => .ok (withPath { scheme } [] rest)
  | _ =>
      let flat := escaped Text.isControl (cs.takeWhile (!endsPath ·))
      .ok (withTail { scheme, path := .flat flat } (cs.dropWhile (!endsPath ·)))

/-- A text without the control characters and blanks around it and without the tabs and line
ends in it. -/
def cleaned (text : String) : List Char :=
  (Text.stripWhere (·.toNat ≤ 0x20) text.toList).filter fun c =>
    c ≠ '\t' ∧ c ≠ '\n' ∧ c ≠ '\r'

/-- The URL that a text is, relative to a base if it has no scheme of its own. -/
def read (base : Option Url) (text : String) : Except UrlError Url :=
  let cs := cleaned text
  match scheme? cs with
  | some (scheme, rest) =>
      if scheme = "file" then readFile (base.filter (·.scheme = "file")) rest
      else if isSpecial scheme then
        let slashes := (rest.takeWhile (isSlash true)).length
        match base with
        | some b =>
            if slashes < 2 ∧ b.scheme = scheme then readRelative b rest
            else withAuthority scheme (rest.drop slashes)
        | none => withAuthority scheme (rest.drop slashes)
      else readOther scheme rest
  | none =>
      match base with
      | none => .error .relativeWithoutBase
      | some b =>
          match cs, b.path with
          | '#' :: _, _ => .ok { withTail b cs with query := b.query }
          | _, .flat _ => .error .relativeToFlat
          | _, .segments _ => if b.scheme = "file" then readFile base cs else readRelative b cs

/-- The URL that a text is by itself. -/
def parse (text : String) : Except UrlError Url := read none text

/-- The URL that a text is relative to another one. -/
def join (base : Url) (text : String) : Except UrlError Url := read (some base) text

end Reachability.Url

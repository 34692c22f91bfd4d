/-
# Tags of a YAML text

A tag says what a value is.  It is spelled out within angle brackets, or begins with a handle
that stands for a longer text; the directives before a document may give handles a meaning.

Main definitions:

* `Yaml.tag?` : the tag at a place;
* `Yaml.directives?` : the place behind the directives, which knows their handles.
-/
import Reachability.Document.Yaml.Place

namespace Reachability.Yaml

/-! ## Characters -/

/-- A character of a name. -/
def isNameChar (c : Char) : Bool := c.isAlphanum || c == '_' || c == '-'

/-- A character of a tag; one that is spelled out has some more. -/
def isTagChar (spelledOut : Bool) (c : Char) : Bool :=
  isNameChar c || ";/?:@&=+$.!~*'()".toList.contains c || (spelledOut && ",[]".toList.contains c)

/-- How many bytes of a character follow its first one. -/
def followers? (byte : Nat) : Option Nat :=
  if byte < 0x80 then some 0
  else if byte / 0x20 = 6 then some 1
  else if byte / 0x10 = 14 then some 2
  else if byte / 0x08 = 30 then some 3
  else none

/-- How many characters of a text belong to a tag.  Behind a percent sign stand the two digits
of a byte, and all bytes of a character stand in a row, of which some may be due. -/
def tagLength? (spelledOut : Bool) : Nat → List Char → Option Nat
  | due, '%' :: high :: low :: rest => do
      let byte := 16 * (← Percent.hexValue? high) + (← Percent.hexValue? low)
      let due ←
        if due = 0 then followers? byte
        else if byte / 0x40 = 2 then some (due - 1)
        else none
      return 3 + (← tagLength? spelledOut due rest)
  | 0, c :: rest =>
      if c = '%' then none
      else if isTagChar spelledOut c then (tagLength? spelledOut 0 rest).map (· + 1)
      else some 0
  | 0, [] => some 0
  | _ + 1, _ => none

/-! ## Handles -/

/-- What a handle stands for, one that a directive names first. -/
def Place.handleText? (p : Place) (handle : List Char) : Option (List Char) :=
  match p.handles.lookup handle, handle with
  | some text, _ => some text
  | none, ['!'] => some ['!']
  | none, ['!', '!'] => some "tag:yaml.org,2002:".toList
  | none, _ => none

/-- The tag behind its indicator, which ends at white space, or at a comma in brackets. -/
def tag? (inFlow : Bool) (p : Place) : Option (String × Place) := do
  let name := p.rest.takeWhile isNameChar
  let (tag, q) ← match p.rest, (p.drop name.length).rest with
    | '<' :: text, _ => do
        let length ← tagLength? true 0 text
        if length = 0 ∨ (text.drop length).head? ≠ some '>' then none
        else some (text.take length, p.drop (length + 2))
    | _, '!' :: text => do
        let length ← tagLength? false 0 text
        let start ← p.handleText? ('!' :: name ++ ['!'])
        if length = 0 then none
        else some (start ++ text.take length, p.drop (name.length + 1 + length))
    | text, _ => do
        let length ← tagLength? false 0 text
        let start ← p.handleText? ['!']
        some (if length = 0 then ['!'] else start ++ text.take length, p.drop length)
  if startsBlank q.rest || (inFlow && q.rest.head? == some ',') then
    some (String.ofList tag, q)
  else none

/-! ## Directives -/

/-- The place behind the number of a version. -/
def versionNumber? (p : Place) : Option (Nat × Place) :=
  let digits := p.rest.takeWhile Text.isDigit
  if digits.isEmpty || 9 < digits.length then none
  else some (Decimal.value digits, p.drop digits.length)

/-- The place behind a version, which is 1.1 or 1.2. -/
def version? (p : Place) : Option Place := do
  let (major, q) ← versionNumber? p
  if q.rest.head? ≠ some '.' then none
  else
    let (minor, q) ← versionNumber? q.next
    if major = 1 ∧ (minor = 1 ∨ minor = 2) then some q else none

/-- The place behind a handle and what it stands for. -/
def handle? (p : Place) : Option Place := do
  if p.rest.head? ≠ some '!' then none
  else
    let name := (p.rest.drop 1).takeWhile isNameChar
    let q := p.drop (1 + name.length)
    let (handle, q) :=
      if q.rest.head? = some '!' then ('!' :: name ++ ['!'], q.next) else ('!' :: name, q)
    let r := q.skipBlanks
    let length ← tagLength? true 0 r.rest
    let isNew := (q.handles.lookup handle).isNone
    if handle.getLast? = some '!' && q.rest.head?.any isBlank && length ≠ 0 && isNew then
      let behind := r.drop length
      if startsBlank behind.rest then
        some { behind with handles := (handle, r.rest.take length) :: q.handles }
      else none
    else none

/-- The place behind the directives before a document, and whether there are any.  No version
is given twice. -/
def directives? : Nat → Bool → Bool → Place → Option (Bool × Place)
  | 0, _, _, _ => none
  | fuel + 1, found, versioned, p => do
      let p := (p.token true).1
      match p.rest with
      | '%' :: rest =>
          if p.column ≠ 0 then none
          else
            let name := rest.takeWhile isNameChar
            let q := p.drop (1 + name.length)
            let isVersion := name = "YAML".toList
            let q ←
              if !startsBlank q.rest || (isVersion && versioned) then none
              else if isVersion then version? q.skipBlanks
              else if name = "TAG".toList then handle? q.skipBlanks
              else none
            let q := q.skipBlanks
            if q.atLineEnd then directives? fuel true (versioned || isVersion) q.lineEnd else none
      | _ => some (found, p)

end Reachability.Yaml

/-
# File names

The name under which a download is stored: the one that the answer gives, else the end of the
URL's path, else a general one.  A name that comes from outside is reduced to one part of a
path that is safe to use.

Main definitions:

* `File.sanitize` : the safe name in a text, if there is any;
* `File.ofDisposition` : the name that a `Content-Disposition` header gives;
* `File.candidate` : the name for an answer;
* `File.numbered` : a name with a number in it.
-/
import Reachability.File.MediaType
import Reachability.Text.Blank
import Reachability.Text.Percent
import Reachability.Text.Split
import Reachability.Url.Basic

namespace Reachability.File

/-! ## Safe names -/

/-- The characters that some system does not allow in names. -/
def isReserved (c : Char) : Bool := ":*?\"<>|".toList.contains c || Text.isControl c

/-- A character with an underscore in the place of a reserved one. -/
def safeChar (c : Char) : Char := if isReserved c then '_' else c

/-- The safe name in a text: what stands behind the last slash of either kind, without
reserved characters and outer blanks.  No name is left empty or made of one or two dots. -/
def sanitize (text : String) : Option String :=
  let base := Text.afterLast (fun c => c == '/' || c == '\\') text.toList
  let name := Text.strip (base.map safeChar)
  if name == [] || name == ['.'] || name == ['.', '.'] then none else some (String.ofList name)

/-! ## Names in headers -/

/-- The names that a header gives in its plain and in its extended form. -/
structure Given where
  plain : Option (List Char) := none
  extended : Option (List Char) := none

/-- What stands behind the second single quote, or all of a text. -/
def behindLanguage (cs : List Char) : List Char :=
  ((Text.cutFirst? '\'' cs).bind fun (_, rest) => Text.cutFirst? '\'' rest).elim cs Prod.snd

/-- A text without the double quotes around it. -/
def unquoted (cs : List Char) : List Char := Text.stripWhere (· == '"') cs

/-- Takes one parameter of a header into account. -/
def Given.read (g : Given) (parameter : List Char) : Given :=
  match Text.cutFirst? '=' parameter with
  | none => g
  | some (rawKey, rawValue) =>
      let key := (Text.strip rawKey).map Char.toLower
      let value := Text.strip rawValue
      if key = "filename*".toList then
        { g with extended := Percent.decodeText? (unquoted (behindLanguage value)) }
      else if key = "filename".toList then { g with plain := some (unquoted value) }
      else g

/-- The name that a `Content-Disposition` header gives.  The extended form comes first; a
blank name is none. -/
def ofDisposition (header : String) : Option String :=
  let g := (Text.fields ';' header.toList).foldl Given.read {}
  ((g.extended.or g.plain).filter fun name => !name.all Text.isBlank).map String.ofList

/-! ## Names for answers -/

/-- The name that the end of a URL's path gives.  Escapes that are no text are left. -/
def ofUrl (u : Url) : Option String := do
  let segment ← u.lastSegment?
  if segment.isEmpty then none
  else sanitize (String.ofList ((Percent.decodeText? segment.toList).getD segment.toList))

/-- The name of a file that has no other. -/
def fallbackStem : String := "index"

/-- The general name of a kind of content. -/
def ofContentType (header : Option String) : String :=
  match header.bind MediaType.extension? with
  | some extension => fallbackStem ++ "." ++ extension
  | none => fallbackStem

/-- The name for the answer of a URL with its headers. -/
def candidate (u : Url) (disposition contentType : Option String) : String :=
  ((disposition.bind ofDisposition).bind sanitize).getD
    ((ofUrl u).getD (ofContentType contentType))

/-! ## Numbers in names -/

/-- A name before and behind its last dot, if there is something on both sides. -/
def splitExtension (name : String) : String × Option String :=
  match Text.cutLast? '.' name.toList with
  | some (stem, extension) =>
      if stem.isEmpty || extension.isEmpty then (name, none)
      else (String.ofList stem, some (String.ofList extension))
  | none => (name, none)

/-- A name with a number behind it, before its extension. -/
def numbered (name : String) (n : Nat) : String :=
  match splitExtension name with
  | (stem, some extension) => stem ++ "_" ++ Decimal.ofNat n ++ "." ++ extension
  | (stem, none) => stem ++ "_" ++ Decimal.ofNat n

end Reachability.File

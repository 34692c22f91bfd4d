/-
# Paths

A path is a raw text with slashes in it.  Between them stand its parts: names, and the one dot
and the two dots that lead to no name.

Main definitions:

* `File.Part`, `RawText.parts` : the parts of a path;
* `File.Way`, `RawText.way` : the parts, and whether the path says that it leads to a directory;
* `RawText.join` : the path of a name in a directory;
* `RawText.extension?` : what stands behind the last dot of the last name.
-/
import Reachability.Text.Raw
import Reachability.Text.Split

namespace Reachability

namespace File

/-! ## Bytes -/

/-- The byte between the parts of a path. -/
def slash : UInt8 := 0x2f

/-- The byte of a dot. -/
def dot : UInt8 := 0x2e

/-! ## Parts -/

/-- A part of a path. -/
inductive Part
  /-- One dot, which stays where it is. -/
  | here
  /-- Two dots, which lead to the directory above. -/
  | up
  | name (name : RawText)
deriving DecidableEq, Repr

/-- The part that some bytes without a slash spell; no bytes spell none. -/
def Part.of? (bytes : List UInt8) : Option Part :=
  if bytes = [] then none
  else if bytes = [dot] then some .here
  else if bytes = [dot, dot] then some .up
  else some (.name ⟨bytes⟩)

/-- What is walked along a path. -/
structure Way where
  parts : List Part
  /-- Whether the path ends with a slash, so that it has to lead to a directory. -/
  asDirectory : Bool := false
deriving DecidableEq, Repr

/-- One way behind another one. -/
def Way.append (w rest : Way) : Way :=
  ⟨w.parts ++ rest.parts, rest.asDirectory || (rest.parts.isEmpty && w.asDirectory)⟩

end File

namespace RawText

open File

/-! ## Paths -/

/-- The parts of a path. -/
def parts (path : RawText) : List Part := (Text.fields slash path.bytes).filterMap Part.of?

/-- Whether a path starts from the root. -/
def isAbsolute (path : RawText) : Bool := path.bytes.head? == some slash

/-- Whether a path ends with a slash. -/
def endsInSlash (path : RawText) : Bool := path.bytes.getLast? == some slash

/-- What is walked along a path. -/
def way (path : RawText) : Way := ⟨path.parts, path.endsInSlash⟩

/-- The path of a name in a directory; a name that is a path from the root stays alone. -/
def join (path name : RawText) : RawText :=
  if name.isAbsolute || path.bytes.isEmpty then name
  else if path.endsInSlash then ⟨path.bytes ++ name.bytes⟩
  else ⟨path.bytes ++ slash :: name.bytes⟩

/-! ## Extensions -/

/-- The last name of a path, unless two dots come last. -/
def fileName? (path : RawText) : Option RawText :=
  match (path.parts.filter (· ≠ .here)).getLast? with
  | some (.name name) => some name
  | _ => none

/-- What stands behind the last dot of a path's last name, unless the dot comes first. -/
def extension? (path : RawText) : Option RawText := do
  let name ← path.fileName?
  match Text.cutLast? dot name.bytes with
  | none | some ([], _) => none
  | some (_, extension) => some ⟨extension⟩

end RawText
end Reachability

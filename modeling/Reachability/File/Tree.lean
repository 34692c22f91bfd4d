/-
# File trees

Directories, files and symbolic links under one root, where every path starts.  A path is walked
part by part.  A link on the way is followed: the parts of its target come in its place.  Only so
many links are followed on one walk.

Main definitions:

* `File.Fault` : what keeps a path from being used;
* `File.Tree` : the nodes, with `Tree.node?`, `Tree.set`, `Tree.erase`;
* `Tree.leg`, `Tree.walk` : the way to the next link, and the whole way;
* `Tree.locate`, `Tree.find` : where a path leads, and what stands there;
* `Tree.makeDirectories`, `Tree.openForWriting`, `Tree.writeAt`, `Tree.withFile`,
  `Tree.remove` : the changes.
-/
import Reachability.File.Path

namespace Reachability.File

/-! ## Faults -/

/-- What keeps a path from being used. -/
inductive Fault
  | notFound
  | alreadyExists
  | notADirectory
  | isADirectory
  | nameTooLong
  | tooManyLinks
  /-- A path with the byte that ends paths in it. -/
  | endInside
deriving DecidableEq, Repr

/-- The text of a fault. -/
def Fault.message : Fault → String
  | notFound => "No such file or directory (os error 2)"
  | alreadyExists => "File exists (os error 17)"
  | notADirectory => "Not a directory (os error 20)"
  | isADirectory => "Is a directory (os error 21)"
  | nameTooLong => "File name too long (os error 36)"
  | tooManyLinks => "Too many levels of symbolic links (os error 40)"
  | endInside => "file name contained an unexpected NUL byte"

/-! ## Trees -/

/-- What stands at a path. -/
inductive Node
  /-- A file; its serial number tells it from a later one of the same name. -/
  | file (serial : Nat) (content : List UInt8)
  | directory
  /-- A symbolic link, which stands for another path. -/
  | link (target : RawText)
deriving DecidableEq, Repr

/-- The names on the way to a node. -/
abbrev Route := List RawText

/-- The nodes by their routes.  The root, where all routes start, is a directory. -/
structure Tree where
  nodes : List (Route × Node) := []
  /-- The serial number of the next file. -/
  nextSerial : Nat := 0
deriving DecidableEq, Repr

namespace Tree

/-- The node at the end of a route. -/
def node? (t : Tree) (route : Route) : Option Node :=
  if route = [] then some .directory else t.nodes.lookup route

/-- The tree with a node in the place of what was there. -/
def set (t : Tree) (route : Route) (node : Node) : Tree :=
  { t with nodes := (route, node) :: t.nodes.filter (·.1 ≠ route) }

/-- The tree without a node. -/
def erase (t : Tree) (route : Route) : Tree :=
  { t with nodes := t.nodes.filter (·.1 ≠ route) }

/-- Whether a directory stands at the end of a route. -/
def isDirectory (t : Tree) (route : Route) : Bool := t.node? route == some .directory

/-- The target of the link at the end of a route. -/
def link? (t : Tree) (route : Route) : Option RawText :=
  match t.node? route with
  | some (.link target) => some target
  | _ => none

/-- The names in a directory with what they stand for. -/
def children (t : Tree) (route : Route) : List (RawText × Node) :=
  t.nodes.filterMap fun (r, node) =>
    match r.getLast? with
    | some name => if r.dropLast = route then some (name, node) else none
    | none => none

/-! ## Walking -/

/-- The longest name and the longest path, in bytes. -/
def maxName : Nat := 255
def maxPath : Nat := 4095

/-- The number of links that one walk follows. -/
def maxLinks : Nat := 40

/-- Where the walk to the next link ends: at the end of the way, or at a link with the parts
behind it. -/
inductive Leg
  | ends (route : Route)
  | link (route : Route) (target : RawText) (rest : List Part)
deriving DecidableEq, Repr

/-- Walks on from a route up to the next link; every part starts in a directory.  A link that
comes last may be one that is not followed. -/
def leg (t : Tree) (follow : Bool) (route : Route) : List Part → Except Fault Leg
  | [] => .ok (.ends route)
  | part :: rest =>
      if !t.isDirectory route then
        .error (if (t.node? route).isNone then .notFound else .notADirectory)
      else match part with
        | .here => leg t follow route rest
        | .up => leg t follow route.dropLast rest
        | .name name =>
            let next := route ++ [name]
            if maxName < name.size then .error .nameTooLong
            else match t.link? next with
              | none => leg t follow next rest
              | some target =>
                  if follow || !rest.isEmpty then .ok (.link route target rest)
                  else .ok (.ends next)

/-- Where the target of a link in a directory starts. -/
def base (route : Route) (target : RawText) : Route := if target.isAbsolute then [] else route

/-- Where a path leads. -/
structure Place where
  route : Route
  /-- Whether the path says that it is a directory. -/
  asDirectory : Bool
  /-- The number of links that could still be followed. -/
  links : Nat
deriving DecidableEq, Repr

/-- Walks on from a route and follows so many links. -/
def walk (t : Tree) (follow : Bool) (links : Nat) (route : Route) (way : Way) :
    Except Fault Place :=
  match t.leg follow route way.parts with
  | .error fault => .error fault
  | .ok (.ends target) => .ok ⟨target, way.asDirectory, links⟩
  | .ok (.link route target rest) =>
      match links with
      | 0 => .error .tooManyLinks
      | links + 1 =>
          walk t follow links (base route target) (target.way.append ⟨rest, way.asDirectory⟩)

/-- Whether a path can be used at all. -/
def checkPath (path : RawText) : Except Fault Unit :=
  if path.bytes.contains 0 then .error .endInside
  else if path.bytes.isEmpty then .error .notFound
  else if maxPath < path.size then .error .nameTooLong
  else .ok ()

/-- Where a path leads. -/
def locate (t : Tree) (path : RawText) (follow : Bool := true) : Except Fault Place := do
  checkPath path
  t.walk follow maxLinks [] path.way

/-- The node that a path leads to. -/
def find (t : Tree) (path : RawText) : Except Fault Node := do
  let place ← t.locate path
  match t.node? place.route with
  | none => throw .notFound
  | some .directory => return .directory
  | some node => if place.asDirectory then throw .notADirectory else return node

/-- Whether a path is known to lead to a node. -/
def holds (t : Tree) (path : RawText) : Bool :=
  match t.find path with
  | .ok _ => true
  | .error _ => false

/-! ## Directories -/

/-- Makes a directory where nothing stands. -/
def makeDirectory (t : Tree) (way : Way) : Except Fault Tree := do
  let place ← t.walk false maxLinks [] way
  if (t.node? place.route).isSome then throw .alreadyExists
  return t.set place.route .directory

/-- The directory that a way leads to. -/
def directoryAt? (t : Tree) (way : Way) : Option Place :=
  match t.walk true maxLinks [] way with
  | .ok place => if t.isDirectory place.route then some place else none
  | .error _ => none

/-- Makes a directory, if there is none yet. -/
def makeMissing (t : Tree) (way : Way) : Except Fault Tree :=
  match t.makeDirectory way with
  | .ok made => .ok made
  | .error fault => if (t.directoryAt? way).isSome then .ok t else .error fault

/-- Makes a directory, if need be after another one.  What was made stays, also if something is
in the way later. -/
def makeBehind (t : Tree) (way : Way) (before : Tree → Tree × Except Fault Unit) :
    Tree × Except Fault Unit :=
  match t.makeMissing way with
  | .ok made => (made, .ok ())
  | .error .notFound =>
      match before t with
      | (t, .error fault) => (t, .error fault)
      | (t, .ok ()) =>
          match t.makeMissing way with
          | .ok made => (made, .ok ())
          | .error fault => (t, .error fault)
  | .error fault => (t, .error fault)

/-- Makes the directories of a way that are missing.  The parts come from the last to the first;
one dot at the end adds nothing. -/
def makeParts : List Part → Tree → Tree × Except Fault Unit
  | [], t => (t, .ok ())
  | .here :: front, t => makeParts front t
  | part :: front, t => t.makeBehind ⟨(part :: front).reverse, false⟩ (makeParts front)

/-- The parts of a path in front of its last one, from the last to the first. -/
def partsAbove (path : RawText) : List Part :=
  (path.parts.reverse.dropWhile (· == .here)).tail

/-- Makes the directories of a path that are missing. -/
def makeDirectories (t : Tree) (path : RawText) : Tree × Except Fault Unit :=
  if path.bytes.isEmpty then (t, .ok ())
  else match checkPath path with
    | .error fault => (t, .error fault)
    | .ok () => t.makeBehind path.way (makeParts (partsAbove path))

/-! ## Files -/

/-- An open file: where it stands, its serial number, and how much was written. -/
structure Handle where
  route : Route
  serial : Nat
  position : Nat := 0
deriving DecidableEq, Repr

/-- Empties the file that a path leads to, or makes it. -/
def openForWriting (t : Tree) (path : RawText) : Except Fault (Tree × Handle) := do
  let place ← t.locate path
  if place.asDirectory then throw .isADirectory
  match t.node? place.route with
  | none =>
      let serial := t.nextSerial
      return ({ t.set place.route (.file serial []) with nextSerial := serial + 1 },
        { route := place.route, serial })
  | some (.file serial _) =>
      return (t.set place.route (.file serial []), { route := place.route, serial })
  | some _ => throw .isADirectory

/-- Some bytes of a content, from a position on, replaced by others. -/
def overwrite (content : List UInt8) (position : Nat) (bytes : List UInt8) : List UInt8 :=
  content.take position ++ List.replicate (position - content.length) 0 ++ bytes ++
    content.drop (position + bytes.length)

/-- Writes to an open file.  One that was removed takes the bytes and keeps them to itself. -/
def writeAt (t : Tree) (h : Handle) (bytes : List UInt8) : Tree × Handle :=
  let moved := { h with position := h.position + bytes.length }
  match t.node? h.route with
  | some (.file serial content) =>
      if serial = h.serial then
        (t.set h.route (.file serial (overwrite content h.position bytes)), moved)
      else (t, moved)
  | _ => (t, moved)

/-- The tree with a file of that content at a path, and with the directories on the way to it; a
tree that has no room for the file is left without it. -/
def withFile (t : Tree) (path : RawText) (content : List UInt8) : Tree :=
  let (made, _) := makeParts (partsAbove path) t
  match made.openForWriting path with
  | .ok (opened, handle) => (opened.writeAt handle content).1
  | .error _ => made

/-- Removes the file or the link at the end of a path. -/
def remove (t : Tree) (path : RawText) : Except Fault Tree := do
  let place ← t.locate path false
  match t.node? place.route with
  | none => throw .notFound
  | some .directory => throw .isADirectory
  | some _ => if place.asDirectory then throw .notADirectory else return t.erase place.route

end Tree
end Reachability.File

/-
# Download directories

The directory in which downloads are stored.  A download gets a name that nothing in the
directory has, if need be one with a number.

Main definitions:

* `File.Directory` : the directory, by its path;
* `Directory.isTaken` : whether a name is in use;
* `Directory.variants`, `Directory.freeName?` : the names that are tried for an answer, and the
  one that is chosen;
* `Directory.create`, `Directory.delete` : the changes that a download makes.
-/
import Reachability.File.Name
import Reachability.File.Tree
import Reachability.Probe.Error

namespace Reachability.File

/-- The directory in which downloads are stored. -/
structure Directory where
  path : RawText
deriving DecidableEq, Repr

/-- The largest number that is put into a name. -/
def maxNumber : Nat := 1000

namespace Directory

/-- The path of a name in the directory; a name that is a path from the root stays alone. -/
def pathOf (d : Directory) (name : String) : RawText := d.path.join name

/-- Whether something in the directory has a name. -/
def isTaken (d : Directory) (t : Tree) (name : String) : Bool := t.holds (d.pathOf name)

/-- The name that is tried after so many others: the name itself, then with numbers. -/
def variant (name : String) (tried : Nat) : String :=
  if tried = 0 then name else numbered name tried

/-- The names that are tried one after the other. -/
def variants (name : String) : List String := (List.range (maxNumber + 1)).map (variant name)

/-- The first name for an answer that is not in use. -/
def freeName? (d : Directory) (t : Tree) (u : Url) (disposition contentType : Option String) :
    Option String :=
  (variants (candidate u disposition contentType)).find? fun name => !d.isTaken t name

/-- A fault of a path as a probe reports it. -/
def failure (path : RawText) (fault : Fault) : ProbeError :=
  .fileSystem (path.shown ++ ": " ++ fault.message)

/-- Makes the directory and opens a new or emptied file in it.  Directories that were made stay,
also if the file cannot be opened. -/
def create (d : Directory) (t : Tree) (name : String) : Tree × Except ProbeError Tree.Handle :=
  match t.makeDirectories d.path with
  | (made, .error fault) => (made, .error (failure d.path fault))
  | (made, .ok ()) =>
      match made.openForWriting (d.pathOf name) with
      | .ok (opened, handle) => (opened, .ok handle)
      | .error fault => (made, .error (failure (d.pathOf name) fault))

/-- Removes a file, and whether there was one. -/
def delete (d : Directory) (t : Tree) (name : String) : Except ProbeError (Tree × Bool) :=
  match t.remove (d.pathOf name) with
  | .ok t => .ok (t, true)
  | .error .notFound => .ok (t, false)
  | .error fault => .error (failure (d.pathOf name) fault)

end Directory
end Reachability.File

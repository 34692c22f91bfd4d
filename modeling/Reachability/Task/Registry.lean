/-
# The registry

The records of the tasks that are known to a running program.  It lives as long as the
program and holds only what a probe compares against.

Main definitions:

* `Registry.insert`, `Registry.setRunning`, `Registry.setIdentity`, `Registry.remove`;
* `Registry.read?`, `Registry.carries` : what it answers.
-/
import Reachability.Task.Identity

namespace Reachability

/-- The records of the known tasks, one for each key. -/
structure Registry where
  records : List TaskRecord
deriving DecidableEq, Repr

namespace Registry

/-- A registry without tasks. -/
def empty : Registry := ⟨[]⟩

instance : Inhabited Registry := ⟨empty⟩

/-! ## Questions -/

/-- The number of tasks. -/
def size (r : Registry) : Nat := r.records.length

/-- Whether there is no task. -/
def isEmpty (r : Registry) : Bool := r.size == 0

/-- The record of a task. -/
def read? (r : Registry) (id : TaskId) : Option TaskRecord :=
  r.records.find? (·.id = id)

/-- Whether a task with that key is known. -/
def contains (r : Registry) (id : TaskId) : Bool :=
  r.records.any (·.id = id)

/-- Whether some task carries an identity. -/
def carries (r : Registry) (identity : Identity) : Bool :=
  r.records.any (·.identity = identity)

/-! ## Changes -/

/-- The registry without a task. -/
def erase (r : Registry) (id : TaskId) : Registry :=
  ⟨r.records.filter (·.id ≠ id)⟩

/-- The registry with a record, which takes the place of one with the same key. -/
def insert (r : Registry) (record : TaskRecord) : Registry :=
  ⟨(r.erase record.id).records ++ [record]⟩

/-- The registry with a changed record. -/
def modify (r : Registry) (id : TaskId) (change : TaskRecord → TaskRecord) : Registry :=
  ⟨r.records.map fun record => if record.id = id then change record else record⟩

/-- Marks a task as running or stopped, and tells whether it is known. -/
def setRunning (r : Registry) (id : TaskId) (running : Bool) : Registry × Bool :=
  (r.modify id fun record => { record with running }, r.contains id)

/-- Gives a task another identity, and tells whether it is known. -/
def setIdentity (r : Registry) (id : TaskId) (identity : Identity) : Registry × Bool :=
  (r.modify id fun record => { record with identity }, r.contains id)

/-- Forgets a task, and tells whether it was known. -/
def remove (r : Registry) (id : TaskId) : Registry × Bool :=
  (r.erase id, r.contains id)

/-- An identity that no known task carries. -/
def drawUnused (r : Registry) (budget : UInt32) (supply : IdentitySupply) :
    Except Error Identity × IdentitySupply :=
  drawUnusedIn (fun identity => .ok (r.carries identity)) budget supply

end Registry
end Reachability

/-
# Tasks

A task asks for one kind of probe on one address.  Each time it is scheduled it gets a
fresh identity, so that a running probe can tell the schedule that started it from a later
one.

Main definitions:

* `AccessType` : the kinds of probe;
* `TaskRecord` : what a running probe compares against;
* `NewTask`, `NetworkTask` : a task before and after it was stored.
-/
import Reachability.Text.Blank

namespace Reachability

/-- The key of a stored task. -/
abbrev TaskId := Int64

/-- The identity of one schedule of a task. -/
abbrev Identity := Int32

/-! ## Kinds of probe -/

/-- The kinds of probe that a task can ask for. -/
inductive AccessType
  | ping
  | connect
  | download
deriving DecidableEq, Repr

namespace AccessType

/-- All kinds. -/
def all : List AccessType := [ping, connect, download]

/-- The name under which the kind is stored and shown. -/
def name : AccessType → String
  | ping => "ping"
  | connect => "connect"
  | download => "download"

/-- The tag of the kind in documents. -/
def tag : AccessType → String
  | ping => "ping"
  | connect => "connect"
  | download => "download"

/-- The kind of that name, whose ASCII letters may be capitals.  What is refused is the
name in small letters. -/
def ofName (s : String) : Except String AccessType :=
  match Text.lowerAscii s with
  | "ping" => .ok ping
  | "connect" => .ok connect
  | "download" => .ok download
  | lowered => .error lowered

/-- The tag of a kind is its name. -/
theorem tag_eq_name (kind : AccessType) : kind.tag = kind.name := by
  cases kind <;> rfl

/-- A text is read as a kind if it is the kind's name but for capitals. -/
theorem ofName_eq_ok_iff {s : String} {kind : AccessType} :
    ofName s = .ok kind ↔ Text.lowerAscii s = kind.name := by
  unfold ofName
  split
  · next lowered => rw [lowered]; cases kind <;> simp [name]
  · next lowered => rw [lowered]; cases kind <;> simp [name]
  · next lowered => rw [lowered]; cases kind <;> simp [name]
  · cases kind <;> simp_all [name]

/-- The text for a refused name. -/
def unknownMessage (lowered : String) : String :=
  "unknown access type: " ++ lowered

end AccessType

/-! ## Tasks -/

/-- The part of a task that a running probe compares against. -/
structure TaskRecord where
  id : TaskId
  identity : Identity
  running : Bool
deriving DecidableEq, Repr

/-- A task as it is handed in, before it has a key and an identity. -/
structure NewTask where
  accessType : AccessType
  address : String
  port : UInt16
  intervalMinutes : UInt32
  running : Bool
deriving DecidableEq, Repr

/-- A stored task. -/
structure NetworkTask where
  id : TaskId
  identity : Identity
  accessType : AccessType
  address : String
  port : UInt16
  intervalMinutes : UInt32
  running : Bool
deriving DecidableEq, Repr

/-- The record of a task. -/
def NetworkTask.record (t : NetworkTask) : TaskRecord :=
  ⟨t.id, t.identity, t.running⟩

end Reachability

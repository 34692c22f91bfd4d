/-
# Tasks as documents

How tasks are written into documents and read back.  A record is a table of its fields or
the list of their values in order.

Main definitions:

* `AccessType.toDocument`, `AccessType.ofDocument?`;
* `TaskRecord.toDocument`, `TaskRecord.ofDocument?`, and so for `NewTask` and `NetworkTask`.
-/
import Reachability.Task.Basic
import Reachability.Document.Basic

namespace Reachability

open Document

/-! ## Single values -/

/-- A key as a document. -/
def TaskId.toDocument (id : TaskId) : Document := .integer id.toInt

/-- The key that a document is. -/
def TaskId.ofDocument? (d : Document) : Option TaskId :=
  (d.asIntWithin? Int64.minValue.toInt Int64.maxValue.toInt).map Int64.ofInt

/-- An identity as a document. -/
def Identity.toDocument (i : Identity) : Document := .integer i.toInt

/-- The identity that a document is. -/
def Identity.ofDocument? (d : Document) : Option Identity :=
  (d.asIntWithin? Int32.minValue.toInt Int32.maxValue.toInt).map Int32.ofInt

/-- A kind of probe as a document. -/
def AccessType.toDocument (a : AccessType) : Document := .text a.tag

/-- The kind of probe that a document names. -/
def AccessType.ofDocument? (d : Document) : Option AccessType :=
  d.asChoice? .json AccessType.all AccessType.tag

/-- The port that a document is. -/
def port? (d : Document) : Option UInt16 := (d.asNatBelow? UInt16.size).map UInt16.ofNat

/-- The number of minutes that a document is. -/
def minutes? (d : Document) : Option UInt32 := (d.asNatBelow? UInt32.size).map UInt32.ofNat

/-! ## Records -/

namespace TaskRecord

/-- A record as a document. -/
def toDocument (r : TaskRecord) : Document :=
  .table
    [("id", r.id.toDocument), ("identity", r.identity.toDocument), ("running", .bool r.running)]

/-- The record that a document is. -/
def ofDocument? (d : Document) : Option TaskRecord :=
  match d.fields? .json ["id", "identity", "running"] with
  | some [id, identity, running] => do
      return ⟨← required TaskId.ofDocument? id, ← required Identity.ofDocument? identity,
        ← required asBool? running⟩
  | _ => none

end TaskRecord

namespace NewTask

/-- The names of a new task's fields. -/
def fieldNames : List String :=
  ["access_type", "address", "port", "interval_minutes", "running"]

/-- A new task as a document. -/
def toDocument (t : NewTask) : Document :=
  .table
    [("access_type", t.accessType.toDocument), ("address", .text t.address),
     ("port", .integer t.port.toNat), ("interval_minutes", .integer t.intervalMinutes.toNat),
     ("running", .bool t.running)]

/-- The new task whose fields are given. -/
def ofFields? : List (Option Document) → Option NewTask
  | [accessType, address, port, interval, running] => do
      return ⟨← required AccessType.ofDocument? accessType, ← required asText? address,
        ← required port? port, ← required minutes? interval, ← required asBool? running⟩
  | _ => none

/-- The new task that a document is. -/
def ofDocument? (d : Document) : Option NewTask := do
  ofFields? (← d.fields? .json fieldNames)

end NewTask

namespace NetworkTask

/-- A stored task as a document. -/
def toDocument (t : NetworkTask) : Document :=
  .table
    [("id", t.id.toDocument), ("identity", t.identity.toDocument),
     ("access_type", t.accessType.toDocument), ("address", .text t.address),
     ("port", .integer t.port.toNat), ("interval_minutes", .integer t.intervalMinutes.toNat),
     ("running", .bool t.running)]

/-- The stored task that a document is. -/
def ofDocument? (d : Document) : Option NetworkTask :=
  match d.fields? .json (["id", "identity"] ++ NewTask.fieldNames) with
  | some (id :: identity :: rest) => do
      let task ← NewTask.ofFields? rest
      return ⟨← required TaskId.ofDocument? id, ← required Identity.ofDocument? identity,
        task.accessType, task.address, task.port, task.intervalMinutes, task.running⟩
  | _ => none

end NetworkTask
end Reachability

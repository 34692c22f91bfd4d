/-
# Transfers

The part of a download behind its last answer: a name is chosen, a file is made, the body is
copied piece by piece, the file is closed, and at last it is looked for and deleted.  In the
meantime the body arrives, the monitor reads its task, and the caller may give up; a
transfer is a machine that takes all this as events, one after the other.

Main definitions:

* `Download.Phase` : what a transfer does next;
* `Download.Transfer` : a transfer in progress;
* `Download.Event` : what happens to it;
* `Transfer.step`, `Transfer.run` : what one event or some events do.
-/
import Reachability.File.Directory
import Reachability.Monitor.Basic

namespace Reachability.Download

/-! ## Phases -/

/-- How the copying of the body ended. -/
inductive Ending
  /-- The body is at its end. -/
  | exhausted
  /-- The transfer was not to go on. -/
  | aborted
  | failed (e : ProbeError)
deriving DecidableEq, Repr

/-- The file that a transfer writes to. -/
structure Sink where
  name : String
  handle : File.Tree.Handle
deriving DecidableEq, Repr

/-- What a transfer does next. -/
inductive Phase
  /-- See whether the next name is in use, after so many others that are. -/
  | naming (tried : Nat)
  | creating (name : String)
  /-- Look at the flags before the next piece. -/
  | checking (sink : Sink)
  | reading (sink : Sink)
  | writing (sink : Sink) (piece : List UInt8)
  | flushing (name : String) (copied : Ending)
  | closing (name : String) (copied : Ending)
  /-- Stop the monitor and settle what the transfer came to; the closing may have failed. -/
  | settling (name : String) (copied : Ending) (problem : Option ProbeError)
  /-- See whether the file is there. -/
  | looking (name : String)
  | deleting (name : String)
  | finished
deriving DecidableEq, Repr

/-! ## Transfers -/

/-- A transfer in progress. -/
structure Transfer where
  directory : File.Directory
  /-- The URL that gave the answer, and the headers that name it. -/
  place : Url
  disposition : Option String := none
  contentType : Option String := none
  /-- The identity under which the task was scheduled. -/
  identity : Identity
  /-- The size of a piece. -/
  pieceSize : Nat
  pieceSize_pos : 0 < pieceSize
  /-- Whether the file is deleted at the end. -/
  deletes : Bool
  phase : Phase := .naming 0
  /-- The name that was chosen. -/
  name : Option String := none
  /-- What the monitor has published. -/
  flags : Flags := .initial
  /-- Whether the caller gave up. -/
  interrupted : Bool := false
  /-- What has arrived of the body and is not read yet. -/
  arrived : List (List UInt8) := []
  /-- Whether the body is at its end, and the error if it broke off. -/
  bodyEnd : Option (Option ProbeError) := none
  /-- The number of bytes written. -/
  transferred : Nat := 0
  success : Bool := false
  fileExists : Bool := false
  deleteSuccess : Bool := false
  error : Option ProbeError := none
deriving DecidableEq, Repr

/-- What happens to a transfer. -/
inductive Event
  /-- The monitor reads the task. -/
  | polled (read : Except Error (Option TaskRecord))
  /-- The caller gives up. -/
  | interrupt
  /-- A part of the body arrives. -/
  | arrive (bytes : List UInt8)
  /-- The body ends, or breaks off with an error. -/
  | bodyEnds (problem : Option ProbeError)
  /-- The transfer goes on by one step, in which the file system may fail. -/
  | advance (fault : Option String)
deriving Repr

namespace Transfer

/-- Whether the transfer may go on. -/
def mayGoOn (t : Transfer) : Bool := !t.interrupted && t.flags.valid

/-- Whether the monitor is running. -/
def isWatched (t : Transfer) : Bool :=
  match t.phase with
  | .naming _ | .creating _ | .looking _ | .deleting _ | .finished => false
  | _ => true

/-- Whether nothing is left to do. -/
def isFinished (t : Transfer) : Bool := t.phase == .finished

/-! ## Reading -/

/-- What a read comes to. -/
inductive Read
  | piece (bytes : List UInt8) (rest : List (List UInt8))
  | ended (copied : Ending)
  /-- Nothing has arrived yet. -/
  | pending
deriving DecidableEq, Repr

/-- The next piece of what has arrived.  A piece does not reach beyond what arrived at once. -/
def nextPiece (size : Nat) : List (List UInt8) → Option (List UInt8 × List (List UInt8))
  | [] => none
  | [] :: rest => nextPiece size rest
  | (b :: bs) :: rest =>
      let bytes := b :: bs
      let left := bytes.drop size
      some (bytes.take size, if left.isEmpty then rest else left :: rest)

/-- What a read comes to.  It gives way at once when the caller gives up. -/
def read (t : Transfer) : Read :=
  if t.interrupted then .ended .aborted
  else match nextPiece t.pieceSize t.arrived with
    | some (bytes, rest) => .piece bytes rest
    | none =>
        match t.bodyEnd with
        | none => .pending
        | some none => .ended .exhausted
        | some (some e) => .ended (.failed e)

/-! ## Settling -/

/-- Whether the transfer succeeded, and its error.  An error of the copying comes before one
of the closing; the caller's interruption comes before both. -/
def settle (copied : Ending) (problem : Option ProbeError) (interrupted : Bool) :
    Bool × Option ProbeError :=
  match copied with
  | .exhausted => (problem.isNone, problem)
  | .aborted => (false, if interrupted then some .interrupted else problem)
  | .failed e => (false, some e)

/-! ## Steps -/

/-- The name that a transfer tries after so many others. -/
def nameToTry (t : Transfer) (tried : Nat) : String :=
  File.Directory.variant (File.candidate t.place t.disposition t.contentType) tried

/-- Makes the file of a name, unless the file system fails. -/
def create (t : Transfer) (tree : File.Tree) (fault : Option String) (name : String) :
    File.Tree × Except ProbeError File.Tree.Handle :=
  match fault with
  | none => t.directory.create tree name
  | some text => (tree, .error (.fileSystem text))

/-- Deletes the file of a name, unless the file system fails. -/
def delete (t : Transfer) (tree : File.Tree) (fault : Option String) (name : String) :
    Except ProbeError (File.Tree × Bool) :=
  match fault with
  | none => t.directory.delete tree name
  | some text => .error (.fileSystem text)

/-- Goes on by one step. -/
def advance (t : Transfer) (tree : File.Tree) (fault : Option String) : Transfer × File.Tree :=
  match t.phase with
  | .naming tried =>
      -- a look that fails counts as one that finds nothing
      let name := t.nameToTry tried
      if fault.isNone && t.directory.isTaken tree name then
        if tried < File.maxNumber then ({ t with phase := .naming (tried + 1) }, tree)
        else ({ t with error := some .fileName, phase := .finished }, tree)
      else ({ t with name := some name, phase := .creating name }, tree)
  | .creating name =>
      match t.create tree fault name with
      | (made, .ok handle) => ({ t with phase := .checking ⟨name, handle⟩ }, made)
      | (made, .error e) => ({ t with error := some e, phase := .finished }, made)
  | .checking sink =>
      if t.mayGoOn then ({ t with phase := .reading sink }, tree)
      else ({ t with phase := .flushing sink.name .aborted }, tree)
  | .reading sink =>
      match t.read with
      | .piece bytes rest => ({ t with arrived := rest, phase := .writing sink bytes }, tree)
      | .ended copied => ({ t with phase := .flushing sink.name copied }, tree)
      | .pending => (t, tree)
  | .writing sink piece =>
      match fault with
      | none =>
          let (tree, handle) := tree.writeAt sink.handle piece
          ({ t with
              transferred := t.transferred + piece.length
              phase := .checking { sink with handle } }, tree)
      | some text => ({ t with phase := .flushing sink.name (.failed (.fileSystem text)) }, tree)
  | .flushing name copied =>
      match fault with
      | none => ({ t with phase := .closing name copied }, tree)
      | some text => ({ t with phase := .settling name copied (some (.fileSystem text)) }, tree)
  | .closing name copied =>
      ({ t with phase := .settling name copied (fault.map .fileSystem) }, tree)
  | .settling name copied problem =>
      let (success, error) := settle copied problem t.interrupted
      ({ t with success, error, phase := .looking name }, tree)
  | .looking name =>
      let fileExists := fault.isNone && t.directory.isTaken tree name
      let phase := if t.deletes && fileExists then .deleting name else .finished
      ({ t with fileExists, phase }, tree)
  | .deleting name =>
      match t.delete tree fault name with
      | .ok (tree, deleted) => ({ t with deleteSuccess := deleted, phase := .finished }, tree)
      | .error e => ({ t with error := t.error.or (some e), phase := .finished }, tree)
  | .finished => (t, tree)

/-- What one event does. -/
def step (state : Transfer × File.Tree) (event : Event) : Transfer × File.Tree :=
  let (t, tree) := state
  match event with
  | .polled read =>
      (if t.isWatched then { t with flags := .polled read t.identity } else t, tree)
  | .interrupt => ({ t with interrupted := true }, tree)
  | .arrive bytes =>
      (if t.bodyEnd.isNone then { t with arrived := t.arrived ++ [bytes] } else t, tree)
  | .bodyEnds problem =>
      (if t.bodyEnd.isNone then { t with bodyEnd := some problem } else t, tree)
  | .advance fault => t.advance tree fault

/-- What some events do, one after the other. -/
def run (t : Transfer) (tree : File.Tree) (events : List Event) : Transfer × File.Tree :=
  events.foldl step (t, tree)

end Transfer
end Reachability.Download

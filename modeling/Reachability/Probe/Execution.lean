/-
# Execution of tasks

A task is handed to the probe that it asks for.

Main definitions:

* `Machine` : what the probes need of the machine that they run on;
* `Machine.offline` : a machine without a network;
* `Machine.standalone` : the same with the usual programs;
* `NetworkTask.execute` : the execution of a task.
-/
import Reachability.Connect.Probe
import Reachability.Download.Probe
import Reachability.Probe.Outcome
import Reachability.Process.System

namespace Reachability

/-! ## Machines -/

/-- What the probes need of the machine that they run on; `σ` is what it remembers. -/
structure Machine (σ : Type) where
  /-- Runs programs. -/
  execute : Ping.Executor σ
  lookup : Connect.NameLookup
  connect : Connect.Connector σ
  peer : Http.Peer σ

/-- What a machine without a network says about a host name. -/
def Machine.noAnswer (host : String) : String :=
  if host.toList.contains '\x00' then "file name contained an unexpected NUL byte"
  else "failed to lookup address information: Temporary failure in name resolution"

/-- A machine that runs programs but has no network. -/
def Machine.offline {σ : Type} (execute : Ping.Executor σ) : Machine σ where
  execute := execute
  lookup := fun host => .error (noAnswer host)
  connect := fun _ s => (.ends .zero (.error ⟨.networkUnreachable, none⟩), s)
  peer := fun u s => ((Http.unreachable u ()).1, s)

/-- A machine with the usual programs that has no network. -/
def Machine.standalone : Machine PUnit :=
  .offline fun command limit s => (command.execute limit, s)

/-! ## Execution -/

/-- What changes while a task is executed. -/
structure Scene (σ : Type) where
  files : File.Tree
  clock : Clock
  machine : σ

/-- Executes a task.  Only a download can be interrupted, and only its transfer takes
events. -/
def NetworkTask.execute {σ : Type} (task : NetworkTask) (c : Config) (m : Machine σ)
    (interrupted : Bool) (events : List Download.Event) (s : Scene σ) :
    Except Fault (Outcome × Scene σ) :=
  match task.accessType with
  | .ping => do
      let (r, clock, machine) ← Ping.probe c.ping m.execute task.address s.clock s.machine
      return (.ping r, { s with clock, machine })
  | .connect => do
      let (r, clock, machine) ←
        Connect.probe c.connect m.lookup m.connect task.address task.port s.clock s.machine
      return (.connect r, { s with clock, machine })
  | .download =>
      let (r, files, clock, machine) :=
        Download.probe c.download m.peer task.identity task.address interrupted events s.files
          s.clock s.machine
      return (.download r, { files, clock, machine })

end Reachability

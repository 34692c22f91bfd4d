/-
# Running requests

A command becomes a task, the task is executed, and its outcome is shown.  A task that is not
kept in a database lives only as long as its probe.

Main definitions:

* `Cli.Surroundings` : what a command finds;
* `Cli.Assignment`, `Cli.Command.assignment` : the task of a command;
* `Cli.Command.run` : the outcome of a command;
* `Cli.respond` : what the program prints for its arguments, and how it exits.
-/
import Reachability.Cli.Arguments
import Reachability.Cli.Failure
import Reachability.Cli.Logging
import Reachability.Config.File
import Reachability.Probe.Execution
import Reachability.Probe.Report
import Reachability.Task.Registry
import Reachability.Task.Storage

namespace Reachability.Cli

/-! ## Tasks -/

/-- What a command finds; `σ` is what the machine remembers. -/
structure Surroundings (σ : Type) where
  storage : Storage := {}
  /-- The directory for temporary files. -/
  temporary : RawText := "/tmp"
  supply : IdentitySupply
  clock : Clock
  machine : Machine σ
  state : σ

/-- A task with what its store says about tasks. -/
structure Assignment where
  task : NetworkTask
  read : TaskId → Except Error (Option TaskRecord)

/-- The key of a task that only lives as long as its probe. -/
def briefTaskId : TaskId := 1

/-- A running task that only lives as long as its probe. -/
def briefTask (budget : UInt32) (supply : IdentitySupply) (kind : AccessType) (address : String)
    (port : UInt16) : Except Failure Assignment := do
  let (identity, _) := Registry.empty.drawUnused budget supply
  let task : NetworkTask :=
    ⟨briefTaskId, ← identity.mapError .identity, kind, address, port, 0, true⟩
  let registry := Registry.empty.insert task.record
  return ⟨task, fun id => .ok (registry.read? id)⟩

/-- The task of a download out of a database, with another URL. -/
def keptTask (storage : Storage) (budget : UInt32) (path : String) (id : TaskId) (url : String) :
    Except Failure Assignment := do
  let db ← (storage.openDatabase path budget).mapError fun e =>
    .openDatabase path (TaskDatabase.refused e)
  match ← (db.load id).mapError .loadTask with
  | none => throw (.taskNotFound id path)
  | some task =>
      if task.accessType = .download then return ⟨{ task with address := url }, db.read⟩
      else throw (.otherKind id task.accessType)

/-- The task of a command. -/
def Command.assignment (command : Command) (storage : Storage) (budget : UInt32)
    (supply : IdentitySupply) : Except Failure Assignment :=
  match command with
  | .ping address => briefTask budget supply .ping address 0
  | .connect address port => briefTask budget supply .connect address port
  | .download r =>
      match r.database, r.taskId with
      | some path, some id => keptTask storage budget path id r.url
      | _, _ => briefTask budget supply .download r.url 0

/-! ## Outcomes -/

/-- The task of a command and its outcome, with the files as they are after it. -/
def Command.run {σ : Type} (command : Command) (c : Config) (s : Surroundings σ) :
    Except Fault (Except Failure (NetworkTask × Outcome × File.Tree)) :=
  let c := command.configure c
  match command.assignment s.storage c.identity.retryBudget s.supply with
  | .error failure => .ok (.error failure)
  | .ok ⟨task, _⟩ => do
      let (outcome, scene) ←
        task.execute c s.machine false [] ⟨s.storage.files, s.clock, s.state⟩
      return .ok (task, outcome, scene.files)

/-! ## Notes -/

/-- The note with which every run starts. -/
def startNote : Note := ⟨.info, "netkeeper CLI starting"⟩

/-- What is noted about a failure. -/
def Failure.notes : Failure → List Note
  | .identity (.identityExhausted budget) =>
      [⟨.warn, "Identity retry budget of " ++ Decimal.ofNat budget ++ " exhausted"⟩]
  | _ => []

/-- What is noted about a task and its outcome. -/
def outcomeNotes (task : NetworkTask) (outcome : Outcome) : List Note :=
  let stopped := if task.running then [] else
    [⟨.warn, "Task " ++ Decimal.ofInt task.id.toInt ++
      " is not running, the download will stop at the first poll"⟩]
  let started := match outcome with
    | .ping r => r.aggregate.lastError.toList.map fun e =>
        ⟨.warn, "Ping probe cannot start: " ++ e.message⟩
    | _ => []
  stopped ++ started

/-! ## The program -/

/-- What the program prints, and how it exits. -/
structure Response where
  exit : UInt8
  output : String := ""
  /-- The lines of the standard error. -/
  errors : List String := []
  files : File.Tree

/-- The name of the program with its version. -/
def versionText : String := "netkeeper 0.1.0\n"

/-- What is said about a probe that failed. -/
def failedText : String := "Probe failed"

/-- How the program is called. -/
def helpText : String :=
  "Ping, connect and download probes for monitoring tasks

Usage: netkeeper [OPTIONS] <COMMAND>

Commands:
  ping <ADDRESS>            Ping a host with the system ping command
  connect <ADDRESS> <PORT>  Open TCP connections to a port
  download <URL>            Download a URL, aborting if the owning task stops

Options:
  -c, --config <FILE>  Configuration file (.json, .toml or .yaml)
  -v, --verbose        Verbose output
  -q, --quiet          Quiet mode
      --json           Print the result as JSON
  -h, --help           Print help
  -V, --version        Print version

Options of download:
      --db <PATH>      SQLite task database the download belongs to
      --task-id <ID>   Task id inside the database
      --dir <DIR>      Directory to store the file in
      --keep           Keep the file after the transfer
      --no-redirects   Do not follow redirects
"

/-- The response to arguments that make no request. -/
def Stop.response (s : Stop) (files : File.Tree) : Response :=
  match s with
  | .help => { exit := 0, output := helpText, files }
  | .version => { exit := 0, output := versionText, files }
  | .misuse => { exit := 2, errors := ["error: invalid usage, try '--help'"], files }

/-- The bytes of the file at a path. -/
def fileContent? (files : File.Tree) (path : RawText) : Option (List UInt8) :=
  match files.find path with
  | .ok (.file _ content) => some content
  | _ => none

/-- The configuration that the options ask for, if any. -/
def Options.loadConfig (o : Options) (temporary : RawText) (files : File.Tree) :
    Except Failure (Option Config) :=
  match o.config with
  | none => .ok none
  | some path =>
      ((Config.load temporary path (fileContent? files path)).map some).mapError
        (.configuration path)

/-- The outcome as it is printed. -/
def Options.show (o : Options) (outcome : Outcome) : String :=
  if o.json then Json.pretty outcome.toDocument ++ "\n" else outcome.report

/-- The response to a request.  A computation that runs into its limits ends the program. -/
def Request.respond {σ : Type} (r : Request) (s : Surroundings σ) : Response :=
  let files := s.storage.files
  match r.options.loadConfig s.temporary files with
  | .error failure => { exit := 1, errors := failure.lines, files }
  | .ok config =>
      let logged (notes : List Note) : List String :=
        logLines (startNote :: notes) r.options (config.map Config.logging)
      match r.command.run (config.getD (.default s.temporary)) s with
      | .error fault => { exit := 101, errors := logged [] ++ [fault.message], files }
      | .ok (.error failure) =>
          { exit := 1, errors := logged failure.notes ++ failure.lines, files }
      | .ok (.ok (task, outcome, files)) =>
          let failed := !outcome.isSuccess
          let remark := if failed && !r.options.quiet && !r.options.json then [failedText] else []
          { exit := if failed then 2 else 0
            output := r.options.show outcome
            errors := logged (outcomeNotes task outcome) ++ remark
            files }

/-- The response of the program to its arguments. -/
def respond {σ : Type} (args : List String) (s : Surroundings σ) : Response :=
  match read args with
  | .stop reason => reason.response s.storage.files
  | .request r => r.respond s

end Reachability.Cli

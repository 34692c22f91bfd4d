/-
# Arguments

The arguments of the program, read from left to right.  Options may stand before the verb and
behind it; some belong to one verb only.  What is wrong with the arguments is not told apart.

Main definitions:

* `Cli.Verb`, `Cli.Flag` : the words for commands and the options;
* `Cli.Given` : what has been read on one side of the verb;
* `Cli.Reading` : what the arguments come to, and `Cli.read`.
-/
import Reachability.Cli.Request
import Reachability.Number.Decimal
import Reachability.Text.Split

namespace Reachability.Cli

/-! ## Verbs and options -/

/-- The words for commands. -/
inductive Verb
  | ping
  | connect
  | download
deriving DecidableEq, Repr

namespace Verb

/-- All verbs. -/
def all : List Verb := [ping, connect, download]

/-- The word itself. -/
def name : Verb → String
  | ping => "ping"
  | connect => "connect"
  | download => "download"

/-- The verb of a name. -/
def ofName? (name : String) : Option Verb := all.find? (·.name = name)

/-- How many targets it takes. -/
def arity : Verb → Nat
  | ping => 1
  | connect => 2
  | download => 1

end Verb

/-- The options. -/
inductive Flag
  | config
  | verbose
  | quiet
  | json
  | help
  | version
  | database
  | taskId
  | directory
  | keep
  | noRedirects
deriving DecidableEq, Repr

namespace Flag

/-- All options. -/
def all : List Flag :=
  [config, verbose, quiet, json, help, version, database, taskId, directory, keep, noRedirects]

/-- The name behind two dashes. -/
def long : Flag → String
  | config => "config"
  | verbose => "verbose"
  | quiet => "quiet"
  | json => "json"
  | help => "help"
  | version => "version"
  | database => "db"
  | taskId => "task-id"
  | directory => "dir"
  | keep => "keep"
  | noRedirects => "no-redirects"

/-- The letter behind one dash. -/
def short? : Flag → Option Char
  | config => some 'c'
  | verbose => some 'v'
  | quiet => some 'q'
  | help => some 'h'
  | version => some 'V'
  | _ => none

/-- Whether a value belongs to it. -/
def takesValue : Flag → Bool
  | config => true
  | database => true
  | taskId => true
  | directory => true
  | _ => false

/-- Whether it may be given behind a verb, or before any. -/
def isAllowed (f : Flag) (verb : Option Verb) : Bool :=
  match f with
  | version => verb.isNone
  | database => verb == some .download
  | taskId => verb == some .download
  | directory => verb == some .download
  | keep => verb == some .download
  | noRedirects => verb == some .download
  | _ => true

/-- The option of a name. -/
def ofLong? (verb : Option Verb) (name : List Char) : Option Flag :=
  all.find? fun f => f.isAllowed verb && f.long.toList == name

/-- The option of a letter. -/
def ofShort? (verb : Option Verb) (letter : Char) : Option Flag :=
  all.find? fun f => f.isAllowed verb && f.short? == some letter

end Flag

/-! ## Values -/

/-- The integer of digits behind at most one sign. -/
def integer? : List Char → Option Int
  | '-' :: digits => natural? digits |>.map fun n => -(n : Int)
  | '+' :: digits => natural? digits |>.map Int.ofNat
  | digits => natural? digits |>.map Int.ofNat
where
  /-- The number of digits. -/
  natural? (digits : List Char) : Option Nat :=
    if !digits.isEmpty && digits.all Char.isDigit then some (Decimal.value digits) else none

/-- The key of a task. -/
def taskId? (text : String) : Option TaskId := do
  let i ← integer? text.toList
  if Int64.minValue.toInt ≤ i ∧ i ≤ Int64.maxValue.toInt then some (Int64.ofInt i) else none

/-- The number of a port. -/
def portNumber? (text : String) : Option UInt16 := do
  let i ← integer? text.toList
  if 0 ≤ i ∧ i < UInt16.size then some (UInt16.ofNat i.toNat) else none

/-! ## One side of the verb -/

/-- Why the reading of arguments ends before the last one. -/
inductive Stop
  | help
  | version
  | misuse
deriving DecidableEq, Repr

/-- What has been read on one side of the verb. -/
structure Given where
  /-- The options with their values, empty for an option without one. -/
  flags : List (Flag × String) := []
  targets : List String := []
deriving DecidableEq, Repr

namespace Given

/-- The value of an option. -/
def value? (g : Given) (f : Flag) : Option String := g.flags.lookup f

/-- Whether an option is given. -/
def has (g : Given) (f : Flag) : Bool := (g.value? f).isSome

/-- How often an option is given. -/
def times (g : Given) (f : Flag) : Nat := (g.flags.filter (·.1 = f)).length

/-- Whether an option allows a value. -/
def allows (f : Flag) (value : String) : Bool :=
  match f with
  | .taskId => (taskId? value).isSome
  | _ => !f.takesValue || value ≠ ""

/-- Adds an option.  Only the one for more output may be given again. -/
def give (g : Given) (f : Flag) (value : String) : Except Stop Given :=
  match f with
  | .help => .error .help
  | .version => .error .version
  | _ =>
      if !allows f value || (f ≠ .verbose && g.has f) then .error .misuse
      else .ok { g with flags := g.flags ++ [(f, value)] }

/-- Adds a target. -/
def target (g : Given) (verb : Verb) (value : String) : Except Stop Given :=
  let isPort := verb = .connect && g.targets.length = 1
  if verb.arity ≤ g.targets.length || (isPort && (portNumber? value).isNone) then .error .misuse
  else .ok { g with targets := g.targets ++ [value] }

end Given

/-! ## Single arguments -/

/-- What one argument says. -/
inductive Word
  /-- Options without values, then one whose value is the next argument, if there is one. -/
  | flags (complete : List (Flag × String)) (open? : Option Flag)
  /-- What follows are targets. -/
  | onlyTargets
  | target (value : String)
  /-- Options without values, then one that there is not. -/
  | unknown (complete : List (Flag × String))
deriving DecidableEq, Repr

/-- The options behind one dash. -/
def letters (verb : Option Verb) : List Char → Word
  | [] => .flags [] none
  | c :: cs =>
      match Flag.ofShort? verb c with
      | none => .unknown []
      | some f =>
          if f.takesValue then
            match cs with
            | [] => .flags [] (some f)
            | '=' :: value => .flags [(f, String.ofList value)] none
            | value => .flags [(f, String.ofList value)] none
          else
            match letters verb cs with
            | .flags complete last => .flags ((f, "") :: complete) last
            | .unknown complete => .unknown ((f, "") :: complete)
            | word => word

/-- The option behind two dashes. -/
def longOption (verb : Option Verb) (cs : List Char) : Word :=
  let (name, value) : List Char × Option (List Char) := match Text.cutFirst? '=' cs with
    | some (name, value) => (name, some value)
    | none => (cs, none)
  match Flag.ofLong? verb name, value with
  | none, _ => .unknown []
  | some f, some value =>
      if f.takesValue then .flags [(f, String.ofList value)] none else .unknown []
  | some f, none => if f.takesValue then .flags [] (some f) else .flags [(f, "")] none

/-- What one argument says. -/
def Word.of (verb : Option Verb) (arg : String) : Word :=
  match arg.toList with
  | ['-', '-'] => .onlyTargets
  | '-' :: '-' :: cs => longOption verb cs
  | ['-'] => .target arg
  | '-' :: cs => letters verb cs
  | _ => .target arg

/-- Whether an argument can be the value of the option before it. -/
def isValue (arg : String) : Bool :=
  match arg.toList with
  | ['-'] => true
  | '-' :: _ => false
  | _ => true

/-- Adds options one after the other. -/
def giveAll (g : Given) (flags : List (Flag × String)) : Except Stop Given :=
  flags.foldlM (fun g (f, value) => g.give f value) g

/-! ## All arguments -/

/-- Reads the arguments behind a verb. -/
def readBehind (verb : Verb) (g : Given) : List String → Except Stop Given
  | [] => .ok g
  | arg :: rest =>
      match Word.of (some verb) arg with
      | .onlyTargets => rest.foldlM (fun g value => g.target verb value) g
      | .target value => do readBehind verb (← g.target verb value) rest
      | .unknown flags => do
          let _ ← giveAll g flags
          throw .misuse
      | .flags flags none => do readBehind verb (← giveAll g flags) rest
      | .flags flags (some f) => do
          let g ← giveAll g flags
          match rest with
          | value :: rest =>
              if isValue value then readBehind verb (← g.give f value) rest else throw .misuse
          | [] => throw .misuse

/-- What becomes of the names behind the verb for help: there is help for each verb and for
itself. -/
def readHelp : List String → Stop
  | [] => .help
  | [name] => if (Verb.ofName? name).isSome || name = "help" then .help else .misuse
  | _ => .misuse

/-- Reads the arguments up to the verb, and those behind it. -/
def readBefore (g : Given) : List String → Except Stop (Given × Verb × Given)
  | [] => .error .misuse
  | arg :: rest =>
      match Word.of none arg with
      | .onlyTargets => .error .misuse
      | .target name =>
          match Verb.ofName? name with
          | some verb => do return (g, verb, ← readBehind verb {} rest)
          | none => .error (if name = "help" then readHelp rest else .misuse)
      | .unknown flags => do
          let _ ← giveAll g flags
          throw .misuse
      | .flags flags none => do readBefore (← giveAll g flags) rest
      | .flags flags (some f) => do
          let g ← giveAll g flags
          match rest with
          | value :: rest =>
              if isValue value then readBefore (← g.give f value) rest else throw .misuse
          | [] => throw .misuse

/-! ## Requests -/

/-- The options of both sides; where both give one, the side behind the verb counts. -/
def optionsOf (before behind : Given) : Options where
  config := (behind.value? .config).or (before.value? .config)
  verbosity :=
    if behind.has .verbose then behind.times .verbose else before.times .verbose
  quiet := before.has .quiet || behind.has .quiet
  json := before.has .json || behind.has .json

/-- The command of a verb.  A database and a task are given together or not at all. -/
def commandOf (verb : Verb) (g : Given) : Option Command :=
  match verb, g.targets with
  | .ping, [address] => some (.ping address)
  | .connect, [address, port] => (portNumber? port).map (.connect address)
  | .download, [url] =>
      if g.has .database != g.has .taskId then none
      else some (.download
        { url
          database := g.value? .database
          taskId := (g.value? .taskId).bind taskId?
          directory := g.value? .directory
          keep := g.has .keep
          noRedirects := g.has .noRedirects })
  | _, _ => none

/-- What the arguments come to. -/
inductive Reading
  | request (r : Request)
  | stop (s : Stop)
deriving DecidableEq, Repr

/-- Reads the arguments. -/
def read (args : List String) : Reading :=
  match readBefore {} args with
  | .error s => .stop s
  | .ok (before, verb, behind) =>
      match commandOf verb behind with
      | some command => .request ⟨optionsOf before behind, command⟩
      | none => .stop .misuse

end Reachability.Cli

/-
# Running scripts

Main definitions:

* `Shell.Builtin.run?` : the commands that a shell carries out on its own;
* `Shell.run` : what a script does to a session;
* `Shell.start` : a shell that is called with arguments.
-/
import Reachability.Process.Shell.Reader
import Reachability.Process.Shell.Session

namespace Reachability.Shell

/-! ## Signals -/

/-- The signals that end a process, by their names. -/
def signals : List (String × Nat) :=
  [("HUP", 1), ("INT", 2), ("QUIT", 3), ("ABRT", 6), ("KILL", 9), ("USR1", 10), ("SEGV", 11),
   ("USR2", 12), ("PIPE", 13), ("ALRM", 14), ("TERM", 15)]

/-- The signal that a name or a number stands for. -/
def signal? (text : List Char) : Option Nat :=
  if !text.isEmpty && text.all Char.isDigit then some (Decimal.value text)
  else
    let name := (Text.after? "SIG".toList text).getD text
    signals.lookup (String.ofList name)

/-- The signal that the arguments of `kill` ask for, and the processes. -/
def killArguments : List (List Char) → Option Nat × List (List Char)
  | ['-', 's'] :: name :: rest => (signal? name, rest)
  | ('-' :: name) :: rest => (signal? name, rest)
  | rest => (some 15, rest)

/-! ## Commands of the shell itself -/

/-- The number that an argument stands for, one if there is none. -/
def turns (args : List (List Char)) : Nat := (args.head?.map Decimal.value).getD 1

namespace Builtin

/-- Sends a signal to the process itself, the only one that is known. -/
def kill (line : Nat) (args : List (List Char)) (s : Session) : Session :=
  match killArguments args with
  | (none, _) => s.complain line "kill: invalid signal" 2
  | (some signal, targets) =>
      if targets ≠ [Scope.processNumber] then s.complain line "kill: No such process" 1
      else if signal = 0 then s.withStatus 0
      else s.stop (.killed signal)

/-- Reads a line into a variable. -/
def read (args : List (List Char)) (s : Session) : Session :=
  let line := s.input.takeWhile (· ≠ 10)
  let found := line.length < s.input.length
  let text := (Utf8.decodeLossy line).dropWhile Scope.Fields.isSeparator
  let name := (args.filter (· ≠ ['-', 'r'])).headD ['R']
  let scope := s.scope.set name text
  ({ s with scope, input := s.input.drop (line.length + 1) }).withStatus (if found then 0 else 1)

/-- The arguments of `set`: those behind its options, if there are any. -/
def positional? : List (List Char) → Option (List (List Char))
  | [] => none
  | ['-', '-'] :: rest => some rest
  | arg :: rest => if arg.head? = some '-' then positional? rest else some (arg :: rest)

/-- A command that the shell carries out without running anything. -/
def run? (line : Nat) (name : String) (args : List (List Char)) (s : Session) :
    Option Session :=
  match name with
  | ":" => some (s.withStatus 0)
  | "exit" => some (s.stop (.exited ((args.head?.map Decimal.value).getD s.scope.status % 256)))
  | "kill" => some (kill line args s)
  | "read" => some (read args s)
  | "break" => some ((s.withStatus 0).stop (.breaks (turns args)))
  | "continue" => some ((s.withStatus 0).stop (.continues (turns args)))
  | "wait" => some { s.withStatus 0 with time := max s.time s.lingering }
  | "set" => some (match positional? args with
      | some arguments => { s.withStatus 0 with scope := { s.scope with arguments, status := 0 } }
      | none => s.withStatus 0)
  | "shift" =>
      let arguments := s.scope.arguments.drop (turns args)
      some { s with scope := { s.scope with arguments, status := 0 } }
  | "unset" =>
      let bindings := s.scope.bindings.filter fun (name, _) => !args.contains name
      some { s with scope := { s.scope with bindings, status := 0 } }
  | "export" =>
      let set (scope : Scope) (arg : List Char) : Scope :=
        match Text.cutFirst? '=' arg with
        | some (name, value) => (scope.set name value).passOn name
        | none => scope.passOn arg
      some { s with scope := { args.foldl set s.scope with status := 0 } }
  | "trap" => some (s.withStatus 0)
  | "cd" => some (s.withStatus 0)
  | _ => none

/-- The programs that a shell has in a form of its own. -/
def program? (label : String) (name : String) :
    Option (List String → List UInt8 → Program.Finished) :=
  match name with
  | "echo" => some fun args _ => Program.echoEscaped args
  | "printf" => some fun args _ => Program.printf (label ++ "printf") args
  | "test" => some fun args _ => Program.tested (label ++ "test") args
  | "[" => some fun args _ =>
      if args.getLast? = some "]" then Program.tested (label ++ "[") args.dropLast
      else Program.complains (label ++ "[: missing ]") 2
  | _ => none

end Builtin

/-! ## Programs -/

/-- The name of a program without the directories that programs are kept in. -/
def programName (path : String) : String :=
  let cs := path.toList
  String.ofList (((Text.after? "/usr/bin/".toList cs).or (Text.after? "/bin/".toList cs)).getD cs)

/-- Whether a name stands for the shell. -/
def isShell (name : String) : Bool := name == "sh" || name == "dash"

/-- A call of a shell: its script, the name that it goes by, and its arguments. -/
structure Call where
  script : List Char
  name : List Char
  arguments : List (List Char) := []
deriving DecidableEq, Repr

/-- The call that arguments make of a shell, or the complaint about them.  Without arguments the
script is the input. -/
def Call.of (shell : List Char) (args : List (List Char)) (input : List UInt8) :
    Except String Call :=
  match args with
  | [] => .ok ⟨Utf8.decodeLossy input, shell, []⟩
  | ['-', 'c'] :: script :: name :: arguments => .ok ⟨script, name, arguments⟩
  | ['-', 'c'] :: script :: [] => .ok ⟨script, shell, []⟩
  | ['-', 'c'] :: [] => .error (String.ofList shell ++ ": 0: -c requires an argument\n")
  | path :: _ =>
      let name := String.ofList path
      .error (String.ofList shell ++ ": 0: cannot open " ++ name ++ ": No such file\n")

/-! ## Substitution -/

/-- What a script writes, without the line ends at its end. -/
def capture (run : Script → Session → Session) (text : List Char) (s : Session) :
    List Char × Session :=
  match Script.parse? text with
  | none => ([], (s.complain 1 "Syntax error" 2).stop (.exited 2))
  | some script =>
      let channel := s.opened + 1
      let part := run script { s with output := channel, opened := channel }
      let written := (part.contents channel).reverse.dropWhile (· = 10)
      (Utf8.decodeLossy written.reverse, s.after (part.forget channel))

/-- A word with what its scripts write in their place. -/
def substitute (run : Script → Session → Session) (w : Word) (s : Session) : Word × Session :=
  let (w, s) := w.foldl (fun (w, s) part =>
    match part with
    | .output text quoted =>
        let (value, s) := capture run text s
        (.value value quoted :: w, s)
    | part => (part :: w, s)) ([], s)
  (w.reverse, s)

/-- Words with what their scripts write in their places. -/
def substituteAll (run : Script → Session → Session) (ws : List Word) (s : Session) :
    List Word × Session :=
  let (ws, s) := ws.foldl (fun (ws, s) w =>
    let (w, s) := substitute run w s
    (w :: ws, s)) ([], s)
  (ws.reverse, s)

/-! ## Running -/

/-- Runs a call in a shell of its own. -/
def runCall (run : Script → Session → Session) (c : Call) (s : Session) : Session :=
  let scope : Scope :=
    { name := c.name, arguments := c.arguments, bindings := s.scope.exported
      exported := s.scope.exported }
  let inner := { s with scope }
  match Script.parse? c.script with
  | none => s.after (inner.complain 1 "Syntax error" 2)
  | some script =>
      let part := run script inner
      match part.ending with
      | some (.killed signal) => s.after { part with ending := some (.exited (128 + signal)) }
      | _ => s.after part

/-- Runs a command with its arguments; a complaint that there is none starts with the name of
who looked for it. -/
def runCommand (run : Script → Session → Session) (line : Nat) (searcher : String)
    (name : List Char) (args : List (List Char)) (s : Session) : Session :=
  let label := String.ofList s.scope.name ++ ": " ++ Decimal.ofNat line ++ ": "
  let plain := String.ofList name
  match Builtin.run? line plain args s with
  | some s => s
  | none =>
      if plain = "eval" then
        match Script.parse? ([' '].intercalate args) with
        | some script => run script s
        | none => (s.complain line "Syntax error" 2).stop (.exited 2)
      else if isShell (programName plain) then
        match Call.of name args s.input with
        | .ok call => runCall run call s
        | .error message => s.finish { stderr := Program.bytes message, status := 2 }
      else
        match (Builtin.program? label plain).or (Program.find? (programName plain)) with
        | some program => s.finish (program (args.map String.ofList) s.input)
        | none => s.complain line (searcher ++ plain ++ ": not found") 127

/-- Runs the fields of a simple command; `exec` makes it the last one. -/
def runFields (run : Script → Session → Session) (line : Nat) (s : Session) :
    List (List Char) → Session
  | [] => s
  | ['e', 'x', 'e', 'c'] :: name :: args =>
      let s := runCommand run line "exec: " name args s
      match s.ending with
      | none => s.stop (.exited s.scope.status)
      | some _ => s
  | ['e', 'x', 'e', 'c'] :: [] => s.withStatus 0
  | name :: args => runCommand run line "" name args s

/-- Sets variables one after the other. -/
def assign (s : Session) : List (List Char × Word) → Except String Session
  | [] => .ok s
  | (name, w) :: rest => do
      let value ← s.scope.text w
      assign { s with scope := s.scope.set name value } rest

/-- A redirection with another word in it. -/
def Redirection.withWord (r : Redirection) (w : Word) : Redirection :=
  match r with
  | .input _ => .input w
  | .document _ => .document w
  | .output descriptor _ => .output descriptor w
  | .duplicate descriptor _ => .duplicate descriptor w

/-- The word of a redirection. -/
def Redirection.word : Redirection → Word
  | .input w => w
  | .document w => w
  | .output _ w => w
  | .duplicate _ w => w

/-- Runs a simple command. -/
def runSimple (run : Script → Session → Session) (line : Nat)
    (settings : List (List Char × Word)) (words : List Word) (rs : List Redirection)
    (s : Session) : Session :=
  let before := s.scope.status
  let (values, s) := substituteAll run (settings.map (·.2)) s
  let settings := (settings.map (·.1)).zip values
  let (words, s) := substituteAll run words s
  let (targets, s) := substituteAll run (rs.map Redirection.word) s
  let rs := List.zipWith Redirection.withWord rs targets
  if s.ending.isSome then s
  else
    let made : Except String Session := do
      let fields ← s.scope.allFields words
      if fields.isEmpty then
        let substituted := words.isEmpty && values.all fun w => w.all fun
          | .value _ _ => false
          | _ => true
        assign (if substituted then s.withStatus 0 else s) settings
      else
        match s.redirect rs with
        | .error message => return s.complain line message 2
        | .ok inner =>
            let inner ← assign inner settings
            let passed := settings.foldl (fun scope (name, _) => scope.passOn name) inner.scope
            let done := runFields run line ({ inner with scope := passed }.withStatus before) fields
            let done := if settings.isEmpty then done
              else { done with scope := { s.scope with status := done.scope.status } }
            if fields = ["exec".toList] then return done
            else
              let restored := done.restore s
              return if rs.isEmpty then { restored with input := done.input } else restored
    match made with
    | .ok s => s
    | .error message => (s.complain line message 2).stop (.exited 2)

/-- What the end of a turn means for its loop: whether the loop is left, and the session behind
the turn. -/
def turn (s : Session) : Bool × Session :=
  match s.ending with
  | some (.breaks (n + 2)) => (true, { s with ending := some (.breaks (n + 1)) })
  | some (.breaks _) => (true, { s with ending := none })
  | some (.continues (n + 2)) => (true, { s with ending := some (.continues (n + 1)) })
  | some (.continues _) => (false, { s with ending := none })
  | some _ => (true, s)
  | none => (false, s)

/-- What a script does to a session.  A script that takes more steps than there is fuel is one
that nobody waits for. -/
def run : Nat → Script → Session → Session
  | 0, _, s => s.stop .endless
  | fuel + 1, script, s =>
      if s.ending.isSome then s
      else match script with
      | .nothing => s.withStatus 0
      | .simple line settings words rs => runSimple (run fuel) line settings words rs s
      | .sequence first second => run fuel second (run fuel first s)
      | .both first second =>
          let s := run fuel first s
          if s.isWell then run fuel second s else s
      | .either first second =>
          let s := run fuel first s
          if s.isWell then s else run fuel second s
      | .negation script =>
          let s := run fuel script s
          s.withStatus (if s.isWell then 1 else 0)
      | .pipe first second =>
          let channel := s.opened + 1
          let left := run fuel first { s with output := channel, opened := channel }
          let written := left.contents channel
          let between := s.after (left.forget channel)
          if between.ending.isSome then between
          else
            let right := run fuel second { between with input := written, time := s.time }
            between.after right
      | .background script =>
          let part := run fuel script { s with input := [] }
          let whole := s.after part
          { whole.withStatus 0 with time := s.time, lingering := max whole.lingering part.time }
      | .subshell script => s.after (run fuel script s)
      | .redirected script rs =>
          let (targets, s) := substituteAll (run fuel) (rs.map Redirection.word) s
          match s.redirect (List.zipWith Redirection.withWord rs targets) with
          | .ok inner => (run fuel script inner).restore s
          | .error message => s.complain 1 message 2
      | .choice test yes no =>
          let s := run fuel test s
          if s.isWell then run fuel yes s else run fuel no s
      | .loop wanted test body =>
          let before := s.scope.status
          let s := run fuel test s
          if s.ending.isSome then s
          else if s.isWell ≠ wanted then s.withStatus before
          else
            let (left, s) := turn (run fuel body s)
            if left then s else run fuel (.loop wanted test body) s
      | .each name words body =>
          let values : Except String (List (List Char)) × Session := match words with
            | none => (.ok s.scope.arguments, s)
            | some words =>
                let (words, s) := substituteAll (run fuel) words s
                (s.scope.allFields words, s)
          match values with
          | (.error message, s) => (s.complain 1 message 2).stop (.exited 2)
          | (.ok values, s) =>
              values.foldl (fun (left, s) value =>
                if left then (left, s)
                else turn (run fuel body { s with scope := s.scope.set name value }))
                (s.ending.isSome, s.withStatus 0) |>.2

/-! ## Calls -/

/-- The steps after which nobody waits any more. -/
def patience : Nat := 200000

/-- The session of a shell that is called with arguments, from its start to its end. -/
def start (name : List Char) (args : List (List Char)) : Session :=
  let s : Session := { scope := { name, arguments := [] } }
  match Call.of name args [] with
  | .error message => s.finish { stderr := Program.bytes message, status := 2 }
  | .ok call =>
      let s := { s with scope := { name := call.name, arguments := call.arguments } }
      match Script.parse? call.script with
      | some script => run patience script s
      | none => s.complain 1 "Syntax error" 2

end Reachability.Shell

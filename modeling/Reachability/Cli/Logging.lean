/-
# Log lines

What happens is noted with a level; the notes up to the level that is asked for become lines.

Main definitions:

* `Cli.Note` : something that happened;
* `Cli.Options.logLevel` : the level that is asked for;
* `Cli.Note.line?` : the line of a note.
-/
import Reachability.Cli.Request
import Reachability.Document.Json.Printer

namespace Reachability

/-- How much is logged at a level: the higher, the more. -/
def LogLevel.rank : LogLevel → Nat
  | error => 0
  | warn => 1
  | info => 2
  | debug => 3
  | trace => 4

namespace Cli

/-- Something that happened. -/
structure Note where
  level : LogLevel
  text : String
deriving DecidableEq, Repr

/-- The level that is asked for: by the wish for quiet, else by the wish for more output, else
by the configuration; without one only warnings are logged. -/
def Options.logLevel (o : Options) (logging : Option LoggingConfig) : LogLevel :=
  if o.quiet then .error
  else match o.verbosity with
    | 0 => (logging.map LoggingConfig.level).getD .warn
    | 1 => .info
    | 2 => .debug
    | _ => .trace

/-- The line of a note, if it is logged. -/
def Note.line? (n : Note) (level : LogLevel) (format : LogFormat) : Option String :=
  if level.rank < n.level.rank then none
  else some (match format with
    | .human => n.level.name ++ " " ++ n.text
    | .json => Json.compact (.table [("level", .text n.level.name), ("message", .text n.text)]))

/-- The lines of notes. -/
def logLines (notes : List Note) (o : Options) (logging : Option LoggingConfig) : List String :=
  let format := (logging.getD {}).format
  notes.filterMap fun n => n.line? (o.logLevel logging) format

end Cli
end Reachability

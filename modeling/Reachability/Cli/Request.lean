/-
# Requests

What the program can be asked to do.

Main definitions:

* `Cli.Command` : one probe with its target;
* `Cli.Options` : how it is run and shown;
* `Cli.Request` : both together.
-/
import Reachability.Config.Basic
import Reachability.Task.Basic

namespace Reachability.Cli

/-- A download: the URL, and what takes the place of the configuration. -/
structure DownloadRequest where
  url : String
  /-- The database that holds the task of the download. -/
  database : Option String := none
  taskId : Option TaskId := none
  directory : Option String := none
  /-- Whether the file stays after the transfer. -/
  keep : Bool := false
  /-- Whether redirects are not followed. -/
  noRedirects : Bool := false
deriving DecidableEq, Repr

/-- One probe with its target. -/
inductive Command
  | ping (address : String)
  | connect (address : String) (port : UInt16)
  | download (r : DownloadRequest)
deriving DecidableEq, Repr

/-- How a probe is run and shown. -/
structure Options where
  /-- The path of the configuration. -/
  config : Option String := none
  verbosity : Nat := 0
  quiet : Bool := false
  json : Bool := false
deriving DecidableEq, Repr

/-- What the program is asked to do. -/
structure Request where
  options : Options
  command : Command
deriving DecidableEq, Repr

/-- The configuration with what a download puts in its place. -/
def DownloadRequest.configure (r : DownloadRequest) (c : Config) : Config :=
  { c with download := { c.download with
    directory := (r.directory.map RawText.ofText).getD c.download.directory
    deleteAfterDownload := c.download.deleteAfterDownload && !r.keep
    followRedirects := c.download.followRedirects && !r.noRedirects } }

/-- The configuration with what a command puts in its place. -/
def Command.configure : Command → Config → Config
  | .download r, c => r.configure c
  | _, c => c

end Reachability.Cli

/-
# Results of downloads

Everything that was observed during a download.

Main definitions:

* `Download.Result` : the observations;
* `Result.isSuccess`, `Result.isCancelled` : what they come to.
-/
import Reachability.Probe.Error
import Reachability.Time.Duration

namespace Reachability.Download

/-- What was observed during a download. -/
structure Result where
  /-- The last answer was received. -/
  connectSuccess : Bool := false
  /-- The body was read to its end and stored. -/
  transferSuccess : Bool := false
  /-- The file was there after the transfer. -/
  fileExists : Bool := false
  deleteSuccess : Bool := false
  /-- The flags that the monitor published last. -/
  valid : Bool := true
  stopped : Bool := false
  /-- The status of every answer, in order. -/
  httpCodes : List UInt16 := []
  httpMessages : List String := []
  /-- Notes on redirects that were not followed. -/
  diagnostics : List String := []
  fileName : Option String := none
  /-- The URL as it was given, or the one that gave the last answer. -/
  url : String
  bytesTransferred : UInt64 := 0
  duration : Duration := .zero
  error : Option ProbeError := none
deriving DecidableEq, Repr

namespace Result

/-- Whether the download is complete. -/
def isSuccess (r : Result) : Bool := r.connectSuccess && r.transferSuccess && r.error.isNone

/-- Whether the download was ended early: by a change of its task or by the caller. -/
def isCancelled (r : Result) : Bool :=
  !r.transferSuccess && (!r.valid || r.stopped || r.error == some .interrupted)

end Result
end Reachability.Download

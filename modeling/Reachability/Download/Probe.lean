/-
# The download probe

A download asks for its URL, follows redirects, and stores the body of the last answer.

Main definitions:

* `Download.connect` : the way to the last answer;
* `Transfer.start` : the transfer of its body;
* `Download.probe` : the whole download, with the time that it took.
-/
import Reachability.Config.Basic
import Reachability.Download.Result
import Reachability.Download.Trail
import Reachability.Download.Transfer
import Reachability.Time.Clock

namespace Reachability.Download

open Http

/-! ## The last answer -/

/-- The result with what a trail shows. -/
def Result.withTrail (r : Result) (t : Trail) : Result :=
  { r with httpCodes := t.codes, httpMessages := t.messages, diagnostics := t.notes }

/-- Asks for a URL: the result so far, and the answer to store or `none` after an error. -/
def connect {σ : Type} (c : DownloadConfig) (ask : Peer σ) (text : String) (peer : σ)
    (join : Redirect.Joining := Url.join) : Result × Option Goal × σ :=
  let r : Result := { url := text }
  match Url.parse text with
  | .error e => ({ r with error := some (.invalidUrl e.message) }, none, peer)
  | .ok place =>
      let chain := Redirect.Chain.start c.followRedirects c.maxRedirects
      match walk ask chain place {} peer join with
      | (trail, .error e, peer) => ({ r.withTrail trail with error := some e }, none, peer)
      | (trail, .ok goal, peer) =>
          let r := { r.withTrail trail with connectSuccess := true, url := goal.place.text }
          if goal.response.status.isSuccess then (r, some goal, peer)
          else ({ r with error := some (.http goal.response.statusLine) }, none, peer)

/-! ## The body -/

/-- The transfer of the body of an answer. -/
def Transfer.start (c : DownloadConfig) (identity : Identity) (goal : Goal)
    (interrupted : Bool) : Transfer :=
  { directory := ⟨c.directory⟩
    place := goal.place
    disposition := goal.response.disposition.bind HeaderValue.text?
    contentType := goal.response.contentType.bind HeaderValue.text?
    identity
    pieceSize := max c.chunkSize.toNat 1
    pieceSize_pos := by omega
    deletes := c.deleteAfterDownload
    interrupted }

/-- The result with what a transfer shows. -/
def Result.withTransfer (r : Result) (t : Transfer) : Result :=
  { r with
    transferSuccess := t.success
    fileExists := t.fileExists
    deleteSuccess := t.deleteSuccess
    valid := t.flags.valid
    stopped := t.flags.stopped
    fileName := t.name
    bytesTransferred := UInt64.ofNat t.transferred
    error := t.error }

/-! ## The probe -/

/-- Downloads a URL, with the events of the transfer and whether the caller has given up
before: the result, the files, the clock and the peer. -/
def probe {σ : Type} (c : DownloadConfig) (ask : Peer σ) (identity : Identity) (text : String)
    (interrupted : Bool) (events : List Event) (tree : File.Tree) (clock : Clock) (peer : σ) :
    Result × File.Tree × Clock × σ :=
  let (start, clock) := clock.now
  let (r, goal, peer) := connect c ask text peer
  let (r, tree) := match goal with
    | some goal =>
        let (t, tree) := (Transfer.start c identity goal interrupted).run tree events
        (r.withTransfer t, tree)
    | none => (r, tree)
  let (finish, clock) := clock.now
  ({ r with duration := Instant.elapsed start finish }, tree, clock, peer)

end Reachability.Download

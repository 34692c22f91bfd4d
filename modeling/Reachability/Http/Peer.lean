/-
# Peers

The other side of a transfer: it is asked for a URL and replies, or the request fails.

Main definitions:

* `Http.Reply`, `Http.Peer` : what requests come to;
* `Http.Trouble`, with `Http.requestError` and `Http.bodyError` : what goes wrong on the way;
* `Http.unreachable` : the peer of a machine without a network.
-/
import Reachability.Http.Message
import Reachability.Probe.Error
import Reachability.Url.Basic

namespace Reachability.Http

/-- What a request comes to. -/
inductive Reply
  | response (r : Response)
  | failure (e : ProbeError)
deriving DecidableEq, Repr

/-- What is asked for URLs; `σ` is what it remembers. -/
abbrev Peer (σ : Type) := Url → σ → Reply × σ

/-! ## Troubles -/

/-- What goes wrong on the way to a peer or back. -/
structure Trouble where
  /-- The peer took too long. -/
  timedOut : Bool
  text : String
deriving DecidableEq, Repr

/-- The error of a request that gets no answer. -/
def requestError (t : Trouble) : ProbeError := if t.timedOut then .timeout else .http t.text

/-- The error of a body that breaks off. -/
def bodyError (t : Trouble) : ProbeError :=
  .ofFailure { kind := if t.timedOut then .timedOut else .other, message := some t.text }

/-- The trouble with a request that could not be sent.  It does not show who asked. -/
def sendingTrouble (u : Url) : Trouble :=
  ⟨false, "error sending request for url (" ++ u.withoutUser.text ++ ")"⟩

/-- The trouble with a request that cannot be made for the scheme of a URL. -/
def schemeTrouble (u : Url) : Trouble :=
  ⟨false, "builder error for url (" ++ u.withoutUser.text ++ ")"⟩

/-- The peer of a machine without a network: no request can be sent. -/
def unreachable : Peer Unit := fun u _ =>
  let trouble := if Url.isTransferScheme u.scheme then sendingTrouble u else schemeTrouble u
  (.failure (requestError trouble), ())

end Reachability.Http

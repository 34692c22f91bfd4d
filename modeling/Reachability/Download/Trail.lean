/-
# Trails

The way from the URL of a download to the answer that is to be stored: every answer that
names another place is followed there.

Main definitions:

* `Download.Trail` : the URLs that were asked and what they answered;
* `Download.walk` : follows the answers up to the last one.
-/
import Reachability.Http.Peer
import Reachability.Http.Redirect

namespace Reachability.Download

open Http

/-- The URLs that were asked, and the answers, in order. -/
structure Trail where
  requested : List Url := []
  codes : List UInt16 := []
  messages : List String := []
  /-- Notes on redirects that were not followed. -/
  notes : List String := []
deriving DecidableEq, Repr

namespace Trail

/-- The trail with one more request. -/
def ask (t : Trail) (place : Url) : Trail := { t with requested := t.requested ++ [place] }

/-- The trail with one more answer. -/
def answer (t : Trail) (r : Response) : Trail :=
  { t with codes := t.codes ++ [r.status.code], messages := t.messages ++ [r.phrase] }

/-- The trail with one more note. -/
def note (t : Trail) (problem : Redirect.Problem) : Trail :=
  { t with notes := t.notes ++ [problem.note] }

end Trail

/-- Where a trail ends: the URL that gave the last answer, and the answer. -/
structure Goal where
  place : Url
  response : Response
deriving DecidableEq, Repr

/-- A redirect that is followed leaves one less to follow. -/
theorem left_lt_of_follow {c c' : Redirect.Chain} {place target : Url} {status : Status}
    {location : Option HeaderValue} {join : Redirect.Joining}
    (h : c.next place status location join = (c', .follow target)) : c'.left < c.left := by
  unfold Redirect.Chain.next at h
  split at h
  · simp at h
  · split at h
    · rename_i hlt
      split at h
      · simp only [Prod.mk.injEq] at h
        obtain ⟨rfl, _⟩ := h
        rw [UInt32.lt_iff_toNat_lt] at hlt
        have := c.limit.toNat_lt
        simp only [Redirect.Chain.left, UInt32.toNat_add, UInt32.toNat_one]
        omega
      · simp at h
    · simp at h

/-- Asks a place, and then the places that the answers name, until one is the last. -/
def walk {σ : Type} (ask : Peer σ) (chain : Redirect.Chain) (place : Url) (trail : Trail)
    (peer : σ) (join : Redirect.Joining := Url.join) : Trail × Except ProbeError Goal × σ :=
  let trail := trail.ask place
  match ask place peer with
  | (.failure e, peer) => (trail, .error e, peer)
  | (.response r, peer) =>
      let trail := trail.answer r
      match _h : chain.next place r.status r.location join with
      | (chain, .follow target) => walk ask chain target trail peer join
      | (_, .final) => (trail, .ok ⟨place, r⟩, peer)
      | (_, .rejected problem) => (trail.note problem, .ok ⟨place, r⟩, peer)
termination_by chain.left
decreasing_by exact left_lt_of_follow (by assumption)

end Reachability.Download

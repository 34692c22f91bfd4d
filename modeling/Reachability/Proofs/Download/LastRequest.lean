/-
# The last request

A walk comes to what its last exchange comes to: the answer with the place that gave it, or the
error.  The URL that a result shows is that of the last request if the request was answered.  If
it failed, the result goes back to the text that was given, however far the walk had come.

Main definitions:

* `Exchange.outcome` : what a walk comes to that ends with an exchange.

Main results:

* `outcome_walk` : the outcome of a walk is that of its last exchange;
* `url_of_answered_request` : the URL that a result shows;
* `url_forgets_redirect` : a result that does not show the URL of the last request.
-/
import Reachability.Proofs.Download.Trail

namespace Reachability.Download

open Http Redirect

/-- What a walk comes to that ends with an exchange. -/
def Exchange.outcome (e : Exchange) : Except ProbeError Goal :=
  match e.reply with
  | .response r => .ok ⟨e.place, r⟩
  | .failure problem => .error problem

section Walk

variable {σ : Type}

/-- The outcome of a walk is that of its last exchange. -/
theorem outcome_walk (ask : Peer σ) (join : Joining) (c : Chain) (place : Url) (trail : Trail)
    (peer : σ) (log : List Exchange) :
    ∃ e, (walk (recorded ask) c place trail (peer, log) join).2.2.2.getLast? = some e ∧
      (walk (recorded ask) c place trail (peer, log) join).2.1 = e.outcome := by
  -- the induction is on the redirects that may still be followed, as the walk is
  induction hleft : c.left using Nat.strong_induction_on generalizing c place trail peer log with
  | _ n ih =>
    obtain ⟨reply, peer', asked⟩ : ∃ reply peer', ask place peer = (reply, peer') := ⟨_, _, rfl⟩
    have remembered : recorded ask place (peer, log) = (reply, peer', log ++ [⟨place, reply⟩]) :=
      recorded_eq asked
    cases reply with
    | failure problem =>
      refine ⟨⟨place, .failure problem⟩, ?_, ?_⟩
      · rw [walk_of_failure remembered, List.getLast?_concat]
      · rw [walk_of_failure remembered]
        rfl
    | response r =>
      obtain ⟨c', decision, next⟩ :
          ∃ c' decision, c.next place r.status r.location join = (c', decision) := ⟨_, _, rfl⟩
      cases decision with
      | final =>
        refine ⟨⟨place, .response r⟩, ?_, ?_⟩
        · rw [walk_of_final remembered next, List.getLast?_concat]
        · rw [walk_of_final remembered next]
          rfl
      | rejected problem =>
        refine ⟨⟨place, .response r⟩, ?_, ?_⟩
        · rw [walk_of_rejected remembered next, List.getLast?_concat]
        · rw [walk_of_rejected remembered next]
          rfl
      | follow target =>
        rw [walk_of_follow remembered next]
        exact ih c'.left (hleft ▸ left_lt_of_follow next) c' target ((trail.ask place).answer r)
          peer' (log ++ [⟨place, .response r⟩]) rfl

/-- A result shows the place of an answer, or the text that was given. -/
theorem url_arrival (text : String) (trail : Trail) (e : Exchange) :
    (arrival text trail e.outcome).1.connectSuccess = e.response?.isSome ∧
      (arrival text trail e.outcome).1.url =
        if e.response?.isSome then e.place.text else text := by
  obtain ⟨place, reply⟩ := e
  cases reply with
  | failure problem => exact ⟨rfl, rfl⟩
  | response r =>
    simp only [Exchange.outcome, Exchange.response?, arrival, Option.isSome_some, if_true]
    split <;> exact ⟨rfl, rfl⟩

end Walk

/-- What a connection shows after its last exchange. -/
theorem connect_recorded {σ : Type} (c : DownloadConfig) (ask : Peer σ) (text : String)
    (peer : σ) :
    let shown := connect c ask text peer
    ∃ log : List Exchange,
      connect c (recorded ask) text (peer, []) = (shown.1, shown.2.1, shown.2.2, log) ∧
      (log = [] → shown.1.url = text) ∧
      ∀ e, log.getLast? = some e →
        shown.1.connectSuccess = e.response?.isSome ∧
          shown.1.url = if e.response?.isSome then e.place.text else text := by
  intro shown
  cases hparse : Url.parse text with
  | error problem =>
    -- nothing is asked where the text is no URL
    refine ⟨[], ?_⟩
    simp only [shown]
    rw [connect_of_error hparse, connect_of_error hparse]
    refine ⟨rfl, fun _ => rfl, fun e h => ?_⟩
    cases h
  | ok place =>
    obtain ⟨log, problems, walked, same, -⟩ :=
      walked_walk ask Url.join (.start c.followRedirects c.maxRedirects) place {} peer []
    obtain ⟨last, hlast, outcome⟩ :=
      outcome_walk ask Url.join (.start c.followRedirects c.maxRedirects) place {} peer []
    generalize hway : walk ask (.start c.followRedirects c.maxRedirects) place {} peer = way
      at same
    obtain ⟨trail, result, peer'⟩ := way
    rw [same] at hlast outcome
    obtain rfl : result = last.outcome := outcome
    refine ⟨log, ?_⟩
    simp only [shown]
    rw [connect_of_walk hparse hway, connect_of_walk hparse same]
    refine ⟨rfl, ?_, fun e h => ?_⟩
    · rintro rfl
      cases hlast
    · obtain rfl : last = e := Option.some.inj (hlast.symm.trans h)
      exact url_arrival text trail last

/-- **The URL of a download.**  The result of a download shows the URL of its last request if
that was answered, by whatever answer, and counts as connected then.  If the last request failed,
or none was made, it shows the text that was given. -/
theorem url_of_answered_request {σ : Type} (c : DownloadConfig) (ask : Peer σ)
    (identity : Identity) (text : String) (interrupted : Bool) (events : List Event)
    (tree : File.Tree) (clock : Clock) (peer : σ) :
    let r := probe c ask identity text interrupted events tree clock peer
    ∃ log : List Exchange,
      probe c (recorded ask) identity text interrupted events tree clock (peer, []) =
        (r.1, r.2.1, r.2.2.1, r.2.2.2, log) ∧
      (log = [] → r.1.url = text) ∧
      ∀ e, log.getLast? = some e →
        r.1.connectSuccess = e.response?.isSome ∧
          r.1.url = if e.response?.isSome then e.place.text else text := by
  intro r
  obtain ⟨log, same, unasked, asked⟩ := connect_recorded c ask text peer
  -- the transfer changes neither the URL nor whether the download is connected
  have url : r.1.url = (connect c ask text peer).1.url := by
    simp only [r, probe]
    split <;> rfl
  have connected : r.1.connectSuccess = (connect c ask text peer).1.connectSuccess := by
    simp only [r, probe]
    split <;> rfl
  rw [url, connected]
  refine ⟨log, ?_, unasked, asked⟩
  simp only [r, probe, same]

/-- A redirect that is followed: the URL is that of the second request. -/
theorem url_behind_redirect :
    let redirect : Response :=
      { status := ⟨302, by decide, by decide⟩, location := some ⟨[47, 98]⟩ }
    let ask : Peer Nat := fun _ n =>
      (.response (if n = 0 then redirect else { status := ⟨404, by decide, by decide⟩ }), n + 1)
    let c : DownloadConfig := { directory := "files" }
    let r := probe c ask 42 "http://h/a" false [] {} (.ofInstants []) 0
    ∃ e : Exchange, e.response?.isSome = true ∧ r.1.url = e.place.text ∧
      e.place.text = "http://h/b" := by
  intro redirect ask c r
  obtain ⟨log, same, -, asked⟩ :=
    url_of_answered_request c ask 42 "http://h/a" false [] {} (.ofInstants []) 0
  have hlog : log =
      (probe c (recorded ask) 42 "http://h/a" false [] {} (.ofInstants []) (0, [])).2.2.2.2 := by
    rw [same]
  have answered : (log.getLast?.any fun e =>
      e.response?.isSome && (e.place.text == "http://h/b")) = true := by
    rw [hlog]
    decide +kernel
  cases hlast : log.getLast? with
  | none =>
    rw [hlast] at answered
    cases answered
  | some e =>
    rw [hlast, Option.any_some, Bool.and_eq_true, beq_iff_eq] at answered
    obtain ⟨-, url⟩ := asked e hlast
    rw [if_pos answered.1] at url
    exact ⟨e, answered.1, url, answered.2⟩

/-- A redirect that is followed to a place that does not answer: the last request went to the
second place, and the result shows the first one. -/
theorem url_forgets_redirect :
    let redirect : Response :=
      { status := ⟨302, by decide, by decide⟩, location := some ⟨[47, 98]⟩ }
    let ask : Peer Nat := fun place n =>
      (if n = 0 then .response redirect else .failure (requestError (sendingTrouble place)), n + 1)
    let c : DownloadConfig := { directory := "files" }
    let shown := probe c (recorded ask) 42 "http://h/a" false [] {} (.ofInstants []) (0, [])
    let log := shown.2.2.2.2
    log.map (fun e => e.place.text) = ["http://h/a", "http://h/b"] ∧
      shown.1.url = "http://h/a" := by
  decide +kernel

end Reachability.Download

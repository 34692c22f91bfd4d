/-
# The way to the last answer

A download asks a URL, and then the places that the answers name, until an answer is the last.
`Walked` tells the exchanges of such a way one by one, and what holds of every way is proved
along it: it is short, it counts the redirects that were followed, each of its steps was named
by the answer before, and a note is left exactly where a redirect was not followed.

Main definitions:

* `Redirect.Names`, `Redirect.IsUseless` : a header names a target; it names none;
* `Redirect.Decides` : what is done about an answer, case by case;
* `Exchange`, `recorded` : a request with its reply; a peer that remembers its exchanges;
* `Walked` : the exchanges of a way, and the problems that it leaves.

Main results:

* `decides` : every decision is one of the cases;
* `walked_walk` : the exchanges of every walk are a way;
* `redirects_followed` : what a download asked and what its result shows of it.
-/
import Mathlib.Data.List.Chain
import Reachability.Download.Probe

namespace Reachability

open Http

namespace Redirect

/-! ## Named places -/

/-- A header names a target: what it says, without the white space around it, is joined to the
URL of a scheme over which files are transferred. -/
def Names (join : Joining) (base : Url) (location : Option HeaderValue) (target : Url) : Prop :=
  ∃ value raw, location = some value ∧ value.text? = some raw ∧ Text.stripped raw ≠ "" ∧
    join base (Text.stripped raw) = .ok target ∧
    (target.scheme = "http" ∨ target.scheme = "https")

/-- A header names no target. -/
inductive IsUseless (join : Joining) (base : Url) : Option HeaderValue → Prop
  | missing : IsUseless join base none
  | notText {value : HeaderValue} (unreadable : value.text? = none) :
      IsUseless join base (some value)
  | empty {value : HeaderValue} {raw : String} (text : value.text? = some raw)
      (blank : Text.stripped raw = "") : IsUseless join base (some value)
  | invalid {value : HeaderValue} {raw : String} {e : UrlError} (text : value.text? = some raw)
      (unparsable : join base (Text.stripped raw) = .error e) : IsUseless join base (some value)
  | otherScheme {value : HeaderValue} {raw : String} {target : Url}
      (text : value.text? = some raw) (joined : join base (Text.stripped raw) = .ok target)
      (http : target.scheme ≠ "http") (https : target.scheme ≠ "https") :
      IsUseless join base (some value)

theorem isTransferScheme_iff {scheme : String} :
    Url.isTransferScheme scheme = true ↔ scheme = "http" ∨ scheme = "https" := by
  rw [Url.isTransferScheme, Bool.or_eq_true, beq_iff_eq, beq_iff_eq]

/-- A header either names the target that is found, or it names none. -/
theorem resolve_cases (join : Joining) (base : Url) (location : Option HeaderValue) :
    (∃ target, resolve base location join = .ok target ∧ Names join base location target) ∨
      ∃ problem, resolve base location join = .error problem ∧ IsUseless join base location := by
  cases location with
  | none => exact Or.inr ⟨.missing, rfl, .missing⟩
  | some value =>
    cases htext : value.text? with
    | none =>
      refine Or.inr ⟨.notText, ?_, .notText htext⟩
      simp only [resolve, htext]
      rfl
    | some raw =>
      by_cases hblank : Text.stripped raw = ""
      · refine Or.inr ⟨.empty, ?_, .empty htext hblank⟩
        simp only [resolve, htext, hblank]
        rfl
      · have hempty : (Text.stripped raw).isEmpty = false := by
          rw [Bool.eq_false_iff, ne_eq, String.isEmpty_iff]
          exact hblank
        cases hjoin : join base (Text.stripped raw) with
        | error e =>
          refine Or.inr ⟨.invalid (Text.stripped raw) e, ?_, .invalid htext hjoin⟩
          simp only [resolve, htext, hempty, hjoin]
          rfl
        | ok target =>
          cases hscheme : Url.isTransferScheme target.scheme with
          | true =>
            refine Or.inl ⟨target, ?_, value, raw, rfl, htext, hblank, hjoin,
              isTransferScheme_iff.1 hscheme⟩
            simp only [resolve, htext, hempty, hjoin, hscheme]
            rfl
          | false =>
            have hother := mt isTransferScheme_iff.2 (Bool.eq_false_iff.1 hscheme)
            rw [not_or] at hother
            refine Or.inr ⟨.unsupportedScheme target.scheme, ?_,
              .otherScheme htext hjoin hother.1 hother.2⟩
            simp only [resolve, htext, hempty, hjoin, hscheme]
            rfl

/-! ## Decisions -/

/-- What is done about an answer. -/
inductive Decides (join : Joining) (c : Chain) (place : Url) (status : Status)
    (location : Option HeaderValue) : Chain × Step → Prop
  | final (calm : c.enabled = true → status.isRedirect = false) :
      Decides join c place status location (c, .final)
  | follow {c' : Chain} {target : Url} (on : c.enabled = true)
      (redirects : status.isRedirect = true) (names : Names join place location target)
      (enabled : c'.enabled = c.enabled) (limit : c'.limit = c.limit)
      (hops : c'.hops.toNat = c.hops.toNat + 1) :
      Decides join c place status location (c', .follow target)
  | rejected {problem : Problem} (on : c.enabled = true) (redirects : status.isRedirect = true)
      (stuck : c.hops.toNat = c.limit.toNat ∨ IsUseless join place location) :
      Decides join c place status location (c, .rejected problem)

/-- Every decision is one of the cases.  The counter of the redirects does not overflow, as it
stays below the limit. -/
theorem decides (join : Joining) (c : Chain) (place : Url) (status : Status)
    (location : Option HeaderValue) :
    Decides join c place status location (c.next place status location join) := by
  unfold Chain.next
  split
  case isTrue calm =>
    refine .final fun on => ?_
    simpa [on] using calm
  case isFalse busy =>
    obtain ⟨on, redirects⟩ : c.enabled = true ∧ status.isRedirect = true := by
      simpa using busy
    split
    case isTrue below =>
      rcases resolve_cases join place location with
        ⟨target, found, names⟩ | ⟨problem, lost, useless⟩
      · rw [found]
        refine .follow on redirects names rfl rfl ?_
        have room : c.hops.toNat < c.limit.toNat := UInt32.lt_iff_toNat_lt.1 below
        have bound := c.limit.toNat_lt
        change (c.hops + 1).toNat = _
        rw [UInt32.toNat_add, UInt32.toNat_one]
        omega
      · rw [lost]
        exact .rejected on redirects (Or.inr useless)
    case isFalse full =>
      refine .rejected on redirects (Or.inl ?_)
      have most : c.hops.toNat ≤ c.limit.toNat := UInt32.le_iff_toNat_le.1 c.hops_le
      rw [UInt32.lt_iff_toNat_lt] at full
      omega

end Redirect

namespace Download

open Redirect

/-! ## Exchanges -/

/-- A request with its reply. -/
structure Exchange where
  place : Url
  reply : Reply
deriving DecidableEq, Repr

/-- The answer, if there was one. -/
def Exchange.response? (e : Exchange) : Option Response :=
  match e.reply with
  | .response r => some r
  | .failure _ => none

/-- The answers, in order. -/
def responses (log : List Exchange) : List Response := log.filterMap Exchange.response?

/-- A peer that remembers its exchanges. -/
def recorded {σ : Type} (ask : Peer σ) : Peer (σ × List Exchange) :=
  fun place (peer, log) =>
    let (reply, peer) := ask place peer
    (reply, peer, log ++ [⟨place, reply⟩])

/-- The redirects that were followed after some exchanges. -/
def chainAfter (join : Joining) (c : Chain) (log : List Exchange) : Chain :=
  log.foldl (fun c e => e.response?.elim c fun r => (c.next e.place r.status r.location join).1) c

/-- The answer of the first exchange names the place of the second one. -/
def Leads (join : Joining) (e e' : Exchange) : Prop :=
  ∃ r, e.reply = .response r ∧ r.status.isRedirect = true ∧ Names join e.place r.location e'.place

/-- The last answer names another place, but as many redirects as allowed were followed, or the
place cannot be used. -/
def EndsUnfollowed (join : Joining) (limit : Nat) (log : List Exchange) : Prop :=
  ∃ place r, log.getLast? = some ⟨place, .response r⟩ ∧ r.status.isRedirect = true ∧
    (log.length = limit + 1 ∨ IsUseless join place r.location)

/-- The exchanges of a way that starts at a place, and the problems that it leaves. -/
inductive Walked (join : Joining) : Chain → Url → List Exchange → List Problem → Prop
  | failed {c : Chain} {place : Url} (e : ProbeError) :
      Walked join c place [⟨place, .failure e⟩] []
  | ended {c c' : Chain} {place : Url} (r : Response)
      (last : c.next place r.status r.location join = (c', .final)) :
      Walked join c place [⟨place, .response r⟩] []
  | stuck {c c' : Chain} {place : Url} {problem : Problem} (r : Response)
      (last : c.next place r.status r.location join = (c', .rejected problem)) :
      Walked join c place [⟨place, .response r⟩] [problem]
  | followed {c c' : Chain} {place target : Url} {log : List Exchange} {problems : List Problem}
      (r : Response) (next : c.next place r.status r.location join = (c', .follow target))
      (later : Walked join c' target log problems) :
      Walked join c place (⟨place, .response r⟩ :: log) problems

section Walked

variable {join : Joining} {c : Chain} {place : Url} {log : List Exchange}
  {problems : List Problem}

/-- A way starts at its place. -/
theorem Walked.head (walked : Walked join c place log problems) :
    ∃ reply rest, log = ⟨place, reply⟩ :: rest := by
  cases walked <;> exact ⟨_, _, rfl⟩

/-- A way is no longer than the redirects that may be followed, and the last answer. -/
theorem Walked.length_le (walked : Walked join c place log problems) :
    log.length ≤ (if c.enabled then c.left else 0) + 1 := by
  induction walked with
  | failed | ended | stuck => simp
  | @followed c c' place target log problems r next later ih =>
    have fewer := left_lt_of_follow next
    have decided := decides join c place r.status r.location
    rw [next] at decided
    cases decided with
    | follow on redirects names enabled =>
      -- following is on, and stays on for the rest of the way
      rw [enabled, if_pos on] at ih
      rw [if_pos on, List.length_cons]
      omega

/-- Every place but the first was named by the answer before. -/
theorem Walked.leads (walked : Walked join c place log problems) : log.IsChain (Leads join) := by
  induction walked with
  | failed | ended | stuck => exact List.isChain_singleton _
  | @followed c c' place target log problems r next later ih =>
    have decided := decides join c place r.status r.location
    rw [next] at decided
    cases decided with
    | follow on redirects names =>
      obtain ⟨reply, rest, rfl⟩ := later.head
      exact List.isChain_cons_cons.2 ⟨⟨r, rfl, redirects, names⟩, ih⟩

/-- Before every request, the counter shows how many redirects were followed. -/
theorem Walked.hops (walked : Walked join c place log problems) (before : List Exchange)
    (e : Exchange) (h : before ++ [e] <+: log) :
    (chainAfter join c before).hops.toNat = c.hops.toNat + before.length := by
  induction walked generalizing before with
  | failed | ended | stuck =>
    -- there is one exchange only, and nothing before it
    have short := h.length_le
    obtain rfl : before = [] := by simpa using short
    rfl
  | @followed c c' place target log problems r next later ih =>
    cases before with
    | nil => rfl
    | cons first before =>
      rw [List.cons_append, List.cons_prefix_cons] at h
      obtain ⟨rfl, h⟩ := h
      have decided := decides join c place r.status r.location
      rw [next] at decided
      cases decided with
      | follow on redirects names enabled limit hops =>
        have hcons : chainAfter join c (⟨place, .response r⟩ :: before) =
            chainAfter join c' before := by
          simp only [chainAfter, List.foldl_cons, Exchange.response?, Option.elim_some, next]
        rw [hcons, ih before h, hops, List.length_cons]
        omega

/-- One problem at most is left, and that where a redirect is not followed. -/
theorem Walked.problems_cases (walked : Walked join c place log problems) :
    (∃ problem, problems = [problem] ∧ c.enabled = true ∧
        EndsUnfollowed join (c.limit.toNat - c.hops.toNat) log) ∨
      problems = [] ∧
        ¬(c.enabled = true ∧ EndsUnfollowed join (c.limit.toNat - c.hops.toNat) log) := by
  induction walked with
  | @failed c place e =>
    refine Or.inr ⟨rfl, ?_⟩
    rintro ⟨-, place', r, last, -⟩
    simp at last
  | @ended c c' place r last =>
    refine Or.inr ⟨rfl, ?_⟩
    rintro ⟨on, place', r', last', redirects, -⟩
    obtain ⟨rfl, rfl⟩ := by simpa using last'
    have decided := decides join c place r.status r.location
    rw [last] at decided
    cases decided with
    | final calm =>
      rw [calm on] at redirects
      cases redirects
  | @stuck c c' place problem r last =>
    have decided := decides join c place r.status r.location
    rw [last] at decided
    cases decided with
    | rejected on redirects stuck =>
      refine Or.inl ⟨problem, rfl, on, place, r, rfl, redirects, stuck.imp (fun full => ?_) id⟩
      rw [full, Nat.sub_self]
      rfl
  | @followed c c' place target log problems r next later ih =>
    have decided := decides join c place r.status r.location
    rw [next] at decided
    cases decided with
    | follow on redirects names enabled limit hops =>
      have most : c'.hops.toNat ≤ c'.limit.toNat := UInt32.le_iff_toNat_le.1 c'.hops_le
      -- one request more, and one redirect less to follow: the end of the way is the same
      have same : EndsUnfollowed join (c.limit.toNat - c.hops.toNat)
          (⟨place, .response r⟩ :: log) ↔
          EndsUnfollowed join (c'.limit.toNat - c'.hops.toNat) log := by
        obtain ⟨reply, rest, rfl⟩ := later.head
        simp only [EndsUnfollowed, List.getLast?_cons_cons, List.length_cons]
        rw [limit] at most ⊢
        have hlimit : ∀ n : Nat, n + 1 + 1 = c.limit.toNat - c.hops.toNat + 1 ↔
            n + 1 = c.limit.toNat - c'.hops.toNat + 1 := by
          intro n
          omega
        simp only [hlimit]
      rw [same]
      rwa [enabled] at ih

end Walked

/-! ## Walks -/

section Walk

variable {σ : Type} {ask : Peer σ} {c c' : Chain} {place target : Url} {trail : Trail}
  {peer peer' : σ} {join : Joining} {r : Response}

theorem walk_of_failure {e : ProbeError} (h : ask place peer = (.failure e, peer')) :
    walk ask c place trail peer join = (trail.ask place, .error e, peer') := by
  rw [walk, h]

theorem walk_of_final (h : ask place peer = (.response r, peer'))
    (last : c.next place r.status r.location join = (c', .final)) :
    walk ask c place trail peer join =
      ((trail.ask place).answer r, .ok ⟨place, r⟩, peer') := by
  rw [walk, h]
  dsimp only
  split <;> simp_all

theorem walk_of_rejected {problem : Problem} (h : ask place peer = (.response r, peer'))
    (last : c.next place r.status r.location join = (c', .rejected problem)) :
    walk ask c place trail peer join =
      (((trail.ask place).answer r).note problem, .ok ⟨place, r⟩, peer') := by
  rw [walk, h]
  dsimp only
  split <;> simp_all

theorem walk_of_follow (h : ask place peer = (.response r, peer'))
    (next : c.next place r.status r.location join = (c', .follow target)) :
    walk ask c place trail peer join =
      walk ask c' target ((trail.ask place).answer r) peer' join := by
  rw [walk, h]
  dsimp only
  split <;> simp_all

theorem recorded_eq {reply : Reply} {log : List Exchange} (h : ask place peer = (reply, peer')) :
    recorded ask place (peer, log) = (reply, peer', log ++ [⟨place, reply⟩]) := by
  rw [recorded, h]

/-- The exchanges of a walk are a way, and the trail shows its answers and its problems. -/
theorem walked_walk (ask : Peer σ) (join : Joining) (c : Chain) (place : Url) (trail : Trail)
    (peer : σ) (log : List Exchange) :
    ∃ later problems, Walked join c place later problems ∧
      walk (recorded ask) c place trail (peer, log) join =
        ((walk ask c place trail peer join).1, (walk ask c place trail peer join).2.1,
          (walk ask c place trail peer join).2.2, log ++ later) ∧
      (walk ask c place trail peer join).1.codes =
        trail.codes ++ (responses later).map (·.status.code) ∧
      (walk ask c place trail peer join).1.messages =
        trail.messages ++ (responses later).map Response.phrase ∧
      (walk ask c place trail peer join).1.notes = trail.notes ++ problems.map Problem.note := by
  -- the induction is on the redirects that may still be followed, as the walk is
  induction hleft : c.left using Nat.strong_induction_on generalizing c place trail peer log with
  | _ n ih =>
    obtain ⟨reply, peer', asked⟩ : ∃ reply peer', ask place peer = (reply, peer') := ⟨_, _, rfl⟩
    have remembered : recorded ask place (peer, log) = (reply, peer', log ++ [⟨place, reply⟩]) :=
      recorded_eq asked
    cases reply with
    | failure e =>
      refine ⟨_, [], .failed e, ?_⟩
      rw [walk_of_failure asked, walk_of_failure remembered]
      simp [responses, Exchange.response?, Trail.ask]
    | response r =>
      obtain ⟨c', decision, next⟩ :
          ∃ c' decision, c.next place r.status r.location join = (c', decision) := ⟨_, _, rfl⟩
      cases decision with
      | final =>
        refine ⟨_, [], .ended r next, ?_⟩
        rw [walk_of_final asked next, walk_of_final remembered next]
        simp [responses, Exchange.response?, Trail.ask, Trail.answer]
      | rejected problem =>
        refine ⟨_, [problem], .stuck r next, ?_⟩
        rw [walk_of_rejected asked next, walk_of_rejected remembered next]
        simp [responses, Exchange.response?, Trail.ask, Trail.answer, Trail.note]
      | follow target =>
        obtain ⟨later, problems, walked, same, codes, messages, notes⟩ :=
          ih c'.left (hleft ▸ left_lt_of_follow next) c' target ((trail.ask place).answer r) peer'
            (log ++ [⟨place, .response r⟩]) rfl
        refine ⟨_, problems, .followed r next walked, ?_⟩
        rw [walk_of_follow asked next, walk_of_follow remembered next, same, codes, messages,
          notes]
        simp [responses, Exchange.response?, Trail.ask, Trail.answer]

end Walk

section Connect

variable {σ : Type} {c : DownloadConfig} {ask : Peer σ} {text : String} {peer : σ}
  {join : Joining}

/-- The result so far, and the answer to store, when a walk has come to its end. -/
def arrival (text : String) (trail : Trail) : Except ProbeError Goal → Result × Option Goal
  | .error e => ({ ({ url := text } : Result).withTrail trail with error := some e }, none)
  | .ok goal =>
      let r : Result :=
        { ({ url := text } : Result).withTrail trail with
          connectSuccess := true
          url := goal.place.text }
      if goal.response.status.isSuccess then (r, some goal)
      else ({ r with error := some (.http goal.response.statusLine) }, none)

/-- A result shows the whole trail. -/
theorem withTrail_arrival (text : String) (trail : Trail) (outcome : Except ProbeError Goal) :
    (arrival text trail outcome).1.httpCodes = trail.codes ∧
      (arrival text trail outcome).1.httpMessages = trail.messages ∧
      (arrival text trail outcome).1.diagnostics = trail.notes := by
  unfold arrival
  split
  · exact ⟨rfl, rfl, rfl⟩
  · dsimp only
    split <;> exact ⟨rfl, rfl, rfl⟩

theorem connect_of_error {e : UrlError} (h : Url.parse text = .error e) :
    connect c ask text peer join =
      ({ url := text, error := some (.invalidUrl e.message) }, none, peer) := by
  rw [connect, h]

theorem connect_of_walk {place : Url} (h : Url.parse text = .ok place) {trail : Trail}
    {outcome : Except ProbeError Goal} {peer' : σ}
    (way : walk ask (.start c.followRedirects c.maxRedirects) place {} peer join =
      (trail, outcome, peer')) :
    connect c ask text peer join =
      ((arrival text trail outcome).1, (arrival text trail outcome).2, peer') := by
  rw [connect, h]
  dsimp only
  rw [way]
  cases outcome with
  | error e => rfl
  | ok goal =>
    dsimp only [arrival]
    split <;> rfl

end Connect

/-- **The way to the last answer.**  Whatever the peer answers, whatever the start and however
texts are joined to URLs, a download asks at most once more than redirects may be followed; the
counter of the redirects shows at every request how many were followed; the result has the code
and the phrase of every answer, in order; every place but the first is the target, over `http`
or `https`, that the answer before named; and there is one note if redirects are followed and
the last answer names a place that was not asked, and none otherwise. -/
theorem redirects_followed {σ : Type} (c : DownloadConfig) (ask : Peer σ) (text : String)
    (peer : σ) (join : Joining) :
    let shown := connect c ask text peer join
    ∃ log : List Exchange,
      connect c (recorded ask) text (peer, []) join = (shown.1, shown.2.1, shown.2.2, log) ∧
      log.length ≤ (if c.followRedirects then c.maxRedirects.toNat else 0) + 1 ∧
      (∀ before e, before ++ [e] <+: log →
        (chainAfter join (.start c.followRedirects c.maxRedirects) before).hops.toNat =
          before.length) ∧
      shown.1.httpCodes = (responses log).map (·.status.code) ∧
      shown.1.httpMessages = (responses log).map Response.phrase ∧
      (∀ e ∈ log.head?, Url.parse text = .ok e.place) ∧
      log.IsChain (Leads join) ∧
      (c.followRedirects = true ∧ EndsUnfollowed join c.maxRedirects.toNat log →
        ∃ note, shown.1.diagnostics = [note]) ∧
      (¬(c.followRedirects = true ∧ EndsUnfollowed join c.maxRedirects.toNat log) →
        shown.1.diagnostics = []) := by
  dsimp only
  cases hparse : Url.parse text with
  | error e =>
    -- nothing is asked where the text is no URL
    refine ⟨[], ?_⟩
    rw [connect_of_error hparse, connect_of_error hparse]
    refine ⟨rfl, by simp, by simp, rfl, rfl, by simp, by simp, ?_, fun _ => rfl⟩
    rintro ⟨-, place, r, last, -⟩
    simp at last
  | ok place =>
    obtain ⟨log, problems, walked, same, codes, messages, notes⟩ :=
      walked_walk ask join (.start c.followRedirects c.maxRedirects) place {} peer []
    generalize hway : walk ask (.start c.followRedirects c.maxRedirects) place {} peer join = way
      at same codes messages notes
    obtain ⟨trail, outcome, peer'⟩ := way
    obtain ⟨shown_codes, shown_messages, shown_notes⟩ := withTrail_arrival text trail outcome
    refine ⟨log, ?_⟩
    rw [connect_of_walk hparse hway, connect_of_walk hparse same]
    refine ⟨rfl, walked.length_le, fun before e h => ?_, shown_codes.trans codes,
      shown_messages.trans messages, ?_, walked.leads, fun unfollowed => ?_, fun followed => ?_⟩
    · simpa [Chain.start] using walked.hops before e h
    · obtain ⟨reply, rest, rfl⟩ := walked.head
      simp
    · rcases walked.problems_cases with ⟨problem, rfl, -, -⟩ | ⟨-, none_left⟩
      · exact ⟨problem.note, shown_notes.trans notes⟩
      · exact absurd unfollowed none_left
    · rcases walked.problems_cases with ⟨problem, -, on, unfollowed⟩ | ⟨rfl, -⟩
      · exact absurd ⟨on, unfollowed⟩ followed
      · exact shown_notes.trans notes

/-- A peer that names the same place again and again, and one redirect that is followed. -/
theorem redirects_followed_to_limit :
    let c : DownloadConfig := { directory := "files", maxRedirects := 1 }
    let answer : Response :=
      { status := ⟨302, by decide, by decide⟩, location := some ⟨[47, 98]⟩ }
    let ask : Peer Unit := fun _ _ => (.response answer, ())
    let log := (connect c (recorded ask) "http://h/a" ((), [])).2.2.2
    c.followRedirects = true ∧ EndsUnfollowed Url.join c.maxRedirects.toNat log ∧
      log.length = 2 ∧
      (connect c ask "http://h/a" ()).1.httpCodes = [302, 302] ∧
      ∃ note, (connect c ask "http://h/a" ()).1.diagnostics = [note] := by
  intro c answer ask log
  have hlog : log.getLast? = some ⟨⟨"http", "", "", some (.name "h"), none, .segments ["b"], none,
      none⟩, .response answer⟩ ∧ log.length = 2 := by
    decide +kernel
  have unfollowed : EndsUnfollowed Url.join c.maxRedirects.toNat log :=
    ⟨_, answer, hlog.1, by decide, Or.inl hlog.2⟩
  obtain ⟨log', same, -, -, codes, -, -, -, noted, -⟩ :=
    redirects_followed c ask "http://h/a" () Url.join
  obtain rfl : log = log' := congrArg (·.2.2.2) same
  have shown : (connect c ask "http://h/a" ()).1.httpCodes = [302, 302] := by
    rw [codes]
    decide +kernel
  exact ⟨rfl, unfollowed, hlog.2, shown, noted ⟨rfl, unfollowed⟩⟩

end Download
end Reachability

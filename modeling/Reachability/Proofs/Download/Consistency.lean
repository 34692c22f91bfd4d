/-
# Results that hang together

The result of a download is filled in on many ways: by the requests, by the copying of the body,
by the monitor, and at last by the deletion of the file; each of them may end early.  On every way
the parts of the result fit each other.  Three invariants of transfers carry this: nothing is
recorded before there is a name, a file is deleted only if it was to be and was there, and an
interruption is reported only where the caller interrupted.

Main definitions:

* `Result.IsConsistent` : the parts of a result fit each other;
* `Transfer.Begun`, `Transfer.Tidy`, `Transfer.Honest` : the three invariants.

Main results:

* `begun_run`, `tidy_run`, `honest_run` : they hold all along;
* `walk_ends` : the last code of a way is that of its last answer;
* `result_consistent` : the result of every download is consistent.
-/
import Reachability.Proofs.Download.Deposit
import Reachability.Proofs.Download.Explanation
import Reachability.Proofs.Download.Trail

namespace Reachability.Download

open Http

/-! ## Errors that are no interruption -/

/-- A request that gets no answer is no interruption. -/
theorem requestError_ne_interrupted (t : Trouble) : requestError t ≠ .interrupted := by
  rw [requestError]
  split <;> exact ProbeError.noConfusion

/-- A body that breaks off is no interruption. -/
theorem bodyError_ne_interrupted (t : Trouble) : bodyError t ≠ .interrupted := by
  rw [bodyError, ProbeError.ofFailure]
  cases t.timedOut <;> exact ProbeError.noConfusion

namespace Transfer

/-- Making a file fails with an error of the file system. -/
theorem exists_of_create_eq_error {t : Transfer} {tree made : File.Tree} {fault : Option String}
    {name : String} {e : ProbeError} (h : t.create tree fault name = (made, .error e)) :
    ∃ text, e = .fileSystem text := by
  cases fault with
  | some text => exact ⟨text, (Except.error.inj (congrArg Prod.snd h)).symm⟩
  | none =>
    rw [create, File.Directory.create] at h
    split at h
    · exact ⟨_, (Except.error.inj (congrArg Prod.snd h)).symm⟩
    · split at h
      · cases congrArg Prod.snd h
      · exact ⟨_, (Except.error.inj (congrArg Prod.snd h)).symm⟩

/-- Deleting a file fails with an error of the file system. -/
theorem exists_of_delete_eq_error {t : Transfer} {tree : File.Tree} {fault : Option String}
    {name : String} {e : ProbeError} (h : t.delete tree fault name = .error e) :
    ∃ text, e = .fileSystem text := by
  cases fault with
  | some text => exact ⟨text, (Except.error.inj h).symm⟩
  | none =>
    rw [delete, File.Directory.delete] at h
    split at h
    · cases h
    · cases h
    · exact ⟨_, (Except.error.inj h).symm⟩

/-! ## Nothing before a name -/

/-- A transfer without a name has recorded nothing but an error. -/
structure Begun (t : Transfer) : Prop where
  waits : t.name = none → t.phase.part = .naming ∨ t.phase = .finished
  success : t.name = none → t.success = false
  fileExists : t.name = none → t.fileExists = false
  transferred : t.name = none → t.transferred = 0
  flags : t.name = none → t.flags = .initial

/-- A transfer that has a name has begun. -/
theorem Begun.of_name {t : Transfer} (named : t.name ≠ none) : Begun t where
  waits h := absurd h named
  success h := absurd h named
  fileExists h := absurd h named
  transferred h := absurd h named
  flags h := absurd h named

/-- A transfer in the middle of its work has a name. -/
theorem Begun.name_ne_none {t : Transfer} (begun : Begun t) (naming : t.phase.part ≠ .naming)
    (finished : t.phase ≠ .finished) : t.name ≠ none := by
  intro h
  rcases begun.waits h with phase | phase
  · exact naming phase
  · exact finished phase

theorem Begun.advance {t : Transfer} (begun : Begun t) (tree : File.Tree)
    (fault : Option String) : Begun (t.advance tree fault).1 := by
  have cases_of_step := advances t tree fault
  generalize t.advance tree fault = s at cases_of_step ⊢
  cases cases_of_step with
  | named phase => exact .of_name (by simp)
  | passed phase =>
    exact ⟨fun _ => Or.inl rfl, begun.success, begun.fileExists, begun.transferred, begun.flags⟩
  | nameless phase =>
    exact ⟨fun _ => Or.inr rfl, begun.success, begun.fileExists, begun.transferred, begun.flags⟩
  | waited phase | rested phase => exact begun
  | created phase | uncreated phase | allowed phase | refused phase | taken phase | ended phase
  | written phase | unwritten phase | flushed phase | unflushed phase | closed phase
  | settled phase | found phase | looked phase | deleted phase | undeleted phase =>
    exact .of_name (begun.name_ne_none (by simp [phase, Phase.part]) (by simp [phase]))

theorem Begun.step {t : Transfer} (begun : Begun t) (tree : File.Tree) (e : Event) :
    Begun (step (t, tree) e).1 := by
  cases e with
  | advance fault => exact begun.advance tree fault
  | interrupt =>
    exact ⟨begun.waits, begun.success, begun.fileExists, begun.transferred, begun.flags⟩
  | polled read =>
    simp only [Transfer.step]
    split
    · next watched =>
      -- the monitor runs only where there is a name
      refine .of_name (begun.name_ne_none (fun part => ?_) fun phase => ?_)
      · cases phase : t.phase with
        | naming => simp [isWatched, phase] at watched
        | _ => simp [phase, Phase.part] at part
      · simp [isWatched, phase] at watched
    · exact begun
  | arrive bytes | bodyEnds problem =>
    simp only [Transfer.step]
    split
    · exact ⟨begun.waits, begun.success, begun.fileExists, begun.transferred, begun.flags⟩
    · exact begun

/-! ## Deletions -/

/-- A file is deleted only if it was to be deleted and was there, and the only error of a
successful transfer is that of the deletion. -/
structure Tidy (t : Transfer) : Prop where
  unsettled : t.phase.isPastSettling = false → t.success = false
  clean : t.phase ≠ .finished → t.success = true → t.error = none
  deleting : ∀ name, t.phase = .deleting name → t.deletes = true ∧ t.fileExists = true
  undeleted : t.phase ≠ .finished → t.deleteSuccess = false
  deleted : t.deleteSuccess = true → t.deletes = true ∧ t.fileExists = true
  blamed : t.success = true → t.error.isSome = true → t.deletes = true ∧ t.fileExists = true

/-- A transfer that neither succeeded nor deletes is tidy. -/
theorem Tidy.of_unsuccessful {t : Transfer} (phase : ∀ name, t.phase ≠ .deleting name)
    (success : t.success = false) (deleteSuccess : t.deleteSuccess = false) : Tidy t where
  unsettled _ := success
  clean _ h := by simp [success] at h
  deleting name h := absurd h (phase name)
  undeleted _ := deleteSuccess
  deleted h := by simp [deleteSuccess] at h
  blamed h := by simp [success] at h

/-- A success that is settled leaves no error. -/
theorem error_of_settle {copied : Ending} {problem : Option ProbeError} {interrupted : Bool}
    (h : (settle copied problem interrupted).1 = true) :
    (settle copied problem interrupted).2 = none := by
  cases copied with
  | exhausted => simpa [settle] using h
  | aborted | failed e => cases h

/-- The error of a successful transfer is that of its one deletion. -/
theorem Account.deletionErrors_of_success {t : Transfer} {ss : List Settlement}
    {es : List ProbeError} {e : ProbeError} (account : Account t ss es)
    (success : t.success = true) (error : t.error = some e) : es = [e] := by
  cases account with
  | pending _ unsuccessful | failed _ unsuccessful =>
    rw [success] at unsuccessful
    cases unsuccessful
  | settled s _ hs he =>
    rw [he, error_of_settle (hs.symm.trans success)] at error
    cases error
  | undeleted s other _ hs he =>
    rw [he, error_of_settle (hs.symm.trans success)] at error
    rw [Option.some.inj error]

theorem Tidy.advance {t : Transfer} (tidy : Tidy t) (tree : File.Tree)
    (fault : Option String) : Tidy (t.advance tree fault).1 := by
  have cases_of_step := advances t tree fault
  generalize t.advance tree fault = s at cases_of_step ⊢
  cases cases_of_step with
  | passed phase | named phase | nameless phase | created phase | uncreated phase
  | allowed phase | refused phase | taken phase | ended phase | written phase
  | unwritten phase | flushed phase | unflushed phase | closed phase =>
    exact .of_unsuccessful (by simp) (tidy.unsettled (by rw [phase]; rfl))
      (tidy.undeleted (by simp [phase]))
  | settled phase =>
    refine ⟨by simp [Phase.isPastSettling], fun _ => error_of_settle, by simp,
      fun _ => tidy.undeleted (by simp [phase]), tidy.deleted, fun success failed => ?_⟩
    rw [error_of_settle success] at failed
    cases failed
  | found phase seen unwanted =>
    have going : t.phase ≠ .finished := by simp [phase]
    obtain ⟨asked, there⟩ := Bool.and_eq_true_iff.1 unwanted
    exact ⟨by simp [Phase.isPastSettling], fun _ => tidy.clean going,
      fun _ _ => ⟨asked, there⟩, fun _ => tidy.undeleted going, fun _ => ⟨asked, there⟩,
      fun _ _ => ⟨asked, there⟩⟩
  | looked phase =>
    have going : t.phase ≠ .finished := by simp [phase]
    refine ⟨by simp [Phase.isPastSettling], by simp, by simp, by simp, fun deleted => ?_,
      fun success failed => ?_⟩
    · rw [show t.deleteSuccess = false from tidy.undeleted going] at deleted
      cases deleted
    · rw [show t.error = none from tidy.clean going success] at failed
      cases failed
  | deleted phase | undeleted phase =>
    have asked := tidy.deleting _ phase
    exact ⟨by simp [Phase.isPastSettling], by simp, by simp, by simp, fun _ => asked,
      fun _ _ => asked⟩
  | waited phase | rested phase => exact tidy

theorem Tidy.step {t : Transfer} (tidy : Tidy t) (tree : File.Tree) (e : Event) :
    Tidy (step (t, tree) e).1 := by
  obtain ⟨unsettled, clean, deleting, undeleted, deleted, blamed⟩ := tidy
  cases e with
  | advance fault =>
    exact Tidy.advance ⟨unsettled, clean, deleting, undeleted, deleted, blamed⟩ tree fault
  | interrupt => exact ⟨unsettled, clean, deleting, undeleted, deleted, blamed⟩
  | polled read | arrive bytes | bodyEnds problem =>
    simp only [Transfer.step]
    split <;> exact ⟨unsettled, clean, deleting, undeleted, deleted, blamed⟩

/-! ## Interruptions -/

/-- Where an interruption is reported, the caller interrupted and nothing succeeded. -/
structure Honest (t : Transfer) : Prop where
  body : t.bodyEnd ≠ some (some .interrupted)
  copied : t.phase.copied? ≠ some (.failed .interrupted)
  problem : ∀ name copied, t.phase ≠ .settling name copied (some .interrupted)
  reported : t.error = some .interrupted → t.interrupted = true ∧ t.success = false

/-- Copying fails with the error of the body. -/
theorem bodyEnd_of_read_failed {t : Transfer} {e : ProbeError}
    (h : t.read = .ended (.failed e)) : t.bodyEnd = some (some e) := by
  unfold read at h
  split at h
  · cases h
  · split at h
    · cases h
    · split at h
      · cases h
      · cases h
      · next ended =>
        cases h
        exact ended

/-- An interruption is settled only where the caller interrupted. -/
theorem interrupted_of_settle {copied : Ending} {problem : Option ProbeError} {interrupted : Bool}
    (honest : copied ≠ .failed .interrupted) (calm : problem ≠ some .interrupted)
    (h : (settle copied problem interrupted).2 = some .interrupted) :
    interrupted = true ∧ (settle copied problem interrupted).1 = false := by
  cases copied with
  | exhausted => exact absurd h calm
  | aborted =>
    cases interrupted with
    | true => exact ⟨rfl, rfl⟩
    | false => exact absurd h calm
  | failed e =>
    rw [settle, Option.some.injEq] at h
    rw [h] at honest
    exact absurd rfl honest

theorem Honest.advance {t : Transfer} (honest : Honest t) (tree : File.Tree)
    (fault : Option String) : Honest (t.advance tree fault).1 := by
  have cases_of_step := advances t tree fault
  generalize t.advance tree fault = s at cases_of_step ⊢
  have body := honest.body
  have reported := honest.reported
  cases cases_of_step with
  | passed phase | named phase | created phase | allowed phase | taken phase | written phase
  | looked phase | found phase | deleted phase =>
    exact ⟨body, by simp [Phase.copied?], by simp, reported⟩
  | nameless phase => exact ⟨body, by simp [Phase.copied?], by simp, by simp⟩
  | uncreated phase failed =>
    obtain ⟨text, rfl⟩ := exists_of_create_eq_error failed
    exact ⟨body, by simp [Phase.copied?], by simp, by simp⟩
  | refused phase | unwritten phase =>
    exact ⟨body, by simp [Phase.copied?], by simp, reported⟩
  | ended phase read =>
    refine ⟨body, ?_, by simp, reported⟩
    intro h
    rw [Phase.copied?, Option.some.injEq] at h
    rw [h] at read
    exact body (bodyEnd_of_read_failed read)
  | flushed phase | unflushed phase | closed phase =>
    have copied := honest.copied
    rw [phase] at copied
    exact ⟨body, copied, by simp, reported⟩
  | @settled name copied problem phase =>
    have fair := honest.copied
    rw [phase, Phase.copied?, ne_eq, Option.some.injEq] at fair
    have calm : problem ≠ some .interrupted := by
      rintro rfl
      exact honest.problem _ _ phase
    exact ⟨body, by simp [Phase.copied?], by simp, interrupted_of_settle fair calm⟩
  | @undeleted name e phase failed =>
    obtain ⟨text, rfl⟩ := exists_of_delete_eq_error failed
    refine ⟨body, by simp [Phase.copied?], by simp, fun h => reported ?_⟩
    cases herror : t.error with
    | none => simp [herror] at h
    | some e => simpa [herror] using h
  | waited phase | rested phase => exact honest

theorem Honest.step {t : Transfer} (honest : Honest t) (tree : File.Tree) {e : Event}
    (fair : e ≠ .bodyEnds (some .interrupted)) : Honest (step (t, tree) e).1 := by
  obtain ⟨body, copied, problem, reported⟩ := honest
  cases e with
  | advance fault => exact Honest.advance ⟨body, copied, problem, reported⟩ tree fault
  | interrupt => exact ⟨body, copied, problem, fun h => ⟨rfl, (reported h).2⟩⟩
  | polled read | arrive bytes =>
    simp only [Transfer.step]
    split <;> exact ⟨body, copied, problem, reported⟩
  | bodyEnds ending =>
    simp only [Transfer.step]
    split
    · refine ⟨?_, copied, problem, reported⟩
      intro h
      cases h
      exact fair rfl
    · exact ⟨body, copied, problem, reported⟩

/-! ## Whole runs -/

section Run

variable {t : Transfer} (tree : File.Tree) (events : List Event)

theorem begun_run (begun : Begun t) : Begun (t.run tree events).1 :=
  run_invariant tree events begun fun _ tree e _ begun => begun.step tree e

theorem tidy_run (tidy : Tidy t) : Tidy (t.run tree events).1 :=
  run_invariant tree events tidy fun _ tree e _ tidy => tidy.step tree e

theorem honest_run (honest : Honest t) (fair : .bodyEnds (some .interrupted) ∉ events) :
    Honest (t.run tree events).1 := by
  refine run_invariant tree events honest fun u tree e he honest => honest.step tree ?_
  rintro rfl
  exact fair he

theorem deletes_run (t : Transfer) : (t.run tree events).1.deletes = t.deletes :=
  (settings_run t tree events).2

/-- A monitor that shows a stop does not let the download go on. -/
theorem valid_of_stopped_run (fresh : t.flags = .initial)
    (stopped : (t.run tree events).1.flags.stopped = true) :
    (t.run tree events).1.flags.valid = false := by
  rw [flags_run] at stopped ⊢
  cases hlast : (t.heard tree events).getLast? with
  | none =>
    rw [hlast, Option.elim_none, fresh] at stopped
    cases stopped
  | some read =>
    rw [hlast, Option.elim_some] at stopped
    rw [Option.elim_some, Bool.eq_false_iff]
    intro valid
    rw [Flags.stopped_polled_eq_false valid] at stopped
    cases stopped

end Run

end Transfer

/-! ## The way to the answer -/

/-- The last code of a way is that of the answer that it led to, and an error on the way is that
of a request. -/
theorem walk_ends {σ : Type} (ask : Peer σ) (join : Redirect.Joining) (c : Redirect.Chain)
    (place : Url) (trail : Trail) (peer : σ) :
    (∀ goal, (walk ask c place trail peer join).2.1 = .ok goal →
      (walk ask c place trail peer join).1.codes.getLast? = some goal.response.status.code) ∧
    ∀ e, (walk ask c place trail peer join).2.1 = .error e →
      ∃ place peer, (ask place peer).1 = .failure e := by
  -- the induction is on the redirects that may still be followed, as the walk is
  induction hleft : c.left using Nat.strong_induction_on generalizing c place trail peer with
  | _ n ih =>
    obtain ⟨reply, peer', asked⟩ : ∃ reply peer', ask place peer = (reply, peer') := ⟨_, _, rfl⟩
    cases reply with
    | failure e =>
      rw [walk_of_failure asked]
      refine ⟨by simp, fun problem h => ⟨place, peer, ?_⟩⟩
      cases h
      rw [asked]
    | response r =>
      obtain ⟨c', decision, next⟩ :
          ∃ c' decision, c.next place r.status r.location join = (c', decision) := ⟨_, _, rfl⟩
      cases decision with
      | final =>
        rw [walk_of_final asked next]
        refine ⟨fun goal h => ?_, by simp⟩
        cases h
        simp [Trail.answer]
      | rejected problem =>
        rw [walk_of_rejected asked next]
        refine ⟨fun goal h => ?_, by simp⟩
        cases h
        simp [Trail.answer, Trail.note]
      | follow target =>
        rw [walk_of_follow asked next]
        exact ih c'.left (hleft ▸ left_lt_of_follow next) c' target _ peer' rfl

/-! ## Results -/

/-- The parts of a result fit each other.  `deletes` tells whether the file was to be deleted,
`fired` whether the caller interrupted, and `undeleted` the errors of deletions. -/
structure Result.IsConsistent (r : Result) (deletes : Bool) (fired : Prop)
    (undeleted : List ProbeError) : Prop where
  /-- Every answer has a code and a phrase. -/
  paired : r.httpCodes.length = r.httpMessages.length
  answered : r.connectSuccess = true → r.httpCodes ≠ []
  unanswered : r.connectSuccess = false → r.error.isSome = true
  /-- There is a file name only for an answer that tells of success. -/
  named : r.fileName.isSome = true → r.connectSuccess = true ∧
    ∃ code, r.httpCodes.getLast? = some code ∧ 200 ≤ code ∧ code < 300
  /-- Without a file name nothing was done with a file, and no task was watched. -/
  stored : r.transferSuccess = true ∨ r.fileExists = true ∨ 0 < r.bytesTransferred ∨
    r.valid = false → r.fileName.isSome = true
  deleted : r.deleteSuccess = true → r.fileExists = true ∧ deletes = true
  stopped : r.stopped = true → r.valid = false
  interrupted : r.error = some .interrupted → fired ∧ r.transferSuccess = false
  /-- A transfer that succeeded has no error but that of the deletion. -/
  blamed : r.transferSuccess = true → ∀ e, r.error = some e →
    deletes = true ∧ r.fileExists = true ∧ undeleted = [e]

/-- A result in which nothing was transferred is consistent if it has an error. -/
theorem Result.isConsistent_of_error {r : Result} {deletes : Bool} {fired : Prop}
    {undeleted : List ProbeError} {e : ProbeError} (error : r.error = some e)
    (fair : e ≠ .interrupted) (paired : r.httpCodes.length = r.httpMessages.length)
    (answered : r.connectSuccess = true → r.httpCodes ≠ []) (fileName : r.fileName = none)
    (success : r.transferSuccess = false) (fileExists : r.fileExists = false)
    (deleteSuccess : r.deleteSuccess = false) (valid : r.valid = true)
    (stopped : r.stopped = false) (bytes : r.bytesTransferred = 0) :
    r.IsConsistent deletes fired undeleted where
  paired := paired
  answered := answered
  unanswered _ := by simp [error]
  named h := by simp [fileName] at h
  stored h := by simp [success, fileExists, valid, bytes] at h
  deleted h := by simp [deleteSuccess] at h
  stopped h := by simp [stopped] at h
  interrupted h := absurd (Option.some.inj (error.symm.trans h)) fair
  blamed h := by simp [success] at h

/-- How long a download took is beside the point. -/
theorem Result.IsConsistent.withDuration {r : Result} {deletes : Bool} {fired : Prop}
    {undeleted : List ProbeError} (h : r.IsConsistent deletes fired undeleted)
    (duration : Duration) : ({ r with duration } : Result).IsConsistent deletes fired undeleted :=
  ⟨h.paired, h.answered, h.unanswered, h.named, h.stored, h.deleted, h.stopped, h.interrupted,
    h.blamed⟩

/-- A way either leads to an answer that tells of success, or ends with a consistent result. -/
theorem connect_cases {σ : Type} (c : DownloadConfig) (ask : Peer σ) (text : String) (peer : σ)
    (requests : ∀ place peer e, (ask place peer).1 = .failure e → ∃ t, e = requestError t) :
    ((connect c ask text peer).2.1 = none ∧ ∀ deletes fired undeleted,
        (connect c ask text peer).1.IsConsistent deletes fired undeleted) ∨
      ∃ goal, (connect c ask text peer).2.1 = some goal ∧
        (connect c ask text peer).1.httpCodes.length =
          (connect c ask text peer).1.httpMessages.length ∧
        (connect c ask text peer).1.connectSuccess = true ∧
        (connect c ask text peer).1.httpCodes.getLast? = some goal.response.status.code ∧
        goal.response.status.isSuccess = true := by
  cases hparse : Url.parse text with
  | error e =>
    rw [connect_of_error hparse]
    refine Or.inl ⟨rfl, fun deletes fired undeleted => ?_⟩
    exact Result.isConsistent_of_error rfl ProbeError.noConfusion rfl (by simp) rfl rfl rfl rfl rfl
      rfl rfl
  | ok place =>
    obtain ⟨later, problems, -, -, codes, messages, -⟩ :=
      walked_walk ask Url.join (.start c.followRedirects c.maxRedirects) place {} peer []
    obtain ⟨led, failed⟩ :=
      walk_ends ask Url.join (.start c.followRedirects c.maxRedirects) place {} peer
    generalize hway : walk ask (.start c.followRedirects c.maxRedirects) place {} peer = way
      at codes messages led failed
    obtain ⟨trail, outcome, peer'⟩ := way
    have paired : trail.codes.length = trail.messages.length := by
      rw [codes, messages]
      simp
    rw [connect_of_walk hparse hway]
    cases outcome with
    | error e =>
      obtain ⟨place', peer'', refusal⟩ := failed e rfl
      obtain ⟨t, rfl⟩ := requests _ _ _ refusal
      refine Or.inl ⟨rfl, fun deletes fired undeleted => ?_⟩
      exact Result.isConsistent_of_error rfl (requestError_ne_interrupted t) paired (by
        simp [arrival, Result.withTrail]) rfl rfl rfl rfl rfl rfl rfl
    | ok goal =>
      have last : trail.codes.getLast? = some goal.response.status.code := led goal rfl
      have answered : trail.codes ≠ [] := by
        intro none_left
        rw [none_left] at last
        cases last
      cases success : goal.response.status.isSuccess with
      | true =>
        dsimp only [arrival]
        rw [if_pos success]
        exact Or.inr ⟨goal, rfl, paired, rfl, last, success⟩
      | false =>
        dsimp only [arrival]
        rw [if_neg (Bool.eq_false_iff.1 success)]
        refine Or.inl ⟨rfl, fun deletes fired undeleted => ?_⟩
        exact Result.isConsistent_of_error rfl ProbeError.noConfusion paired (fun _ => answered) rfl
          rfl rfl rfl rfl rfl rfl

/-- The errors of the deletions of a download. -/
def deletionErrors {σ : Type} (c : DownloadConfig) (ask : Peer σ) (identity : Identity)
    (text : String) (interrupted : Bool) (events : List Event) (tree : File.Tree) (peer : σ) :
    List ProbeError :=
  (transfer? c ask identity text interrupted peer).elim [] fun t => t.deletionErrors tree events

/-- A result that shows a transfer is consistent if its answer tells of success. -/
theorem Transfer.isConsistent_run {c : DownloadConfig} {identity : Identity} {goal : Goal}
    {interrupted : Bool} {r : Result} (tree : File.Tree) (events : List Event)
    (fair : .bodyEnds (some .interrupted) ∉ events)
    (paired : r.httpCodes.length = r.httpMessages.length) (connected : r.connectSuccess = true)
    (last : r.httpCodes.getLast? = some goal.response.status.code)
    (success : goal.response.status.isSuccess = true) :
    (r.withTransfer ((start c identity goal interrupted).run tree events).1).IsConsistent
      c.deleteAfterDownload (interrupted = true ∨ .interrupt ∈ events)
      ((start c identity goal interrupted).deletionErrors tree events) := by
  have begun : Begun ((start c identity goal interrupted).run tree events).1 :=
    begun_run tree events ⟨fun _ => Or.inl rfl, fun _ => rfl, fun _ => rfl, fun _ => rfl,
      fun _ => rfl⟩
  have tidy : Tidy ((start c identity goal interrupted).run tree events).1 :=
    tidy_run tree events (.of_unsuccessful (by simp [start]) rfl rfl)
  have honest : Honest ((start c identity goal interrupted).run tree events).1 :=
    honest_run tree events ⟨by simp [start], by simp [start, Phase.copied?], by simp [start],
      by simp [start]⟩ fair
  have deletes : ((start c identity goal interrupted).run tree events).1.deletes =
      c.deleteAfterDownload := deletes_run tree events _
  have account : Account ((start c identity goal interrupted).run tree events).1
      ((start c identity goal interrupted).settlements tree events)
      ((start c identity goal interrupted).deletionErrors tree events) :=
    account_run (.pending rfl rfl rfl) tree events
  have impatient := interrupted_run (start c identity goal interrupted) tree events
  have watched := valid_of_stopped_run tree events (t := start c identity goal interrupted) rfl
  generalize ((start c identity goal interrupted).run tree events).1 = t at *
  refine ⟨paired, fun _ => ?_, fun h => ?_, fun _ => ⟨connected, _, last, ?_⟩, fun used => ?_,
    fun h => ?_, watched, fun h => ?_, fun h e he => ?_⟩
  · intro none_left
    rw [show r.httpCodes = [] from none_left] at last
    cases last
  · rw [show r.connectSuccess = false from h] at connected
    cases connected
  · simpa [Http.Status.isSuccess] using success
  · show t.name.isSome = true
    cases named : t.name with
    | some name => rfl
    | none =>
      simp [Result.withTransfer, begun.success named, begun.fileExists named,
        begun.transferred named, begun.flags named, Flags.initial] at used
  · obtain ⟨asked, there⟩ := tidy.deleted h
    exact ⟨there, deletes ▸ asked⟩
  · obtain ⟨fired, unsuccessful⟩ := honest.reported h
    exact ⟨impatient.1 fired, unsuccessful⟩
  · obtain ⟨asked, there⟩ := tidy.blamed h (by rw [show t.error = some e from he]; rfl)
    exact ⟨deletes ▸ asked, there, account.deletionErrors_of_success h he⟩

/-- **Results hang together.**  Whatever is asked and answered, whatever becomes of the body, of the
files and of the task, and whenever the caller interrupts, the parts of the result of a download
fit each other. -/
theorem result_consistent {σ : Type} (c : DownloadConfig) (ask : Peer σ) (identity : Identity)
    (text : String) (interrupted : Bool) (events : List Event) (tree : File.Tree)
    (clock : Clock) (peer : σ)
    (requests : ∀ place peer e, (ask place peer).1 = .failure e → ∃ t, e = requestError t)
    (bodies : ∀ e, .bodyEnds (some e) ∈ events → ∃ t, e = bodyError t) :
    (probe c ask identity text interrupted events tree clock peer).1.IsConsistent
      c.deleteAfterDownload (interrupted = true ∨ .interrupt ∈ events)
      (deletionErrors c ask identity text interrupted events tree peer) := by
  have fair : .bodyEnds (some .interrupted) ∉ events := by
    intro h
    obtain ⟨t, ht⟩ := bodies _ h
    exact bodyError_ne_interrupted t ht.symm
  rcases connect_cases c ask text peer requests with
    ⟨nowhere, consistent⟩ | ⟨goal, led, paired, connected, last, success⟩
  · simp only [probe, nowhere]
    exact (consistent _ _ _).withDuration _
  · simp only [probe, led, deletionErrors, transfer?, Option.map_some, Option.elim_some]
    exact (Transfer.isConsistent_run tree events fair paired connected last success).withDuration _

/-- A peer that gives some responses one after the other, and takes too long from then on. -/
def answeringInTurn : Peer (List Response) := fun _ left =>
  (left.head?.elim (.failure .timeout) .response, left.tail)

/-- A download behind a redirect, whose look at its name fails, and whose file is stored but cannot
be deleted. -/
theorem result_consistent_if_undeleted :
    let c : DownloadConfig := { directory := "files", deleteAfterDownload := true }
    let redirect : Response :=
      { status := ⟨302, by decide, by decide⟩, location := some ⟨[47, 98]⟩ }
    let answers : List Response := [redirect, { status := ⟨200, by decide, by decide⟩ }]
    let events : List Event := [.advance (some "denied"), .advance none, .arrive [104, 105],
      .advance none, .advance none, .advance none, .bodyEnds none, .advance none, .advance none,
      .advance none, .advance none, .advance none, .advance none, .advance (some "busy"),
      .bodyEnds (some .timeout)]
    let r := (probe c answeringInTurn 42 "http://h/a" false events {} (.ofInstants []) answers).1
    r.httpCodes = [302, 200] ∧ r.transferSuccess = true ∧ r.deleteSuccess = false ∧
      r.error = some (.fileSystem "busy") ∧
      r.IsConsistent true (false = true ∨ .interrupt ∈ events) [.fileSystem "busy"] := by
  intro c redirect answers events r
  have requests : ∀ place left e, (answeringInTurn place left).1 = .failure e →
      ∃ t, e = requestError t := by
    intro place left e h
    rw [answeringInTurn] at h
    cases head : left.head? with
    | none =>
      rw [head] at h
      cases h
      exact ⟨⟨true, ""⟩, rfl⟩
    | some response =>
      rw [head] at h
      cases h
  have bodies : ∀ e, .bodyEnds (some e) ∈ events → ∃ t, e = bodyError t := by
    intro e h
    have timeout : e = .timeout := by simpa [events] using h
    exact ⟨⟨true, ""⟩, timeout⟩
  have consistent := result_consistent c answeringInTurn 42 "http://h/a" false events {}
    (.ofInstants []) answers requests bodies
  have undeleted : deletionErrors c answeringInTurn 42 "http://h/a" false events {} answers =
      [.fileSystem "busy"] := by decide +kernel
  rw [undeleted] at consistent
  exact ⟨by decide +kernel, by decide +kernel, by decide +kernel, by decide +kernel, consistent⟩

end Reachability.Download

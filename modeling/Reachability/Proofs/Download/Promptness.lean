/-
# Promptness

A transfer looks at its flags before every piece, and a read that waits gives way to the caller.
So a transfer that may not go on any more makes the read that it has begun and writes the piece
that it has in hand, and that is all.

Reads and writes are told by observation, like all that a run comes to.  What is still to come
after a stop is a property of the phase: `Phase.readsLeft` and `Phase.writesLeft` are what each
read and each write takes away from, and nothing adds to them while the flags say no.

Main definitions:

* `Transfer.gets`, `Transfer.reads` : the reads of a run;
* `Phase.readsLeft`, `Phase.writesLeft` : the reads and the writes that a stop does not prevent;
* `Transfer.Fits` : the piece in hand is no larger than a piece may be.

Main results:

* `observed_length_add_le` : what is done after a stop is taken from what was left;
* `mem_reads_of_exhausted` : only a read that finds the end of the body exhausts it;
* `stops_within_one_piece` : a stop comes into effect within one piece.
-/
import Mathlib.Data.List.Infix
import Reachability.Proofs.Download.Alone
import Reachability.Proofs.Download.Cancellation

namespace Reachability.Download

open File (Tree Directory)

/-- How many reads the transfer can make before it looks at its flags. -/
def Phase.readsLeft : Phase → Nat
  | .reading _ => 1
  | _ => 0

/-- How many writes the transfer can make before it looks at its flags. -/
def Phase.writesLeft : Phase → Nat
  | .reading _ | .writing _ _ => 1
  | _ => 0

namespace Transfer

/-! ## Reads -/

/-- What a read of the body comes to.  One that gives way to the caller, or that has nothing to
deliver yet, comes to nothing. -/
def gets (t : Transfer) (_ : Tree) : Event → Option Read
  | .advance _ =>
      match t.phase with
      | .reading _ =>
          match t.read with
          | .pending | .ended .aborted => none
          | read => some read
      | _ => none
  | _ => none

/-- The reads of a run, each with what it came to. -/
def reads (t : Transfer) (tree : Tree) (events : List Event) : List Read :=
  observed gets t tree events

/-! ## What a stop leaves to be done -/

section Left

variable {t : Transfer} {tree : Tree}

/-- While the transfer may not go on, a read uses up one that was left. -/
theorem gets_length_add_le (held : t.mayGoOn = false) (e : Event) :
    (gets t tree e).toList.length + (step (t, tree) e).1.phase.readsLeft ≤
      t.phase.readsLeft := by
  cases e with
  | advance fault =>
    have cases_of_step := advances t tree fault
    simp only [step]
    generalize t.advance tree fault = s at cases_of_step ⊢
    cases cases_of_step with
    | allowed phase goesOn =>
      rw [held] at goesOn
      cases goesOn
    | taken phase read | ended phase read =>
      rw [phase]
      show _ + 0 ≤ 1
      cases gets t tree (.advance fault) <;> simp
    | waited phase read => simp [gets, phase, read]
    | _ phase => simp [gets, phase, Phase.readsLeft]
  | interrupt => exact Nat.le_of_eq (Nat.zero_add _)
  | polled read | arrive bytes | bodyEnds problem =>
    rw [phase_step (t, tree) (by simp)]
    exact Nat.le_of_eq (Nat.zero_add _)

/-- While the transfer may not go on, a write uses up one that was left. -/
theorem puts_length_add_le (held : t.mayGoOn = false) (e : Event) :
    (puts t tree e).toList.length + (step (t, tree) e).1.phase.writesLeft ≤
      t.phase.writesLeft := by
  cases e with
  | advance fault =>
    have cases_of_step := advances t tree fault
    simp only [step]
    generalize t.advance tree fault = s at cases_of_step ⊢
    cases cases_of_step with
    | allowed phase goesOn =>
      rw [held] at goesOn
      cases goesOn
    | waited phase read => simp [puts, phase]
    | _ phase => simp [puts, phase, Phase.writesLeft]
  | interrupt => exact Nat.le_of_eq (Nat.zero_add _)
  | polled read | arrive bytes | bodyEnds problem =>
    rw [phase_step (t, tree) (by simp)]
    exact Nat.le_of_eq (Nat.zero_add _)

/-- What is done while a transfer may not go on is taken from what was left. -/
theorem observed_length_add_le {α : Type} {see : Transfer → Tree → Event → Option α}
    {left : Phase → Nat}
    (uses : ∀ u utree e, u.mayGoOn = false →
      (see u utree e).toList.length + left (step (u, utree) e).1.phase ≤ left u.phase)
    (later : List Event) (held : ∀ more, more <+: later → (t.run tree more).1.mayGoOn = false) :
    (observed see t tree later).length + left (t.run tree later).1.phase ≤ left t.phase := by
  induction later using List.reverseRecOn with
  | nil =>
    show 0 + left t.phase ≤ left t.phase
    omega
  | append_singleton later e ih =>
    have before := ih fun more hmore => held more (hmore.trans (List.prefix_append later [e]))
    have now : (see (t.run tree later).1 (t.run tree later).2 e).toList.length +
        left (step (t.run tree later) e).1.phase ≤ left (t.run tree later).1.phase :=
      uses _ _ e (held later (List.prefix_append later [e]))
    rw [observed_concat, List.length_append, run_concat]
    omega

end Left

/-! ## The size of a piece -/

/-- The piece in hand is no larger than pieces are to be. -/
structure Fits (t : Transfer) (size : Nat) : Prop where
  pieceSize : t.pieceSize = size
  inHand : t.phase.inHand.length ≤ size

section Fits

variable {t : Transfer} {tree : Tree} {size : Nat}

theorem Fits.step (fits : Fits t size) (tree : Tree) (e : Event) :
    Fits (step (t, tree) e).1 size := by
  cases e with
  | advance fault =>
    have cases_of_step := advances t tree fault
    simp only [Transfer.step]
    generalize t.advance tree fault = s at cases_of_step ⊢
    cases cases_of_step with
    | taken phase read =>
      have short := (length_of_read_piece read).2
      rw [fits.pieceSize] at short
      exact ⟨fits.pieceSize, short⟩
    | waited phase | rested phase => exact fits
    | _ phase => exact ⟨fits.pieceSize, Nat.zero_le size⟩
  | interrupt => exact ⟨fits.pieceSize, fits.inHand⟩
  | polled read | arrive bytes | bodyEnds problem =>
    simp only [Transfer.step]
    split <;> exact ⟨fits.pieceSize, fits.inHand⟩

theorem Fits.run (fits : Fits t size) (tree : Tree) (events : List Event) :
    Fits (t.run tree events).1 size :=
  run_invariant (p := fun u => Fits u size) tree events fits
    fun _ utree e _ fits => fits.step utree e

/-- No write puts more into the file than a piece. -/
theorem Fits.length_le_of_mem_writes (fits : Fits t size) {events : List Event}
    {bytes : List UInt8} (h : bytes ∈ t.writes tree events) : bytes.length ≤ size := by
  obtain ⟨before, e, after, -, seen⟩ := exists_of_mem_observed h
  have inHand := (fits.run tree before).inHand
  cases e with
  | advance fault =>
    simp only [puts] at seen
    split at seen
    · next sink piece phase =>
      rw [phase] at inHand
      rw [← Option.some.inj seen]
      split
      · exact inHand
      · exact Nat.zero_le size
    · cases seen
  | _ => cases seen

/-- One write at most puts a piece at most into the file. -/
theorem Fits.written_length_le (fits : Fits t size) {events : List Event}
    (once : (t.writes tree events).length ≤ 1) : (t.written tree events).length ≤ size := by
  rw [written]
  cases hwrites : t.writes tree events with
  | nil => exact Nat.zero_le size
  | cons bytes more =>
    rw [hwrites, List.length_cons] at once
    obtain rfl : more = [] := List.eq_nil_of_length_eq_zero (by omega)
    have only : bytes ∈ t.writes tree events := by
      rw [hwrites]
      exact List.mem_singleton_self bytes
    have short := fits.length_le_of_mem_writes only
    simpa using short

end Fits

/-! ## The end of the body -/

section End

variable {t : Transfer} {tree : Tree}

/-- A step exhausts the body only by a read that finds its end. -/
theorem gets_of_exhausted {e : Event}
    (h : (step (t, tree) e).1.phase.copied? = some .exhausted) :
    t.phase.copied? = some .exhausted ∨ gets t tree e = some (.ended .exhausted) := by
  cases e with
  | advance fault =>
    have cases_of_step := advances t tree fault
    simp only [step] at h
    generalize t.advance tree fault = s at cases_of_step h
    cases cases_of_step with
    | ended phase read =>
      obtain rfl := Option.some.inj h
      exact Or.inr (by simp [gets, phase, read])
    | flushed phase | unflushed phase | closed phase =>
      rw [phase]
      exact Or.inl h
    | waited phase | rested phase => exact Or.inl h
    | _ phase => cases h
  | interrupt => exact Or.inl h
  | polled read | arrive bytes | bodyEnds problem =>
    rw [phase_step (t, tree) (by simp)] at h
    exact Or.inl h

/-- Only a read that finds the end of the body exhausts it. -/
theorem mem_reads_of_exhausted (going : t.phase.copied? = none) {events : List Event}
    (h : (t.run tree events).1.phase.copied? = some .exhausted) :
    .ended .exhausted ∈ t.reads tree events := by
  induction events using List.reverseRecOn with
  | nil =>
    rw [run, List.foldl_nil, going] at h
    cases h
  | append_singleton events e ih =>
    rw [run_concat] at h
    rw [reads, observed_concat, List.mem_append]
    have now : (t.run tree events).1.phase.copied? = some .exhausted ∨
        gets (t.run tree events).1 (t.run tree events).2 e = some (.ended .exhausted) :=
      gets_of_exhausted h
    rcases now with earlier | found
    · exact Or.inl (ih earlier)
    · right
      rw [found]
      exact List.mem_singleton_self _

end End

/-! ## After a stop -/

/-- **A stop is prompt.**  From the moment when a transfer may not go on, and as long as that
stays so, it makes one read and one write at most, and its file and its counter grow by a piece at
most, whenever the moment is.  If the copying ends as that of a whole body, then by the one read
that found the end, and the body is in the file. -/
theorem stops_within_one_piece (c : DownloadConfig) (identity : Identity) (goal : Goal)
    (interrupted : Bool) (tree : Tree) (before later : List Event)
    (held : ∀ more, more <+: later →
      ((start c identity goal interrupted).run tree (before ++ more)).1.mayGoOn = false) :
    let t := start c identity goal interrupted
    let now := t.run tree before
    let after := t.run tree (before ++ later)
    let grown := now.1.written now.2 later
    ((now.1.reads now.2 later).length ≤ 1 ∧ (now.1.writes now.2 later).length ≤ 1) ∧
    (grown.length ≤ max c.chunkSize.toNat 1 ∧
      after.1.transferred = now.1.transferred + grown.length ∧
      (∀ name, now.1.phase.file? = some name →
        (⟨c.directory⟩ : Directory).stored? now.2 name = some (t.written tree before)) ∧
      ∀ name, after.1.phase.file? = some name →
        (⟨c.directory⟩ : Directory).stored? after.2 name =
          some (t.written tree before ++ grown)) ∧
    (now.1.phase.copied? = none → after.1.phase.copied? = some .exhausted →
      now.1.reads now.2 later = [.ended .exhausted] ∧
        Body.of (before ++ later) = ⟨t.written tree before ++ grown, true⟩) := by
  intro t now after grown
  have hafter : after = now.1.run now.2 later := run_append t tree before later
  have hwritten : t.written tree (before ++ later) = t.written tree before ++ grown :=
    written_append t tree before later
  -- nothing adds to what is left after the stop
  have stopped : ∀ more, more <+: later → (now.1.run now.2 more).1.mayGoOn = false := by
    intro more hmore
    rw [← run_append]
    exact held more hmore
  have oneRead : (now.1.reads now.2 later).length ≤ 1 := by
    have spent := observed_length_add_le (fun _ _ e h => gets_length_add_le h e) later stopped
    have left : now.1.phase.readsLeft ≤ 1 := by cases now.1.phase <;> simp [Phase.readsLeft]
    exact (Nat.le_add_right _ _).trans (spent.trans left)
  have oneWrite : (now.1.writes now.2 later).length ≤ 1 := by
    have spent := observed_length_add_le (fun _ _ e h => puts_length_add_le h e) later stopped
    have left : now.1.phase.writesLeft ≤ 1 := by cases now.1.phase <;> simp [Phase.writesLeft]
    exact (Nat.le_add_right _ _).trans (spent.trans left)
  -- and the one write puts one piece into the file
  have initially : Fits t (max c.chunkSize.toNat 1) := ⟨rfl, Nat.zero_le _⟩
  have fits : Fits now.1 (max c.chunkSize.toNat 1) := initially.run tree before
  have alone := alone_run c identity goal interrupted tree
  refine ⟨⟨oneRead, oneWrite⟩, ⟨fits.written_length_le oneWrite, ?_, ?_, ?_⟩, ?_⟩
  · rw [(alone (before ++ later)).tally.counted, hwritten, List.length_append,
      (alone before).tally.counted]
  · intro name opened
    exact stored?_run c identity goal interrupted tree before opened
  · intro name opened
    rw [← hwritten]
    exact stored?_run c identity goal interrupted tree (before ++ later) opened
  · intro going exhausted
    constructor
    · rw [hafter] at exhausted
      have found := mem_reads_of_exhausted going exhausted
      obtain ⟨read, hread⟩ := List.length_eq_one_iff.1
        (Nat.le_antisymm oneRead (List.length_pos_of_mem found))
      rw [hread, List.mem_singleton] at found
      rw [hread, found]
    · rw [← hwritten]
      exact (alone (before ++ later)).body_eq exhausted

/-- A task that is stopped while a read waits: two bytes more are read and written, and the third
one that arrives is not. -/
theorem stops_while_a_read_waits :
    let c : DownloadConfig := { directory := "files", chunkSize := 2 }
    let goal : Goal := ⟨{ scheme := "http" }, { status := ⟨200, by decide, by decide⟩ }⟩
    let before : List Event :=
      [.advance none, .advance none, .advance none, .advance none,
        .polled (.ok (some ⟨1, 42, false⟩))]
    let later : List Event :=
      [.arrive [104, 105, 33], .advance none, .advance none, .advance none]
    let now := (start c 42 goal false).run {} before
    (∀ more, more <+: later →
        ((start c 42 goal false).run {} (before ++ more)).1.mayGoOn = false) ∧
      (now.1.reads now.2 later).length ≤ 1 ∧ now.1.written now.2 later = [104, 105] := by
  intro c goal before later now
  have held : ∀ more, more <+: later →
      ((start c 42 goal false).run {} (before ++ more)).1.mayGoOn = false := by
    intro more hmore
    have every : ∀ more ∈ later.inits,
        ((start c 42 goal false).run {} (before ++ more)).1.mayGoOn = false := by
      decide +kernel
    exact every more ((List.mem_inits more later).2 hmore)
  exact ⟨held, (stops_within_one_piece c 42 goal false {} before later held).1.1,
    by decide +kernel⟩

end Transfer
end Reachability.Download

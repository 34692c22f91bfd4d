/-
# Cancellation

The copying of a body is cut short only for a cause.  The flags start valid, and a read that
fails sets them back to that, so a transfer that looks at its flags and finds them against it
has heard of its task before.

Main definitions:

* `Transfer.AbortsAfter` : the copying is cut short by the step that follows some events.

Main results:

* `cause_of_aborted` : a transfer whose copying was cut short had a cause;
* `aborts_only_with_cause` : the cause came before, and a task that keeps running is none.
-/
import Reachability.Download.Probe
import Reachability.Proofs.Download.Run

namespace Reachability.Download.Transfer

/-! ## One step -/

/-- A read of the body gives way only to the caller. -/
theorem interrupted_of_read_aborted {t : Transfer} (h : t.read = .ended .aborted) :
    t.interrupted = true := by
  unfold read at h
  split at h
  · assumption
  · split at h
    · cases h
    · split at h <;> cases h

/-- A step cuts the copying short only if the caller gave up or the flags are against it. -/
theorem cause_of_aborted_advance {t : Transfer} {tree : File.Tree} {fault : Option String}
    (h : (t.advance tree fault).1.phase.copied? = some .aborted) :
    t.phase.copied? = some .aborted ∨ t.interrupted = true ∨ t.flags.valid = false := by
  have cases_of_step := advances t tree fault
  generalize t.advance tree fault = s at cases_of_step h
  cases cases_of_step with
  | refused phase goesOn =>
    rw [mayGoOn, Bool.and_eq_false_iff] at goesOn
    simpa using Or.inr goesOn
  | ended phase read =>
    simp only [Phase.copied?, Option.some.injEq] at h
    rw [h] at read
    exact Or.inr (Or.inl (interrupted_of_read_aborted read))
  | flushed phase | unflushed phase | closed phase =>
    rw [phase]
    exact Or.inl h
  | waited | rested => exact Or.inl h
  | _ => simp [Phase.copied?] at h

/-- Only a step of the transfer itself changes its phase. -/
theorem phase_step (s : Transfer × File.Tree) {e : Event} (h : ∀ fault, e ≠ .advance fault) :
    (step s e).1.phase = s.1.phase := by
  cases e with
  | advance fault => exact absurd rfl (h fault)
  | interrupt => rfl
  | polled read | arrive bytes | bodyEnds problem =>
    simp only [step]
    split <;> rfl

/-! ## Whole runs -/

/-- The invariant of runs: a transfer that was cut short was given up by its caller, or its
monitor read a task that is gone, has another identity or does not run. -/
theorem cause_of_aborted {t : Transfer} {tree : File.Tree} (copying : t.phase.copied? = none)
    (valid : t.flags.valid = true) (events : List Event)
    (h : (t.run tree events).1.phase.copied? = some .aborted) :
    t.interrupted = true ∨ .interrupt ∈ events ∨
      ∃ record, .ok record ∈ t.heard tree events ∧ evaluate record t.identity ≠ .running := by
  induction events using List.reverseRecOn with
  | nil =>
    rw [run, List.foldl_nil, copying] at h
    cases h
  | append_singleton events e ih =>
    have later : t.interrupted = true ∨ .interrupt ∈ events ∨
        (∃ record, .ok record ∈ t.heard tree events ∧ evaluate record t.identity ≠ .running) →
        t.interrupted = true ∨ .interrupt ∈ events ++ [e] ∨
          ∃ record, .ok record ∈ t.heard tree (events ++ [e]) ∧
            evaluate record t.identity ≠ .running := by
      rintro (hi | hi | ⟨record, hr, hv⟩)
      · exact Or.inl hi
      · exact Or.inr (Or.inl (List.mem_append_left _ hi))
      · refine Or.inr (Or.inr ⟨record, ?_, hv⟩)
        rw [heard_concat]
        exact List.mem_append_left _ hr
    apply later
    rw [run_concat] at h
    by_cases he : ∃ fault, e = .advance fault
    · obtain ⟨fault, rfl⟩ := he
      rcases cause_of_aborted_advance h with hc | hi | hv
      · exact ih hc
      · rcases (interrupted_run t tree events).1 hi with hi | hi
        · exact Or.inl hi
        · exact Or.inr (Or.inl hi)
      · -- the flags are against it: the last read that was heard is the cause
        have hv : (t.run tree events).1.flags.valid = false := hv
        rw [flags_run] at hv
        cases hl : (t.heard tree events).getLast? with
        | none =>
          rw [hl, Option.elim_none, valid] at hv
          cases hv
        | some read =>
          rw [hl, Option.elim_some, Flags.valid_polled_eq_false_iff] at hv
          obtain ⟨record, rfl, hv⟩ := hv
          exact Or.inr (Or.inr ⟨record, List.mem_of_getLast? hl, hv⟩)
    · have same : (step (t.run tree events) e).1.phase = (t.run tree events).1.phase :=
        phase_step _ fun fault h => he ⟨fault, h⟩
      rw [same] at h
      exact ih h

/-- The copying goes on after some events, and is cut short by the step that follows. -/
def AbortsAfter (t : Transfer) (tree : File.Tree) (before : List Event)
    (fault : Option String) : Prop :=
  (t.run tree before).1.phase.copied? = none ∧
    (t.run tree (before ++ [.advance fault])).1.phase.copied? = some .aborted

instance (t : Transfer) (tree : File.Tree) (before : List Event) (fault : Option String) :
    Decidable (AbortsAfter t tree before fault) :=
  inferInstanceAs (Decidable (_ ∧ _))

/-- **No cancellation without a cause.**  When the copying is cut short, the caller has given up
before, or the running monitor has read before that the task is gone, has another identity or
does not run.  A task that every read which does not fail finds running under its identity is
never cut short, unless by the caller. -/
theorem aborts_only_with_cause (c : DownloadConfig) (identity : Identity) (goal : Goal)
    (interrupted : Bool) (tree : File.Tree) :
    (∀ before fault, AbortsAfter (start c identity goal interrupted) tree before fault →
      interrupted = true ∨ .interrupt ∈ before ∨
        ∃ record, .ok record ∈ (start c identity goal interrupted).heard tree before ∧
          (record = none ∨
            ∃ r, record = some r ∧ (r.identity ≠ identity ∨ r.running = false))) ∧
    ∀ events, interrupted = false → .interrupt ∉ events →
      (∀ record, .polled (.ok record) ∈ events →
        ∃ r, record = some r ∧ r.identity = identity ∧ r.running = true) →
      ∀ before, before <+: events →
        ((start c identity goal interrupted).run tree before).1.phase.copied? ≠
          some .aborted := by
  constructor
  · rintro before fault ⟨-, aborted⟩
    rcases cause_of_aborted rfl rfl _ aborted with hi | hi | ⟨record, hr, hv⟩
    · exact Or.inl hi
    · refine Or.inr (Or.inl ?_)
      simpa using hi
    · refine Or.inr (Or.inr ⟨record, by simpa [heard_concat, hears] using hr, ?_⟩)
      rw [ne_eq, evaluate_eq_running_iff] at hv
      cases record with
      | none => exact Or.inl rfl
      | some r =>
        refine Or.inr ⟨r, rfl, ?_⟩
        by_cases hid : r.identity = identity
        · exact Or.inr (Bool.eq_false_iff.2 fun hrun => hv ⟨r, rfl, hid, hrun⟩)
        · exact Or.inl hid
  · intro events patient quiet steady before hbefore aborted
    rcases cause_of_aborted rfl rfl _ aborted with hi | hi | ⟨record, hr, hv⟩
    · rw [start, patient] at hi
      cases hi
    · exact quiet (hbefore.subset hi)
    · exact hv (evaluate_eq_running_iff.2
        (steady record (hbefore.subset (polled_mem_of_mem_heard hr))))

/-- A transfer whose task is stopped before the second piece. -/
theorem aborts_for_stopped_task :
    let t := start { directory := "files" } 42
      ⟨{ scheme := "http" }, { status := ⟨200, by decide, by decide⟩ }⟩ false
    let before : List Event :=
      [.advance none, .advance none, .arrive [104, 105], .advance none, .advance none,
        .advance none, .polled (.ok (some ⟨1, 42, false⟩))]
    AbortsAfter t {} before none ∧
      (false = true ∨ .interrupt ∈ before ∨
        ∃ record, .ok record ∈ t.heard {} before ∧
          (record = none ∨ ∃ r, record = some r ∧ (r.identity ≠ 42 ∨ r.running = false))) := by
  intro t before
  have aborts : AbortsAfter t {} before none := by decide +kernel
  exact ⟨aborts, (aborts_only_with_cause _ _ _ _ _).1 before none aborts⟩

end Reachability.Download.Transfer

/-
# Runs of transfers

A transfer is a machine that takes events.  `Advances` says once what a step of it can do, and
what is preserved by every step is read off there.

What a run came to is told by observations: at each event something may be seen of the
transfer, and a run yields the list of what was seen, in order.  The flags of a transfer, for
one, are those of the last read of the task that its monitor made.

Main definitions:

* `Transfer.Advances` : the steps of a transfer, case by case;
* `Transfer.observed` : what was seen in a run;
* `Transfer.heard` : the reads of the task by the running monitor;
* `Phase.copied?` : how the copying ended.

Main results:

* `advances` : every step is one of the cases;
* `flags_run`, `interrupted_run` : the flags and the interruption after a run.
-/
import Mathlib.Data.List.Induction
import Reachability.Download.Transfer

namespace Reachability.Download

/-- How the copying ended, until that is settled. -/
def Phase.copied? : Phase → Option Ending
  | .flushing _ copied | .closing _ copied | .settling _ copied _ => some copied
  | _ => none

namespace Transfer

/-! ## The cases of a step -/

/-- What one step of a transfer leads to. -/
inductive Advances (t : Transfer) (tree : File.Tree) (fault : Option String) :
    Transfer × File.Tree → Prop
  | passed {tried : Nat} (phase : t.phase = .naming tried) (calm : fault = none)
      (busy : t.directory.isTaken tree (t.nameToTry tried) = true) (more : tried < File.maxNumber) :
      Advances t tree fault ({ t with phase := .naming (tried + 1) }, tree)
  | nameless {tried : Nat} (phase : t.phase = .naming tried) (calm : fault = none)
      (busy : t.directory.isTaken tree (t.nameToTry tried) = true) (last : File.maxNumber ≤ tried) :
      Advances t tree fault ({ t with error := some .fileName, phase := .finished }, tree)
  | named {tried : Nat} (phase : t.phase = .naming tried)
      (free : fault = none → t.directory.isTaken tree (t.nameToTry tried) = false) :
      Advances t tree fault
        ({ t with name := some (t.nameToTry tried), phase := .creating (t.nameToTry tried) }, tree)
  | created {name : String} {made : File.Tree} {handle : File.Tree.Handle}
      (phase : t.phase = .creating name) (calm : fault = none)
      (done : t.directory.create tree name = (made, .ok handle)) :
      Advances t tree fault ({ t with phase := .checking ⟨name, handle⟩ }, made)
  | uncreated {name : String} {made : File.Tree} {e : ProbeError} (phase : t.phase = .creating name)
      (failed : t.create tree fault name = (made, .error e)) :
      Advances t tree fault ({ t with error := some e, phase := .finished }, made)
  | allowed {sink : Sink} (phase : t.phase = .checking sink) (goesOn : t.mayGoOn = true) :
      Advances t tree fault ({ t with phase := .reading sink }, tree)
  | refused {sink : Sink} (phase : t.phase = .checking sink) (goesOn : t.mayGoOn = false) :
      Advances t tree fault ({ t with phase := .flushing sink.name .aborted }, tree)
  | taken {sink : Sink} {bytes : List UInt8} {rest : List (List UInt8)}
      (phase : t.phase = .reading sink) (read : t.read = .piece bytes rest) :
      Advances t tree fault ({ t with arrived := rest, phase := .writing sink bytes }, tree)
  | ended {sink : Sink} {copied : Ending}
      (phase : t.phase = .reading sink) (read : t.read = .ended copied) :
      Advances t tree fault ({ t with phase := .flushing sink.name copied }, tree)
  | waited {sink : Sink} (phase : t.phase = .reading sink) (read : t.read = .pending) :
      Advances t tree fault (t, tree)
  | written {sink : Sink} {piece : List UInt8}
      (phase : t.phase = .writing sink piece) (calm : fault = none) :
      Advances t tree fault
        ({ t with
            transferred := t.transferred + piece.length
            phase := .checking { sink with handle := (tree.writeAt sink.handle piece).2 } },
          (tree.writeAt sink.handle piece).1)
  | unwritten {sink : Sink} {piece : List UInt8} {text : String}
      (phase : t.phase = .writing sink piece) (fails : fault = some text) :
      Advances t tree fault
        ({ t with phase := .flushing sink.name (.failed (.fileSystem text)) }, tree)
  | flushed {name : String} {copied : Ending}
      (phase : t.phase = .flushing name copied) (calm : fault = none) :
      Advances t tree fault ({ t with phase := .closing name copied }, tree)
  | unflushed {name : String} {copied : Ending} {text : String}
      (phase : t.phase = .flushing name copied) (fails : fault = some text) :
      Advances t tree fault
        ({ t with phase := .settling name copied (some (.fileSystem text)) }, tree)
  | closed {name : String} {copied : Ending} (phase : t.phase = .closing name copied) :
      Advances t tree fault
        ({ t with phase := .settling name copied (fault.map .fileSystem) }, tree)
  | settled {name : String} {copied : Ending} {problem : Option ProbeError}
      (phase : t.phase = .settling name copied problem) :
      Advances t tree fault
        ({ t with
            success := (settle copied problem t.interrupted).1
            error := (settle copied problem t.interrupted).2
            phase := .looking name }, tree)
  | found {name : String} {there : Bool} (phase : t.phase = .looking name)
      (seen : there = (fault.isNone && t.directory.isTaken tree name))
      (unwanted : (t.deletes && there) = true) :
      Advances t tree fault ({ t with fileExists := there, phase := .deleting name }, tree)
  | looked {name : String} {there : Bool} (phase : t.phase = .looking name)
      (seen : there = (fault.isNone && t.directory.isTaken tree name))
      (wanted : (t.deletes && there) = false) :
      Advances t tree fault ({ t with fileExists := there, phase := .finished }, tree)
  | deleted {name : String} {rest : File.Tree} {done : Bool}
      (phase : t.phase = .deleting name)
      (removed : t.delete tree fault name = .ok (rest, done)) :
      Advances t tree fault ({ t with deleteSuccess := done, phase := .finished }, rest)
  | undeleted {name : String} {e : ProbeError} (phase : t.phase = .deleting name)
      (failed : t.delete tree fault name = .error e) :
      Advances t tree fault ({ t with error := t.error.or (some e), phase := .finished }, tree)
  | rested (phase : t.phase = .finished) : Advances t tree fault (t, tree)

/-- Every step of a transfer is one of the cases. -/
theorem advances (t : Transfer) (tree : File.Tree) (fault : Option String) :
    Advances t tree fault (t.advance tree fault) := by
  unfold advance
  split
  case h_1 tried phase =>
    dsimp only
    split
    · next seen =>
      rw [Bool.and_eq_true, Option.isNone_iff_eq_none] at seen
      split
      · next more => exact .passed phase seen.1 seen.2 more
      · next last => exact .nameless phase seen.1 seen.2 (Nat.le_of_not_lt last)
    · next unseen =>
      refine .named phase fun calm => ?_
      simpa [calm] using unseen
  case h_2 name phase =>
    cases done : t.create tree fault name with
    | mk made result =>
      cases result with
      | error e => exact .uncreated phase done
      | ok handle =>
        cases fault with
        | some text => cases congrArg Prod.snd done
        | none => exact .created phase rfl done
  case h_3 sink phase =>
    cases goesOn : t.mayGoOn with
    | true => exact .allowed phase goesOn
    | false => exact .refused phase goesOn
  case h_4 sink phase =>
    cases read : t.read with
    | piece bytes rest => exact .taken phase read
    | ended copied => exact .ended phase read
    | pending => exact .waited phase read
  case h_5 sink piece phase =>
    cases fault with
    | none => exact .written phase rfl
    | some text => exact .unwritten phase rfl
  case h_6 name copied phase =>
    cases fault with
    | none => exact .flushed phase rfl
    | some text => exact .unflushed phase rfl
  case h_7 phase => exact .closed phase
  case h_8 phase => exact .settled phase
  case h_9 name phase =>
    dsimp only
    cases h : t.deletes && (fault.isNone && t.directory.isTaken tree name) with
    | true => exact .found phase rfl h
    | false => exact .looked phase rfl h
  case h_10 name phase =>
    cases removed : t.delete tree fault name with
    | error e => exact .undeleted phase removed
    | ok s => exact .deleted phase removed
  case h_11 phase => exact .rested phase

/-! ## What steps leave alone -/

/-- What no step of a transfer changes by itself. -/
structure Kept (t t' : Transfer) : Prop where
  directory : t'.directory = t.directory
  identity : t'.identity = t.identity
  deletes : t'.deletes = t.deletes
  flags : t'.flags = t.flags
  interrupted : t'.interrupted = t.interrupted

theorem kept_advance (t : Transfer) (tree : File.Tree) (fault : Option String) :
    Kept t (t.advance tree fault).1 := by
  have h := advances t tree fault
  generalize t.advance tree fault = s at h ⊢
  cases h <;> exact ⟨rfl, rfl, rfl, rfl, rfl⟩

/-- No event changes the identity that the transfer was started with. -/
theorem identity_step (s : Transfer × File.Tree) (e : Event) :
    (step s e).1.identity = s.1.identity := by
  obtain ⟨t, tree⟩ := s
  cases e with
  | advance fault => exact (kept_advance t tree fault).identity
  | interrupt => rfl
  | polled read | arrive bytes | bodyEnds problem =>
    simp only [step]
    split <;> rfl

/-- The caller's interruption is never taken back. -/
theorem interrupted_step (s : Transfer × File.Tree) (e : Event) :
    (step s e).1.interrupted = true ↔ s.1.interrupted = true ∨ e = .interrupt := by
  obtain ⟨t, tree⟩ := s
  cases e with
  | advance fault =>
    have h := (kept_advance t tree fault).interrupted
    simp [step, h]
  | interrupt => simp [step]
  | polled read | arrive bytes | bodyEnds problem =>
    simp only [step]
    split <;> simp

/-! ## Observations -/

/-- A run with one more event. -/
theorem run_concat (t : Transfer) (tree : File.Tree) (events : List Event) (e : Event) :
    t.run tree (events ++ [e]) = step (t.run tree events) e := by
  simp only [run, List.foldl_append, List.foldl_cons, List.foldl_nil]

/-- What can be seen in a run, where `see` tells what can be seen at one event. -/
def observed {α : Type} (see : Transfer → File.Tree → Event → Option α) (t : Transfer)
    (tree : File.Tree) : List Event → List α
  | [] => []
  | e :: events =>
      (see t tree e).toList ++ observed see (step (t, tree) e).1 (step (t, tree) e).2 events

/-- What can be seen in a run that is continued. -/
theorem observed_append {α : Type} (see : Transfer → File.Tree → Event → Option α)
    (t : Transfer) (tree : File.Tree) (events later : List Event) :
    observed see t tree (events ++ later) =
      observed see t tree events ++
        observed see (t.run tree events).1 (t.run tree events).2 later := by
  induction events generalizing t tree with
  | nil => rfl
  | cons first events ih =>
    rw [List.cons_append, observed, observed, ih, List.append_assoc]
    rfl

/-- One more event adds what can be seen at it. -/
theorem observed_concat {α : Type} (see : Transfer → File.Tree → Event → Option α)
    (t : Transfer) (tree : File.Tree) (events : List Event) (e : Event) :
    observed see t tree (events ++ [e]) =
      observed see t tree events ++
        (see (t.run tree events).1 (t.run tree events).2 e).toList := by
  rw [observed_append]
  simp [observed]

/-- What was seen in a run was seen at one of its events. -/
theorem exists_of_mem_observed {α : Type} {see : Transfer → File.Tree → Event → Option α}
    {t : Transfer} {tree : File.Tree} {events : List Event} {a : α}
    (h : a ∈ observed see t tree events) :
    ∃ before e after, events = before ++ e :: after ∧
      see (t.run tree before).1 (t.run tree before).2 e = some a := by
  induction events using List.reverseRecOn with
  | nil => cases h
  | append_singleton events e ih =>
    rw [observed_concat, List.mem_append] at h
    rcases h with h | h
    · obtain ⟨before, first, after, rfl, seen⟩ := ih h
      exact ⟨before, first, after ++ [e], by simp, seen⟩
    · exact ⟨events, e, [], rfl, by simpa using h⟩

/-! ## What the monitor heard -/

/-- A read of the task by the running monitor. -/
def hears (t : Transfer) (_ : File.Tree) : Event → Option (Except Error (Option TaskRecord))
  | .polled read => if t.isWatched then some read else none
  | _ => none

/-- The reads of the task by the running monitor, in order. -/
def heard (t : Transfer) (tree : File.Tree) (events : List Event) :
    List (Except Error (Option TaskRecord)) :=
  observed hears t tree events

theorem heard_concat (t : Transfer) (tree : File.Tree) (events : List Event) (e : Event) :
    t.heard tree (events ++ [e]) =
      t.heard tree events ++ (hears (t.run tree events).1 (t.run tree events).2 e).toList :=
  observed_concat hears t tree events e

/-- Only polls are heard. -/
theorem polled_mem_of_mem_heard {t : Transfer} {tree : File.Tree} {events : List Event}
    {read : Except Error (Option TaskRecord)} (h : read ∈ t.heard tree events) :
    .polled read ∈ events := by
  obtain ⟨before, e, after, rfl, seen⟩ := exists_of_mem_observed h
  cases e with
  | polled other =>
    simp only [hears, Option.ite_none_right_eq_some, Option.some.injEq] at seen
    simp [seen.2]
  | _ => cases seen

/-- The flags change only with a read that is heard. -/
theorem flags_step (s : Transfer × File.Tree) (e : Event) :
    (step s e).1.flags =
      (hears s.1 s.2 e).elim s.1.flags fun read => .polled read s.1.identity := by
  obtain ⟨t, tree⟩ := s
  cases e with
  | advance fault => exact (kept_advance t tree fault).flags
  | interrupt => rfl
  | polled read =>
    simp only [step, hears]
    split <;> rfl
  | arrive bytes | bodyEnds problem =>
    simp only [step]
    split <;> rfl

/-! ## Whole runs -/

/-- What every event of a run keeps holds all along. -/
theorem run_invariant {p : Transfer → Prop} {t : Transfer} (tree : File.Tree) (events : List Event)
    (start : p t) (keeps : ∀ u tree, ∀ e ∈ events, p u → p (step (u, tree) e).1) :
    p (t.run tree events).1 := by
  induction events using List.reverseRecOn with
  | nil => exact start
  | append_singleton events e ih =>
    rw [run_concat]
    refine keeps _ _ e (by simp) (ih fun u tree other hother => ?_)
    exact keeps u tree other (List.mem_append_left [e] hother)

theorem identity_run (t : Transfer) (tree : File.Tree) (events : List Event) :
    (t.run tree events).1.identity = t.identity := by
  induction events using List.reverseRecOn with
  | nil => rfl
  | append_singleton events e ih => rw [run_concat, identity_step, ih]

theorem interrupted_run (t : Transfer) (tree : File.Tree) (events : List Event) :
    (t.run tree events).1.interrupted = true ↔ t.interrupted = true ∨ .interrupt ∈ events := by
  induction events using List.reverseRecOn with
  | nil => simp [run]
  | append_singleton events e ih =>
    rw [run_concat, interrupted_step, ih, List.mem_append, List.mem_singleton, or_assoc]
    simp only [eq_comm]

/-- The flags are those that the last read published. -/
theorem flags_run (t : Transfer) (tree : File.Tree) (events : List Event) :
    (t.run tree events).1.flags =
      (t.heard tree events).getLast?.elim t.flags fun read => .polled read t.identity := by
  induction events using List.reverseRecOn with
  | nil => rfl
  | append_singleton events e ih =>
    rw [run_concat, flags_step, ih, identity_run, heard_concat]
    cases hears (t.run tree events).1 (t.run tree events).2 e with
    | none => simp
    | some read => simp

end Transfer
end Reachability.Download

/-
# A transfer that has its directory to itself

Where nobody else writes to the directory of a transfer, the file of the transfer holds what the
transfer has written, neither more nor less.  The bytes that were written are told by
observation: every write puts a piece into the file, or nothing if it fails.

Main definitions:

* `Transfer.puts`, `Transfer.writes`, `Transfer.written` : the writes of a run, and their bytes;
* `Transfer.deposit` : the file that a transfer has after some events;
* `Phase.file?` : the name of the file that is open, or about to be looked for;
* `Transfer.Alone` : the file holds what was written, and the counter tells how much that is.

Main results:

* `Alone.step`, `alone_run` : that is so all along;
* `Alone.file`, `stored?_run` : where the file is found and what it holds;
* `Alone.body_eq` : it holds the whole body when that was copied to its end.
-/
import Reachability.Proofs.Download.Deposit
import Reachability.Proofs.File.Content

namespace Reachability.Download

open File (Tree Route Directory)

/-- The name of the file that a transfer has open, closes, looks for or deletes. -/
def Phase.file? : Phase → Option String
  | .checking sink | .reading sink | .writing sink _ => some sink.name
  | .flushing name _ | .closing name _ | .settling name _ _ | .looking name | .deleting name =>
      some name
  | .naming _ | .creating _ | .finished => none

theorem Phase.file?_eq_some_iff {p : Phase} {name : String} :
    p.file? = some name ↔ (∃ sink, p.part = .copying sink ∧ sink.name = name) ∨
      p.part = .closing name := by
  cases p <;> simp [file?, part]

/-- A transfer that has just copied has its file still open. -/
theorem Phase.exists_file?_of_copied? {p : Phase} {copied : Ending} (h : p.copied? = some copied) :
    ∃ name, p.file? = some name := by
  cases p with
  | flushing name | closing name | settling name => exact ⟨name, rfl⟩
  | _ => cases h

namespace Transfer

/-! ## Runs in two parts -/

theorem run_append (t : Transfer) (tree : Tree) (events later : List Event) :
    t.run tree (events ++ later) = (t.run tree events).1.run (t.run tree events).2 later := by
  simp only [run, List.foldl_append]

/-! ## Writes -/

/-- What a write puts into the file: its piece, or nothing if it fails. -/
def puts (t : Transfer) (_ : Tree) : Event → Option (List UInt8)
  | .advance fault =>
      match t.phase with
      | .writing _ piece => some (if fault.isNone then piece else [])
      | _ => none
  | _ => none

/-- The writes of a run, each with what it put into the file. -/
def writes (t : Transfer) (tree : Tree) (events : List Event) : List (List UInt8) :=
  observed puts t tree events

/-- The bytes that a run put into the file. -/
def written (t : Transfer) (tree : Tree) (events : List Event) : List UInt8 :=
  (t.writes tree events).flatten

theorem written_append (t : Transfer) (tree : Tree) (events later : List Event) :
    t.written tree (events ++ later) =
      t.written tree events ++ (t.run tree events).1.written (t.run tree events).2 later := by
  rw [written, writes, observed_append, List.flatten_append]
  rfl

theorem written_concat (t : Transfer) (tree : Tree) (events : List Event) (e : Event) :
    t.written tree (events ++ [e]) =
      t.written tree events ++
        ((puts (t.run tree events).1 (t.run tree events).2 e).getD []) := by
  rw [written, writes, observed_concat, List.flatten_append]
  cases puts (t.run tree events).1 (t.run tree events).2 e <;> simp [written, writes]

/-! ## The file of a run -/

/-- What a transfer has in its directory after some events, when it had `own` before. -/
def deposit (t : Transfer) (tree : Tree) (own : Option Deposit) : List Event → Option Deposit
  | [] => own
  | e :: events =>
      deposit (step (t, tree) e).1 (step (t, tree) e).2 (t.deposits tree own e) events

theorem deposit_concat (t : Transfer) (tree : Tree) (own : Option Deposit)
    (events : List Event) (e : Event) :
    t.deposit tree own (events ++ [e]) =
      (t.run tree events).1.deposits (t.run tree events).2 (t.deposit tree own events) e := by
  induction events generalizing t tree own with
  | nil => rfl
  | cons first events ih =>
    rw [List.cons_append, deposit, ih]
    rfl

/-! ## What was written -/

/-- What a transfer has written is counted, and is what its deposit tells. -/
structure Tally (t : Transfer) (own : Option Deposit) (bytes : List UInt8) : Prop where
  counted : t.transferred = bytes.length
  unbegun : t.phase.isCopying = true → own = none → bytes = []
  stored : ∀ f ∈ own, f.content = bytes

section Tally

variable {t t' : Transfer} {tree : Tree} {own : Option Deposit} {bytes : List UInt8}

/-- A transfer that goes on without a write. -/
theorem Tally.congr (tally : Tally t own bytes) (counter : t'.transferred = t.transferred)
    (copying : t'.phase.isCopying = true → t.phase.isCopying = true) : Tally t' own bytes where
  counted := counter.trans tally.counted
  unbegun going nothing := tally.unbegun (copying going) nothing
  stored := tally.stored

/-- A step of the transfer itself keeps the tally. -/
theorem Tally.advance (tally : Tally t own bytes) (stage : Stage t tree own)
    (fault : Option String) :
    Tally (t.advance tree fault).1 (t.deposits tree own (.advance fault))
      (bytes ++ ((puts t tree (.advance fault)).getD [])) := by
  have cases_of_step := advances t tree fault
  generalize t.advance tree fault = s at cases_of_step ⊢
  cases cases_of_step with
  | created phase calm made =>
    -- nothing was written before the file was made
    obtain ⟨rfl, -, -, -⟩ := stage.of_creating (by rw [phase]; rfl)
    have nothing : bytes = [] := tally.unbegun (by rw [phase]; rfl) rfl
    subst calm
    simp only [deposits, puts, phase, create, made, Option.getD_none, List.append_nil]
    exact ⟨tally.counted, by simp, by simp [nothing]⟩
  | written phase calm =>
    obtain ⟨f, rfl, -, -, -⟩ := stage.of_copying (by rw [phase]; rfl)
    subst calm
    simp only [deposits, puts, phase, Option.isNone_none, if_true, Option.map_some,
      Option.getD_some]
    refine ⟨?_, by simp, ?_⟩
    · rw [List.length_append, tally.counted]
    · intro f' hf'
      rw [← Option.some.inj hf', tally.stored f rfl]
  | unwritten phase fails =>
    subst fails
    simp only [deposits, puts, phase, Option.isNone_some, Bool.false_eq_true, if_false,
      Option.getD_some, List.append_nil]
    exact tally.congr rfl (by simp [Phase.isCopying, Phase.part])
  | uncreated phase failed | undeleted phase failed =>
    simp only [deposits, puts, phase, failed, Option.getD_none, List.append_nil]
    exact tally.congr rfl (by simp [Phase.isCopying, Phase.part])
  | deleted phase removed =>
    simp only [deposits, puts, phase, removed, Option.getD_none, List.append_nil]
    exact ⟨tally.counted, by simp [Phase.isCopying, Phase.part], by simp⟩
  | passed phase | named phase | nameless phase | allowed phase | refused phase | taken phase
  | ended phase | flushed phase | unflushed phase | closed phase | settled phase | found phase
  | looked phase =>
    simp only [deposits, puts, phase, Option.getD_none, List.append_nil]
    exact tally.congr rfl (by simp [Phase.isCopying, Phase.part, phase])
  | waited phase | rested phase =>
    simp only [deposits, puts, phase, Option.getD_none, List.append_nil]
    exact tally

/-- Every event keeps the tally. -/
theorem Tally.step (tally : Tally t own bytes) (stage : Stage t tree own) (e : Event) :
    Tally (step (t, tree) e).1 (t.deposits tree own e) (bytes ++ ((puts t tree e).getD [])) := by
  cases e with
  | advance fault => exact tally.advance stage fault
  | interrupt =>
    simp only [deposits, puts, Option.getD_none, List.append_nil]
    exact tally.congr rfl id
  | polled read | arrive piece | bodyEnds problem =>
    simp only [deposits, puts, Option.getD_none, List.append_nil, Transfer.step]
    split <;> exact tally.congr rfl id

end Tally

/-! ## Alone in a directory -/

/-- A transfer whose file nobody else touches. -/
structure Alone (t : Transfer) (tree : Tree) (own : Option Deposit) (bytes : List UInt8)
    (b : Body) : Prop where
  stage : Stage t tree own
  copies : Copies t own b
  tally : Tally t own bytes
  stands : ∀ f ∈ own, tree.node? f.route = some (.file f.serial f.content)

section Alone

variable {t : Transfer} {tree : Tree} {own : Option Deposit} {bytes : List UInt8} {b : Body}

theorem Alone.step (alone : Alone t tree own bytes b) (e : Event) :
    Alone (step (t, tree) e).1 (step (t, tree) e).2 (t.deposits tree own e)
      (bytes ++ ((puts t tree e).getD [])) (b.next e) where
  stage := alone.stage.step e
  copies := alone.copies.step alone.stage e
  tally := alone.tally.step alone.stage e
  stands := by
    intro g hg
    have effect := alone.stage.effect e
    generalize hafter : t.deposits tree own e = after at effect hg
    cases effect with
    | idle grows => exact grows.node? (alone.stands g hg)
    | made phase calm new safe done empty =>
      obtain rfl := Option.some.inj hg
      rw [empty]
      exact (Directory.create_cases done).2.2.1
    | grown had route keeps stands =>
      obtain rfl := Option.some.inj hg
      exact stands (alone.stands _ had)
    | gone => cases hg

/-- A transfer that starts has nothing and has written nothing. -/
theorem alone_start (c : DownloadConfig) (identity : Identity) (goal : Goal) (interrupted : Bool)
    (tree : Tree) : Alone (start c identity goal interrupted) tree none [] {} where
  stage := .unnamed rfl rfl rfl
  copies := ⟨rfl, fun _ => rfl, by simp, by simp [start, Phase.copied?]⟩
  tally := ⟨rfl, fun _ _ => rfl, by simp⟩
  stands := by simp

/-- Whatever happens to a transfer, its file holds what it has written. -/
theorem alone_run (c : DownloadConfig) (identity : Identity) (goal : Goal) (interrupted : Bool)
    (tree : Tree) (events : List Event) :
    let t := start c identity goal interrupted
    Alone (t.run tree events).1 (t.run tree events).2 (t.deposit tree none events)
      (t.written tree events) (Body.of events) := by
  intro t
  induction events using List.reverseRecOn with
  | nil => exact alone_start c identity goal interrupted tree
  | append_singleton events e ih =>
    rw [run_concat, deposit_concat, written_concat, Body.of_concat]
    exact ih.step e

/-- The file that a transfer has open is found under its name and holds what was written. -/
theorem Alone.file (alone : Alone t tree own bytes b) {name : String}
    (h : t.phase.file? = some name) :
    ∃ f, own = some f ∧ Owns t tree name f ∧
      tree.node? f.route = some (.file f.serial bytes) := by
  obtain ⟨f, rfl, owns⟩ : ∃ f, own = some f ∧ Owns t tree name f := by
    rcases Phase.file?_eq_some_iff.1 h with ⟨sink, part, rfl⟩ | part
    · obtain ⟨f, hown, -, owns, -⟩ := alone.stage.of_copying part
      exact ⟨f, hown, owns⟩
    · obtain ⟨f, hown, owns, -⟩ := alone.stage.of_closing part
      exact ⟨f, hown, owns⟩
  have stands := alone.stands f rfl
  rw [alone.tally.stored f rfl] at stands
  exact ⟨f, rfl, owns, stands⟩

/-- When a body was copied to its end, all of it was written. -/
theorem Alone.body_eq (alone : Alone t tree own bytes b)
    (exhausted : t.phase.copied? = some .exhausted) : b = ⟨bytes, true⟩ := by
  obtain ⟨name, opened⟩ := Phase.exists_file?_of_copied? exhausted
  obtain ⟨f, has, -, -⟩ := alone.file opened
  obtain ⟨atEnd, whole⟩ := alone.copies.whole (Or.inl exhausted)
  have hbytes : b.bytes = bytes := (whole f has).symm.trans (alone.tally.stored f has)
  have hended : b.ended = true := by rw [alone.copies.ended, atEnd]; rfl
  rw [← hbytes, ← hended]

end Alone

/-- The file of a download holds what the download has written, all the time that it is there. -/
theorem stored?_run (c : DownloadConfig) (identity : Identity) (goal : Goal)
    (interrupted : Bool) (tree : Tree) (events : List Event) {name : String}
    (h : ((start c identity goal interrupted).run tree events).1.phase.file? = some name) :
    (⟨c.directory⟩ : Directory).stored? ((start c identity goal interrupted).run tree events).2
        name =
      some ((start c identity goal interrupted).written tree events) := by
  obtain ⟨f, -, owns, file⟩ := (alone_run c identity goal interrupted tree events).file h
  have leads := owns.leads
  rw [(settings_run _ tree events).1] at leads
  exact Directory.stored?_of_leadsTo leads file

end Transfer
end Reachability.Download

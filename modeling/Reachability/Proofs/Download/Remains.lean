/-
# What a download leaves behind

A download into a directory that nobody else writes to changes one file at most, its own.  Where
the file system does its work, that file is new, it is the one that the result names, and it is
gone in the end if it was to be deleted.

Two things can go wrong.  A link that leads nowhere looks free: the file is made where it leads, and
it is the link that is deleted.  And whether a name is free is asked before the directory is made.
A path that goes up through a directory that is missing leads nowhere at that time, so that every
name in it looks free; when the directory is made, the path leads to a place where that name may be
in use, and the file of that name is emptied, and deleted if the download is to delete its own.

Main definitions:

* `Transfer.Unseen` : how a file can be in the way without being found;
* `Transfer.Remains` : what a transfer has changed so far.

Main results:

* `Remains.step`, `remains_run` : nothing but the file of the transfer changes;
* `leaves_one_file` : what a download leaves behind;
* `replaces_unseen_file` : a file that was not found is lost.
-/
import Reachability.Proofs.Download.Alone
import Reachability.Proofs.Download.Explanation

namespace Reachability.Download

open File (Tree Route Directory)

namespace Transfer

/-- The path of a directory leads nowhere yet, and goes up. -/
def Unseen (d : Directory) (t : Tree) : Prop := d.route? t = none ∧ .up ∈ d.path.parts

/-- What a transfer has changed of the files that were there before: nothing, the one file that
it has, or, when it has deleted that again, the one that stood in its place. -/
inductive Remains (before : Tree) (t : Transfer) (tree : Tree) : Option Deposit → Prop
  | untouched (same : tree = before)
      (free : ∀ name, t.phase = .creating name → t.directory.isTaken before name = false) :
      Remains before t tree none
  | uncreated (finished : t.phase = .finished) (grows : Tree.Grows before tree) :
      Remains before t tree none
  | holding {f : Deposit} (others : ∀ q, q ≠ f.route → tree.content? q = before.content? q)
      (vacant : before.content? f.route = none ∨ Unseen t.directory before)
      (kept : t.phase = .finished → t.deletes = false) : Remains before t tree (some f)
  | deleted {name : String} {route : Route} (finished : t.phase = .finished)
      (asked : t.deletes = true) (chosen : t.name = some name)
      (entry : t.directory.routeOf? tree name = some route)
      (now : ∀ q, tree.content? q = if q = route then none else before.content? q)
      (vacant : before.content? route = none ∨ Unseen t.directory before) :
      Remains before t tree none

section Remains

variable {before tree : Tree} {t t' : Transfer} {own : Option Deposit} {bytes : List UInt8}
  {b : Body}

/-- A transfer that has nothing and is not done has changed nothing. -/
theorem Remains.of_none (remains : Remains before t tree none) (going : t.phase ≠ .finished) :
    tree = before ∧
      ∀ name, t.phase = .creating name → t.directory.isTaken before name = false := by
  cases remains with
  | untouched same free => exact ⟨same, free⟩
  | uncreated finished | deleted finished => exact absurd finished going

/-- A transfer that has a file has changed no other. -/
theorem Remains.of_some {f : Deposit} (remains : Remains before t tree (some f)) :
    (∀ q, q ≠ f.route → tree.content? q = before.content? q) ∧
      (before.content? f.route = none ∨ Unseen t.directory before) := by
  cases remains with
  | holding others vacant => exact ⟨others, vacant⟩

/-- A transfer that goes on with its file. -/
theorem Remains.hold {f : Deposit} (remains : Remains before t tree (some f))
    (directory : t'.directory = t.directory) (going : t'.phase ≠ .finished) :
    Remains before t' tree (some f) := by
  obtain ⟨others, vacant⟩ := remains.of_some
  exact .holding others (by rwa [directory]) fun finished => absurd finished going

/-- What a transfer has changed depends on few of its fields. -/
theorem Remains.congr (remains : Remains before t tree own) (phase : t'.phase = t.phase)
    (directory : t'.directory = t.directory) (deletes : t'.deletes = t.deletes)
    (name : t'.name = t.name) : Remains before t' tree own := by
  cases remains with
  | untouched same free => exact .untouched same (by rwa [phase, directory])
  | uncreated finished grows => exact .uncreated (phase.trans finished) grows
  | holding others vacant kept =>
    exact .holding others (by rwa [directory]) (by rwa [phase, deletes])
  | deleted finished asked chosen entry now vacant =>
    exact .deleted (phase.trans finished) (deletes.trans asked) (name.trans chosen)
      (by rwa [directory]) now (by rwa [directory])

/-- A file that a transfer has in the directory is found under its name, and can be deleted. -/
theorem Alone.found (alone : Alone t tree own bytes b) (inside : Inside t tree own)
    {name : String} (h : t.phase.file? = some name) :
    t.directory.isTaken tree name = true ∧ ∃ f, own = some f ∧
      t.directory.delete tree name = .ok (tree.erase f.route, true) ∧
      tree.content? f.route = some bytes := by
  obtain ⟨f, rfl, owns, file⟩ := alone.file h
  obtain ⟨entry, plain⟩ := inside f rfl name owns.chosen
  rw [← Directory.link?_of_routeOf? entry] at plain
  exact ⟨Directory.isTaken_of_leadsTo owns.leads file, f, rfl,
    Directory.delete_of_leadsTo owns.safe plain owns.leads file, Tree.content?_of_node? file⟩

/-- The file that a transfer makes is the only one that changes, and none was in its place unless
that could not be seen. -/
theorem Remains.made (remains : Remains before t tree own) (stage : Stage t tree own)
    (rooted : before.IsRooted) (plain : ¬Follows t tree) {name : String} {made : Tree}
    {handle : Tree.Handle} (phase : t.phase = .creating name)
    (done : t.directory.create tree name = (made, .ok handle)) :
    (∀ q, q ≠ handle.route → made.content? q = before.content? q) ∧
      (before.content? handle.route = none ∨ Unseen t.directory before) := by
  obtain ⟨rfl, -, -, safe⟩ := stage.of_creating (by rw [phase]; rfl)
  obtain ⟨rfl, free⟩ := remains.of_none (by simp [phase])
  have noLink : t.directory.link? (tree.makeDirectories t.directory.path).1 name = none := by
    by_contra link
    exact plain ⟨name, Phase.creating?_eq_some_iff.2 phase, link⟩
  constructor
  · intro q elsewhere
    rw [Directory.content?_create done, if_neg elsewhere]
  · exact Directory.vacant_or_climbs rooted safe (free name phase) done noLink

/-- A transfer deletes the file that it made, and no other. -/
theorem Remains.removed (remains : Remains before t tree own) (alone : Alone t tree own bytes b)
    (inside : Inside t tree own) {name : String} {rest : Tree} {done : Bool}
    (phase : t.phase = .deleting name)
    (removed : t.directory.delete tree name = .ok (rest, done)) :
    ∃ route, t.deletes = true ∧ t.name = some name ∧
      t.directory.routeOf? rest name = some route ∧
      (∀ q, rest.content? q = if q = route then none else before.content? q) ∧
      (before.content? route = none ∨ Unseen t.directory before) := by
  have opened : t.phase.file? = some name := by rw [phase]; rfl
  obtain ⟨-, f, rfl, deleted, held⟩ := alone.found inside opened
  obtain ⟨_, hf, owns, asked⟩ := alone.stage.of_closing (by rw [phase]; rfl)
  obtain rfl := Option.some.inj hf
  obtain ⟨others, vacant⟩ := remains.of_some
  obtain ⟨entry, noLink⟩ := inside f rfl name owns.chosen
  have keeps := Directory.keeps_delete owns.safe deleted entry noLink
  rw [deleted] at removed
  obtain ⟨rfl, -⟩ := Prod.mk.inj (Except.ok.inj removed)
  refine ⟨f.route, asked phase, owns.chosen,
    Directory.routeOf?_of_keepsWays keeps.toKeepsWays entry, fun q => ?_, vacant⟩
  rw [Tree.content?_erase held]
  split
  · rfl
  · next elsewhere => exact others q elsewhere

/-- A step without a fault changes the file of the transfer alone. -/
theorem Remains.advance (remains : Remains before t tree own) (alone : Alone t tree own bytes b)
    (inside : Inside t tree own) (rooted : before.IsRooted) (plain : ¬Follows t tree) :
    Remains before (t.advance tree none).1 (t.advance tree none).2
      (t.deposits tree own (.advance none)) := by
  have stage := alone.stage
  have cases_of_step := advances t tree none
  generalize t.advance tree none = s at cases_of_step ⊢
  cases cases_of_step with
  | passed phase | nameless phase =>
    obtain ⟨rfl, -⟩ := stage.of_naming (by rw [phase]; rfl)
    obtain ⟨rfl, -⟩ := remains.of_none (by simp [phase])
    simp only [deposits, phase]
    exact .untouched rfl (by simp)
  | named phase free =>
    obtain ⟨rfl, -⟩ := stage.of_naming (by rw [phase]; rfl)
    obtain ⟨rfl, -⟩ := remains.of_none (by simp [phase])
    simp only [deposits, phase]
    refine .untouched rfl fun name h => ?_
    obtain rfl := Phase.creating.inj h
    exact free rfl
  | created phase calm done =>
    obtain ⟨others, vacant⟩ := remains.made stage rooted plain phase done
    simp only [deposits, phase, create, done]
    exact .holding others vacant (by simp)
  | uncreated phase failed =>
    obtain ⟨rfl, -⟩ := stage.of_creating (by rw [phase]; rfl)
    obtain ⟨rfl, -⟩ := remains.of_none (by simp [phase])
    simp only [deposits, phase, failed]
    exact .uncreated rfl (grows_create failed)
  | @written sink piece phase calm =>
    obtain ⟨f, rfl, -, -, handle⟩ := stage.of_copying (by rw [phase]; rfl)
    obtain ⟨others, vacant⟩ := remains.of_some
    simp only [deposits, phase, Option.isNone_none, if_true, Option.map_some]
    refine .holding ?_ vacant (by simp)
    intro q hq
    have elsewhere : q ≠ sink.handle.route := by rwa [handle]
    rw [Tree.content?_writeAt tree sink.handle piece elsewhere, others q hq]
  | unwritten phase fails => cases fails
  | allowed phase | refused phase | taken phase | ended phase =>
    obtain ⟨f, rfl, -⟩ := stage.of_copying (by rw [phase]; rfl)
    simp only [deposits, phase]
    exact remains.hold rfl (by simp)
  | flushed phase | unflushed phase | closed phase | settled phase | found phase =>
    obtain ⟨f, rfl, -⟩ := stage.of_closing (by rw [phase]; rfl)
    simp only [deposits, phase]
    exact remains.hold rfl (by simp)
  | @looked name there phase seen wanted =>
    -- the file is there, so that it stays only if it was not to be deleted
    have opened : t.phase.file? = some name := by rw [phase]; rfl
    obtain ⟨standing, f, rfl, -⟩ := alone.found inside opened
    obtain ⟨others, vacant⟩ := remains.of_some
    simp only [deposits, phase]
    refine .holding others vacant fun _ => ?_
    rw [seen, standing] at wanted
    simpa using wanted
  | deleted phase removed =>
    obtain ⟨route, asked, chosen, entry, now, vacant⟩ := remains.removed alone inside phase removed
    simp only [deposits, phase, removed]
    exact .deleted rfl asked chosen entry now vacant
  | @undeleted name e phase failed =>
    have opened : t.phase.file? = some name := by rw [phase]; rfl
    obtain ⟨-, f, -, deleted, -⟩ := alone.found inside opened
    rw [delete, deleted] at failed
    cases failed
  | waited phase | rested phase =>
    simp only [deposits, phase]
    exact remains

/-- An event in which the file system does its work changes the file of the transfer alone. -/
theorem Remains.step (remains : Remains before t tree own) (alone : Alone t tree own bytes b)
    (inside : Inside t tree own) (rooted : before.IsRooted) (plain : ¬Follows t tree) {e : Event}
    (calm : ∀ text, e ≠ .advance (some text)) :
    Remains before (step (t, tree) e).1 (step (t, tree) e).2 (t.deposits tree own e) := by
  cases e with
  | advance fault =>
    cases fault with
    | none => exact remains.advance alone inside rooted plain
    | some text => exact absurd rfl (calm text)
  | interrupt => exact remains.congr rfl rfl rfl rfl
  | polled read | arrive bytes | bodyEnds problem =>
    simp only [Transfer.step]
    split <;> exact remains.congr rfl rfl rfl rfl

/-- What a transfer that came to its end has changed. -/
theorem Remains.files (remains : Remains before t tree own) (stage : Stage t tree own)
    (inside : Inside t tree own) (finished : t.phase = .finished) :
    (∀ q bytes, before.content? q = some bytes →
      tree.content? q = some bytes ∨ Unseen t.directory before ∧
        ∃ name, t.name = some name ∧ t.directory.routeOf? tree name = some q) ∧
    ∀ q bytes, tree.content? q = some bytes →
      before.content? q = some bytes ∨ t.deletes = false ∧
        ∃ name, t.name = some name ∧ t.directory.routeOf? tree name = some q := by
  cases remains with
  | untouched same free =>
    rw [same]
    exact ⟨fun q bytes h => Or.inl h, fun q bytes h => Or.inl h⟩
  | uncreated _ grows =>
    exact ⟨fun q bytes h => Or.inl ((grows.content? q).trans h),
      fun q bytes h => Or.inl ((grows.content? q).symm.trans h)⟩
  | @holding f others vacant kept =>
    obtain ⟨name, owns⟩ := stage.owns
    have entry := (inside f rfl name owns.chosen).1
    constructor
    · intro q bytes held
      by_cases hq : q = f.route
      · rcases vacant with none_there | unseen
        · rw [hq, none_there] at held
          cases held
        · exact Or.inr ⟨unseen, name, owns.chosen, hq ▸ entry⟩
      · exact Or.inl ((others q hq).trans held)
    · intro q bytes held
      by_cases hq : q = f.route
      · exact Or.inr ⟨kept finished, name, owns.chosen, hq ▸ entry⟩
      · exact Or.inl ((others q hq).symm.trans held)
  | @deleted name route _ asked chosen entry now vacant =>
    constructor
    · intro q bytes held
      by_cases hq : q = route
      · rcases vacant with none_there | unseen
        · rw [hq, none_there] at held
          cases held
        · exact Or.inr ⟨unseen, name, chosen, hq ▸ entry⟩
      · rw [now, if_neg hq]
        exact Or.inl held
    · intro q bytes held
      rw [now] at held
      split at held
      · cases held
      · exact Or.inl held

end Remains

/-- A run in which the file system does its work changes the file of the transfer alone, unless its
name is a link's. -/
theorem remains_run (c : DownloadConfig) (identity : Identity) (goal : Goal) (interrupted : Bool)
    {tree : Tree} (rooted : tree.IsRooted) {events : List Event}
    (calm : ∀ text, .advance (some text) ∉ events) :
    let t := start c identity goal interrupted
    let d : Directory := ⟨c.directory⟩
    (∀ name, (t.run tree events).1.name = some name →
      d.link? (tree.makeDirectories d.path).1 name = none) →
    Remains tree (t.run tree events).1 (t.run tree events).2 (t.deposit tree none events) ∧
      Inside (t.run tree events).1 (t.run tree events).2 (t.deposit tree none events) ∧
      Tree.KeepsWays tree (t.run tree events).2 := by
  intro t d plain
  induction events using List.reverseRecOn with
  | nil => exact ⟨.untouched rfl nofun, nofun, .refl tree⟩
  | append_singleton events e ih =>
    have alone := alone_run c identity goal interrupted tree events
    rw [run_concat] at plain
    obtain ⟨remains, inside, ways⟩ := ih (fun text h => calm text (List.mem_append_left _ h))
      fun name chosen => plain name (alone.stage.name_step chosen e)
    -- the name that is made now is the one at the end
    have direct : ¬Follows (t.run tree events).1 (t.run tree events).2 := by
      rintro ⟨name, creating, link⟩
      have phase := Phase.creating?_eq_some_iff.1 creating
      obtain ⟨none_yet, -, chosen, -⟩ := alone.stage.of_creating (by rw [phase]; rfl)
      rw [none_yet] at remains
      rw [(remains.of_none (by simp [phase])).1, (settings_run t tree events).1] at link
      exact link (plain name (alone.stage.name_step chosen e))
    have calm_now : ∀ text, e ≠ .advance (some text) := fun text h =>
      calm text (List.mem_append_right _ (List.mem_singleton.2 h.symm))
    obtain ⟨r, keeps⟩ := (alone.stage.effect e).keeps inside
    rw [run_concat, deposit_concat]
    exact ⟨remains.step alone inside rooted direct calm_now,
      inside.step alone.stage e fun _ => direct, ways.trans keeps.toKeepsWays⟩

end Transfer

open Transfer (Unseen)

/-- **What a download leaves behind.**  Where the file system does its work and the name of the
result is no link's, a download that returns changes no file that was there, and leaves no new one
but the file that its result names, and not even that if it was to delete it; and it leaves all
links.  Only where the path of its directory goes up and led nowhere, a file that was there under
the name of the result is replaced. -/
theorem leaves_one_file {σ : Type} (c : DownloadConfig) (ask : Http.Peer σ) (identity : Identity)
    (text : String) (interrupted : Bool) (events : List Event) (tree : Tree) (clock : Clock)
    (peer : σ) (rooted : tree.IsRooted) (calm : ∀ fault, .advance (some fault) ∉ events)
    (returned : returns c ask identity text interrupted events tree peer = true)
    (plain : ∀ name,
      (probe c ask identity text interrupted events tree clock peer).1.fileName = some name →
        (⟨c.directory⟩ : Directory).link? (tree.makeDirectories c.directory).1 name = none) :
    let r := probe c ask identity text interrupted events tree clock peer
    let d : Directory := ⟨c.directory⟩
    (∀ q bytes, tree.content? q = some bytes →
      r.2.1.content? q = some bytes ∨
        Unseen d tree ∧ ∃ name, r.1.fileName = some name ∧ d.routeOf? r.2.1 name = some q) ∧
    (∀ q bytes, r.2.1.content? q = some bytes →
      tree.content? q = some bytes ∨ c.deleteAfterDownload = false ∧
        ∃ name, r.1.fileName = some name ∧ d.routeOf? r.2.1 name = some q) ∧
    ∀ q, r.2.1.link? q = tree.link? q := by
  cases hgoal : (connect c ask text peer).2.1 with
  | none =>
    simp only [probe, hgoal]
    exact ⟨fun q bytes h => Or.inl h, fun q bytes h => Or.inl h, fun _ => trivial⟩
  | some goal =>
    have finished : ((Transfer.start c identity goal interrupted).run tree events).1.phase =
        .finished := by
      rw [returns, transfer?, hgoal, Option.map_some, Option.all_some, Transfer.isFinished,
        beq_iff_eq] at returned
      exact returned
    have alone := Transfer.alone_run c identity goal interrupted tree events
    simp only [probe, hgoal, Result.withTransfer] at plain
    obtain ⟨remains, inside, ways⟩ :=
      Transfer.remains_run c identity goal interrupted rooted calm plain
    have files := remains.files alone.stage inside finished
    obtain ⟨directory, deletes⟩ :=
      Transfer.settings_run (.start c identity goal interrupted) tree events
    rw [directory, deletes] at files
    simp only [probe, hgoal, Result.withTransfer]
    exact ⟨files.1, files.2, ways.links⟩

/-- A download that keeps its file, next to one of the same name: the new one gets a number. -/
theorem leaves_numbered_file :
    let c : DownloadConfig := { directory := "files", deleteAfterDownload := false }
    let events : List Event :=
      [.advance none, .advance none, .advance none, .arrive [104, 105], .bodyEnds none,
        .advance none, .advance none, .advance none, .advance none, .advance none, .advance none,
        .advance none, .advance none, .advance none]
    let tree : Tree := { nodes := [(["files", "a"], .file 0 [33]), (["files"], .directory)] }
    let r := probe c answering 42 "http://127.0.0.1/a" false events tree (.ofInstants []) ()
    (r.1.fileName = some "a_1" ∧ r.2.1.content? ["files", "a_1"] = some [104, 105]) ∧
      (tree.IsRooted ∧ (∀ fault, .advance (some fault) ∉ events) ∧
        returns c answering 42 "http://127.0.0.1/a" false events tree () = true) ∧
      r.2.1.content? ["files", "a"] = some [33] := by
  intro c events tree r
  have named : r.1.fileName = some "a_1" := by decide +kernel
  have stored : r.2.1.content? ["files", "a_1"] = some [104, 105] := by decide +kernel
  have rooted : tree.IsRooted := by decide +kernel
  have calm : ∀ fault, .advance (some fault) ∉ events := by simp [events]
  have returned : returns c answering 42 "http://127.0.0.1/a" false events tree () = true := by
    decide +kernel
  have plain : ∀ name, r.1.fileName = some name →
      (⟨c.directory⟩ : Directory).link? (tree.makeDirectories c.directory).1 name = none := by
    intro name chosen
    obtain rfl : "a_1" = name := Option.some.inj (named.symm.trans chosen)
    decide +kernel
  refine ⟨⟨named, stored⟩, ⟨rooted, calm, returned⟩, ?_⟩
  have kept := (leaves_one_file c answering 42 "http://127.0.0.1/a" false events tree
    (.ofInstants []) () rooted calm returned plain).1 ["files", "a"] [33] (by decide +kernel)
  rcases kept with kept | ⟨⟨-, climbs⟩, -⟩
  · exact kept
  · -- the path of the directory does not go up
    exact absurd climbs (by decide +kernel)

/-- A download into a directory by way of one that is missing: the file that was there under its
name is emptied and written over, or, if the download is to delete its own, deleted. -/
theorem replaces_unseen_file :
    let tree : Tree := { nodes := [(["files", "a"], .file 0 [33]), (["files"], .directory)] }
    let events : List Event :=
      [.advance none, .advance none, .arrive [104, 105], .bodyEnds none, .advance none,
        .advance none, .advance none, .advance none, .advance none, .advance none,
        .advance none, .advance none, .advance none, .advance none]
    let r (deletes : Bool) :=
      probe { directory := "new/../files", deleteAfterDownload := deletes } answering 42
        "http://127.0.0.1/a" false events tree (.ofInstants []) ()
    (tree.IsRooted ∧ tree.content? ["files", "a"] = some [33]) ∧
      ((r false).1.transferSuccess = true ∧
        (r false).2.1.content? ["files", "a"] = some [104, 105]) ∧
      (r true).1.deleteSuccess = true ∧ (r true).2.1.content? ["files", "a"] = none := by
  decide +kernel

/-- A link that leads nowhere has the name: the file is made where the link leads, and it is the
link that is deleted. -/
example :
    let tree : Tree := { nodes := [(["files", "a"], .link "b"), (["files"], .directory)] }
    let events : List Event :=
      [.advance none, .advance none, .bodyEnds none, .advance none, .advance none, .advance none,
        .advance none, .advance none, .advance none, .advance none]
    let r := probe { directory := "files", deleteAfterDownload := true } answering 42
      "http://127.0.0.1/a" false events tree (.ofInstants []) ()
    r.1.deleteSuccess = true ∧ r.2.1.link? ["files", "a"] = none ∧
      r.2.1.content? ["files", "b"] = some [] := by
  decide +kernel

end Reachability.Download

/-
# What a transfer has in its directory

A transfer chooses a name, makes a file under it, writes the pieces of the body into that file
and may delete it at the end.  Between the making and the deleting the file is its deposit, and
the deposit tells which bytes the transfer itself has written, whatever others do to the file.

Main definitions:

* `Deposit`, `Transfer.deposits` : the file of a transfer, and what an event makes of it;
* `Transfer.Stage` : how far a transfer is with its deposit;
* `Transfer.Effect` : what an event does to the files;
* `Body`, `Transfer.Copies` : the body that arrived, and how much of it was written.

Main results:

* `Stage.step`, `Stage.congr` : every event leads to a stage, and a change elsewhere keeps it;
* `Stage.effect` : an event makes one file, writes to it, deletes it or does nothing;
* `Copies.step` : what is written is the beginning of the body, and all of it after a success.
-/
import Reachability.Download.Probe
import Reachability.Proofs.Download.Run
import Reachability.Proofs.File.Directory

namespace Reachability.Download

open File (Tree Route IsSafe)

/-! ## Deposits -/

/-- A file that a transfer has made: where it stands, its serial number, and what the transfer
wrote to it. -/
structure Deposit where
  route : Route
  serial : Nat
  content : List UInt8
deriving DecidableEq, Repr

/-- What a transfer has in its directory after an event. -/
def Transfer.deposits (t : Transfer) (tree : Tree) (own : Option Deposit) :
    Event → Option Deposit
  | .advance fault =>
      match t.phase with
      | .creating name =>
          match (t.create tree fault name).2 with
          | .ok handle => some ⟨handle.route, handle.serial, []⟩
          | .error _ => own
      | .writing _ piece =>
          if fault.isNone then own.map fun f => { f with content := f.content ++ piece } else own
      | .deleting name =>
          match t.delete tree fault name with
          | .ok _ => none
          | .error _ => own
      | _ => own
  | _ => own

/-! ## Stages -/

/-- The parts of a transfer that differ in what they know of the file. -/
inductive Part
  | naming
  | creating (name : String)
  /-- The file is open. -/
  | copying (sink : Sink)
  | closing (name : String)
  | finished

/-- The part to which a phase belongs. -/
def Phase.part : Phase → Part
  | .naming _ => .naming
  | .creating name => .creating name
  | .checking sink | .reading sink | .writing sink _ => .copying sink
  | .flushing name _ | .closing name _ | .settling name _ _ | .looking name | .deleting name =>
      .closing name
  | .finished => .finished

/-- The name under which a transfer is about to make its file. -/
def Phase.creating? : Phase → Option String
  | .creating name => some name
  | _ => none

theorem Phase.creating?_eq_some_iff {p : Phase} {name : String} :
    p.creating? = some name ↔ p = .creating name := by
  cases p <;> simp [creating?]

namespace Transfer

/-- A deposit is the file to which the path of the chosen name leads. -/
structure Owns (t : Transfer) (tree : Tree) (name : String) (f : Deposit) : Prop where
  chosen : t.name = some name
  safe : IsSafe name
  leads : tree.LeadsTo (t.directory.pathOf name) f.route

/-- How far a transfer is with its deposit.  A successful transfer has one, unless it was to be
deleted. -/
inductive Stage (t : Transfer) (tree : Tree) : Option Deposit → Prop
  | unnamed (part : t.phase.part = .naming) (fresh : t.success = false)
      (nameless : t.name = none) : Stage t tree none
  | named {name : String} (part : t.phase.part = .creating name) (fresh : t.success = false)
      (chosen : t.name = some name) (safe : IsSafe name) : Stage t tree none
  | copying {sink : Sink} {f : Deposit} (part : t.phase.part = .copying sink)
      (fresh : t.success = false) (owns : Owns t tree sink.name f)
      (handle : sink.handle = ⟨f.route, f.serial, f.content.length⟩) : Stage t tree (some f)
  | closing {name : String} {f : Deposit} (part : t.phase.part = .closing name)
      (asked : t.phase = .deleting name → t.deletes = true) (owns : Owns t tree name f) :
      Stage t tree (some f)
  | kept {name : String} {f : Deposit} (part : t.phase.part = .finished)
      (owns : Owns t tree name f) : Stage t tree (some f)
  | bare (part : t.phase.part = .finished) (asked : t.success = true → t.deletes = true) :
      Stage t tree none

section Stage

variable {t t' : Transfer} {tree tree' : Tree} {own : Option Deposit}

/-- A deposit stays where it is while the ways of the tree stay. -/
theorem Owns.congr {name : String} {f f' : Deposit} (owns : Owns t tree name f)
    (chosen : t'.name = t.name) (directory : t'.directory = t.directory)
    (keeps : Tree.KeepsWays tree tree') (route : f'.route = f.route) : Owns t' tree' name f' where
  chosen := chosen.trans owns.chosen
  safe := owns.safe
  leads := by
    rw [directory, route]
    exact keeps.leadsTo owns.leads

/-- Stages speak of a few fields alone, and of the way to the file. -/
theorem Stage.congr (stage : Stage t tree own) (phase : t'.phase = t.phase)
    (success : t'.success = t.success) (chosen : t'.name = t.name)
    (deletes : t'.deletes = t.deletes) (directory : t'.directory = t.directory)
    (keeps : Tree.KeepsWays tree tree') : Stage t' tree' own := by
  cases stage with
  | unnamed part fresh nameless =>
    exact .unnamed (phase ▸ part) (success.trans fresh) (chosen.trans nameless)
  | named part fresh name safe =>
    exact .named (phase ▸ part) (success.trans fresh) (chosen.trans name) safe
  | copying part fresh owns handle =>
    exact .copying (phase ▸ part) (success.trans fresh) (owns.congr chosen directory keeps rfl)
      handle
  | closing part asked owns =>
    exact .closing (phase ▸ part) (by rwa [phase, deletes]) (owns.congr chosen directory keeps rfl)
  | kept part owns => exact .kept (phase ▸ part) (owns.congr chosen directory keeps rfl)
  | bare part asked => exact .bare (phase ▸ part) (by rwa [success, deletes])

theorem Stage.of_naming (stage : Stage t tree own) (h : t.phase.part = .naming) :
    own = none ∧ t.success = false ∧ t.name = none := by
  cases stage with
  | unnamed part fresh nameless => exact ⟨rfl, fresh, nameless⟩
  | named part | copying part | closing part | kept part | bare part =>
    rw [part] at h
    cases h

theorem Stage.of_creating {name : String} (stage : Stage t tree own)
    (h : t.phase.part = .creating name) :
    own = none ∧ t.success = false ∧ t.name = some name ∧ IsSafe name := by
  cases stage with
  | named part fresh chosen safe =>
    rw [part] at h
    cases h
    exact ⟨rfl, fresh, chosen, safe⟩
  | unnamed part | copying part | closing part | kept part | bare part =>
    rw [part] at h
    cases h

theorem Stage.of_copying {sink : Sink} (stage : Stage t tree own)
    (h : t.phase.part = .copying sink) :
    ∃ f, own = some f ∧ t.success = false ∧ Owns t tree sink.name f ∧
      sink.handle = ⟨f.route, f.serial, f.content.length⟩ := by
  cases stage with
  | copying part fresh owns handle =>
    rw [part] at h
    cases h
    exact ⟨_, rfl, fresh, owns, handle⟩
  | unnamed part | named part | closing part | kept part | bare part =>
    rw [part] at h
    cases h

theorem Stage.of_closing {name : String} (stage : Stage t tree own)
    (h : t.phase.part = .closing name) :
    ∃ f, own = some f ∧ Owns t tree name f ∧ (t.phase = .deleting name → t.deletes = true) := by
  cases stage with
  | closing part asked owns =>
    rw [part] at h
    cases h
    exact ⟨_, rfl, owns, asked⟩
  | unnamed part | named part | copying part | kept part | bare part =>
    rw [part] at h
    cases h

/-- The deposit of a transfer is the file of its name. -/
theorem Stage.owns {f : Deposit} (stage : Stage t tree (some f)) :
    ∃ name, Owns t tree name f := by
  cases stage with
  | copying part fresh owns => exact ⟨_, owns⟩
  | closing part asked owns | kept part owns => exact ⟨_, owns⟩

/-- A transfer that succeeded and is not to delete its file has one. -/
theorem Stage.isSome_of_success (stage : Stage t tree own) (success : t.success = true)
    (keeps : t.deletes = false) : own.isSome = true := by
  cases stage with
  | copying | closing | kept => rfl
  | unnamed part fresh | named part fresh =>
    rw [fresh] at success
    cases success
  | bare part asked =>
    rw [asked success] at keeps
    cases keeps

/-- A transfer that is about to make its file was so before, or has found the name free just now,
unless the look failed. -/
theorem creating_step {e : Event} {name : String}
    (h : (step (t, tree) e).1.phase = .creating name) :
    t.phase = .creating name ∨ ∃ tried fault, t.phase = .naming tried ∧ e = .advance fault ∧
      (fault = none → t.directory.isTaken tree name = false) := by
  cases e with
  | advance fault =>
    have cases_of_step := advances t tree fault
    simp only [step] at h
    generalize t.advance tree fault = s at cases_of_step h
    cases cases_of_step with
    | named phase free =>
      obtain rfl := Phase.creating.inj h
      exact Or.inr ⟨_, fault, phase, rfl, free⟩
    | waited | rested => exact Or.inl h
    | _ => cases h
  | interrupt => exact Or.inl h
  | polled read | arrive bytes | bodyEnds problem =>
    simp only [step] at h
    split at h <;> exact Or.inl h

/-- The names that a transfer tries are safe. -/
theorem isSafe_nameToTry (t : Transfer) (tried : Nat) : IsSafe (t.nameToTry tried) :=
  File.isSafe_variant (File.isSafe_candidate t.place t.disposition t.contentType) tried

/-- No event changes where the transfer stores its file and whether it deletes it. -/
theorem settings_step (s : Transfer × Tree) (e : Event) :
    (step s e).1.directory = s.1.directory ∧ (step s e).1.deletes = s.1.deletes := by
  obtain ⟨t, tree⟩ := s
  cases e with
  | advance fault =>
    have kept := kept_advance t tree fault
    exact ⟨kept.directory, kept.deletes⟩
  | interrupt => exact ⟨rfl, rfl⟩
  | polled read | arrive bytes | bodyEnds problem =>
    simp only [step]
    split <;> exact ⟨rfl, rfl⟩

/-- Where a transfer stores its file and whether it deletes it stays the same. -/
theorem settings_run (t : Transfer) (tree : Tree) (events : List Event) :
    (t.run tree events).1.directory = t.directory ∧ (t.run tree events).1.deletes = t.deletes := by
  induction events using List.reverseRecOn with
  | nil => exact ⟨rfl, rfl⟩
  | append_singleton events e ih =>
    obtain ⟨directory, deletes⟩ := settings_step (t.run tree events) e
    rw [run_concat]
    exact ⟨directory.trans ih.1, deletes.trans ih.2⟩

/-- A step of the transfer itself leads to a stage. -/
theorem Stage.advance (stage : Stage t tree own) (fault : Option String) :
    Stage (t.advance tree fault).1 (t.advance tree fault).2
      (t.deposits tree own (.advance fault)) := by
  have cases_of_step := advances t tree fault
  generalize t.advance tree fault = s at cases_of_step ⊢
  -- most steps leave the tree as it is
  have stays := Tree.KeepsWays.refl tree
  cases cases_of_step with
  | passed phase =>
    obtain ⟨rfl, fresh, nameless⟩ := stage.of_naming (by rw [phase]; rfl)
    simp only [deposits, phase]
    exact .unnamed rfl fresh nameless
  | named phase free =>
    obtain ⟨rfl, fresh, -⟩ := stage.of_naming (by rw [phase]; rfl)
    simp only [deposits, phase]
    exact .named rfl fresh rfl (isSafe_nameToTry t _)
  | nameless phase =>
    obtain ⟨rfl, fresh, -⟩ := stage.of_naming (by rw [phase]; rfl)
    simp only [deposits, phase]
    exact .bare rfl (by simp [fresh])
  | @created name made handle phase calm done =>
    obtain ⟨rfl, fresh, chosen, safe⟩ := stage.of_creating (by rw [phase]; rfl)
    obtain ⟨leads, position, -, -⟩ := File.Directory.create_cases done
    obtain ⟨_, serial, _⟩ := handle
    obtain rfl := position
    subst calm
    simp only [deposits, phase, create, done]
    exact .copying rfl fresh ⟨chosen, safe, leads⟩ rfl
  | uncreated phase failed =>
    obtain ⟨rfl, fresh, -, -⟩ := stage.of_creating (by rw [phase]; rfl)
    simp only [deposits, phase, failed]
    exact .bare rfl (by simp [fresh])
  | allowed phase | taken phase =>
    obtain ⟨f, rfl, fresh, owns, handle⟩ := stage.of_copying (by rw [phase]; rfl)
    simp only [deposits, phase]
    exact .copying rfl fresh (owns.congr rfl rfl stays rfl) handle
  | refused phase | ended phase =>
    obtain ⟨f, rfl, -, owns, -⟩ := stage.of_copying (by rw [phase]; rfl)
    simp only [deposits, phase]
    exact .closing rfl (by simp) (owns.congr rfl rfl stays rfl)
  | @written sink piece phase calm =>
    obtain ⟨f, rfl, fresh, owns, handle⟩ := stage.of_copying (by rw [phase]; rfl)
    have keeps := Tree.keeps_writeAt tree sink.handle piece
    subst calm
    simp only [deposits, phase, Option.isNone_none, if_true, Option.map_some]
    exact .copying rfl fresh (owns.congr rfl rfl keeps.toKeepsWays rfl)
      (by simp [Tree.writeAt_snd, handle])
  | unwritten phase fails =>
    obtain ⟨f, rfl, -, owns, -⟩ := stage.of_copying (by rw [phase]; rfl)
    subst fails
    simp only [deposits, phase, Option.isNone_some, Bool.false_eq_true, if_false]
    exact .closing rfl (by simp) (owns.congr rfl rfl stays rfl)
  | flushed phase | unflushed phase | closed phase | settled phase =>
    obtain ⟨f, rfl, owns, -⟩ := stage.of_closing (by rw [phase]; rfl)
    simp only [deposits, phase]
    exact .closing rfl (by simp) (owns.congr rfl rfl stays rfl)
  | found phase seen unwanted =>
    obtain ⟨f, rfl, owns, -⟩ := stage.of_closing (by rw [phase]; rfl)
    simp only [deposits, phase]
    exact .closing rfl (fun _ => (Bool.and_eq_true_iff.1 unwanted).1)
      (owns.congr rfl rfl stays rfl)
  | looked phase =>
    obtain ⟨f, rfl, owns, -⟩ := stage.of_closing (by rw [phase]; rfl)
    simp only [deposits, phase]
    exact .kept rfl (owns.congr rfl rfl stays rfl)
  | deleted phase removed =>
    -- a transfer deletes its file only if it was told so
    obtain ⟨f, rfl, -, asked⟩ := stage.of_closing (by rw [phase]; rfl)
    simp only [deposits, phase, removed]
    exact .bare rfl fun _ => asked phase
  | undeleted phase failed =>
    obtain ⟨f, rfl, owns, -⟩ := stage.of_closing (by rw [phase]; rfl)
    simp only [deposits, phase, failed]
    exact .kept rfl (owns.congr rfl rfl stays rfl)
  | waited phase | rested phase =>
    simp only [deposits, phase]
    exact stage

/-- Every event leads to a stage. -/
theorem Stage.step (stage : Stage t tree own) (e : Event) :
    Stage (step (t, tree) e).1 (step (t, tree) e).2 (t.deposits tree own e) := by
  have stays := Tree.KeepsWays.refl tree
  cases e with
  | advance fault => exact stage.advance fault
  | interrupt => exact stage.congr rfl rfl rfl rfl rfl stays
  | polled read | arrive bytes | bodyEnds problem =>
    simp only [Transfer.step]
    split <;> exact stage.congr rfl rfl rfl rfl rfl stays

end Stage

/-! ## Effects -/

/-- What an event does to the files: nothing but to make directories, or something to the deposit of
the transfer. -/
inductive Effect (t : Transfer) (tree : Tree) (own : Option Deposit) (e : Event) (tree' : Tree) :
    Option Deposit → Prop
  | idle (grows : Tree.Grows tree tree') : Effect t tree own e tree' own
  | made {name : String} {f : Deposit} (phase : t.phase = .creating name)
      (calm : e = .advance none) (new : own = none) (safe : IsSafe name)
      (done : t.directory.create tree name = (tree', .ok ⟨f.route, f.serial, 0⟩))
      (empty : f.content = []) : Effect t tree own e tree' (some f)
  | grown {f f' : Deposit} (had : own = some f) (route : f'.route = f.route)
      (keeps : Tree.Keeps f.route tree tree')
      (stands : tree.node? f.route = some (.file f.serial f.content) →
        tree'.node? f'.route = some (.file f'.serial f'.content)) :
      Effect t tree own e tree' (some f')
  | gone {name : String} {f : Deposit} {done : Bool} (had : own = some f)
      (owns : Owns t tree name f)
      (removed : t.directory.delete tree name = .ok (tree', done)) : Effect t tree own e tree' none

section Effect

variable {t : Transfer} {tree tree' : Tree} {own own' : Option Deposit} {e : Event}

/-- Where no file can be made, there may be more directories. -/
theorem grows_create {fault : Option String} {name : String} {e : ProbeError}
    (failed : t.create tree fault name = (tree', .error e)) : Tree.Grows tree tree' := by
  cases fault with
  | none => exact File.Directory.grows_create failed
  | some text =>
    obtain rfl : tree = tree' := congrArg Prod.fst failed
    exact .refl tree

/-- Every event has one of the effects. -/
theorem Stage.effect (stage : Stage t tree own) (e : Event) :
    Effect t tree own e (Transfer.step (t, tree) e).2 (t.deposits tree own e) := by
  have stays := Tree.Grows.refl tree
  cases e with
  | interrupt | polled read | arrive bytes | bodyEnds problem => exact .idle stays
  | advance fault =>
    have cases_of_step := advances t tree fault
    simp only [Transfer.step]
    generalize t.advance tree fault = s at cases_of_step ⊢
    cases cases_of_step with
    | @created name made handle phase calm done =>
      obtain ⟨rfl, -, -, safe⟩ := stage.of_creating (by rw [phase]; rfl)
      obtain ⟨route, serial, position⟩ := handle
      obtain rfl : position = 0 := (File.Directory.create_cases done).2.1
      subst calm
      simp only [deposits, phase, create, done]
      exact .made phase rfl rfl safe done rfl
    | @written sink piece phase calm =>
      obtain ⟨f, rfl, -, -, handle⟩ := stage.of_copying (by rw [phase]; rfl)
      have hroute : sink.handle.route = f.route := by rw [handle]
      subst calm
      simp only [deposits, phase, Option.isNone_none, if_true, Option.map_some]
      refine .grown rfl rfl (hroute ▸ Tree.keeps_writeAt tree sink.handle piece) fun stands => ?_
      -- the transfer has written all of its deposit, so it writes on at the end
      rw [handle, Tree.node?_writeAt stands rfl, if_pos rfl]
    | deleted phase removed =>
      obtain ⟨f, rfl, owns, -⟩ := stage.of_closing (by rw [phase]; rfl)
      simp only [deposits, phase, removed]
      cases fault with
      | some text => cases removed
      | none => exact .gone rfl owns removed
    | uncreated phase failed =>
      simp only [deposits, phase, failed]
      exact .idle (grows_create failed)
    | undeleted phase failed =>
      simp only [deposits, phase, failed]
      exact .idle stays
    | unwritten phase fails =>
      simp only [deposits, phase, fails, Option.isNone_some, Bool.false_eq_true, if_false]
      exact .idle stays
    | passed phase | named phase | nameless phase | allowed phase | refused phase | taken phase
    | ended phase | waited phase | flushed phase | unflushed phase | closed phase | settled phase
    | found phase | looked phase | rested phase =>
      simp only [deposits, phase]
      exact .idle stays

/-- A transfer that has chosen its name keeps it. -/
theorem name_step (named : t.phase.part ≠ .naming) (e : Event) :
    (Transfer.step (t, tree) e).1.name = t.name := by
  cases e with
  | interrupt => rfl
  | polled read | arrive bytes | bodyEnds problem =>
    simp only [Transfer.step]
    split <;> rfl
  | advance fault =>
    have cases_of_step := advances t tree fault
    simp only [Transfer.step]
    generalize t.advance tree fault = s at cases_of_step ⊢
    cases cases_of_step with
    | named phase => exact absurd (by rw [phase]; rfl) named
    | _ => rfl

/-- A transfer that has a deposit has chosen its name. -/
theorem Stage.named_of_some {f : Deposit} (stage : Stage t tree (some f)) :
    t.phase.part ≠ .naming := by
  intro part
  cases (stage.of_naming part).1

/-- A name that was chosen stays. -/
theorem Stage.name_step (stage : Stage t tree own) {name : String} (chosen : t.name = some name)
    (e : Event) : (Transfer.step (t, tree) e).1.name = some name := by
  rw [Transfer.name_step, chosen]
  intro part
  rw [(stage.of_naming part).2.2] at chosen
  cases chosen

end Effect

/-! ## Deposits in the directory -/

/-- The deposit of a transfer stands in the directory under its name, and not behind a link. -/
def Inside (t : Transfer) (tree : Tree) (own : Option Deposit) : Prop :=
  ∀ f ∈ own, ∀ name, t.name = some name →
    t.directory.routeOf? tree name = some f.route ∧ tree.link? f.route = none

/-- A transfer makes its file next under a name that is a link's. -/
def Follows (t : Transfer) (tree : Tree) : Prop :=
  ∃ name ∈ t.phase.creating?,
    t.directory.link? (tree.makeDirectories t.directory.path).1 name ≠ none

instance (t : Transfer) (tree : Tree) : Decidable (t.Follows tree) :=
  inferInstanceAs (Decidable (∃ name ∈ t.phase.creating?, _ ≠ none))

section Inside

variable {t t' : Transfer} {tree tree' : Tree} {own own' : Option Deposit} {e : Event}

theorem Inside.congr (inside : Inside t tree own) (chosen : t'.name = t.name)
    (directory : t'.directory = t.directory) (keeps : Tree.KeepsWays tree tree') :
    Inside t' tree' own := by
  intro f hf name hname
  obtain ⟨entry, plain⟩ := inside f hf name (chosen.symm.trans hname)
  rw [directory, keeps.links]
  exact ⟨File.Directory.routeOf?_of_keepsWays keeps entry, plain⟩

/-- An effect on a file in the directory leaves all other files as they were. -/
theorem Effect.keeps (effect : Effect t tree own e tree' own') (inside : Inside t tree own) :
    ∃ r, Tree.Keeps r tree tree' := by
  cases effect with
  | idle grows => exact ⟨[], grows.keeps []⟩
  | made phase calm new safe done => exact ⟨_, (File.Directory.create_cases done).2.2.2⟩
  | grown had route keeps => exact ⟨_, keeps⟩
  | gone had owns removed =>
    obtain ⟨entry, plain⟩ := inside _ had _ owns.chosen
    exact ⟨_, File.Directory.keeps_delete owns.safe removed entry plain⟩

/-- A transfer that makes no file under a link's name has its file in the directory. -/
theorem Inside.step (inside : Inside t tree own) (stage : Stage t tree own) (e : Event)
    (plain : e = .advance none → ¬Follows t tree) :
    Inside (Transfer.step (t, tree) e).1 (Transfer.step (t, tree) e).2 (t.deposits tree own e) := by
  have effect := stage.effect e
  have directory := (settings_step (t, tree) e).1
  obtain ⟨r, keeps⟩ := effect.keeps inside
  intro g hg name hname
  rw [directory]
  generalize hafter : t.deposits tree own e = after at effect hg
  cases effect with
  | idle grows =>
    obtain rfl : own = some g := hg
    rw [name_step stage.named_of_some] at hname
    exact inside.congr rfl rfl keeps.toKeepsWays g rfl name hname
  | @made chosen f phase calm new safe done empty =>
    obtain rfl : f = g := Option.some.inj hg
    obtain ⟨-, -, known, -⟩ := stage.of_creating (by rw [phase]; rfl)
    rw [name_step (by rw [phase]; nofun), known, Option.some.injEq] at hname
    subst hname
    have noLink : t.directory.link? (tree.makeDirectories t.directory.path).1 chosen = none := by
      by_contra link
      exact plain calm ⟨chosen, Phase.creating?_eq_some_iff.2 phase, link⟩
    obtain ⟨-, -, stands, -⟩ := File.Directory.create_cases done
    exact ⟨File.Directory.routeOf?_create safe done noLink, (Tree.plain_of_file stands).2⟩
  | @grown f f' had route keeps' stands =>
    obtain rfl : f' = g := Option.some.inj hg
    rw [had] at stage
    rw [name_step stage.named_of_some] at hname
    rw [route]
    exact inside.congr rfl rfl keeps.toKeepsWays f had name hname
  | gone => cases hg

end Inside

end Transfer

/-! ## Bodies -/

/-- What has arrived of a body, and whether the body is at its end. -/
structure Body where
  bytes : List UInt8 := []
  ended : Bool := false
deriving DecidableEq, Repr

/-- The body after an event.  Nothing arrives behind the end. -/
def Body.next (b : Body) : Event → Body
  | .arrive bytes => if b.ended then b else { b with bytes := b.bytes ++ bytes }
  | .bodyEnds _ => { b with ended := true }
  | _ => b

/-- The body that some events bring. -/
def Body.of (events : List Event) : Body := events.foldl next {}

theorem Body.of_concat (events : List Event) (e : Event) :
    Body.of (events ++ [e]) = (Body.of events).next e := by
  simp only [Body.of, List.foldl_append, List.foldl_cons, List.foldl_nil]

/-- What was read of the body and is not written yet. -/
def Phase.inHand : Phase → List UInt8
  | .writing _ piece => piece
  | _ => []

/-- Whether the body is still to be copied to its end. -/
def Phase.isCopying (p : Phase) : Bool :=
  match p.part with
  | .naming | .creating _ | .copying _ => true
  | .closing _ | .finished => false

namespace Transfer

section Reading

variable {t : Transfer}

/-- A piece is what comes first of all that arrived. -/
theorem flatten_of_nextPiece {size : Nat} {arrived rest : List (List UInt8)}
    {bytes : List UInt8} (h : nextPiece size arrived = some (bytes, rest)) :
    arrived.flatten = bytes ++ rest.flatten := by
  fun_induction nextPiece size arrived with
  | case1 => cases h
  | case2 arrived ih => exact ih h
  | case3 b bs arrived all left =>
    obtain ⟨rfl, rfl⟩ := by simpa using h
    have hsplit : all = all.take size ++ left := (List.take_append_drop size all).symm
    by_cases hleft : left = []
    · rw [List.flatten_cons, if_pos (by simp [hleft])]
      rw [hleft, List.append_nil] at hsplit
      rw [← hsplit]
    · rw [List.flatten_cons, if_neg (by simpa using hleft), List.flatten_cons,
        ← List.append_assoc, ← hsplit]

/-- Without a piece nothing is left of what arrived. -/
theorem flatten_eq_nil_of_nextPiece {size : Nat} {arrived : List (List UInt8)}
    (h : nextPiece size arrived = none) : arrived.flatten = [] := by
  fun_induction nextPiece size arrived with
  | case1 => rfl
  | case2 arrived ih => exact ih h
  | case3 => cases h

/-- A read takes what comes first. -/
theorem flatten_of_read_piece {bytes : List UInt8} {rest : List (List UInt8)}
    (h : t.read = .piece bytes rest) : t.arrived.flatten = bytes ++ rest.flatten := by
  unfold read at h
  split at h
  · cases h
  · split at h
    · next first later found =>
      cases h
      exact flatten_of_nextPiece found
    · split at h <;> cases h

/-- A piece has a byte at least, and no more bytes than its size. -/
theorem length_of_nextPiece {size : Nat} (positive : 0 < size)
    {arrived rest : List (List UInt8)} {bytes : List UInt8}
    (h : nextPiece size arrived = some (bytes, rest)) :
    0 < bytes.length ∧ bytes.length ≤ size := by
  fun_induction nextPiece size arrived with
  | case1 => cases h
  | case2 arrived ih => exact ih h
  | case3 b bs arrived all left =>
    have htake : all.take size = bytes := congrArg Prod.fst (Option.some.inj h)
    have hlength : all.length = bs.length + 1 := List.length_cons
    rw [← htake, List.length_take, hlength]
    omega

theorem length_of_read_piece {bytes : List UInt8} {rest : List (List UInt8)}
    (h : t.read = .piece bytes rest) : 0 < bytes.length ∧ bytes.length ≤ t.pieceSize := by
  unfold read at h
  split at h
  · cases h
  · split at h
    · next first later found =>
      cases h
      exact length_of_nextPiece t.pieceSize_pos found
    · split at h <;> cases h

/-- A read finds the end only behind all that arrived. -/
theorem arrived_of_read_exhausted (h : t.read = .ended .exhausted) :
    t.arrived.flatten = [] ∧ t.bodyEnd = some none := by
  unfold read at h
  split at h
  · cases h
  · split at h
    · cases h
    · next found =>
      split at h
      · cases h
      · next ended => exact ⟨flatten_eq_nil_of_nextPiece found, ended⟩
      · cases h

end Reading

/-- Only a body that was copied to its end makes a success. -/
theorem exhausted_of_settle {copied : Ending} {problem : Option ProbeError}
    {interrupted : Bool} (h : (settle copied problem interrupted).1 = true) :
    copied = .exhausted := by
  cases copied with
  | exhausted => rfl
  | aborted | failed e => cases h

/-! ## Copies -/

/-- What a transfer has written of a body. -/
structure Copies (t : Transfer) (own : Option Deposit) (b : Body) : Prop where
  ended : b.ended = t.bodyEnd.isSome
  going : t.phase.isCopying = true →
    b.bytes = own.elim [] Deposit.content ++ t.phase.inHand ++ t.arrived.flatten
  beginning : ∀ f ∈ own, f.content <+: b.bytes
  whole : t.phase.copied? = some .exhausted ∨ t.success = true →
    t.bodyEnd = some none ∧ ∀ f ∈ own, f.content = b.bytes

section Copies

variable {t : Transfer} {tree : Tree} {own : Option Deposit} {b : Body}

/-- A transfer that is behind the copying has what it had before. -/
theorem Copies.behind {t' : Transfer} (copies : Copies t own b)
    (stopped : t'.phase.isCopying = false)
    (copied : t'.phase.copied? = some .exhausted → t.phase.copied? = some .exhausted)
    (success : t'.success = t.success) (bodyEnd : t'.bodyEnd = t.bodyEnd) : Copies t' own b where
  ended := by rw [copies.ended, bodyEnd]
  going copying := by simp [stopped] at copying
  beginning := copies.beginning
  whole done := by
    rw [bodyEnd]
    exact copies.whole (done.imp copied fun h => success ▸ h)

/-- A step of the transfer itself copies in order. -/
theorem Copies.advance (copies : Copies t own b) (stage : Stage t tree own)
    (fault : Option String) :
    Copies (t.advance tree fault).1 (t.deposits tree own (.advance fault)) b := by
  obtain ⟨ended, going, beginning, whole⟩ := id copies
  have cases_of_step := advances t tree fault
  generalize t.advance tree fault = s at cases_of_step ⊢
  cases cases_of_step with
  | passed phase | named phase | allowed phase =>
    simp only [deposits, phase]
    rw [phase] at going
    exact ⟨ended, going, beginning, fun done => whole (done.imp (by simp [Phase.copied?]) id)⟩
  | created phase calm made =>
    obtain ⟨rfl, fresh, -, -⟩ := stage.of_creating (by rw [phase]; rfl)
    subst calm
    simp only [deposits, phase, create, made]
    rw [phase] at going
    refine ⟨ended, going, ?_, ?_⟩
    · simp
    · simp [Phase.copied?, fresh]
  | taken phase read =>
    simp only [deposits, phase]
    rw [phase, flatten_of_read_piece read] at going
    refine ⟨ended, fun copying => ?_, beginning,
      fun done => whole (done.imp (by simp [Phase.copied?]) id)⟩
    simpa [Phase.inHand] using going copying
  | written phase calm =>
    obtain ⟨f, rfl, fresh, -, -⟩ := stage.of_copying (by rw [phase]; rfl)
    subst calm
    simp only [deposits, phase, Option.isNone_none, if_true, Option.map_some]
    -- the piece in hand moves behind what was written
    have split_body := going (by rw [phase]; rfl)
    rw [phase] at split_body
    refine ⟨ended, fun _ => ?_, fun f' hf' => ?_, ?_⟩
    · simpa [Phase.inHand] using split_body
    · rw [← Option.some.inj hf', split_body]
      exact List.prefix_append _ _
    · simp [Phase.copied?, fresh]
  | ended phase read =>
    simp only [deposits, phase]
    refine ⟨ended, by simp [Phase.isCopying, Phase.part], beginning, ?_⟩
    rintro (done | done)
    · -- the end of the body was read, so all that arrived was written
      obtain rfl := by simpa [Phase.copied?] using done
      obtain ⟨nothing, atEnd⟩ := arrived_of_read_exhausted read
      refine ⟨atEnd, fun f hf => ?_⟩
      obtain rfl := hf
      rw [going (by rw [phase]; rfl), nothing, phase]
      simp [Phase.inHand]
    · exact whole (Or.inr done)
  | unwritten phase fails =>
    simp only [deposits, phase, fails, Option.isNone_some, Bool.false_eq_true, if_false]
    exact copies.behind rfl (by simp [Phase.copied?]) rfl rfl
  | uncreated phase failed | undeleted phase failed =>
    simp only [deposits, phase, failed]
    exact copies.behind rfl (by simp [Phase.copied?]) rfl rfl
  | nameless phase | refused phase | found phase | looked phase =>
    simp only [deposits, phase]
    exact copies.behind rfl (by simp [Phase.copied?]) rfl rfl
  | flushed phase | unflushed phase | closed phase =>
    simp only [deposits, phase]
    exact copies.behind rfl (by simp [Phase.copied?, phase]) rfl rfl
  | settled phase =>
    simp only [deposits, phase]
    refine ⟨ended, by simp [Phase.isCopying, Phase.part], beginning, ?_⟩
    -- the success is settled here, and only for a body that was copied to its end
    rintro (done | done)
    · cases done
    · exact whole (Or.inl (by rw [phase, exhausted_of_settle done]; rfl))
  | deleted phase removed =>
    simp only [deposits, phase, removed]
    exact ⟨ended, by simp [Phase.isCopying, Phase.part], by simp,
      fun done => ⟨(whole (done.imp (by simp [Phase.copied?]) id)).1, by simp⟩⟩
  | waited phase | rested phase =>
    simp only [deposits, phase]
    exact copies

/-- Every event leaves a copy. -/
theorem Copies.step (copies : Copies t own b) (stage : Stage t tree own) (e : Event) :
    Copies (Transfer.step (t, tree) e).1 (t.deposits tree own e) (b.next e) := by
  cases e with
  | advance fault => exact copies.advance stage fault
  | interrupt => exact ⟨copies.ended, copies.going, copies.beginning, copies.whole⟩
  | polled read =>
    simp only [Transfer.step]
    split <;> exact ⟨copies.ended, copies.going, copies.beginning, copies.whole⟩
  | arrive bytes =>
    cases atEnd : t.bodyEnd with
    | some problem =>
      have ended : b.ended = true := by rw [copies.ended, atEnd]; rfl
      simpa [Transfer.step, deposits, Body.next, atEnd, ended] using copies
    | none =>
      -- what arrives comes behind all that is still to be read
      have going_on : b.ended = false := by rw [copies.ended, atEnd]; rfl
      simp only [Transfer.step, deposits, Body.next, atEnd, going_on, Option.isNone_none, if_true,
        Bool.false_eq_true, if_false]
      refine ⟨rfl, fun copying => ?_, fun f own => ?_, fun done => ?_⟩
      · simp [copies.going copying]
      · exact (copies.beginning f own).trans (List.prefix_append _ _)
      · simp [(copies.whole done).1] at atEnd
  | bodyEnds problem =>
    cases atEnd : t.bodyEnd with
    | some known =>
      have ended : b.ended = true := by rw [copies.ended, atEnd]; rfl
      have same : b.next (.bodyEnds problem) = b := by rw [Body.next, ← ended]
      simpa [Transfer.step, deposits, same, atEnd] using copies
    | none =>
      simp only [Transfer.step, deposits, Body.next, atEnd, Option.isNone_none, if_true]
      refine ⟨rfl, copies.going, copies.beginning, fun done => ?_⟩
      simp [(copies.whole done).1] at atEnd

end Copies

end Transfer
end Reachability.Download

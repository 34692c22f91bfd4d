/-
# Downloads side by side

Several downloads store their files in one directory, and their events come in any order.  A
download looks for a free name in one step and makes its file in a later one, so what was free
when it looked may be in use when it makes the file; then it empties the file of another one
and both write into it.  That is the only way in which downloads can meet, as long as none makes
its file under the name of a link.

Main definitions:

* `Party`, `Party.run` : downloads side by side, each with the file that it made;
* `Party.Apart` : every file is where its download made it and has what its download wrote;
* `Party.Clashes`, `Party.Races` : a name is in use by now; two downloads have chosen one name;
* `Party.Direct`, `Party.Sighted` : runs in which no file is made behind a link, and in which every
  look at a name answers.

Main results:

* `apart_step` : a step keeps the files apart unless it makes a file that another one has;
* `apart_iff_no_clash` : the files are apart all along exactly if there is no such step;
* `mixed_after_choosing_at_once` : two successful downloads with one file.
-/
import Mathlib.Data.Fintype.Basic
import Mathlib.Logic.Function.Basic
import Reachability.Proofs.Download.Deposit

namespace Reachability.Download

open File (Tree Route Directory)

/-- A download that is to run: what it is told, and the answer whose body it stores. -/
structure Job where
  config : DownloadConfig
  identity : Identity
  goal : Goal
  interrupted : Bool := false

/-- Downloads side by side, each with the file that it made. -/
structure Party (ι : Type) where
  transfer : ι → Transfer
  deposit : ι → Option Deposit := fun _ => none
  tree : Tree

namespace Party

variable {ι : Type}

/-- What an event of one download does. -/
def step [DecidableEq ι] (s : Party ι) (happening : ι × Event) : Party ι :=
  let (i, e) := happening
  let after := Transfer.step (s.transfer i, s.tree) e
  { transfer := Function.update s.transfer i after.1
    deposit := Function.update s.deposit i ((s.transfer i).deposits s.tree (s.deposit i) e)
    tree := after.2 }

/-- What some events do, one after the other. -/
def run [DecidableEq ι] (s : Party ι) (events : List (ι × Event)) : Party ι :=
  events.foldl step s

/-- Downloads into one directory, before they choose their names. -/
def start (directory : RawText) (job : ι → Job) (tree : Tree) : Party ι where
  transfer i :=
    Transfer.start { (job i).config with directory } (job i).identity (job i).goal
      (job i).interrupted
  tree

/-- The events of one download. -/
def eventsOf [DecidableEq ι] (i : ι) (events : List (ι × Event)) : List Event :=
  (events.filter (·.1 = i)).map Prod.snd

/-! ## Files apart -/

/-- Every download has the file that it made, with what it wrote, and no two have the same. -/
structure Apart (s : Party ι) : Prop where
  stands : ∀ i, ∀ f ∈ s.deposit i, s.tree.node? f.route = some (.file f.serial f.content)
  distinct : ∀ i j, i ≠ j → ∀ f ∈ s.deposit i, ∀ g ∈ s.deposit j, f.route ≠ g.route

/-- A download is about to make a file under a name under which another one has its file. -/
def Clashes (s : Party ι) (i : ι) : Prop :=
  ∃ name ∈ (s.transfer i).phase.creating?,
    ∃ j, j ≠ i ∧ (s.transfer j).name = some name ∧ (s.deposit j).isSome = true

/-- Two downloads have chosen the same name, and neither has made its file. -/
def Races (s : Party ι) : Prop :=
  ∃ i j, i ≠ j ∧ ∃ name ∈ (s.transfer i).phase.creating?,
    name ∈ (s.transfer j).phase.creating?

/-- No download makes its file under a name that is a link's. -/
def Direct [DecidableEq ι] (s : Party ι) (events : List (ι × Event)) : Prop :=
  ∀ before i, before ++ [(i, .advance none)] <+: events →
    ¬((s.run before).transfer i).Follows (s.run before).tree

/-- No look at a name fails. -/
def Sighted [DecidableEq ι] (s : Party ι) (events : List (ι × Event)) : Prop :=
  ∀ before i fault, before ++ [(i, .advance (some fault))] <+: events →
    ∀ tried, ((s.run before).transfer i).phase ≠ .naming tried

section Decidable

variable [Fintype ι] [DecidableEq ι]

instance (s : Party ι) : Decidable s.Apart :=
  decidable_of_iff
    ((∀ i, ∀ f ∈ s.deposit i, s.tree.node? f.route = some (.file f.serial f.content)) ∧
      ∀ i j, i ≠ j → ∀ f ∈ s.deposit i, ∀ g ∈ s.deposit j, f.route ≠ g.route)
    ⟨fun h => ⟨h.1, h.2⟩, fun h => ⟨h.stands, h.distinct⟩⟩

instance (s : Party ι) (i : ι) : Decidable (s.Clashes i) :=
  inferInstanceAs (Decidable (∃ name ∈ (s.transfer i).phase.creating?, _))

instance (s : Party ι) : Decidable s.Races :=
  inferInstanceAs (Decidable (∃ i j, i ≠ j ∧ ∃ name ∈ (s.transfer i).phase.creating?, _))

end Decidable

/-! ## Steps -/

section Step

variable [DecidableEq ι] {s : Party ι} {i : ι} {e : Event}

theorem transfer_step_self :
    (s.step (i, e)).transfer i = (Transfer.step (s.transfer i, s.tree) e).1 :=
  Function.update_self ..

theorem deposit_step_self :
    (s.step (i, e)).deposit i = (s.transfer i).deposits s.tree (s.deposit i) e :=
  Function.update_self ..

theorem transfer_step_of_ne {j : ι} (h : j ≠ i) : (s.step (i, e)).transfer j = s.transfer j :=
  Function.update_of_ne h ..

theorem deposit_step_of_ne {j : ι} (h : j ≠ i) : (s.step (i, e)).deposit j = s.deposit j :=
  Function.update_of_ne h ..

end Step

section Run

variable [DecidableEq ι]

theorem run_concat (s : Party ι) (events : List (ι × Event)) (happening : ι × Event) :
    s.run (events ++ [happening]) = (s.run events).step happening := by
  simp only [run, List.foldl_append, List.foldl_cons, List.foldl_nil]

theorem eventsOf_concat_self (i : ι) (events : List (ι × Event)) (e : Event) :
    eventsOf i (events ++ [(i, e)]) = eventsOf i events ++ [e] := by
  simp [eventsOf]

theorem Direct.init {s : Party ι} {events later : List (ι × Event)}
    (direct : s.Direct (events ++ later)) : s.Direct events :=
  fun before i h => direct before i (h.trans (List.prefix_append _ _))

theorem Sighted.init {s : Party ι} {events later : List (ι × Event)}
    (sighted : s.Sighted (events ++ later)) : s.Sighted events :=
  fun before i fault h => sighted before i fault (h.trans (List.prefix_append _ _))

theorem eventsOf_concat_of_ne {i j : ι} (h : j ≠ i) (events : List (ι × Event)) (e : Event) :
    eventsOf j (events ++ [(i, e)]) = eventsOf j events := by
  simp [eventsOf, Ne.symm h]

end Run

/-! ## What every run keeps -/

/-- The downloads of a party know where their files are and what they have written. -/
structure Sound (s : Party ι) (d : Directory) (body : ι → Body) : Prop where
  directory : ∀ i, (s.transfer i).directory = d
  stage : ∀ i, (s.transfer i).Stage s.tree (s.deposit i)
  inside : ∀ i, (s.transfer i).Inside s.tree (s.deposit i)
  copies : ∀ i, (s.transfer i).Copies (s.deposit i) (body i)

/-- The file of a download stands in the directory under its name. -/
theorem Sound.entry {s : Party ι} {d : Directory} {body : ι → Body} (sound : Sound s d body)
    {i : ι} {f : Deposit} (has : s.deposit i = some f) :
    ∃ name, (s.transfer i).Owns s.tree name f ∧ d.routeOf? s.tree name = some f.route := by
  obtain ⟨name, owns⟩ := Transfer.Stage.owns (has ▸ sound.stage i)
  have entry := (sound.inside i f has name owns.chosen).1
  rw [sound.directory] at entry
  exact ⟨name, owns, entry⟩

theorem sound_start (d : RawText) (job : ι → Job) (tree : Tree) :
    Sound (start d job tree) ⟨d⟩ fun _ => {} where
  directory _ := rfl
  stage _ := .unnamed rfl rfl rfl
  inside _ := nofun
  copies _ := ⟨rfl, fun _ => rfl, by simp [start], by simp [start, Transfer.start, Phase.copied?]⟩

theorem apart_start (d : RawText) (job : ι → Job) (tree : Tree) : (start d job tree).Apart :=
  ⟨by simp [start], by simp [start]⟩

theorem not_clashes_start (d : RawText) (job : ι → Job) (tree : Tree) (i : ι) :
    ¬(start d job tree).Clashes i := by
  rintro ⟨name, creating, -⟩
  cases creating

section Run

variable [DecidableEq ι]

theorem Sound.step {s : Party ι} {d : Directory} {body body' : ι → Body}
    (sound : Sound s d body) (i : ι) (e : Event)
    (plain : e = .advance none → ¬(s.transfer i).Follows s.tree)
    (own : body' i = (body i).next e) (others : ∀ j, j ≠ i → body' j = body j) :
    Sound (s.step (i, e)) d body' where
  directory j := by
    by_cases hj : j = i
    · rw [hj, transfer_step_self, (Transfer.settings_step _ e).1, sound.directory]
    · rw [transfer_step_of_ne hj, sound.directory]
  stage j := by
    by_cases hj : j = i
    · rw [hj, transfer_step_self, deposit_step_self]
      exact (sound.stage i).step e
    · -- the step changes one file at most, which leaves the stage of the others
      obtain ⟨r, keeps⟩ := ((sound.stage i).effect e).keeps (sound.inside i)
      rw [transfer_step_of_ne hj, deposit_step_of_ne hj]
      exact (sound.stage j).congr rfl rfl rfl rfl rfl keeps.toKeepsWays
  inside j := by
    by_cases hj : j = i
    · rw [hj, transfer_step_self, deposit_step_self]
      exact (sound.inside i).step (sound.stage i) e plain
    · obtain ⟨r, keeps⟩ := ((sound.stage i).effect e).keeps (sound.inside i)
      rw [transfer_step_of_ne hj, deposit_step_of_ne hj]
      exact (sound.inside j).congr rfl rfl keeps.toKeepsWays
  copies j := by
    by_cases hj : j = i
    · rw [hj, transfer_step_self, deposit_step_self, own]
      exact (sound.copies i).step (sound.stage i) e
    · rw [transfer_step_of_ne hj, deposit_step_of_ne hj, others j hj]
      exact sound.copies j

/-- As long as no file is made behind a link, the downloads know where their files are. -/
theorem sound_run (d : RawText) (job : ι → Job) (tree : Tree) (events : List (ι × Event))
    (direct : (start d job tree).Direct events) :
    Sound ((start d job tree).run events) ⟨d⟩ fun i => Body.of (eventsOf i events) := by
  induction events using List.reverseRecOn with
  | nil => exact sound_start d job tree
  | append_singleton events happening ih =>
    obtain ⟨i, e⟩ := happening
    rw [run_concat]
    refine (ih direct.init).step i e ?_ ?_ fun j hj => ?_
    · rintro rfl
      exact direct events i List.prefix_rfl
    · rw [eventsOf_concat_self, Body.of_concat]
    · rw [eventsOf_concat_of_ne hj]

theorem deletes_run (d : RawText) (job : ι → Job) (tree : Tree) (events : List (ι × Event))
    (i : ι) : (((start d job tree).run events).transfer i).deletes =
      (job i).config.deleteAfterDownload := by
  induction events using List.reverseRecOn with
  | nil => rfl
  | append_singleton events happening ih =>
    obtain ⟨j, e⟩ := happening
    rw [run_concat]
    by_cases hj : i = j
    · rw [hj, transfer_step_self, (Transfer.settings_step _ e).2, ← hj, ih]
    · rw [transfer_step_of_ne hj, ih]

end Run

/-! ## One step -/

section Apart

variable {s : Party ι} {d : Directory} {body : ι → Body} {i : ι}

/-- A change of the file of one download, away from all others. -/
theorem Apart.of_change {s' : Party ι} {r : Route} (apart : Apart s)
    (others : ∀ j, j ≠ i → s'.deposit j = s.deposit j) (keeps : Tree.Keeps r s.tree s'.tree)
    (away : ∀ j g, j ≠ i → s.deposit j = some g → g.route ≠ r)
    (own : ∀ f, s'.deposit i = some f →
      f.route = r ∧ s'.tree.node? f.route = some (.file f.serial f.content)) : Apart s' where
  stands j g hg := by
    by_cases hj : j = i
    · exact (own g (hj ▸ hg)).2
    · rw [others j hj] at hg
      exact keeps.files _ _ _ (away j g hj hg) (apart.stands j g hg)
  distinct j k hne f hf g hg := by
    by_cases hj : j = i
    · have hk : k ≠ i := fun hk => hne (hj.trans hk.symm)
      rw [others k hk] at hg
      rw [(own f (hj ▸ hf)).1]
      exact (away k g hk hg).symm
    · rw [others j hj] at hf
      by_cases hk : k = i
      · rw [(own g (hk ▸ hg)).1]
        exact away j f hj hf
      · rw [others k hk] at hg
        exact apart.distinct j k hne f hf g hg

/-- A name under which a download has its file is in use. -/
theorem Sound.isTaken (sound : Sound s d body) (apart : Apart s) {j : ι} {name : String}
    (chosen : (s.transfer j).name = some name) (has : (s.deposit j).isSome = true) :
    d.isTaken s.tree name = true := by
  obtain ⟨g, hg⟩ := Option.isSome_iff_exists.1 has
  obtain ⟨other, owns⟩ := Transfer.Stage.owns (hg ▸ sound.stage j)
  obtain rfl : other = name := Option.some.inj (owns.chosen.symm.trans chosen)
  have leads := owns.leads
  rw [sound.directory] at leads
  exact Directory.isTaken_of_leadsTo leads (apart.stands j g hg)

variable [DecidableEq ι]

/-- A step keeps the files apart, unless it makes a file that another download has. -/
theorem apart_step (sound : Sound s d body) (apart : Apart s) (e : Event)
    (plain : e = .advance none → ¬(s.transfer i).Follows s.tree)
    (free : e = .advance none → ¬Clashes s i) : Apart (s.step (i, e)) := by
  have effect := (sound.stage i).effect e
  have others : ∀ j, j ≠ i → (s.step (i, e)).deposit j = s.deposit j :=
    fun j hj => deposit_step_of_ne hj
  have changed : (s.step (i, e)).tree = (Transfer.step (s.transfer i, s.tree) e).2 := rfl
  rw [← changed, ← deposit_step_self (s := s)] at effect
  generalize (s.step (i, e)) = s' at effect others ⊢
  generalize hown : s.deposit i = own at effect
  generalize hown' : s'.deposit i = own' at effect
  cases effect with
  | idle grows =>
    -- no file and no deposit has changed
    have deposits : s'.deposit = s.deposit := by
      funext j
      by_cases hj : j = i
      · rw [hj, hown, hown']
      · exact others j hj
    refine ⟨?_, by rw [deposits]; exact apart.distinct⟩
    rw [deposits]
    exact fun j g hg => grows.node? (apart.stands j g hg)
  | @made name f phase calm new safe done empty =>
    obtain ⟨-, -, stands, keeps⟩ := Directory.create_cases done
    refine apart.of_change others keeps (fun j g hj hg hroute => ?_) fun f' hf' => ?_
    · -- another file in this place would be under the same name
      obtain ⟨other, owns, entry⟩ := sound.entry hg
      have made : d.routeOf? s'.tree name = some f.route := by
        have noLink := plain calm
        rw [Transfer.Follows, phase] at noLink
        rw [sound.directory] at done noLink
        exact Directory.routeOf?_create safe done (by simpa [Phase.creating?] using noLink)
      have kept : d.routeOf? s'.tree other = some f.route := by
        rw [Directory.routeOf?_of_keepsWays keeps.toKeepsWays entry, hroute]
      obtain rfl := Directory.eq_of_routeOf? made kept
      exact free calm ⟨name, Phase.creating?_eq_some_iff.2 phase, j, hj, owns.chosen,
        by rw [hg]; rfl⟩
    · obtain rfl := Option.some.inj (hown'.symm.trans hf')
      rw [empty]
      exact ⟨rfl, stands⟩
  | @grown f f' had route keeps stands =>
    refine apart.of_change others keeps (fun j g hj hg => ?_) fun f'' hf'' => ?_
    · exact apart.distinct j i hj g hg f (hown.trans had)
    · obtain rfl := Option.some.inj (hown'.symm.trans hf'')
      exact ⟨route, stands (apart.stands i f (hown.trans had))⟩
  | gone had owns removed =>
    obtain ⟨entry, noLink⟩ := sound.inside i _ (hown.trans had) _ owns.chosen
    have keeps := Directory.keeps_delete owns.safe removed entry noLink
    refine apart.of_change others keeps (fun j g hj hg => ?_) fun f' hf' => ?_
    · exact apart.distinct j i hj g hg _ (hown.trans had)
    · cases hown'.symm.trans hf'

/-- Two files that are apart are no longer so when one download makes the file of the other. -/
theorem not_apart_of_clash (sound : Sound s d body) (apart : Apart s) (clash : Clashes s i) :
    ¬Apart (s.step (i, .advance none)) := by
  obtain ⟨name, creating, j, hj, chosen, has⟩ := clash
  have phase : (s.transfer i).phase = .creating name := Phase.creating?_eq_some_iff.1 creating
  obtain ⟨g, hg⟩ := Option.isSome_iff_exists.1 has
  obtain ⟨other, owns⟩ := Transfer.Stage.owns (hg ▸ sound.stage j)
  obtain rfl : other = name := Option.some.inj (owns.chosen.symm.trans chosen)
  have leads := owns.leads
  rw [sound.directory] at leads
  -- the file of the other download is in the way, and is opened again
  obtain ⟨tree', opened⟩ := Directory.create_of_leadsTo owns.safe leads (apart.stands j g hg)
  have made : (s.step (i, .advance none)).deposit i = some ⟨g.route, g.serial, []⟩ := by
    rw [deposit_step_self, Transfer.deposits, phase]
    simp only [sound.directory, Transfer.create, opened]
  have kept : (s.step (i, .advance none)).deposit j = some g := by
    rw [deposit_step_of_ne hj, hg]
  intro after
  exact after.distinct i j (Ne.symm hj) _ made g kept rfl

/-- A download chooses no name under which another one has its file, unless a look failed. -/
theorem not_clashes_step_self (sound : Sound s d body) (apart : Apart s) (calm : ¬Clashes s i)
    (e : Event) (sighted : ∀ fault, e = .advance (some fault) →
      ∀ tried, (s.transfer i).phase ≠ .naming tried) : ¬Clashes (s.step (i, e)) i := by
  rintro ⟨name, creating, j, hj, chosen, has⟩
  rw [transfer_step_of_ne hj] at chosen
  rw [deposit_step_of_ne hj] at has
  rw [transfer_step_self] at creating
  rcases Transfer.creating_step (Phase.creating?_eq_some_iff.1 creating) with
    phase | ⟨tried, fault, phase, rfl, free⟩
  · exact calm ⟨name, Phase.creating?_eq_some_iff.2 phase, j, hj, chosen, has⟩
  · cases fault with
    | some fault => exact sighted fault rfl tried phase
    | none =>
      have taken := sound.isTaken apart chosen has
      rw [← sound.directory i, free rfl] at taken
      cases taken

/-- As long as no two downloads have chosen the same name, none makes its file under the name that
another one is to make. -/
theorem not_clashes_step_of_ne (sound : Sound s d body) {k : ι} (hk : k ≠ i)
    (calm : ¬Clashes s k) (alone : ¬Races s) (e : Event) : ¬Clashes (s.step (i, e)) k := by
  rintro ⟨name, creating, j, hj, chosen, has⟩
  rw [transfer_step_of_ne hk] at creating
  by_cases hji : j = i
  · subst hji
    rw [transfer_step_self] at chosen
    rw [deposit_step_self] at has
    obtain ⟨g, hg⟩ := Option.isSome_iff_exists.1 has
    have before : ∀ f, s.deposit j = some f → False := by
      intro f hf
      obtain ⟨other, owns⟩ := Transfer.Stage.owns (hf ▸ sound.stage j)
      have same := (sound.stage j).name_step owns.chosen e
      obtain rfl := Option.some.inj (same.symm.trans chosen)
      exact calm ⟨other, creating, j, hj, owns.chosen, by rw [hf]; rfl⟩
    -- either the step has made the file just now, or the file was there before
    have effect := (sound.stage j).effect e
    rw [hg] at effect
    generalize hown : s.deposit j = own at effect before
    generalize hgs : some g = result at effect
    cases effect with
    | idle => exact before g hgs.symm
    | @made other f phase =>
      obtain ⟨-, -, known, -⟩ := (sound.stage j).of_creating (by rw [phase]; rfl)
      obtain rfl := Option.some.inj (((sound.stage j).name_step known e).symm.trans chosen)
      exact alone ⟨k, j, Ne.symm hj, other, creating, Phase.creating?_eq_some_iff.2 phase⟩
    | grown had => exact before _ had
    | gone => cases hgs
  · rw [transfer_step_of_ne hji] at chosen
    rw [deposit_step_of_ne hji] at has
    exact calm ⟨name, creating, j, hj, chosen, has⟩

end Apart

/-! ## Whole runs -/

section Run

variable [DecidableEq ι]

/-- Files that no step makes twice stay apart. -/
theorem apart_run (d : RawText) (job : ι → Job) (tree : Tree) (events : List (ι × Event))
    (direct : (start d job tree).Direct events)
    (free : ∀ before i, before ++ [(i, .advance none)] <+: events →
      ¬((start d job tree).run before).Clashes i) :
    ((start d job tree).run events).Apart := by
  induction events using List.reverseRecOn with
  | nil => exact apart_start d job tree
  | append_singleton events happening ih =>
    obtain ⟨i, e⟩ := happening
    have apart := ih direct.init fun before i h => free before i (h.trans (List.prefix_append _ _))
    rw [run_concat]
    refine apart_step (sound_run d job tree events direct.init) apart e ?_ ?_
    · rintro rfl
      exact direct events i List.prefix_rfl
    · rintro rfl
      exact free events i List.prefix_rfl

/-- Where no two downloads ever have the same name to be made, none makes a file of another. -/
theorem calm_run (d : RawText) (job : ι → Job) (tree : Tree) (events : List (ι × Event))
    (direct : (start d job tree).Direct events) (sighted : (start d job tree).Sighted events)
    (alone : ∀ before, before <+: events → ¬((start d job tree).run before).Races) :
    ((start d job tree).run events).Apart ∧
      ∀ i, ¬((start d job tree).run events).Clashes i := by
  induction events using List.reverseRecOn with
  | nil => exact ⟨apart_start d job tree, not_clashes_start d job tree⟩
  | append_singleton events happening ih =>
    obtain ⟨i, e⟩ := happening
    obtain ⟨apart, calm⟩ := ih direct.init sighted.init fun before h =>
      alone before (h.trans (List.prefix_append _ _))
    have sound := sound_run d job tree events direct.init
    rw [run_concat]
    constructor
    · refine apart_step sound apart e ?_ fun _ => calm i
      rintro rfl
      exact direct events i List.prefix_rfl
    · intro k
      by_cases hk : k = i
      · rw [hk]
        refine not_clashes_step_self sound apart (calm i) e ?_
        rintro fault rfl
        exact sighted events i fault List.prefix_rfl
      · exact not_clashes_step_of_ne sound hk (calm k) (alone events (List.prefix_append _ _)) e

/-- **When downloads stay apart.**  As long as no download makes its file under a name that is a
link's, the files of downloads into one directory are apart all along exactly if no download ever
makes a file under a name under which another one has its file by then.  If no look at a name
fails, that needs two downloads that had chosen the same name before either made its file.
Where the files are apart, each has the beginning of its own download's body, and all of it if
the download was successful and is not to delete it. -/
theorem apart_iff_no_clash (d : RawText) (job : ι → Job) (tree : Tree)
    (events : List (ι × Event)) (direct : (start d job tree).Direct events) :
    let s (before : List (ι × Event)) : Party ι := (start d job tree).run before
    ((∀ before, before <+: events → (s before).Apart) ↔
      ∀ before i, before ++ [(i, .advance none)] <+: events → ¬(s before).Clashes i) ∧
    ((start d job tree).Sighted events →
      (∀ before, before <+: events → ¬(s before).Races) →
        ∀ before, before <+: events → (s before).Apart) ∧
    ((s events).Apart → ∀ i,
      (∀ f ∈ (s events).deposit i,
        f.content <+: (Body.of (eventsOf i events)).bytes ∧
          (s events).tree.node? f.route = some (.file f.serial f.content)) ∧
      ((job i).config.deleteAfterDownload = false → ((s events).transfer i).success = true →
        ∃ name route serial, ((s events).transfer i).name = some name ∧
          (⟨d⟩ : Directory).routeOf? (s events).tree name = some route ∧
          (s events).tree.node? route =
            some (.file serial (Body.of (eventsOf i events)).bytes))) := by
  intro s
  have direct_before {before : List (ι × Event)} (h : before <+: events) :
      (start d job tree).Direct before := by
    obtain ⟨later, rfl⟩ := h
    exact direct.init
  have sighted_before {before : List (ι × Event)} (h : before <+: events)
      (sighted : (start d job tree).Sighted events) : (start d job tree).Sighted before := by
    obtain ⟨later, rfl⟩ := h
    exact sighted.init
  have sound {before : List (ι × Event)} (h : before <+: events) :
      Sound (s before) ⟨d⟩ fun i => Body.of (eventsOf i before) :=
    sound_run d job tree before (direct_before h)
  refine ⟨⟨fun apart before i h clash => ?_, fun free before h => ?_⟩,
    fun sighted alone before h => ?_, fun apart i => ⟨fun f hf => ?_, fun keeps success => ?_⟩⟩
  · have earlier : before <+: events := (List.prefix_append _ _).trans h
    have after : ((start d job tree).run (before ++ [(i, .advance none)])).Apart := apart _ h
    rw [run_concat] at after
    exact not_apart_of_clash (sound earlier) (apart before earlier) clash after
  · exact apart_run d job tree before (direct_before h) fun first i hfirst =>
      free first i (hfirst.trans h)
  · exact (calm_run d job tree before (direct_before h) (sighted_before h sighted)
      fun first hfirst => alone first (hfirst.trans h)).1
  · exact ⟨((sound List.prefix_rfl).copies i).beginning f hf, apart.stands i f hf⟩
  · have has := ((sound List.prefix_rfl).stage i).isSome_of_success success
      ((deletes_run d job tree events i).trans keeps)
    obtain ⟨f, hf⟩ := Option.isSome_iff_exists.1 has
    obtain ⟨name, owns, entry⟩ := (sound List.prefix_rfl).entry hf
    have whole := (((sound List.prefix_rfl).copies i).whole (Or.inr success)).2 f hf
    have stands := apart.stands i f hf
    rw [whole] at stands
    exact ⟨name, f.route, f.serial, owns.chosen, entry, stands⟩

/-- Two downloads of the same URL of which the second chooses its name when the first has made
its file: each has its own. -/
theorem apart_after_choosing_in_turn :
    let job : Bool → Job := fun second =>
      { config := { directory := "files", deleteAfterDownload := false }
        identity := if second then 2 else 1
        goal := ⟨{ scheme := "http", path := .segments ["a"] },
          { status := ⟨200, by decide, by decide⟩ }⟩ }
    let go (i : Bool) : Bool × Event := (i, .advance none)
    let events := [go false, go false, go true, go true, go true, (false, .arrive [97, 97, 97]),
      (true, .arrive [98]), (false, .bodyEnds none), (true, .bodyEnds none)] ++
        (List.replicate 9 [go false, go true]).flatten
    let s := (start "files" job {}).run events
    (start "files" job {}).Direct events ∧
      (∀ before, before <+: events → ((start "files" job {}).run before).Apart) ∧
      (s.transfer false).name = some "a" ∧ (s.transfer true).name = some "a_1" ∧
      (∃ name route serial, (s.transfer false).name = some name ∧
        (⟨"files"⟩ : Directory).routeOf? s.tree name = some route ∧
        s.tree.node? route = some (.file serial (Body.of (eventsOf false events)).bytes)) ∧
      ∃ name route serial, (s.transfer true).name = some name ∧
        (⟨"files"⟩ : Directory).routeOf? s.tree name = some route ∧
        s.tree.node? route = some (.file serial (Body.of (eventsOf true events)).bytes) := by
  intro job go events s
  have every : ∀ before ∈ events.inits, ∀ i,
      ¬(((start "files" job {}).run before).transfer i).Follows
        ((start "files" job {}).run before).tree := by
    decide +kernel
  have direct : (start "files" job {}).Direct events := fun before i h =>
    every before ((List.mem_inits _ _).2 ((List.prefix_append _ _).trans h)) i
  have sighted : (start "files" job {}).Sighted events := by
    intro before i fault h
    have happens : (i, .advance (some fault)) ∈ events :=
      h.subset (List.mem_append_right _ (List.mem_singleton_self _))
    simp [events, go] at happens
  have alone : ∀ before ∈ events.inits, ¬((start "files" job {}).run before).Races := by
    decide +kernel
  have h := apart_iff_no_clash "files" job {} events direct
  have apart := h.2.1 sighted fun before hbefore => alone before ((List.mem_inits _ _).2 hbefore)
  have own := h.2.2 (apart events List.prefix_rfl)
  exact ⟨direct, apart, by decide +kernel, by decide +kernel,
    (own false).2 rfl (by decide +kernel), (own true).2 rfl (by decide +kernel)⟩

/-- Two downloads of the same URL that choose their names before either makes its file: both
succeed, and the one file that they have holds the body of neither. -/
theorem mixed_after_choosing_at_once :
    let job : Bool → Job := fun second =>
      { config := { directory := "files", deleteAfterDownload := false }
        identity := if second then 2 else 1
        goal := ⟨{ scheme := "http", path := .segments ["a"] },
          { status := ⟨200, by decide, by decide⟩ }⟩ }
    let go (i : Bool) : Bool × Event := (i, .advance none)
    let events := [go false, go true, go false, go true, (false, .arrive [97, 97, 97]),
      (true, .arrive [98]), (false, .bodyEnds none), (true, .bodyEnds none)] ++
        (List.replicate 9 [go false, go true]).flatten
    let s := (start "files" job {}).run events
    (∀ i, (s.transfer i).success = true ∧ (s.transfer i).name = some "a") ∧
      s.tree.node? ["files", "a"] = some (.file 0 [98, 97, 97]) ∧
      Body.of (eventsOf false events) = ⟨[97, 97, 97], true⟩ ∧
      Body.of (eventsOf true events) = ⟨[98], true⟩ ∧
      ¬s.Apart := by
  decide +kernel

end Run

end Party
end Reachability.Download

/-
# Names in a download directory

Where the safe names of a download directory lead, and what making and deleting a file under
such a name change.  A name that was chosen leads to a place directly in the directory, so
different names lead to different places, and a change under one of them leaves the others
alone.  Only a link that stands under the name leads elsewhere.

Main definitions:

* `Directory.route?` : the route of the directory, if its path leads to one;
* `Directory.routeOf?` : where a name stands in it;
* `Directory.link?` : the link that stands there;
* `Directory.IsChild` : names that stand directly in the directory.

Main results:

* `locate_pathOf_eq_ok_iff` : where the path of a safe name leads that is no link's;
* `chosen_names_safe` : every name that is chosen is safe and stands in the directory;
* `create_cases`, `delete_cases` : the changes under a safe name.
-/
import Reachability.Proofs.File.Change
import Reachability.Proofs.File.SafeName

namespace Reachability.File.Directory

variable {d : Directory} {t t' : Tree} {name other : String} {route : Route} {follow : Bool}

/-! ## Entries -/

/-- The place of the directory. -/
def place? (d : Directory) (t : Tree) : Option Tree.Place := t.directoryAt? d.path.way

/-- The route of the directory. -/
def route? (d : Directory) (t : Tree) : Option Route := (d.place? t).map Tree.Place.route

/-- Where a name stands in the directory, or would stand. -/
def routeOf? (d : Directory) (t : Tree) (name : String) : Option Route :=
  (d.route? t).map fun route => route ++ [RawText.ofText name]

/-- The target of the link that stands under a name in the directory. -/
def link? (d : Directory) (t : Tree) (name : String) : Option RawText :=
  (d.routeOf? t name).bind t.link?

theorem route?_eq_some_iff : d.route? t = some route ↔
    ∃ place, d.place? t = some place ∧ place.route = route := Option.map_eq_some_iff

theorem routeOf?_eq_some_iff {entry : Route} : d.routeOf? t name = some entry ↔
    ∃ route, d.route? t = some route ∧ route ++ [RawText.ofText name] = entry :=
  Option.map_eq_some_iff

/-- Different names stand at different places. -/
theorem eq_of_routeOf? (h : d.routeOf? t name = some route) (h' : d.routeOf? t other = some route) :
    name = other := by
  obtain ⟨r, hr, rfl⟩ := routeOf?_eq_some_iff.1 h
  obtain ⟨r', hr', same⟩ := routeOf?_eq_some_iff.1 h'
  obtain rfl := Option.some.inj (hr.symm.trans hr')
  exact RawText.ofText_inj.1 (List.singleton_inj.1 (List.append_cancel_left same)).symm

/-- A directory stays where it is. -/
theorem route?_of_keepsWays (keeps : Tree.KeepsWays t t') (h : d.route? t = some route) :
    d.route? t' = some route := by
  obtain ⟨place, hplace, rfl⟩ := route?_eq_some_iff.1 h
  exact route?_eq_some_iff.2 ⟨place, keeps.directoryAt? hplace, rfl⟩

theorem routeOf?_of_keepsWays (keeps : Tree.KeepsWays t t') (h : d.routeOf? t name = some route) :
    d.routeOf? t' name = some route := by
  obtain ⟨r, hr, rfl⟩ := routeOf?_eq_some_iff.1 h
  exact routeOf?_eq_some_iff.2 ⟨r, route?_of_keepsWays keeps hr, rfl⟩

/-- A name at whose place no link stands is no link's. -/
theorem link?_of_routeOf? (h : d.routeOf? t name = some route) :
    d.link? t name = t.link? route := by
  rw [link?, h, Option.bind_some]

/-- Names that can be looked for: neither they nor their paths are too long or have the byte that
ends paths. -/
def CanHold (d : Directory) (name : String) : Prop :=
  Tree.IsUsable (d.pathOf name) ∧ (RawText.ofText name).size ≤ Tree.maxName

/-! ## Ways -/

/-- The way to a safe name goes through the directory. -/
theorem exists_place_of_walk (safe : IsSafe name) {place : Tree.Place}
    (h : t.walk follow Tree.maxLinks [] (d.pathOf name).way = .ok place) :
    ∃ p, d.place? t = some p ∧ t.walk follow p.links p.route ⟨[.name name], false⟩ = .ok place := by
  rw [way_pathOf d safe] at h
  exact Tree.exists_directoryAt?_of_walk_append h d.path.endsInSlash

/-- Where the path of a safe name leads that is no link's, or whose link is not followed: to its
place in the directory, or nowhere. -/
theorem locate_pathOf_eq_ok_iff (safe : IsSafe name)
    (plain : follow = false ∨ d.link? t name = none)
    {place : Tree.Place} : t.locate (d.pathOf name) follow = .ok place ↔
      d.CanHold name ∧ ∃ p, d.place? t = some p ∧
        place = ⟨p.route ++ [RawText.ofText name], false, p.links⟩ := by
  have noLink (p : Tree.Place) (hp : d.place? t = some p) :
      follow = false ∨ t.link? (p.route ++ [RawText.ofText name]) = none := by
    have entry : d.routeOf? t name = some (p.route ++ [RawText.ofText name]) :=
      routeOf?_eq_some_iff.2 ⟨p.route, route?_eq_some_iff.2 ⟨p, hp, rfl⟩, rfl⟩
    rwa [← link?_of_routeOf? entry]
  rw [Tree.locate_eq_ok_iff]
  constructor
  · rintro ⟨usable, walked⟩
    obtain ⟨p, hp, walked⟩ := exists_place_of_walk safe walked
    have there := (Tree.directoryAt?_eq_some_iff.1 hp).2
    obtain ⟨short, rfl⟩ := (Tree.walk_name_eq_ok_iff there (noLink p hp) false).1 walked
    exact ⟨⟨usable, short⟩, p, hp, rfl⟩
  · rintro ⟨⟨usable, short⟩, p, hp, rfl⟩
    have there := (Tree.directoryAt?_eq_some_iff.1 hp).2
    refine ⟨usable, ?_⟩
    rw [way_pathOf d safe, Tree.walk_append_of_directoryAt? hp (List.cons_ne_nil _ _)]
    exact (Tree.walk_name_eq_ok_iff there (noLink p hp) false).2 ⟨short, rfl⟩

/-- Where the path of a safe name leads that is no link's. -/
theorem leadsTo_pathOf_iff (safe : IsSafe name) (plain : d.link? t name = none) :
    t.LeadsTo (d.pathOf name) route ↔ d.CanHold name ∧ d.routeOf? t name = some route := by
  rw [routeOf?_eq_some_iff]
  constructor
  · rintro ⟨links, located⟩
    obtain ⟨fits, p, hp, same⟩ := (locate_pathOf_eq_ok_iff safe (.inr plain)).1 located
    exact ⟨fits, p.route, route?_eq_some_iff.2 ⟨p, hp, rfl⟩, (congrArg Tree.Place.route same).symm⟩
  · rintro ⟨fits, r, hr, rfl⟩
    obtain ⟨p, hp, rfl⟩ := route?_eq_some_iff.1 hr
    exact ⟨p.links, (locate_pathOf_eq_ok_iff safe (.inr plain)).2 ⟨fits, p, hp, rfl⟩⟩

/-! ## Chosen names -/

/-- Names whose path is that of the directory with one part more, and leads to a place directly
in the directory if it leads anywhere; only a link that stands there is followed farther. -/
structure IsChild (d : Directory) (name : String) : Prop where
  parts : (d.pathOf name).parts = d.path.parts ++ [.name name]
  place : ∀ t place, t.locate (d.pathOf name) false = .ok place →
    d.routeOf? t name = some place.route
  followed : ∀ t place, t.locate (d.pathOf name) = .ok place →
    d.routeOf? t name = some place.route ∨ d.link? t name ≠ none

theorem isChild_of_isSafe (d : Directory) {name : String} (h : IsSafe name) : d.IsChild name where
  parts := congrArg Way.parts (way_pathOf d h)
  place t place located := by
    obtain ⟨-, p, hp, rfl⟩ := (locate_pathOf_eq_ok_iff h (.inl rfl)).1 located
    exact routeOf?_eq_some_iff.2 ⟨p.route, route?_eq_some_iff.2 ⟨p, hp, rfl⟩, rfl⟩
  followed t place located := by
    by_cases plain : d.link? t name = none
    · obtain ⟨-, p, hp, rfl⟩ := (locate_pathOf_eq_ok_iff h (.inr plain)).1 located
      exact .inl (routeOf?_eq_some_iff.2 ⟨p.route, route?_eq_some_iff.2 ⟨p, hp, rfl⟩, rfl⟩)
    · exact .inr plain

/-- **Chosen names are safe.**  Whatever the URL and the headers of an answer and the files in
the directory, the name that is derived, with or without a number, is one safe part of a path
and leads to a place directly in the directory; and cleaning a name that was cleaned leaves it
as it is. -/
theorem chosen_names_safe (d : Directory) (u : Url) (disposition contentType : Option String) :
    (IsSafe (candidate u disposition contentType) ∧
      d.IsChild (candidate u disposition contentType)) ∧
    (∀ t name, d.freeName? t u disposition contentType = some name →
      IsSafe name ∧ d.IsChild name) ∧
    ∀ text name, sanitize text = some name → sanitize name = some name := by
  have hcandidate : IsSafe (candidate u disposition contentType) :=
    isSafe_candidate u disposition contentType
  refine ⟨⟨hcandidate, isChild_of_isSafe d hcandidate⟩, fun t name hname => ?_,
    fun text name hname => sanitize_eq_self (isSafe_of_sanitize hname)⟩
  have hsafe : IsSafe name := isSafe_of_freeName? hname
  exact ⟨hsafe, isChild_of_isSafe d hsafe⟩

/-- A header that points out of the directory, and a name that is taken there. -/
theorem chosen_name_of_climbing_header :
    let header := some "attachment; filename=\"../../etc/ pass?wd\""
    let t : Tree := { nodes := [(["files", "pass_wd"], .file 0 []), (["files"], .directory)] }
    freeName? ⟨"files"⟩ t { scheme := "http" } header none = some "pass_wd_1" ∧
      IsSafe "pass_wd_1" ∧ IsChild ⟨"files"⟩ "pass_wd_1" ∧
      sanitize "../../etc/ pass?wd" = some "pass_wd" ∧ sanitize "pass_wd" = some "pass_wd" := by
  intro header t
  have hchosen : freeName? ⟨"files"⟩ t { scheme := "http" } header none = some "pass_wd_1" := by
    decide +kernel
  have hclean : sanitize "../../etc/ pass?wd" = some "pass_wd" := by decide +kernel
  have h := chosen_names_safe ⟨"files"⟩ { scheme := "http" } header none
  obtain ⟨hsafe, hchild⟩ := h.2.1 t "pass_wd_1" hchosen
  exact ⟨hchosen, hsafe, hchild, hclean, h.2.2 _ _ hclean⟩

/-! ## Changes -/

section Change

variable {serial : Nat} {content : List UInt8}

/-- A name under which a file is found is in use. -/
theorem isTaken_of_leadsTo (leads : t.LeadsTo (d.pathOf name) route)
    (file : t.node? route = some (.file serial content)) : d.isTaken t name = true := by
  rw [isTaken, Tree.holds, leads.find file]

/-- A name that is chosen is not in use. -/
theorem isTaken_of_freeName? {u : Url} {disposition contentType : Option String}
    (free : d.freeName? t u disposition contentType = some name) : d.isTaken t name = false := by
  rw [freeName?] at free
  simpa using List.find?_some free

/-- A file is made in two steps. -/
theorem create_eq_ok_iff {handle : Tree.Handle} : d.create t name = (t', .ok handle) ↔
    ∃ made, t.makeDirectories d.path = (made, .ok ()) ∧
      made.openForWriting (d.pathOf name) = .ok (t', handle) := by
  unfold create
  split
  · next made fault failed =>
    rw [failed]
    simp
  · next made done =>
    rw [done]
    split
    · next opened handle' h => simp [h]
    · next fault h => simp [h]

/-- Making a file makes an empty one and changes no other. -/
theorem create_cases {handle : Tree.Handle} (created : d.create t name = (t', .ok handle)) :
    t'.LeadsTo (d.pathOf name) handle.route ∧ handle.position = 0 ∧
      t'.node? handle.route = some (.file handle.serial []) ∧ Tree.Keeps handle.route t t' := by
  obtain ⟨made, hmade, opened⟩ := create_eq_ok_iff.1 created
  obtain ⟨leads, position, -, -, change⟩ := Tree.openForWriting_cases opened
  have keeps := Tree.keeps_openForWriting opened
  have grows := Tree.grows_makeDirectories t d.path
  rw [hmade] at grows
  exact ⟨keeps.leadsTo leads, position, by rw [change, if_pos rfl],
    (grows.keeps handle.route).trans keeps⟩

/-- A file that is made under a name that is no link's stands there. -/
theorem routeOf?_create (safe : IsSafe name) {handle : Tree.Handle}
    (created : d.create t name = (t', .ok handle))
    (plain : d.link? (t.makeDirectories d.path).1 name = none) :
    d.routeOf? t' name = some handle.route := by
  obtain ⟨made, hmade, opened⟩ := create_eq_ok_iff.1 created
  rw [hmade] at plain
  have leads := (Tree.openForWriting_cases opened).1
  exact routeOf?_of_keepsWays (Tree.keeps_openForWriting opened).toKeepsWays
    ((leadsTo_pathOf_iff safe plain).1 leads).2

/-- Where no file can be made, there may be more directories. -/
theorem grows_create {e : ProbeError} (failed : d.create t name = (t', .error e)) :
    Tree.Grows t t' := by
  have grows := Tree.grows_makeDirectories t d.path
  unfold create at failed
  split at failed
  · next made fault done =>
    rw [done] at grows
    obtain rfl : made = t' := congrArg Prod.fst failed
    exact grows
  · next made done =>
    rw [done] at grows
    split at failed
    · cases congrArg Prod.snd failed
    · obtain rfl : made = t' := congrArg Prod.fst failed
      exact grows

/-- The path of the directory can be used if that of a name in it can. -/
theorem isUsable_path (safe : IsSafe name) (usable : Tree.IsUsable (d.pathOf name)) :
    d.path.bytes = [] ∨ Tree.IsUsable d.path := by
  by_cases empty : d.path.bytes = []
  · exact .inl empty
  · exact .inr ⟨fun ends => usable.noEnd (RawText.mem_bytes_join safe.isName ends), empty,
      (RawText.size_le_size_join safe.isName).trans usable.short⟩

/-- A file that is there is opened again. -/
theorem create_of_leadsTo (safe : IsSafe name) (leads : t.LeadsTo (d.pathOf name) route)
    (file : t.node? route = some (.file serial content)) :
    ∃ t', d.create t name = (t', .ok ⟨route, serial, 0⟩) := by
  obtain ⟨links, located⟩ := id leads
  obtain ⟨usable, walked⟩ := Tree.locate_eq_ok_iff.1 located
  obtain ⟨p, hp, -⟩ := exists_place_of_walk safe walked
  exact ⟨_, create_eq_ok_iff.2 ⟨t,
    Tree.makeDirectories_of_directoryAt? (isUsable_path safe usable) hp,
    Tree.openForWriting_of_file leads file⟩⟩

/-- Deleting takes away what stands under the name in the directory, or nothing. -/
theorem delete_cases (safe : IsSafe name) {done : Bool}
    (deleted : d.delete t name = .ok (t', done)) :
    t' = t ∨ ∃ route, d.routeOf? t name = some route ∧ t.isDirectory route = false ∧
      t' = t.erase route := by
  unfold delete at deleted
  split at deleted
  · next rest removed =>
    obtain rfl : rest = t' := congrArg Prod.fst (Except.ok.inj deleted)
    obtain ⟨route, links, located, -, noDirectory, same⟩ := Tree.remove_cases removed
    exact .inr ⟨route, (isChild_of_isSafe d safe).place t _ located, noDirectory, same⟩
  · exact .inl (congrArg Prod.fst (Except.ok.inj deleted)).symm
  · cases deleted

/-- Deleting what is no link leaves all other nodes as they were. -/
theorem keeps_delete (safe : IsSafe name) {done : Bool}
    (deleted : d.delete t name = .ok (t', done)) (entry : d.routeOf? t name = some route)
    (plain : t.link? route = none) : Tree.Keeps route t t' := by
  rcases delete_cases safe deleted with rfl | ⟨r, hr, noDirectory, rfl⟩
  · exact .refl route t'
  · obtain rfl := Option.some.inj (entry.symm.trans hr)
    obtain ⟨r', -, rfl⟩ := routeOf?_eq_some_iff.1 hr
    exact Tree.keeps_of_change noDirectory plain (Tree.node?_erase t (by simp)) (by simp)

/-- A file that is there under a name that is no link's can be deleted. -/
theorem delete_of_leadsTo (safe : IsSafe name) (plain : d.link? t name = none)
    (leads : t.LeadsTo (d.pathOf name) route)
    (file : t.node? route = some (.file serial content)) :
    d.delete t name = .ok (t.erase route, true) := by
  obtain ⟨fits, entry⟩ := (leadsTo_pathOf_iff safe plain).1 leads
  obtain ⟨r, hr, rfl⟩ := routeOf?_eq_some_iff.1 entry
  obtain ⟨p, hp, rfl⟩ := route?_eq_some_iff.1 hr
  have located := (locate_pathOf_eq_ok_iff safe (.inl rfl)).2 ⟨fits, p, hp, rfl⟩
  have removed : t.remove (d.pathOf name) = .ok (t.erase (p.route ++ [RawText.ofText name])) := by
    rw [Tree.remove, Steps.bind_eq_ok_iff]
    refine ⟨_, located, ?_⟩
    simp only [file, Bool.false_eq_true, if_false]
    rfl
  rw [delete, removed]

end Change

end Reachability.File.Directory

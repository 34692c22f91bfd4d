/-
# The contents of files

What a file tree holds, told by the contents at the ends of routes.  A change of one file is seen
at the end of its route, in both directions: no other file is changed, and none comes into being.
Directories that are made on the way hold nothing yet.

A name that was found free in a download directory is that of no file, if the path of the
directory led there and the name is no link's.  A path that goes up through a directory that is
missing leads nowhere until that directory is made, and then what was found free may turn out to be
in use.

Main definitions:

* `Tree.content?` : the content of the file at the end of a route;
* `Directory.stored?` : the content of the file that is found under a name.

Main results:

* `content?_create`, `content?_writeAt`, `content?_erase` : the contents after a change;
* `vacant_or_climbs` : when a name that was found free is that of a file.
-/
import Reachability.Proofs.File.Directory

namespace Reachability.File

namespace Tree

/-- The content of the file at the end of a route. -/
def content? (t : Tree) (r : Route) : Option (List UInt8) :=
  match t.node? r with
  | some (.file _ content) => some content
  | _ => none

theorem content?_of_node? {t : Tree} {r : Route} {serial : Nat} {content : List UInt8}
    (h : t.node? r = some (.file serial content)) : t.content? r = some content := by
  rw [content?, h]

theorem content?_eq_some_iff {t : Tree} {r : Route} {content : List UInt8} :
    t.content? r = some content ↔ ∃ serial, t.node? r = some (.file serial content) := by
  unfold content?
  split
  · next serial bytes h => simp [h]
  · next h =>
    constructor
    · intro none_there
      cases none_there
    · rintro ⟨serial, there⟩
      exact absurd there (h serial content)

/-- Trees with the same node at the end of a route have the same content there. -/
theorem content?_congr {t t' : Tree} {r : Route} (h : t'.node? r = t.node? r) :
    t'.content? r = t.content? r := by
  rw [content?, content?, h]

/-! ## Changes -/

/-- More directories have no content. -/
theorem Grows.content? {t t' : Tree} (grows : Grows t t') (q : Route) :
    t'.content? q = t.content? q := by
  rcases grows q with same | ⟨free, made⟩
  · exact content?_congr same
  · rw [Tree.content?, Tree.content?, free, made]

/-- Writing changes no content but that of the file that is written to. -/
theorem content?_writeAt (t : Tree) (h : Handle) (bytes : List UInt8) {q : Route}
    (hq : q ≠ h.route) : (t.writeAt h bytes).1.content? q = t.content? q := by
  unfold writeAt
  split
  · next serial content there =>
    split
    · have hnil : h.route ≠ [] := ne_nil_of_node? (t := t) (by simp [there])
      exact content?_congr (by rw [node?_set t hnil, if_neg hq])
    · rfl
  · rfl

/-- A file that is erased has no content any more. -/
theorem content?_erase {t : Tree} {r : Route} {content : List UInt8}
    (held : t.content? r = some content) (q : Route) :
    (t.erase r).content? q = if q = r then none else t.content? q := by
  obtain ⟨serial, there⟩ := content?_eq_some_iff.1 held
  have hnil : r ≠ [] := ne_nil_of_node? (t := t) (by simp [there])
  by_cases hq : q = r
  · rw [if_pos hq, Tree.content?, node?_erase t hnil, if_pos hq]
  · rw [if_neg hq]
    exact content?_congr (by rw [node?_erase t hnil, if_neg hq])

end Tree

namespace Directory

variable {d : Directory} {t t' : Tree} {name : String}

/-- The content of the file that is found under a name. -/
def stored? (d : Directory) (t : Tree) (name : String) : Option (List UInt8) :=
  match t.find (d.pathOf name) with
  | .ok (.file _ content) => some content
  | _ => none

theorem stored?_of_leadsTo {route : Route} {serial : Nat} {content : List UInt8}
    (leads : t.LeadsTo (d.pathOf name) route)
    (file : t.node? route = some (.file serial content)) : d.stored? t name = some content := by
  rw [stored?, leads.find file]

/-- Making a file makes an empty one, and changes no other content. -/
theorem content?_create {handle : Tree.Handle} (created : d.create t name = (t', .ok handle))
    (q : Route) : t'.content? q = if q = handle.route then some [] else t.content? q := by
  obtain ⟨made, hmade, opened⟩ := create_eq_ok_iff.1 created
  obtain ⟨-, -, -, -, change⟩ := Tree.openForWriting_cases opened
  have grows := Tree.grows_makeDirectories t d.path
  rw [hmade] at grows
  by_cases hq : q = handle.route
  · rw [if_pos hq, Tree.content?, change, if_pos hq]
  · rw [if_neg hq, ← grows.content? q]
    exact Tree.content?_congr (by rw [change, if_neg hq])

/-- A name that was found free and is no link's is that of no file, unless the path of the
directory goes up and led nowhere. -/
theorem vacant_or_climbs (rooted : t.IsRooted) (safe : IsSafe name)
    (free : d.isTaken t name = false) {handle : Tree.Handle}
    (created : d.create t name = (t', .ok handle))
    (plain : d.link? (t.makeDirectories d.path).1 name = none) :
    t.content? handle.route = none ∨ (d.route? t = none ∧ .up ∈ d.path.parts) := by
  obtain ⟨made, hmade, opened⟩ := create_eq_ok_iff.1 created
  have grows := Tree.grows_makeDirectories t d.path
  rw [hmade] at plain grows
  obtain ⟨fits, entry⟩ :=
    (leadsTo_pathOf_iff safe plain).1 (Tree.openForWriting_cases opened).1
  cases held : t.content? handle.route with
  | none => exact .inl rfl
  | some content =>
    obtain ⟨serial, file⟩ := Tree.content?_eq_some_iff.1 held
    have absent : d.route? t = none := by
      rw [Option.eq_none_iff_forall_ne_some]
      intro route there
      -- the file would have been found under the name
      have before : d.routeOf? t name = some handle.route := by
        rw [← entry, routeOf?, routeOf?, there,
          route?_of_keepsWays (grows.keeps []).toKeepsWays there]
      have noLink : d.link? t name = none := by
        rw [link?_of_routeOf? before, (Tree.plain_of_file file).2]
      have leads := (leadsTo_pathOf_iff safe noLink).2 ⟨fits, before⟩
      rw [isTaken_of_leadsTo leads file] at free
      cases free
    refine .inr ⟨absent, ?_⟩
    by_contra level
    rcases Tree.fresh_makeDirectories rooted level hmade with rfl | ⟨place, there, new⟩
    · rw [routeOf?, absent] at entry
      cases entry
    · -- the directory is new, so that nothing stood in it
      have route : d.route? made = some place.route := route?_eq_some_iff.2 ⟨place, there, rfl⟩
      rw [routeOf?, route] at entry
      rw [← Option.some.inj entry, rooted.free new] at file
      cases file

end Directory

end Reachability.File

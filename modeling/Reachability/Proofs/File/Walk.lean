/-
# Walks

A walk goes from link to link.  On each leg it goes through directories only, so a tree that has
all the directories of another one and the same links has the same ways.  A walk along a path goes
to the directory first and then to the name in it.

Main definitions:

* `RawText.IsUsable` : paths that can be used, whatever they lead to;
* `Tree.LeadsTo` : a path leads to the end of a route.

Main results:

* `walk_append` : a walk goes on from where its first part leads;
* `KeepsWays.walk` : a way stays one;
* `walk_true_of_walk_false` : a walk that does not follow the last link;
* `walk_name_eq_ok_iff` : the walk to a name in a directory.
-/
import Reachability.Proofs.File.Tree

namespace Reachability.File.Tree

variable {t t' : Tree} {follow : Bool} {route : Route} {part : Part} {parts rest : List Part}

/-! ## Legs -/

/-- Every part starts in a directory. -/
theorem isDirectory_of_leg {l : Leg} (h : t.leg follow route (part :: rest) = .ok l) :
    t.isDirectory route = true := by
  rw [leg.eq_def] at h
  dsimp only at h
  split at h
  · cases h
  · next there => simpa using there

theorem leg_here (there : t.isDirectory route = true) :
    t.leg follow route (.here :: rest) = t.leg follow route rest := by
  rw [leg, there]
  rfl

theorem leg_up (there : t.isDirectory route = true) :
    t.leg follow route (.up :: rest) = t.leg follow route.dropLast rest := by
  rw [leg, there]
  rfl

theorem leg_name (there : t.isDirectory route = true) (name : RawText) :
    t.leg follow route (.name name :: rest) =
      if maxName < name.size then .error .nameTooLong
      else match t.link? (route ++ [name]) with
        | none => t.leg follow (route ++ [name]) rest
        | some target =>
            if follow || !rest.isEmpty then .ok (.link route target rest)
            else .ok (.ends (route ++ [name])) := by
  rw [leg, there]
  rfl

/-- A leg in a tree is one in every tree with its ways. -/
theorem KeepsWays.leg (keeps : KeepsWays t t') {l : Leg} (h : t.leg follow route parts = .ok l) :
    t'.leg follow route parts = .ok l := by
  fun_induction Tree.leg t follow route parts with
  | case1 => exact h
  | case2 | case5 => cases h
  | case3 route rest there ih =>
    rw [leg_here (keeps.directories _ (by simpa using there)), ih h]
  | case4 route rest there ih =>
    rw [leg_up (keeps.directories _ (by simpa using there)), ih h]
  | case6 route rest there name next short free ih =>
    rw [leg_name (keeps.directories _ (by simpa using there)), if_neg short, keeps.links, free]
    exact ih h
  | case7 route rest there name next short target link goesOn =>
    rw [leg_name (keeps.directories _ (by simpa using there)), if_neg short, keeps.links, link]
    exact (if_pos goesOn).trans h
  | case8 route rest there name next short target link stops =>
    rw [leg_name (keeps.directories _ (by simpa using there)), if_neg short, keeps.links, link]
    exact (if_neg stops).trans h

/-- A leg goes on from where its first part leads, or stops there at a link. -/
theorem leg_append (more : rest ≠ []) :
    t.leg follow route (parts ++ rest) =
      match t.leg true route parts with
      | .error fault => .error fault
      | .ok (.ends target) => t.leg follow target rest
      | .ok (.link base target between) => .ok (.link base target (between ++ rest)) := by
  fun_induction Tree.leg t true route parts with
  | case1 => rfl
  | case2 route part parts missing =>
    rw [List.cons_append, Tree.leg.eq_def]
    exact if_pos missing
  | case3 route parts there ih =>
    rw [List.cons_append, leg_here (by simpa using there), ih]
  | case4 route parts there ih =>
    rw [List.cons_append, leg_up (by simpa using there), ih]
  | case5 route parts there name long =>
    rw [List.cons_append, leg_name (by simpa using there), if_pos long]
  | case6 route parts there name next short free ih =>
    rw [List.cons_append, leg_name (by simpa using there), if_neg short, free]
    exact ih
  | case7 route parts there name next short target link =>
    rw [List.cons_append, leg_name (by simpa using there), if_neg short, link]
    simp [more]
  | case8 route parts there name next short target link stops => simp at stops

/-- A leg that follows the last link differs from one that does not only where a link comes last. -/
theorem leg_true_of_leg_false {l : Leg} (h : t.leg false route parts = .ok l) :
    t.leg true route parts = .ok l ∨ ∃ next, l = .ends next ∧ t.link? next ≠ none := by
  fun_induction Tree.leg t false route parts with
  | case1 => exact .inl h
  | case2 | case5 => cases h
  | case3 route parts there ih =>
    rw [leg_here (by simpa using there)]
    exact ih h
  | case4 route parts there ih =>
    rw [leg_up (by simpa using there)]
    exact ih h
  | case6 route parts there name next short free ih =>
    rw [leg_name (by simpa using there), if_neg short, free]
    exact ih h
  | case7 route parts there name next short target link goesOn =>
    left
    rw [leg_name (by simpa using there), if_neg short, link]
    simpa using h
  | case8 route parts there name next short target link stops =>
    right
    exact ⟨next, (Except.ok.inj h).symm, by simp [link]⟩

/-! ## Walks -/

section Walk

variable {links : Nat} {way : Way} {place : Place}

theorem walk_of_error {fault : Fault} (h : t.leg follow route parts = .error fault)
    (asDirectory : Bool) : t.walk follow links route ⟨parts, asDirectory⟩ = .error fault := by
  rw [walk.eq_def, h]

theorem walk_of_ends {target : Route} (h : t.leg follow route parts = .ok (.ends target))
    (asDirectory : Bool) :
    t.walk follow links route ⟨parts, asDirectory⟩ = .ok ⟨target, asDirectory, links⟩ := by
  rw [walk.eq_def, h]

theorem walk_zero_of_link {stop : Route} {target : RawText}
    (h : t.leg follow route parts = .ok (.link stop target rest)) (asDirectory : Bool) :
    t.walk follow 0 route ⟨parts, asDirectory⟩ = .error .tooManyLinks := by
  rw [walk.eq_def, h]

theorem walk_succ_of_link {stop : Route} {target : RawText}
    (h : t.leg follow route parts = .ok (.link stop target rest)) (asDirectory : Bool) :
    t.walk follow (links + 1) route ⟨parts, asDirectory⟩ =
      t.walk follow links (base stop target) (target.way.append ⟨rest, asDirectory⟩) := by
  rw [walk.eq_def, h]

/-- Walks with the same first leg are the same. -/
theorem walk_congr {route' : Route} {parts' : List Part}
    (h : t.leg follow route parts = t.leg follow route' parts') (asDirectory : Bool) :
    t.walk follow links route ⟨parts, asDirectory⟩ =
      t.walk follow links route' ⟨parts', asDirectory⟩ := by
  rw [walk.eq_def, h, walk.eq_def _ _ _ route']

/-- A walk ends with its leg, or goes on behind a link. -/
theorem walk_eq_ok_iff : t.walk follow links route way = .ok place ↔
    (∃ target, t.leg follow route way.parts = .ok (.ends target) ∧
      place = ⟨target, way.asDirectory, links⟩) ∨
    ∃ stop target rest left, t.leg follow route way.parts = .ok (.link stop target rest) ∧
      links = left + 1 ∧ t.walk follow left (base stop target)
        (target.way.append ⟨rest, way.asDirectory⟩) = .ok place := by
  rw [walk.eq_def]
  cases t.leg follow route way.parts with
  | error fault => simp
  | ok l =>
    cases l with
    | ends target => simp [eq_comm]
    | link stop target rest =>
      cases links with
      | zero => simp
      | succ left => simp [and_assoc]

/-- A way in a tree is one in every tree with its ways. -/
theorem KeepsWays.walk (keeps : KeepsWays t t') (h : t.walk follow links route way = .ok place) :
    t'.walk follow links route way = .ok place := by
  induction links generalizing route way with
  | zero =>
    rcases walk_eq_ok_iff.1 h with ⟨target, hleg, rfl⟩ | ⟨_, _, _, left, -, hleft, -⟩
    · exact walk_of_ends (keeps.leg hleg) _
    · cases hleft
  | succ links ih =>
    rcases walk_eq_ok_iff.1 h with ⟨target, hleg, rfl⟩ |
      ⟨stop, target, rest, left, hleg, hleft, hon⟩
    · exact walk_of_ends (keeps.leg hleg) _
    · obtain rfl := Nat.succ.inj hleft
      exact (walk_succ_of_link (keeps.leg hleg) _).trans (ih hon)

/-- Whether a way says that it leads to a directory, it leads to the same route. -/
theorem walk_asDirectory {a : Bool} (h : t.walk follow links route ⟨parts, a⟩ = .ok place)
    (b : Bool) : ∃ c, t.walk follow links route ⟨parts, b⟩ = .ok ⟨place.route, c, place.links⟩ := by
  induction links generalizing route parts a b with
  | zero =>
    rcases walk_eq_ok_iff.1 h with ⟨target, hleg, rfl⟩ | ⟨_, _, _, left, -, hleft, -⟩
    · exact ⟨b, walk_of_ends hleg b⟩
    · cases hleft
  | succ links ih =>
    rcases walk_eq_ok_iff.1 h with ⟨target, hleg, rfl⟩ |
      ⟨stop, target, rest, left, hleg, hleft, hon⟩
    · exact ⟨b, walk_of_ends hleg b⟩
    · obtain rfl := Nat.succ.inj hleft
      obtain ⟨c, hc⟩ := ih hon (target.way.append ⟨rest, b⟩).asDirectory
      exact ⟨c, (walk_succ_of_link hleg b).trans hc⟩

/-- A walk goes on from where its first part leads. -/
theorem walk_append (more : rest ≠ []) (asDirectory asDirectory' : Bool) :
    t.walk follow links route ⟨parts ++ rest, asDirectory⟩ =
      t.walk true links route ⟨parts, asDirectory'⟩ >>= fun place =>
        t.walk follow place.links place.route ⟨rest, asDirectory⟩ := by
  induction links using Nat.strongRecOn generalizing route parts asDirectory' with
  | ind links ih =>
    have whole : t.leg follow route (parts ++ rest) = _ := leg_append more
    cases hleg : t.leg true route parts with
    | error fault =>
      rw [hleg] at whole
      rw [walk_of_error whole, walk_of_error hleg]
      rfl
    | ok l =>
      rw [hleg] at whole
      cases l with
      | ends target =>
        rw [walk_of_ends hleg]
        exact walk_congr whole asDirectory
      | link stop target between =>
        cases links with
        | zero =>
          rw [walk_zero_of_link whole, walk_zero_of_link hleg]
          rfl
        | succ left =>
          have longer : target.way.append ⟨between ++ rest, asDirectory⟩ =
              ⟨(target.way.parts ++ between) ++ rest, asDirectory⟩ := by
            simp [Way.append, more]
          rw [walk_succ_of_link whole, walk_succ_of_link hleg, longer]
          exact ih left (Nat.lt_succ_self left) _

/-- A walk that does not follow the last link leads to the same place, unless that is a link. -/
theorem walk_true_of_walk_false (h : t.walk false links route way = .ok place)
    (plain : t.link? place.route = none) : t.walk true links route way = .ok place := by
  induction links generalizing route way with
  | zero =>
    rcases walk_eq_ok_iff.1 h with ⟨target, hleg, rfl⟩ | ⟨_, _, _, left, -, hleft, -⟩
    · rcases leg_true_of_leg_false hleg with same | ⟨next, hnext, link⟩
      · exact walk_of_ends same _
      · cases hnext
        exact absurd plain link
    · cases hleft
  | succ links ih =>
    rcases walk_eq_ok_iff.1 h with ⟨target, hleg, rfl⟩ |
      ⟨stop, target, rest, left, hleg, hleft, hon⟩
    · rcases leg_true_of_leg_false hleg with same | ⟨next, hnext, link⟩
      · exact walk_of_ends same _
      · cases hnext
        exact absurd plain link
    · obtain rfl := Nat.succ.inj hleft
      rcases leg_true_of_leg_false hleg with same | ⟨next, hnext, -⟩
      · exact (walk_succ_of_link same _).trans (ih hon)
      · cases hnext

/-! ## Directories and names -/

theorem directoryAt?_eq_some_iff : t.directoryAt? way = some place ↔
    t.walk true maxLinks [] way = .ok place ∧ t.isDirectory place.route = true := by
  unfold directoryAt?
  cases t.walk true maxLinks [] way with
  | error fault => simp
  | ok found =>
    rw [Except.ok.injEq]
    constructor
    · intro h
      rw [Option.ite_none_right_eq_some, Option.some.injEq] at h
      obtain ⟨there, rfl⟩ := h
      exact ⟨rfl, there⟩
    · rintro ⟨rfl, there⟩
      exact if_pos there

theorem directoryAt?_asDirectory {a : Bool} (h : t.directoryAt? ⟨parts, a⟩ = some place)
    (b : Bool) : ∃ c, t.directoryAt? ⟨parts, b⟩ = some ⟨place.route, c, place.links⟩ := by
  obtain ⟨walked, there⟩ := directoryAt?_eq_some_iff.1 h
  obtain ⟨c, walked⟩ := walk_asDirectory walked b
  exact ⟨c, directoryAt?_eq_some_iff.2 ⟨walked, there⟩⟩

/-- What leads to a directory keeps doing so. -/
theorem KeepsWays.directoryAt? (keeps : KeepsWays t t') (h : t.directoryAt? way = some place) :
    t'.directoryAt? way = some place := by
  rw [directoryAt?_eq_some_iff] at h ⊢
  exact ⟨keeps.walk h.1, keeps.directories _ h.2⟩

/-- A walk goes on from the directory to which its first part leads. -/
theorem walk_append_of_directoryAt? {asDirectory : Bool}
    (h : t.directoryAt? ⟨parts, asDirectory⟩ = some place) (more : rest ≠ []) (last : Bool) :
    t.walk follow maxLinks [] ⟨parts ++ rest, last⟩ =
      t.walk follow place.links place.route ⟨rest, last⟩ := by
  rw [walk_append more last asDirectory, (directoryAt?_eq_some_iff.1 h).1]
  rfl

/-- A walk that goes on comes through a directory. -/
theorem exists_directoryAt?_of_walk_append {last : Bool}
    (h : t.walk follow maxLinks [] ⟨parts ++ part :: rest, last⟩ = .ok place) (asDirectory : Bool) :
    ∃ d, t.directoryAt? ⟨parts, asDirectory⟩ = some d ∧
      t.walk follow d.links d.route ⟨part :: rest, last⟩ = .ok place := by
  rw [walk_append (List.cons_ne_nil part rest) last asDirectory, Steps.bind_eq_ok_iff] at h
  obtain ⟨d, hd, hrest⟩ := h
  refine ⟨d, directoryAt?_eq_some_iff.2 ⟨hd, ?_⟩, hrest⟩
  rcases walk_eq_ok_iff.1 hrest with ⟨_, hleg, -⟩ | ⟨_, _, _, _, hleg, -⟩ <;>
    exact isDirectory_of_leg hleg

/-- A name in a directory that is no link, or is not followed, is where it stands. -/
theorem walk_name (there : t.isDirectory route = true) {name : RawText}
    (plain : follow = false ∨ t.link? (route ++ [name]) = none) (asDirectory : Bool) :
    t.walk follow links route ⟨[.name name], asDirectory⟩ =
      if maxName < name.size then .error .nameTooLong
      else .ok ⟨route ++ [name], asDirectory, links⟩ := by
  have hleg : t.leg follow route [.name name] = _ := leg_name there name
  by_cases long : maxName < name.size
  · rw [if_pos long] at hleg ⊢
    exact walk_of_error hleg asDirectory
  · rw [if_neg long] at hleg ⊢
    refine walk_of_ends (hleg.trans ?_) asDirectory
    rcases plain with rfl | plain
    · cases t.link? (route ++ [name]) <;> rfl
    · rw [plain]
      rfl

/-- The walk to a name in a directory, if no link stands there or it is not followed. -/
theorem walk_name_eq_ok_iff (there : t.isDirectory route = true) {name : RawText}
    (plain : follow = false ∨ t.link? (route ++ [name]) = none) (asDirectory : Bool) :
    t.walk follow links route ⟨[.name name], asDirectory⟩ = .ok place ↔
      name.size ≤ maxName ∧ place = ⟨route ++ [name], asDirectory, links⟩ := by
  rw [walk_name there plain]
  by_cases long : maxName < name.size
  · simp [long, Nat.not_le_of_lt long]
  · simp [long, Nat.le_of_not_lt long, eq_comm]

/-! ## Paths -/

/-- Paths that can be used, whatever they lead to. -/
structure IsUsable (path : RawText) : Prop where
  noEnd : 0 ∉ path.bytes
  nonempty : path.bytes ≠ []
  short : path.size ≤ maxPath

instance (path : RawText) : Decidable (IsUsable path) :=
  decidable_of_iff (0 ∉ path.bytes ∧ path.bytes ≠ [] ∧ path.size ≤ maxPath)
    ⟨fun h => ⟨h.1, h.2.1, h.2.2⟩, fun h => ⟨h.noEnd, h.nonempty, h.short⟩⟩

theorem checkPath_eq_ok_iff {path : RawText} : checkPath path = .ok () ↔ IsUsable path := by
  unfold checkPath
  split
  · next ended =>
    exact ⟨fun h => (nomatch h), fun h => absurd (List.contains_iff_mem.1 ended) h.noEnd⟩
  · next open_ended =>
    rw [List.contains_iff_mem] at open_ended
    split
    · next empty =>
      exact ⟨fun h => (nomatch h), fun h => absurd (List.isEmpty_iff.1 empty) h.nonempty⟩
    · next filled =>
      rw [List.isEmpty_iff] at filled
      split
      · next long => exact ⟨fun h => (nomatch h), fun h => absurd h.short (Nat.not_le.2 long)⟩
      · next short => exact ⟨fun _ => ⟨open_ended, filled, Nat.not_lt.1 short⟩, fun _ => rfl⟩

/-- A path leads where the walk along it leads. -/
theorem locate_eq_ok_iff {path : RawText} : t.locate path follow = .ok place ↔
    IsUsable path ∧ t.walk follow maxLinks [] path.way = .ok place := by
  rw [locate, Steps.bind_eq_ok_iff, ← checkPath_eq_ok_iff]
  exact ⟨fun ⟨_, usable, walked⟩ => ⟨usable, walked⟩, fun ⟨usable, walked⟩ => ⟨(), usable, walked⟩⟩

/-- Where nothing is found on the way, the path is empty or the walk along it finds nothing. -/
theorem missing_of_locate {path : RawText} (h : t.locate path follow = .error .notFound) :
    path.bytes = [] ∨ t.walk follow maxLinks [] path.way = .error .notFound := by
  rw [locate, Steps.bind_eq_error_iff] at h
  rcases h with unusable | ⟨-, -, walked⟩
  · left
    unfold checkPath at unusable
    split at unusable
    · cases unusable
    · split at unusable
      · next empty => exact List.isEmpty_iff.1 empty
      · split at unusable <;> cases unusable
  · exact .inr walked

theorem KeepsWays.locate (keeps : KeepsWays t t') {path : RawText}
    (h : t.locate path follow = .ok place) : t'.locate path follow = .ok place := by
  rw [locate_eq_ok_iff] at h ⊢
  exact ⟨h.1, keeps.walk h.2⟩

/-- A path leads to the end of a route and does not say that it is a directory. -/
def LeadsTo (t : Tree) (path : RawText) (route : Route) : Prop :=
  ∃ links, t.locate path = .ok ⟨route, false, links⟩

theorem KeepsWays.leadsTo (keeps : KeepsWays t t') {path : RawText} (h : t.LeadsTo path route) :
    t'.LeadsTo path route := by
  obtain ⟨links, h⟩ := h
  exact ⟨links, keeps.locate h⟩

/-- A file to which a path leads is found. -/
theorem LeadsTo.find {path : RawText} (h : t.LeadsTo path route) {serial : Nat}
    {content : List UInt8} (file : t.node? route = some (.file serial content)) :
    t.find path = .ok (.file serial content) := by
  obtain ⟨links, h⟩ := h
  rw [Tree.find, Steps.bind_eq_ok_iff]
  exact ⟨_, h, by simp [file, pure, Except.pure]⟩

end Walk

end Reachability.File.Tree

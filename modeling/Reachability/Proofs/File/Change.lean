/-
# Opened, removed and made

What opening and removing a file and making directories change.  A directory is only made where
nothing stands, so a tree in which directories were made has all that was there before, whether
the making came to its end or not.

A path that goes down only comes, through directories that were there, to the first one that is
missing; the ones behind it are new.  A path that goes up may come from a directory that was just
made to one that was there.

Main definitions:

* `Tree.Grows` : a tree is another one with more directories;
* `Tree.IsRooted` : all that stands in a tree stands in a directory;
* `Tree.Fresh` : a way leads to a directory that was not there before.

Main results:

* `openForWriting_cases`, `remove_cases` : the changes of a file;
* `grows_makeDirectories` : making directories makes directories only;
* `makeDirectories_of_directoryAt?` : and none where they are there already;
* `fresh_makeDirectories` : where a path that goes down only leads once its directories are made.
-/
import Mathlib.Data.List.Induction
import Reachability.Proofs.File.Walk

namespace Reachability.File.Tree

/-! ## Files -/

section Files

variable {t t' : Tree} {path : RawText}

/-- Opening a file leaves an empty one, and the rest as it was. -/
theorem openForWriting_cases {h : Handle} (opened : t.openForWriting path = .ok (t', h)) :
    t.LeadsTo path h.route ∧ h.position = 0 ∧ t.isDirectory h.route = false ∧
      t.link? h.route = none ∧
      ∀ q, t'.node? q = if q = h.route then some (.file h.serial []) else t.node? q := by
  rw [openForWriting, Steps.bind_eq_ok_iff] at opened
  obtain ⟨⟨route, asDirectory, links⟩, located, opened⟩ := opened
  rw [Steps.check_eq_ok_iff, Bool.not_eq_true] at opened
  obtain ⟨rfl : asDirectory = false, opened⟩ := opened
  have leads : t.LeadsTo path route := ⟨links, located⟩
  cases hnode : t.node? route with
  | none =>
    have hnil : route ≠ [] := ne_nil_of_node? (t := t) (by simp [hnode])
    simp only [hnode, pure, Except.pure, Except.ok.injEq, Prod.mk.injEq] at opened
    obtain ⟨rfl, rfl⟩ := opened
    exact ⟨leads, rfl, by simp [isDirectory, hnode], by simp [link?, hnode], node?_set t hnil _⟩
  | some node =>
    cases node with
    | directory | link target =>
      simp only [hnode] at opened
      cases opened
    | file serial content =>
      have hnil : route ≠ [] := ne_nil_of_node? (t := t) (by simp [hnode])
      obtain ⟨noDirectory, noLink⟩ := plain_of_file hnode
      simp only [hnode, pure, Except.pure, Except.ok.injEq, Prod.mk.injEq] at opened
      obtain ⟨rfl, rfl⟩ := opened
      exact ⟨leads, rfl, noDirectory, noLink, node?_set t hnil _⟩

/-- Opening a file leaves all other nodes as they were. -/
theorem keeps_openForWriting {h : Handle} (opened : t.openForWriting path = .ok (t', h)) :
    Keeps h.route t t' := by
  obtain ⟨-, -, noDirectory, noLink, change⟩ := openForWriting_cases opened
  exact keeps_of_change noDirectory noLink change (by simp)

/-- A file that is there is emptied. -/
theorem openForWriting_of_file {route : Route} {serial : Nat} {content : List UInt8}
    (leads : t.LeadsTo path route) (there : t.node? route = some (.file serial content)) :
    t.openForWriting path = .ok (t.set route (.file serial []), { route, serial }) := by
  obtain ⟨links, located⟩ := leads
  rw [openForWriting, Steps.bind_eq_ok_iff]
  refine ⟨_, located, ?_⟩
  rw [Steps.check_eq_ok_iff]
  refine ⟨by simp, ?_⟩
  simp only [there]
  rfl

/-- Removing takes away a file or a link that stands under the path itself. -/
theorem remove_cases (removed : t.remove path = .ok t') :
    ∃ route links, t.locate path false = .ok ⟨route, false, links⟩ ∧ t.node? route ≠ none ∧
      t.isDirectory route = false ∧ t' = t.erase route := by
  rw [remove, Steps.bind_eq_ok_iff] at removed
  obtain ⟨⟨route, asDirectory, links⟩, located, removed⟩ := removed
  cases hnode : t.node? route with
  | none =>
    simp only [hnode] at removed
    cases removed
  | some node =>
    cases node with
    | directory =>
      simp only [hnode] at removed
      cases removed
    | file | link =>
      simp only [hnode] at removed
      split at removed
      · cases removed
      · next named =>
        obtain rfl : asDirectory = false := by simpa using named
        obtain rfl := Except.ok.inj removed
        exact ⟨route, links, located, by simp [hnode], by simp [isDirectory, hnode], rfl⟩

end Files

/-! ## More directories -/

/-- A tree is another one with more directories. -/
def Grows (t t' : Tree) : Prop :=
  ∀ q, t'.node? q = t.node? q ∨ t.node? q = none ∧ t'.node? q = some .directory

section Grows

variable {t t' : Tree} {way : Way}

theorem Grows.refl (t : Tree) : Grows t t := fun _ => .inl rfl

theorem Grows.trans {t'' : Tree} (h : Grows t t') (h' : Grows t' t'') : Grows t t'' := by
  intro q
  rcases h' q with same | ⟨free, made⟩
  · rw [same]
    exact h q
  · rcases h q with same | ⟨-, made'⟩
    · exact .inr ⟨same ▸ free, made⟩
    · rw [free] at made'
      cases made'

/-- What was there stays there. -/
theorem Grows.node? (h : Grows t t') {q : Route} {node : Node} (there : t.node? q = some node) :
    t'.node? q = some node := by
  rcases h q with same | ⟨free, -⟩
  · rw [same, there]
  · rw [free] at there
    cases there

theorem Grows.keeps (h : Grows t t') (r : Route) : Keeps r t t' where
  directories q hq := isDirectory_iff.2 (h.node? (isDirectory_iff.1 hq))
  links q := by
    rcases h q with same | ⟨free, made⟩
    · exact link?_congr same
    · rw [link?, link?, free, made]
  files _ _ _ _ hq := h.node? hq

/-- A directory is made where nothing stands. -/
theorem makeDirectory_cases (made : t.makeDirectory way = .ok t') :
    ∃ place, t.walk false maxLinks [] way = .ok place ∧ t.node? place.route = none ∧
      t' = t.set place.route .directory := by
  rw [makeDirectory, Steps.bind_eq_ok_iff] at made
  obtain ⟨place, walked, made⟩ := made
  rw [Steps.check_eq_ok_iff] at made
  exact ⟨place, walked, by simpa using made.1, (Except.ok.inj made.2).symm⟩

theorem grows_set {r : Route} (free : t.node? r = none) : Grows t (t.set r .directory) := by
  intro q
  rw [node?_set t (ne_nil_of_node? (t := t) (by simp [free]))]
  by_cases hq : q = r
  · rw [if_pos hq, hq]
    exact .inr ⟨free, rfl⟩
  · rw [if_neg hq]
    exact .inl rfl

theorem makeMissing_cases (made : t.makeMissing way = .ok t') :
    t.makeDirectory way = .ok t' ∨ t' = t ∧ ∃ place, t.directoryAt? way = some place := by
  unfold makeMissing at made
  split at made
  · next done => exact .inl (done.trans made)
  · split at made
    · next there => exact .inr ⟨(Except.ok.inj made).symm, Option.isSome_iff_exists.1 there⟩
    · cases made

theorem grows_makeMissing (made : t.makeMissing way = .ok t') : Grows t t' := by
  rcases makeMissing_cases made with done | ⟨rfl, -⟩
  · obtain ⟨place, -, free, rfl⟩ := makeDirectory_cases done
    exact grows_set free
  · exact .refl t'

/-- What making a directory, if need be after another one, comes to. -/
theorem makeBehind_cases {before : Tree → Tree × Except Fault Unit}
    (done : (t.makeBehind way before).2 = .ok ()) :
    t.makeMissing way = .ok (t.makeBehind way before).1 ∨
      ∃ between, before t = (between, .ok ()) ∧ t.makeMissing way = .error .notFound ∧
        between.makeMissing way = .ok (t.makeBehind way before).1 := by
  unfold makeBehind at done ⊢
  split at done
  · next made => exact .inl made
  · next missing =>
    right
    split at done
    · cases done
    · next between before_done =>
      refine ⟨between, before_done, missing, ?_⟩
      split at done
      · next made => exact made
      · cases done
  · cases done

theorem grows_makeBehind {before : Tree → Tree × Except Fault Unit}
    (grows : Grows t (before t).1) : Grows t (t.makeBehind way before).1 := by
  unfold makeBehind
  split
  · next made => exact grows_makeMissing made
  · split
    · next between fault failed =>
      rw [failed] at grows
      exact grows
    · next between done =>
      rw [done] at grows
      split
      · next made => exact grows.trans (grows_makeMissing made)
      · exact grows
  · exact .refl t

/-- The directory of a part that leads anywhere is made, if need be after those in front of it. -/
theorem makeParts_cons {part : Part} (leads : part ≠ .here) (front : List Part) (t : Tree) :
    makeParts (part :: front) t =
      t.makeBehind ⟨(part :: front).reverse, false⟩ (makeParts front) := by
  cases part with
  | here => exact absurd rfl leads
  | up | name => rfl

theorem grows_makeParts (parts : List Part) (t : Tree) : Grows t (makeParts parts t).1 := by
  induction parts generalizing t with
  | nil => exact .refl t
  | cons part front ih =>
    by_cases leads : part = .here
    · rw [leads]
      exact ih t
    · rw [makeParts_cons leads]
      exact grows_makeBehind (ih t)

/-- Making directories makes directories only, also where it fails. -/
theorem grows_makeDirectories (t : Tree) (path : RawText) :
    Grows t (t.makeDirectories path).1 := by
  unfold makeDirectories
  split
  · exact .refl t
  · split
    · exact .refl t
    · exact grows_makeBehind (grows_makeParts _ t)

/-- Where a way leads to a directory, none is made. -/
theorem makeMissing_of_directoryAt? {place : Place} (there : t.directoryAt? way = some place) :
    t.makeMissing way = .ok t := by
  have occupied : ∀ t', t.makeDirectory way ≠ .ok t' := by
    intro t' made
    obtain ⟨other, walked, free, -⟩ := makeDirectory_cases made
    obtain ⟨walked', directory⟩ := directoryAt?_eq_some_iff.1 there
    have plain : t.link? other.route = none := by rw [link?, free]
    have same := (walk_true_of_walk_false walked plain).symm.trans walked'
    rw [Except.ok.inj same, isDirectory_iff.1 directory] at free
    cases free
  unfold makeMissing
  split
  · next made => exact absurd made (occupied _)
  · rw [there]
    rfl

/-- Where a path leads to a directory, none is made. -/
theorem makeDirectories_of_directoryAt? {path : RawText} {place : Place}
    (usable : path.bytes = [] ∨ IsUsable path) (there : t.directoryAt? path.way = some place) :
    t.makeDirectories path = (t, .ok ()) := by
  unfold makeDirectories
  by_cases empty : path.bytes = []
  · exact if_pos (List.isEmpty_iff.2 empty)
  rw [if_neg (by rwa [List.isEmpty_iff]), checkPath_eq_ok_iff.2 (usable.resolve_left empty)]
  dsimp only
  rw [makeBehind, makeMissing_of_directoryAt? there]

end Grows

/-! ## Rooted trees -/

/-- Everything in a tree stands in a directory. -/
def IsRooted (t : Tree) : Prop := ∀ entry ∈ t.nodes, t.isDirectory entry.1.dropLast = true

instance (t : Tree) : Decidable t.IsRooted :=
  inferInstanceAs (Decidable (∀ entry ∈ t.nodes, t.isDirectory entry.1.dropLast = true))

/-- What stands in a rooted tree stands in a directory. -/
theorem IsRooted.parent {t : Tree} (rooted : t.IsRooted) {r : Route} {name : RawText}
    (h : t.node? (r ++ [name]) ≠ none) : t.isDirectory r = true := by
  obtain ⟨node, hnode⟩ := Option.ne_none_iff_exists'.1 h
  rw [Tree.node?, if_neg (by simp), List.lookup_eq_some_iff] at hnode
  obtain ⟨before, after, hnodes, -⟩ := hnode
  have hparent := rooted (r ++ [name], node) (by simp [hnodes])
  rwa [List.dropLast_concat] at hparent

/-- Nothing stands where no directory is. -/
theorem IsRooted.free {t : Tree} (rooted : t.IsRooted) {r : Route} (h : t.node? r = none)
    (name : RawText) : t.node? (r ++ [name]) = none := by
  by_contra there
  have hparent := isDirectory_iff.1 (rooted.parent there)
  rw [h] at hparent
  cases hparent

/-! ## New directories -/

/-- A way leads to a directory that was not there before. -/
def Fresh (t t' : Tree) (way : Way) : Prop :=
  ∃ place, t'.directoryAt? way = some place ∧ t.node? place.route = none

section Fresh

variable {t t' : Tree} {way : Way} {front back : List Part}

theorem Fresh.trans {t'' : Tree} (fresh : Fresh t t' way) (grows : Grows t' t'') :
    Fresh t t'' way := by
  obtain ⟨place, there, new⟩ := fresh
  exact ⟨place, (grows.keeps []).directoryAt? there, new⟩

/-- One dot more leads to the same directory. -/
theorem Fresh.here (fresh : Fresh t t' ⟨front, false⟩) : Fresh t t' ⟨front ++ [.here], false⟩ := by
  obtain ⟨place, there, new⟩ := fresh
  have directory := (directoryAt?_eq_some_iff.1 there).2
  refine ⟨⟨place.route, false, place.links⟩, directoryAt?_eq_some_iff.2 ⟨?_, directory⟩, new⟩
  rw [walk_append_of_directoryAt? there (List.cons_ne_nil _ _) false]
  exact walk_of_ends (leg_here directory) false

/-- What stands behind a new directory is new. -/
theorem node?_behind_new (rooted : t.IsRooted) (grows : Grows t t') (level : .up ∉ back)
    {a b : Bool} {d place : Place} (hd : t'.directoryAt? ⟨front, a⟩ = some d)
    (new : t.node? d.route = none) (there : t'.directoryAt? ⟨front ++ back, b⟩ = some place) :
    t.node? place.route = none := by
  induction back using List.reverseRecOn generalizing b place with
  | nil =>
    obtain ⟨c, same⟩ := directoryAt?_asDirectory hd b
    rw [List.append_nil, same, Option.some.injEq] at there
    rwa [← there]
  | append_singleton back part ih =>
    rw [List.mem_append, List.mem_singleton, not_or] at level
    rw [← List.append_assoc] at there
    obtain ⟨walked, directory⟩ := directoryAt?_eq_some_iff.1 there
    obtain ⟨e, he, walked⟩ := exists_directoryAt?_of_walk_append walked a
    have new := ih level.1 he
    have he := (directoryAt?_eq_some_iff.1 he).2
    cases part with
    | up => exact absurd rfl level.2
    | here =>
      rw [walk_of_ends ((leg_here he).trans rfl), Except.ok.injEq] at walked
      rw [← walked]
      exact new
    | name name =>
      have below := rooted.free new name
      -- a link would have been there before
      have plain : t'.link? (e.route ++ [name]) = none := by
        rw [(grows.keeps []).links, link?, below]
      obtain ⟨-, rfl⟩ := (walk_name_eq_ok_iff he (.inr plain) b).1 walked
      exact below

/-- A directory that is made is new. -/
theorem fresh_makeDirectory (made : t.makeDirectory way = .ok t') : Fresh t t' way := by
  obtain ⟨place, walked, free, rfl⟩ := makeDirectory_cases made
  have keeps := (grows_set free).keeps []
  have directory : (t.set place.route .directory).node? place.route = some .directory := by
    rw [node?_set t (ne_nil_of_node? (t := t) (by simp [free])), if_pos rfl]
  have plain : (t.set place.route .directory).link? place.route = none := by
    rw [link?, directory]
  refine ⟨place, directoryAt?_eq_some_iff.2 ⟨?_, isDirectory_iff.2 directory⟩, free⟩
  exact walk_true_of_walk_false (keeps.walk walked) plain

/-- A way leads to its directory once that is made. -/
theorem exists_directoryAt?_of_makeMissing (made : t.makeMissing way = .ok t') :
    ∃ place, t'.directoryAt? way = some place := by
  rcases makeMissing_cases made with done | ⟨rfl, there⟩
  · obtain ⟨place, there, -⟩ := fresh_makeDirectory done
    exact ⟨place, there⟩
  · exact there

/-- A directory that is made after those in front of it is new, unless they were all there. -/
theorem fresh_makeBehind {before : Tree → Tree × Except Fault Unit} {last : Bool}
    (rooted : t.IsRooted) (level : .up ∉ back)
    (grows : ∀ t, Grows t (before t).1)
    (fresh : ∀ between, before t = (between, .ok ()) → between = t ∨ Fresh t between ⟨front, false⟩)
    (done : (t.makeBehind ⟨front ++ back, last⟩ before).2 = .ok ()) :
    (t.makeBehind ⟨front ++ back, last⟩ before).1 = t ∨
      Fresh t (t.makeBehind ⟨front ++ back, last⟩ before).1 ⟨front ++ back, last⟩ := by
  rcases makeBehind_cases done with made | ⟨between, hbefore, missing, made⟩
  · rcases makeMissing_cases made with done | ⟨same, -⟩
    · exact .inr (fresh_makeDirectory done)
    · exact .inl same
  · have growsBefore := grows t
    rw [hbefore] at growsBefore
    have growsAll := growsBefore.trans (grows_makeMissing made)
    rcases fresh between hbefore with rfl | new
    · rw [missing] at made
      cases made
    · right
      obtain ⟨d, hd, new⟩ := new.trans (grows_makeMissing made)
      obtain ⟨place, there⟩ := exists_directoryAt?_of_makeMissing made
      exact ⟨place, there, node?_behind_new rooted growsAll level hd new there⟩

theorem fresh_makeParts (rooted : t.IsRooted) {parts : List Part} (level : .up ∉ parts)
    (done : makeParts parts t = (t', .ok ())) : t' = t ∨ Fresh t t' ⟨parts.reverse, false⟩ := by
  induction parts generalizing t' with
  | nil => exact .inl (congrArg Prod.fst done).symm
  | cons part front ih =>
    rw [List.mem_cons, not_or] at level
    by_cases leads : part = .here
    · subst leads
      rw [List.reverse_cons]
      exact (ih level.2 done).imp_right Fresh.here
    · rw [makeParts_cons leads, List.reverse_cons] at done
      have last : .up ∉ [part] := by simpa using level.1
      have made := fresh_makeBehind rooted last (grows_makeParts front) (fun _ => ih level.2)
        (congrArg Prod.snd done)
      rw [done, ← List.reverse_cons] at made
      exact made

/-- The parts above the last one stand in front. -/
theorem parts_eq_append (path : RawText) :
    ∃ last, path.parts = (partsAbove path).reverse ++ last := by
  have front : partsAbove path <:+ path.parts.reverse :=
    (List.tail_suffix _).trans (List.dropWhile_suffix _)
  obtain ⟨last, hlast⟩ := front
  exact ⟨last.reverse, by rw [← List.reverse_append, hlast, List.reverse_reverse]⟩

/-- Where the directories of a path were made and the path does not go up, it leads to a directory
that was not there before, unless none was missing. -/
theorem fresh_makeDirectories {path : RawText} (rooted : t.IsRooted) (level : .up ∉ path.parts)
    (done : t.makeDirectories path = (t', .ok ())) : t' = t ∨ Fresh t t' path.way := by
  unfold makeDirectories at done
  split at done
  · exact .inl (congrArg Prod.fst done).symm
  · split at done
    · cases congrArg Prod.snd done
    · obtain ⟨last, hlast⟩ := parts_eq_append path
      have hway : path.way = ⟨(partsAbove path).reverse ++ last, path.endsInSlash⟩ := by
        rw [RawText.way, ← hlast]
      rw [hlast, List.mem_append, not_or, List.mem_reverse] at level
      rw [hway] at done ⊢
      have made := fresh_makeBehind rooted level.2 (grows_makeParts _)
        (fun _ => fresh_makeParts rooted level.1) (congrArg Prod.snd done)
      rw [done] at made
      exact made

end Fresh

end Reachability.File.Tree

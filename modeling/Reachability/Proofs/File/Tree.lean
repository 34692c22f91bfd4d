/-
# Changes of file trees

What the changes of a file tree come to, told by the nodes at the ends of routes.  A change of one
file leaves all directories and links where they are, and so all ways; and it is seen at the end of
its route only.

Main definitions:

* `Tree.KeepsWays` : all directories of a tree are there in another one, and the links are the same;
* `Tree.Keeps` : the same, and all files but perhaps one.

Main results:

* `node?_set`, `node?_erase` : the nodes after a change;
* `keeps_of_change`, `keeps_writeAt` : the changes of a file;
* `node?_writeAt` : what is written comes behind what was written.
-/
import Reachability.File.Tree
import Reachability.Proofs.Steps

namespace Reachability.File.Tree

/-! ## Nodes -/

section Lookup

variable {α β : Type} [BEq α] [LawfulBEq α] [DecidableEq α]

theorem lookup_cons_eq_ite (key : α) (value : β) (nodes : List (α × β)) (a : α) :
    ((key, value) :: nodes).lookup a = if a = key then some value else nodes.lookup a := by
  rw [List.lookup_cons]
  by_cases h : a = key
  · simp [h]
  · rw [if_neg h, beq_false_of_ne h]

theorem lookup_filter_ne (nodes : List (α × β)) (a b : α) :
    (nodes.filter (·.1 ≠ a)).lookup b = if b = a then none else nodes.lookup b := by
  induction nodes with
  | nil => simp
  | cons entry nodes ih =>
    obtain ⟨key, value⟩ := entry
    by_cases hkey : key = a
    · rw [List.filter_cons_of_neg (by simp [hkey]), ih, lookup_cons_eq_ite, hkey]
      by_cases hb : b = a <;> simp [hb]
    · rw [List.filter_cons_of_pos (by simp [hkey]), lookup_cons_eq_ite, lookup_cons_eq_ite, ih]
      by_cases hb : b = key
      · simp [hb, hkey]
      · simp [hb]

end Lookup

theorem node?_set (t : Tree) {r : Route} (hr : r ≠ []) (node : Node) (q : Route) :
    (t.set r node).node? q = if q = r then some node else t.node? q := by
  unfold node? set
  by_cases hq : q = []
  · simp [hq, Ne.symm hr]
  · rw [if_neg hq, if_neg hq]
    dsimp only
    rw [lookup_cons_eq_ite, lookup_filter_ne]
    by_cases hqr : q = r <;> simp [hqr]

theorem node?_erase (t : Tree) {r : Route} (hr : r ≠ []) (q : Route) :
    (t.erase r).node? q = if q = r then none else t.node? q := by
  unfold node? erase
  by_cases hq : q = []
  · simp [hq, Ne.symm hr]
  · rw [if_neg hq, if_neg hq]
    exact lookup_filter_ne t.nodes r q

theorem isDirectory_iff {t : Tree} {r : Route} :
    t.isDirectory r = true ↔ t.node? r = some .directory := by
  rw [isDirectory, beq_iff_eq]

theorem link?_eq_some_iff {t : Tree} {r : Route} {target : RawText} :
    t.link? r = some target ↔ t.node? r = some (.link target) := by
  unfold link?
  split
  · next other h => simp [h]
  · next h =>
    constructor
    · intro none_there
      cases none_there
    · exact fun there => absurd there (h target)

/-- The root is a directory, so another node is not there. -/
theorem ne_nil_of_node? {t : Tree} {r : Route} (h : t.node? r ≠ some .directory) : r ≠ [] := by
  rintro rfl
  exact h rfl

theorem isDirectory_congr {t t' : Tree} {q : Route} (h : t'.node? q = t.node? q) :
    t'.isDirectory q = t.isDirectory q := by
  rw [isDirectory, isDirectory, h]

theorem link?_congr {t t' : Tree} {q : Route} (h : t'.node? q = t.node? q) :
    t'.link? q = t.link? q := by
  rw [link?, link?, h]

/-! ## What stays -/

/-- Every way in a tree is one in another tree: the directories are there, and the links are the
same. -/
structure KeepsWays (t t' : Tree) : Prop where
  directories : ∀ q, t.isDirectory q = true → t'.isDirectory q = true
  links : ∀ q, t'.link? q = t.link? q

/-- A tree has the ways of another one and all its files, but the file at the end of a route may
differ. -/
structure Keeps (r : Route) (t t' : Tree) : Prop extends KeepsWays t t' where
  files : ∀ q serial content, q ≠ r → t.node? q = some (.file serial content) →
    t'.node? q = some (.file serial content)

theorem KeepsWays.refl (t : Tree) : KeepsWays t t := ⟨fun _ h => h, fun _ => rfl⟩

theorem KeepsWays.trans {t t' t'' : Tree} (h : KeepsWays t t') (h' : KeepsWays t' t'') :
    KeepsWays t t'' :=
  ⟨fun q hq => h'.directories q (h.directories q hq), fun q => (h'.links q).trans (h.links q)⟩

theorem Keeps.refl (r : Route) (t : Tree) : Keeps r t t := ⟨.refl t, fun _ _ _ _ h => h⟩

theorem Keeps.trans {r : Route} {t t' t'' : Tree} (h : Keeps r t t') (h' : Keeps r t' t'') :
    Keeps r t t'' :=
  ⟨h.toKeepsWays.trans h'.toKeepsWays,
    fun q serial content hne hq => h'.files q serial content hne (h.files q serial content hne hq)⟩

/-- A change at the end of one route, where there was no directory or link and comes no link. -/
theorem keeps_of_change {r : Route} {t t' : Tree} {node : Option Node}
    (noDirectory : t.isDirectory r = false) (noLink : t.link? r = none)
    (change : ∀ q, t'.node? q = if q = r then node else t.node? q)
    (plain : ∀ target, node ≠ some (.link target)) : Keeps r t t' where
  directories q hq := by
    rw [isDirectory_congr (t := t), hq]
    rw [change, if_neg]
    rintro rfl
    rw [noDirectory] at hq
    cases hq
  links q := by
    by_cases hqr : q = r
    · rw [hqr, noLink, Option.eq_none_iff_forall_ne_some]
      intro target there
      rw [link?_eq_some_iff, change, if_pos rfl] at there
      exact plain target there
    · exact link?_congr (by rw [change, if_neg hqr])
  files q serial content hqr hq := by rw [change, if_neg hqr, hq]

/-! ## Writing -/

/-- Bytes that are written at the end of a content come behind it. -/
theorem overwrite_length (content bytes : List UInt8) :
    overwrite content content.length bytes = content ++ bytes := by
  simp [overwrite]

/-- A file to which all was written from its start is written on at its end. -/
theorem node?_writeAt {t : Tree} {h : Handle} {content : List UInt8}
    (there : t.node? h.route = some (.file h.serial content)) (atEnd : h.position = content.length)
    (bytes : List UInt8) (q : Route) :
    (t.writeAt h bytes).1.node? q =
      if q = h.route then some (.file h.serial (content ++ bytes)) else t.node? q := by
  have hnil : h.route ≠ [] := ne_nil_of_node? (t := t) (by simp [there])
  simp only [writeAt, there, if_true, atEnd, overwrite_length]
  exact node?_set t hnil _ q

/-- A file is neither a directory nor a link. -/
theorem plain_of_file {t : Tree} {r : Route} {serial : Nat} {content : List UInt8}
    (there : t.node? r = some (.file serial content)) :
    t.isDirectory r = false ∧ t.link? r = none := by
  constructor
  · rw [isDirectory, there]
    rfl
  · rw [link?, there]

/-- Writing leaves all as it was but the file that is written to. -/
theorem keeps_writeAt (t : Tree) (h : Handle) (bytes : List UInt8) :
    Keeps h.route t (t.writeAt h bytes).1 := by
  unfold writeAt
  split
  · next serial content there =>
    split
    · have hnil : h.route ≠ [] := ne_nil_of_node? (t := t) (by simp [there])
      obtain ⟨noDirectory, noLink⟩ := plain_of_file there
      exact keeps_of_change noDirectory noLink (node?_set t hnil _) (by simp)
    · exact Keeps.refl _ _
  · exact Keeps.refl _ _

/-- Writing changes how far a file is written, and nothing else of the handle. -/
theorem writeAt_snd (t : Tree) (h : Handle) (bytes : List UInt8) :
    (t.writeAt h bytes).2 = { h with position := h.position + bytes.length } := by
  unfold writeAt
  split
  · split <;> rfl
  · rfl

end Reachability.File.Tree

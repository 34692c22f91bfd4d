/-
# Free names

A name that is in use gets the least number that makes it free.  The numbers stand in front of the
extension, so that the names that are tried are all different: a directory with no more entries
than there are numbers has room for one more.

A look at a name may fail although something has it, where its path is too long; such a name counts
as free.  A look also follows links: a name under which a link stands that leads nowhere counts as
free too.

Main definitions:

* `Directory.entries` : the names of what stands in a directory;
* `Directory.Answers` : a look at a name comes upon something or finds nothing;
* `Directory.IsFirstFree` : a name, or the name with the least number that makes it free.

Main results:

* `numbered_inj`, `nodup_variants` : the names that are tried are all different;
* `mem_entries_of_isTaken`, `not_mem_entries_of_answers` : what a look at a name tells of the
  entries;
* `chosen_name_first_free` : which name is chosen, and when there is none;
* `chosen_name_of_entry` : when the name of an entry is chosen.
-/
import Mathlib.Data.List.Dedup
import Reachability.Proofs.File.Content
import Reachability.Proofs.Number.Digits

namespace Reachability.File

/-! ## Numbers in names -/

/-- Different numbers make different names. -/
theorem numbered_inj {name : String} {m n : Nat} : numbered name m = numbered name n ↔ m = n := by
  constructor
  · intro same
    obtain ⟨stem, rest, -, hnumbered⟩ := exists_splits name
    have hlists : (numbered name m).toList = (numbered name n).toList := by rw [same]
    rw [hnumbered, hnumbered] at hlists
    have hmarked := List.append_cancel_left (List.append_cancel_right hlists)
    have hdigits : Decimal.digits m = Decimal.digits n := (List.cons.inj hmarked).2
    rw [← Decimal.value_digits m, hdigits, Decimal.value_digits]
  · rintro rfl
    rfl

/-- A number makes a name longer. -/
theorem numbered_ne (name : String) (n : Nat) : numbered name n ≠ name := by
  intro same
  obtain ⟨stem, rest, hsplit, hnumbered⟩ := exists_splits name
  have hlength := congrArg List.length (hnumbered n)
  rw [same, hsplit.eq_append] at hlength
  simp only [List.length_append, List.length_cons] at hlength
  omega

namespace Directory

theorem length_variants (name : String) : (variants name).length = maxNumber + 1 := by
  rw [variants, List.length_map, List.length_range]

/-- Different numbers of tries lead to different names. -/
theorem variant_inj {name : String} {m n : Nat} : variant name m = variant name n ↔ m = n := by
  refine ⟨fun same => ?_, fun same => same ▸ rfl⟩
  unfold variant at same
  by_cases hm : m = 0 <;> by_cases hn : n = 0
  · rw [hm, hn]
  · rw [if_pos hm, if_neg hn] at same
    exact absurd same.symm (numbered_ne name n)
  · rw [if_neg hm, if_pos hn] at same
    exact absurd same (numbered_ne name m)
  · rw [if_neg hm, if_neg hn] at same
    exact numbered_inj.1 same

/-- The names that are tried are all different. -/
theorem nodup_variants (name : String) : (variants name).Nodup :=
  List.nodup_range.map fun _ _ => variant_inj.1

end Directory

/-! ## Entries -/

namespace Tree

/-- What a node tells about a directory: its name, if it stands there. -/
theorem child?_eq_some_iff {route r : Route} {node : Node} {child : RawText × Node} :
    (match r.getLast? with
      | some name => if r.dropLast = route then some (name, node) else none
      | none => none) = some child ↔ r = route ++ [child.1] ∧ node = child.2 := by
  obtain ⟨name, found⟩ := child
  cases r using List.reverseRecOn with
  | nil => simp
  | append_singleton r last =>
    rw [List.getLast?_concat, List.dropLast_concat]
    by_cases same : r = route <;> simp [same]

/-- The names in a directory are those under which something stands. -/
theorem mem_children_iff {t : Tree} {route : Route} {name : RawText} :
    name ∈ (t.children route).map Prod.fst ↔ t.node? (route ++ [name]) ≠ none := by
  have hstanding : t.node? (route ++ [name]) ≠ none ↔
      ∃ entry ∈ t.nodes, entry.1 = route ++ [name] := by
    rw [node?, if_neg (by simp), ne_eq, List.lookup_eq_none_iff]
    simp only [not_forall, exists_prop, bne_iff_ne, ne_eq, not_not, eq_comm (a := route ++ [name])]
  rw [hstanding, children, List.mem_map]
  constructor
  · rintro ⟨child, hchild, rfl⟩
    obtain ⟨entry, hentry, hfound⟩ := List.mem_filterMap.1 hchild
    exact ⟨entry, hentry, (child?_eq_some_iff.1 hfound).1⟩
  · rintro ⟨⟨r, node⟩, hentry, hroute⟩
    exact ⟨(name, node),
      List.mem_filterMap.2 ⟨_, hentry, child?_eq_some_iff.2 ⟨hroute, rfl⟩⟩, rfl⟩

end Tree

namespace Directory

/-- The names of what stands in the directory, each once. -/
def entries (d : Directory) (t : Tree) : List RawText :=
  match d.route? t with
  | some route => ((t.children route).map Prod.fst).dedup
  | none => []

variable {d : Directory} {t : Tree} {name : String}

/-- An entry has a name if something stands under it in the directory. -/
theorem mem_entries_iff :
    RawText.ofText name ∈ d.entries t ↔ ∃ r, d.routeOf? t name = some r ∧ t.node? r ≠ none := by
  unfold entries routeOf?
  cases d.route? t with
  | none => simp
  | some route => simp [Tree.mem_children_iff]

/-! ## Looks -/

/-- A look at a name comes upon something or finds nothing. -/
def Answers (d : Directory) (t : Tree) (name : String) : Prop :=
  ∀ fault, t.find (d.pathOf name) = .error fault → fault = .notFound

/-- Something that is in the directory is not overlooked, unless it is a link. -/
theorem find_ne_notFound (safe : IsSafe name) (plain : d.link? t name = none)
    (hentry : RawText.ofText name ∈ d.entries t) : t.find (d.pathOf name) ≠ .error .notFound := by
  obtain ⟨r, entry, standing⟩ := mem_entries_iff.1 hentry
  intro hfind
  rw [Tree.find, Steps.bind_eq_error_iff] at hfind
  rcases hfind with hlocate | ⟨place, hlocate, hlook⟩
  · obtain ⟨route, hroute, rfl⟩ := routeOf?_eq_some_iff.1 entry
    obtain ⟨p, hp, rfl⟩ := route?_eq_some_iff.1 hroute
    have there := (Tree.directoryAt?_eq_some_iff.1 hp).2
    have noLink : t.link? (p.route ++ [RawText.ofText name]) = none := by
      rw [← link?_of_routeOf? entry, plain]
    rcases Tree.missing_of_locate hlocate with empty | walked
    · have parts := (isChild_of_isSafe d safe).parts
      rw [RawText.parts, empty] at parts
      exact absurd parts.symm (List.append_ne_nil_of_right_ne_nil _ (by simp))
    · rw [way_pathOf d safe, Tree.walk_append_of_directoryAt? hp (List.cons_ne_nil _ _),
        Tree.walk_name there (.inr noLink)] at walked
      split at walked <;> cases walked
  · have leads := ((isChild_of_isSafe d safe).followed t place hlocate).resolve_right
      (not_not.2 plain)
    obtain rfl := Option.some.inj (entry.symm.trans leads)
    obtain ⟨node, hnode⟩ := Option.ne_none_iff_exists'.1 standing
    rw [hnode] at hlook
    cases node with
    | directory => cases hlook
    | file | link =>
      dsimp only at hlook
      split at hlook <;> cases hlook

/-- A name that is in use is that of an entry. -/
theorem mem_entries_of_isTaken (safe : IsSafe name) (taken : d.isTaken t name = true) :
    RawText.ofText name ∈ d.entries t := by
  rw [isTaken, Tree.holds] at taken
  split at taken
  · next node hfind =>
    rw [Tree.find, Steps.bind_eq_ok_iff] at hfind
    obtain ⟨place, hlocate, hlook⟩ := hfind
    rcases (isChild_of_isSafe d safe).followed t place hlocate with entry | link
    · refine mem_entries_iff.2 ⟨place.route, entry, fun hnone => ?_⟩
      rw [hnone] at hlook
      cases hlook
    · -- a link is an entry too
      obtain ⟨target, htarget⟩ := Option.ne_none_iff_exists'.1 link
      obtain ⟨r, entry, hlink⟩ := Option.bind_eq_some_iff.1 htarget
      exact mem_entries_iff.2 ⟨r, entry, by rw [Tree.link?_eq_some_iff.1 hlink]; simp⟩
  · cases taken

/-- A name of which a look tells that it is free is that of no entry but a link. -/
theorem not_mem_entries_of_answers (safe : IsSafe name) (free : d.isTaken t name = false)
    (answers : d.Answers t name) (plain : d.link? t name = none) :
    RawText.ofText name ∉ d.entries t := by
  rw [isTaken, Tree.holds] at free
  split at free
  · cases free
  · next fault hfind =>
    obtain rfl := answers fault hfind
    exact fun hentry => find_ne_notFound safe plain hentry hfind

/-! ## The first free name -/

/-- The first name that is none of the others: the name itself, or the name with the least number
that makes it free. -/
inductive IsFirstFree (others : List RawText) (name : String) : String → Prop
  | bare (free : RawText.ofText name ∉ others) : IsFirstFree others name name
  | withNumber {n : Nat} (busy : RawText.ofText name ∈ others) (low : 1 ≤ n) (high : n ≤ 1000)
      (free : RawText.ofText (numbered name n) ∉ others)
      (least : ∀ m, 1 ≤ m → m < n → RawText.ofText (numbered name m) ∈ others) :
      IsFirstFree others name (numbered name n)

section Search

variable {others : List RawText}

/-- The first free name comes after so many others that are in use. -/
theorem isFirstFree_iff {chosen : String} : IsFirstFree others name chosen ↔
    ∃ n, (RawText.ofText (variant name n) ∉ others ∧ n ≤ maxNumber ∧
      ∀ m, m < n → RawText.ofText (variant name m) ∈ others) ∧ variant name n = chosen := by
  constructor
  · intro first
    cases first with
    | bare free =>
      exact ⟨0, ⟨free, Nat.zero_le _, fun m below => absurd below (Nat.not_lt_zero m)⟩, rfl⟩
    | @withNumber n busy low high free least =>
      have hn : variant name n = numbered name n := if_neg (Nat.ne_of_gt low)
      refine ⟨n, ⟨by rwa [hn], high, fun m below => ?_⟩, hn⟩
      unfold variant
      split
      · exact busy
      · next hm => exact least m (Nat.pos_of_ne_zero hm) below
  · rintro ⟨n, ⟨free, high, least⟩, rfl⟩
    by_cases hn : n = 0
    · subst hn
      exact .bare free
    · have numbers (m : Nat) (hm : m ≠ 0) : variant name m = numbered name m := if_neg hm
      rw [numbers n hn] at free ⊢
      refine .withNumber (least 0 (Nat.pos_of_ne_zero hn)) (Nat.pos_of_ne_zero hn) high free ?_
      intro m low below
      rw [← numbers m (Nat.ne_of_gt low)]
      exact least m below

/-- Among the names that are tried, the first free one is found. -/
theorem find?_variants_eq_some_iff {chosen : String} :
    (variants name).find? (fun tried => decide (RawText.ofText tried ∉ others)) = some chosen ↔
      IsFirstFree others name chosen := by
  rw [isFirstFree_iff, variants, List.find?_map, Option.map_eq_some_iff]
  simp only [List.find?_range_eq_some, List.mem_range, Function.comp_apply, Nat.lt_succ_iff,
    Bool.not_eq_true', decide_eq_true_eq, decide_eq_false_iff_not, not_not]

/-- None is found if all of them are in use. -/
theorem find?_variants_eq_none_iff :
    (variants name).find? (fun tried => decide (RawText.ofText tried ∉ others)) = none ↔
      RawText.ofText name ∈ others ∧
        ∀ n, 1 ≤ n → n ≤ 1000 → RawText.ofText (numbered name n) ∈ others := by
  simp only [List.find?_eq_none, variants, List.forall_mem_map, List.mem_range, Nat.lt_succ_iff,
    decide_eq_true_eq, not_not]
  constructor
  · intro all
    refine ⟨all 0 (Nat.zero_le _), fun n low high => ?_⟩
    have hn := all n high
    rwa [variant, if_neg (Nat.ne_of_gt low)] at hn
  · rintro ⟨bare, all⟩ n high
    unfold variant
    split
    · exact bare
    · next hn => exact all n (Nat.pos_of_ne_zero hn) high

/-- More names are tried than a list of so many can hold. -/
theorem find?_variants_ne_none (few : others.length ≤ 1000) :
    (variants name).find? (fun tried => decide (RawText.ofText tried ∉ others)) ≠ none := by
  intro hnone
  have hall : (variants name).map RawText.ofText ⊆ others := by
    intro tried htried
    obtain ⟨text, htext, rfl⟩ := List.mem_map.1 htried
    simpa using List.find?_eq_none.1 hnone text htext
  have different : ((variants name).map RawText.ofText).Nodup :=
    (nodup_variants name).map fun _ _ => RawText.ofText_inj.1
  have hlength := different.length_le_of_subset hall
  rw [List.length_map, length_variants, maxNumber] at hlength
  omega

end Search

/-- A search finds the same with a stricter test, if what it finds passes that too. -/
theorem find?_eq_of_imp {α : Type} {p q : α → Bool} {names : List α}
    (stricter : ∀ tried ∈ names, q tried = true → p tried = true)
    (passes : ∀ found, names.find? p = some found → q found = true) :
    names.find? p = names.find? q := by
  induction names with
  | nil => rfl
  | cons tried names ih =>
    rw [List.forall_mem_cons] at stricter
    rw [List.find?_cons, List.find?_cons]
    cases hp : p tried with
    | true =>
      rw [List.find?_cons, hp] at passes
      rw [passes tried rfl]
    | false =>
      rw [List.find?_cons, hp] at passes
      cases hq : q tried with
      | true => exact absurd (stricter.1 hq) (by simp [hp])
      | false => exact ih stricter.2 passes

/-- What is chosen is the first name that no entry has, if a look at it answers and it is no
link's. -/
theorem freeName?_eq {u : Url} {disposition contentType : Option String}
    (answered : ∀ chosen, d.freeName? t u disposition contentType = some chosen →
      d.Answers t chosen ∧ d.link? t chosen = none) :
    d.freeName? t u disposition contentType =
      (variants (candidate u disposition contentType)).find?
        fun tried => decide (RawText.ofText tried ∉ d.entries t) := by
  refine find?_eq_of_imp (fun tried htried hfree => ?_) fun chosen hchosen => ?_
  · have safe : IsSafe tried :=
      isSafe_of_mem_variants (isSafe_candidate u disposition contentType) htried
    rw [Bool.not_eq_true', Bool.eq_false_iff]
    intro taken
    exact of_decide_eq_true hfree (mem_entries_of_isTaken safe taken)
  · obtain ⟨answers, plain⟩ := answered chosen hchosen
    exact decide_eq_true (not_mem_entries_of_answers (isSafe_of_freeName? hchosen)
      (isTaken_of_freeName? hchosen) answers plain)

/-- **The first free name.**  Whatever stands in the directory, if a look at the name that is chosen
answers and no link stands under it: it is the name for the answer if no entry has it, else that
name with the least number from 1 to 1000 for which no entry has it; and none is chosen exactly if
entries have all of these.  The number stands behind an underscore and in front of the extension,
the names that are tried are all different, and so a name is chosen if the directory has at most
1000 entries. -/
theorem chosen_name_first_free (d : Directory) (t : Tree) (u : Url)
    (disposition contentType : Option String)
    (answered : ∀ chosen, d.freeName? t u disposition contentType = some chosen →
      d.Answers t chosen ∧ d.link? t chosen = none) :
    let name := candidate u disposition contentType
    (∀ chosen, d.freeName? t u disposition contentType = some chosen ↔
      IsFirstFree (d.entries t) name chosen) ∧
    (d.freeName? t u disposition contentType = none ↔ RawText.ofText name ∈ d.entries t ∧
      ∀ n, 1 ≤ n → n ≤ 1000 → RawText.ofText (numbered name n) ∈ d.entries t) ∧
    (∃ stem rest, Splits name.toList stem rest ∧
      ∀ n, (numbered name n).toList = stem ++ '_' :: Decimal.digits n ++ rest) ∧
    ((variants name).length = 1001 ∧ (variants name).Nodup) ∧
    ((d.entries t).length ≤ 1000 → d.freeName? t u disposition contentType ≠ none) := by
  intro name
  rw [freeName?_eq answered]
  exact ⟨fun _ => find?_variants_eq_some_iff, find?_variants_eq_none_iff, exists_splits name,
    ⟨length_variants name, nodup_variants name⟩, find?_variants_ne_none⟩

/-- Two files of the name are there already. -/
theorem chosen_name_behind_two :
    let header := some "attachment; filename=\"blob.bin\""
    let t : Tree := { nodes := [(["files", "blob_1.bin"], .file 1 []),
      (["files", "blob.bin"], .file 0 []), (["files"], .directory)] }
    let d : Directory := ⟨"files"⟩
    (∀ chosen, d.freeName? t { scheme := "http" } header none = some chosen →
      d.Answers t chosen ∧ d.link? t chosen = none) ∧
      candidate { scheme := "http" } header none = "blob.bin" ∧
      d.entries t = (["blob_1.bin", "blob.bin"] : List RawText) ∧
      d.freeName? t { scheme := "http" } header none = some "blob_2.bin" ∧
      IsFirstFree ["blob_1.bin", "blob.bin"] "blob.bin" "blob_2.bin" := by
  intro header t d
  have hname : candidate { scheme := "http" } header none = "blob.bin" := by decide +kernel
  have hentries : d.entries t = (["blob_1.bin", "blob.bin"] : List RawText) := by decide +kernel
  have hchosen : d.freeName? t { scheme := "http" } header none = some "blob_2.bin" := by
    decide +kernel
  have hlook : t.find (d.pathOf "blob_2.bin") = .error .notFound := by decide +kernel
  have plain : d.link? t "blob_2.bin" = none := by decide +kernel
  have answered : ∀ chosen, d.freeName? t { scheme := "http" } header none = some chosen →
      d.Answers t chosen ∧ d.link? t chosen = none := by
    intro chosen hsome
    obtain rfl := Option.some.inj (hchosen.symm.trans hsome)
    exact ⟨fun fault hfind => (Except.error.inj (hlook.symm.trans hfind)).symm, plain⟩
  have h := chosen_name_first_free d t { scheme := "http" } header none answered
  refine ⟨answered, hname, hentries, hchosen, ?_⟩
  rw [← hentries, ← hname]
  exact (h.1 _).1 hchosen

/-- The name of an entry is chosen: that of a link to nowhere, behind which a look finds nothing,
and one in a directory whose path goes up through one that is still to be made. -/
theorem chosen_name_of_entry :
    let u : Url := { scheme := "http", path := .segments ["a.bin"] }
    let linked : Tree :=
      { nodes := [(["files", "a.bin"], .link "nowhere"), (["files"], .directory)] }
    let stored : Tree := { nodes := [(["files", "a.bin"], .file 0 []), (["files"], .directory)] }
    let d : Directory := ⟨"files"⟩
    let around : Directory := ⟨"new/../files"⟩
    (d.freeName? linked u none none = some "a.bin" ∧
      linked.find (d.pathOf "a.bin") = .error .notFound ∧
      d.entries linked = (["a.bin"] : List RawText) ∧
      ¬IsFirstFree (d.entries linked) "a.bin" "a.bin") ∧
    around.freeName? stored u none none = some "a.bin" ∧
      stored.find (around.pathOf "a.bin") = .error .notFound ∧
      around.entries (stored.makeDirectories around.path).1 = (["a.bin"] : List RawText) := by
  intro u linked stored d around
  have hentries : d.entries linked = (["a.bin"] : List RawText) := by decide +kernel
  refine ⟨⟨by decide +kernel, by decide +kernel, hentries, fun first => ?_⟩,
    by decide +kernel, by decide +kernel, by decide +kernel⟩
  rw [hentries, isFirstFree_iff] at first
  obtain ⟨n, ⟨free, -⟩, same⟩ := first
  rw [same] at free
  exact free (List.mem_singleton_self _)

end Directory
end Reachability.File

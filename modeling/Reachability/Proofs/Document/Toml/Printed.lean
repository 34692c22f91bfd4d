/-
# Printed TOML

A table that is printed section by section reads back with the values of each table in front of
the tables in it.

Main definitions:

* `Toml.IsExact` : the documents that TOML tells exactly;
* `Toml.RunsAll` : pieces of a text that are read one after the other;
* `Toml.IsWide` : the documents with an integer that is too large.

Main results:

* `runs_intercalate` : so is the text that has an empty line between the pieces;
* `exists_sections?` : the sections of a table are read to the table;
* `exists_print?` : **printed documents read back**;
* `print?_of_isWide` : a document with an integer that is too large is not printed.
-/
import Reachability.Proofs.Document.Toml.Line

namespace Reachability.Toml

/-! ## Exact documents -/

/-- The documents that TOML tells exactly: their names need no quotes, none stands twice in a table,
and tables nest at most as deep as the number says. -/
inductive IsExact : Nat → Document → Prop
  | value {depth : Nat} {d : Document} (exact : IsValue depthLimit d) : IsExact depth d
  | table {depth : Nat} {entries : List (String × Document)} (bare : ∀ e ∈ entries, IsBare e.1)
      (distinct : (entries.map (·.1)).Nodup) (inner : ∀ e ∈ entries, IsExact depth e.2) :
      IsExact (depth + 1) (.table entries)

theorem IsValue.isTable_eq_false {depth : Nat} {d : Document} (exact : IsValue depth d) :
    isTable d = false := by
  cases exact <;> rfl

theorem IsExact.isValue {depth : Nat} {d : Document} (exact : IsExact depth d)
    (plain : isTable d = false) : IsValue depthLimit d := by
  cases exact with
  | value exact => exact exact
  | table bare distinct inner => cases plain

/-- A record with these names. -/
theorem IsExact.record {depth : Nat} {names : List String} {entries : List (String × Document)}
    (bare : ∀ name ∈ names, IsBare name) (distinct : names.Nodup)
    (named : entries.map (·.1) = names) (each : entries.Forall fun e => IsExact depth e.2) :
    IsExact (depth + 1) (.table entries) := by
  subst named
  exact .table (fun e there => bare e.1 (List.mem_map.2 ⟨e, there, rfl⟩)) distinct
    (List.forall_iff_forall_mem.1 each)

/-! ## Pieces of a text -/

/-- Pieces of a text that are read one after the other; none begins with the mark of the byte
order. -/
inductive RunsAll : List String → Progress → Progress → Prop
  | nil (p : Progress) : RunsAll [] p p
  | cons {piece : String} {pieces : List String} {p q r : Progress}
      (begins : ∃ c cs, piece.toList = c :: cs ∧ c ≠ '\ufeff') (first : Runs piece.toList p q)
      (more : RunsAll pieces q r) : RunsAll (piece :: pieces) p r

theorem RunsAll.append {pieces more : List String} {p q r : Progress} (first : RunsAll pieces p q)
    (second : RunsAll more q r) : RunsAll (pieces ++ more) p r := by
  induction first with
  | nil p => exact second
  | cons begins run rest ih => exact .cons begins run (ih second)

/-- Pieces with an empty line between them. -/
theorem runs_intercalate {pieces : List String} {p q : Progress} (all : RunsAll pieces p q) :
    Runs ("\n".intercalate pieces).toList p q := by
  induction all with
  | nil p => exact .refl p
  | @cons piece pieces p q r begins first more ih =>
    cases more with
    | nil => rwa [String.intercalate_singleton]
    | @cons second pieces _ _ _ begins' first' more' =>
      rw [String.intercalate_cons_cons, String.toList_append, String.toList_append]
      exact (first.trans (runs_newline q)).trans ih

theorem withoutMark_intercalate {pieces : List String} {p q : Progress}
    (all : RunsAll pieces p q) :
    withoutMark ("\n".intercalate pieces).toList = ("\n".intercalate pieces).toList := by
  have begins (cs : List Char) : ("\n".intercalate pieces).toList ≠ '\ufeff' :: cs := by
    cases all with
    | nil => exact fun same => by cases same
    | @cons piece pieces _ _ _ begins first more =>
      obtain ⟨c, ds, parts, noMark⟩ := begins
      cases pieces with
      | nil =>
        rw [String.intercalate_singleton, parts]
        exact fun same => noMark (List.cons.inj same).1
      | cons second pieces =>
        rw [String.intercalate_cons_cons, String.toList_append, String.toList_append, parts]
        exact fun same => noMark (List.cons.inj same).1
  rw [withoutMark]
  exact begins

/-! ## Entries -/

/-- The line of an entry. -/
def entryLine? (e : String × Document) : Option String := do
  return keyText e.1 ++ " = " ++ (← valueText? e.2) ++ "\n"

/-- The piece with the lines of a table's values, under its header if it has one.  A table that
holds nothing but tables has none. -/
def ownPieces (path : List String) (entries : List (String × Document)) (lines : List String) :
    List String :=
  if path.isEmpty then if lines.isEmpty then [] else [String.join lines]
  else if lines.isEmpty && !entries.isEmpty then []
  else ["[" ++ ".".intercalate (path.map keyText) ++ "]\n" ++ String.join lines]

theorem sections?_table (path : List String) (entries : List (String × Document)) :
    sections? path (.table entries) =
      ((entries.filter (!isTable ·.2)).mapM entryLine?).bind fun lines =>
        (entries.mapM fun e => sections? (path ++ [e.1]) e.2).map fun inner =>
          ownPieces path entries lines ++ inner.flatten := by
  have unbound : (entries.attach.mapM fun e => sections? (path ++ [e.1.1]) e.1.2) =
      entries.mapM fun e => sections? (path ++ [e.1]) e.2 := by
    rw [List.mapM_subtype (g := fun e : String × Document => sections? (path ++ [e.1]) e.2)
      (fun _ _ => rfl), List.unattach_attach]
  rw [sections?]
  change ((entries.filter (!isTable ·.2)).mapM entryLine?).bind (fun lines =>
    (entries.attach.mapM fun e => sections? (path ++ [e.1.1]) e.1.2).bind fun inner =>
      some (ownPieces path entries lines ++ inner.flatten)) = _
  rw [unbound]
  simp only [Option.map_eq_bind]
  rfl

theorem sections?_of_isTable {d : Document} (plain : isTable d = false) (path : List String) :
    sections? path d = some [] := by
  cases d with
  | table entries => cases plain
  | _ => rw [sections?]; simp

/-! ## Reading entries -/

/-- A line adds its entry to the table that is open. -/
def Adds (line : String) (e : String × Document) : Prop :=
  (∃ c cs, line.toList = c :: cs ∧ isBareKey c = true) ∧
    ∀ p root, change? (append? (e.1, .value e.2)) p.root p.path = some root →
      Runs line.toList p { p with root }

theorem exists_entryLine? {e : String × Document} (bare : IsBare e.1)
    (exact : IsValue depthLimit e.2) : ∃ line, entryLine? e = some line ∧ Adds line e := by
  obtain ⟨text, printed, told⟩ := exists_valueText? exact
  have made : entryLine? e = some (keyText e.1 ++ " = " ++ text ++ "\n") := by
    rw [entryLine?, printed]
    rfl
  have parts : (keyText e.1 ++ " = " ++ text ++ "\n").toList =
      e.1.toList ++ ' ' :: '=' :: ' ' :: (text.toList ++ ['\n']) := by
    rw [bare.keyText]
    simp
  refine ⟨_, made, ?_, fun p root added => ?_⟩
  · obtain ⟨c, cs, name, first⟩ := bare.exists_eq_cons
    exact ⟨c, _, by rw [parts, name]; rfl, first⟩
  · rw [parts]
    exact runs_entry bare told added

theorem runs_join {lines : List String} {entries : List (String × Document)}
    (adds : List.Forall₂ Adds lines entries) {path : List String} {root root' : Entries}
    (added : entries.foldlM (fun root e => change? (append? (e.1, .value e.2)) root path) root =
      some root') :
    Runs (String.join lines).toList ⟨root, path⟩ ⟨root', path⟩ := by
  induction adds generalizing root with
  | nil =>
    obtain rfl := Option.some.inj added
    exact .refl _
  | cons first adds ih =>
    rw [List.foldlM_cons] at added
    obtain ⟨middle, one, more⟩ := Option.bind_eq_some_iff.1 added
    rw [String.join_cons, String.toList_append]
    exact (first.2 ⟨root, path⟩ middle one).trans (ih more)

/-- Pieces build a table at a path; for what is no table there are none. -/
def Builds (path : List String) (pieces : List String) (e : String × Document) : Prop :=
  (isTable e.2 = false → pieces = []) ∧
    (isTable e.2 = true → ∀ root root' opened,
      change? (append? (e.1, .ofDocument e.2)) root path = some root' →
      ∃ last, RunsAll pieces ⟨root, opened⟩ ⟨root', last⟩)

theorem exists_runsAll {path : List String} {inner : List (List String)}
    {entries : List (String × Document)} (builds : List.Forall₂ (Builds path) inner entries)
    {root root' : Entries}
    (added : (entries.filter (isTable ·.2)).foldlM
      (fun root e => change? (append? (e.1, .ofDocument e.2)) root path) root = some root')
    (opened : List String) :
    ∃ last, RunsAll inner.flatten ⟨root, opened⟩ ⟨root', last⟩ := by
  induction builds generalizing root opened with
  | nil =>
    obtain rfl := Option.some.inj added
    exact ⟨opened, .nil _⟩
  | @cons pieces e inner entries first builds ih =>
    rw [List.flatten_cons]
    cases kind : isTable e.2 with
    | false =>
      rw [List.filter_cons_of_neg (by simp [kind])] at added
      rw [first.1 kind, List.nil_append]
      exact ih added opened
    | true =>
      rw [List.filter_cons_of_pos (by simp [kind]), List.foldlM_cons] at added
      obtain ⟨middle, one, more⟩ := Option.bind_eq_some_iff.1 added
      obtain ⟨between, run⟩ := first.2 kind root middle opened one
      obtain ⟨last, rest⟩ := ih more between
      exact ⟨last, run.append rest⟩

/-! ## Tables -/

section Table

variable {here : List String} {entries : List (String × Document)}

/-- The entries of a table are added in two parts: the values, then the tables. -/
theorem exists_middle {root root' : Entries}
    (added : (treesOf entries).foldlM (fun root e => change? (append? e) root here) root =
      some root') :
    ∃ middle, (entries.filter (!isTable ·.2)).foldlM
        (fun root e => change? (append? (e.1, .value e.2)) root here) root = some middle ∧
      (entries.filter (isTable ·.2)).foldlM
        (fun root e => change? (append? (e.1, .ofDocument e.2)) root here) middle = some root' := by
  have values : (entries.filter (!isTable ·.2)).map (fun e => (e.1, Tree.ofDocument e.2)) =
      (entries.filter (!isTable ·.2)).map fun e => (e.1, Tree.value e.2) := by
    refine List.map_congr_left fun e there => ?_
    have plain : isTable e.2 = false := by simpa using (List.mem_filter.1 there).2
    rw [ofDocument_of_isTable plain]
  rw [treesOf, plainFirst, List.map_append, values, List.foldlM_append, List.foldlM_map,
    Option.bind_eq_bind, Option.bind_eq_some_iff] at added
  obtain ⟨middle, first, second⟩ := added
  rw [List.foldlM_map] at second
  exact ⟨middle, first, second⟩

theorem exists_lines (bare : ∀ e ∈ entries, IsBare e.1)
    (values : ∀ e ∈ entries, isTable e.2 = false → IsValue depthLimit e.2) :
    ∃ lines, (entries.filter (!isTable ·.2)).mapM entryLine? = some lines ∧
      List.Forall₂ Adds lines (entries.filter (!isTable ·.2)) := by
  refine exists_mapM fun e there => ?_
  obtain ⟨there, plain⟩ := List.mem_filter.1 there
  exact exists_entryLine? (bare e there) (values e there (by simpa using plain))

/-- There are lines unless the table holds nothing but tables. -/
theorem isEmpty_of_adds {lines : List String}
    (adds : List.Forall₂ Adds lines (entries.filter (!isTable ·.2))) :
    lines.isEmpty = entries.all (isTable ·.2) := by
  have same : lines = [] ↔ entries.filter (!isTable ·.2) = [] := by
    rw [← List.length_eq_zero_iff, adds.length_eq, List.length_eq_zero_iff]
  rw [Bool.eq_iff_iff, List.isEmpty_iff, same, List.filter_eq_nil_iff]
  simp

/-- A header of bare names, and the lines below it. -/
theorem toList_header {path : List String} (bare : ∀ n ∈ path, IsBare n) (lines : List String) :
    ("[" ++ ".".intercalate (path.map keyText) ++ "]\n" ++ String.join lines).toList =
      '[' :: ((".".intercalate path).toList ++ [']', '\n']) ++ (String.join lines).toList := by
  have names : path.map keyText = path :=
    (List.map_congr_left fun n there => (bare n there).keyText).trans (List.map_id _)
  rw [names]
  simp

/-- A header opens a table that was not named before. -/
theorem openTable?_of_append? {root start : Entries} {path : List String} {name : String}
    (added : change? (append? (name, .table .given [])) root path = some start) :
    openTable? root (path ++ [name]) = some start := by
  rw [openTable?, List.getLast?_concat, List.dropLast_concat]
  exact change?_mono (fun _ _ => giveTable?_of_append?) added

/-- The pieces of a table at a path are its header with its lines, and those of the tables in
it. -/
theorem runsAll_table {path : List String} {name : String}
    (bare : ∀ n ∈ path ++ [name], IsBare n) (deep : path.length + 1 < depthLimit)
    (distinct : (entries.map (·.1)).Nodup) {lines : List String} {inner : List (List String)}
    (adds : List.Forall₂ Adds lines (entries.filter (!isTable ·.2)))
    (builds : List.Forall₂ (Builds (path ++ [name])) inner entries) {root root' : Entries}
    (built : change? (append? (name, .ofDocument (.table entries))) root path = some root')
    (opened : List String) :
    ∃ last, RunsAll (ownPieces (path ++ [name]) entries lines ++ inner.flatten) ⟨root, opened⟩
      ⟨root', last⟩ := by
  have below : (path ++ [name]).isEmpty = false := by simp
  rw [ownPieces, below, if_neg Bool.false_ne_true, isEmpty_of_adds adds]
  cases only : entries.all (isTable ·.2) && !entries.isEmpty with
  | false =>
    have given : originOf entries = .given := by rw [originOf, only, if_neg Bool.false_ne_true]
    obtain ⟨start, led, added⟩ := exists_opened distinct built given
    obtain ⟨middle, first, second⟩ := exists_middle added
    rw [if_neg Bool.false_ne_true]
    have parts := toList_header bare lines
    have head := runs_header bare (by simp) (by simpa using deep) (p := ⟨root, opened⟩)
      (openTable?_of_append? led)
    obtain ⟨last, rest⟩ := exists_runsAll builds second (path ++ [name])
    exact ⟨last, .cons ⟨'[', _, parts, by decide⟩ (parts ▸ head.trans (runs_join adds first)) rest⟩
  | true =>
    have named : originOf entries = .named := by rw [originOf, only, if_pos rfl]
    obtain ⟨middle, first, second⟩ := exists_middle (foldlM_named distinct built named)
    rw [if_pos rfl, List.nil_append]
    have noValues : entries.filter (!isTable ·.2) = [] := by
      rw [Bool.and_eq_true, List.all_eq_true] at only
      rw [List.filter_eq_nil_iff]
      intro e there
      simp [only.1 e there]
    rw [noValues] at first
    obtain rfl := Option.some.inj first
    exact exists_runsAll builds second opened

end Table

/-- **Sections.**  The sections of a table are read to the table. -/
theorem exists_sections? {depth : Nat} {d : Document} (exact : IsExact depth d)
    {path : List String} {name : String} (bare : ∀ n ∈ path ++ [name], IsBare n)
    (deep : path.length + 1 + depth ≤ depthLimit) :
    ∃ pieces, sections? (path ++ [name]) d = some pieces ∧ Builds path pieces (name, d) := by
  -- one level down the path has a name more and the tables may nest one level less, so that
  -- the sum stays within the limit
  induction exact generalizing path name with
  | value exact =>
    have plain := exact.isTable_eq_false
    refine ⟨[], sections?_of_isTable plain _, fun _ => rfl, fun table => ?_⟩
    rw [plain] at table
    cases table
  | @table depth entries bareNames distinct inner ih =>
    have values : ∀ e ∈ entries, isTable e.2 = false → IsValue depthLimit e.2 :=
      fun e there plain => (inner e there).isValue plain
    obtain ⟨lines, printed, adds⟩ := exists_lines bareNames values
    have each : ∀ e ∈ entries, ∃ pieces, sections? (path ++ [name] ++ [e.1]) e.2 = some pieces ∧
        Builds (path ++ [name]) pieces e := by
      intro e there
      refine ih e there (fun n member => ?_) ?_
      · rcases List.mem_append.1 member with known | last
        · exact bare n known
        · exact List.mem_singleton.1 last ▸ bareNames e there
      · rw [List.length_append, List.length_singleton]
        omega
    obtain ⟨pieces, sections, builds⟩ := exists_mapM each
    refine ⟨ownPieces (path ++ [name]) entries lines ++ pieces.flatten, ?_,
      fun plain => Bool.noConfusion plain, fun _ root root' opened built =>
        runsAll_table bare (by omega) distinct adds builds built opened⟩
    rw [sections?_table, printed, Option.bind_some, sections, Option.map_some]

/-! ## Whole documents -/

/-- The pieces of a document are the lines of its values and those of the tables in it. -/
theorem runsAll_document {entries : List (String × Document)}
    (distinct : (entries.map (·.1)).Nodup) {lines : List String} {inner : List (List String)}
    (adds : List.Forall₂ Adds lines (entries.filter (!isTable ·.2)))
    (builds : List.Forall₂ (Builds []) inner entries) :
    ∃ last, RunsAll (ownPieces [] entries lines ++ inner.flatten) ⟨[], []⟩
      ⟨treesOf entries, last⟩ := by
  have added : (treesOf entries).foldlM (fun root e => change? (append? e) root []) [] =
      some (treesOf entries) := foldlM_append? (map_fst_treesOf_nodup distinct)
  obtain ⟨middle, first, second⟩ := exists_middle added
  obtain ⟨last, rest⟩ := exists_runsAll builds second []
  rw [ownPieces, if_pos List.isEmpty_nil]
  cases lines with
  | nil =>
    rw [List.forall₂_nil_left_iff.1 adds] at first
    obtain rfl := Option.some.inj first
    exact ⟨last, rest⟩
  | cons line lines =>
    obtain ⟨-, -, ⟨⟨c, cs, parts, bare⟩, -⟩, -, -⟩ := List.forall₂_cons_left_iff.1 adds
    have noMark : c ≠ '\ufeff' := ne_of_isBareKey bare (by decide)
    have begins : (String.join (line :: lines)).toList =
        c :: (cs ++ (String.join lines).toList) := by
      rw [String.join_cons, String.toList_append, parts, List.cons_append]
    exact ⟨last, .cons ⟨c, _, begins, noMark⟩ (runs_join adds first) rest⟩

/-- **Printed documents read back.**  A table that TOML tells exactly has a text, and this is read
as the table with its values put first. -/
theorem exists_print? {entries : List (String × Document)}
    (exact : IsExact depthLimit (.table entries)) :
    ∃ text, print? (.table entries) = some text ∧
      read text = .ok (Tree.ofDocument (.table entries)).finish := by
  cases exact with
  | value exact => cases exact
  | table bareNames distinct inner =>
    obtain ⟨lines, printed, adds⟩ := exists_lines bareNames fun e there => (inner e there).isValue
    have each : ∀ e ∈ entries, ∃ pieces, sections? ([] ++ [e.1]) e.2 = some pieces ∧
        Builds [] pieces e := fun e there =>
      exists_sections? (inner e there) (by simpa using bareNames e there) (Nat.le_refl _)
    obtain ⟨pieces, sections, builds⟩ := exists_mapM each
    obtain ⟨last, all⟩ := runsAll_document distinct adds builds
    refine ⟨"\n".intercalate (ownPieces [] entries lines ++ pieces.flatten), ?_, ?_⟩
    · rw [print?, sections?_table, printed, Option.bind_some, sections]
      rfl
    · obtain ⟨fuel, enough, ran⟩ := runs_intercalate all _ [] (Nat.lt_succ_self _)
      obtain ⟨fuel, rfl⟩ := Nat.exists_eq_succ_of_ne_zero (Nat.ne_zero_of_lt enough)
      rw [List.length_nil, Nat.add_zero, List.append_nil] at ran
      rw [read, withoutMark_intercalate all, ofDocument_table, finish_table]
      simp only [ran]
      rfl

/-! ## Documents without a text -/

/-- A document with an integer that does not fit into 64 bits with a sign. -/
inductive IsWide : Document → Prop
  | integer {i : Int} (wide : ¬(Int64.minValue.toInt ≤ i ∧ i ≤ Int64.maxValue.toInt)) :
      IsWide (.integer i)
  | table {entries : List (String × Document)} {e : String × Document} (there : e ∈ entries)
      (inner : IsWide e.2) : IsWide (.table entries)

theorem mapM_eq_none {α β : Type} {f : α → Option β} {as : List α} {a : α} (there : a ∈ as)
    (missing : f a = none) : as.mapM f = none := by
  induction as with
  | nil => cases there
  | cons b as ih =>
    rw [List.mapM_cons]
    rcases List.mem_cons.1 there with rfl | there
    · rw [missing]
      rfl
    · rw [ih there]
      cases f b <;> rfl

/-- Such a value has no text, and such a table no sections. -/
theorem text_of_isWide {d : Document} (wide : IsWide d) :
    (isTable d = false → valueText? d = none) ∧
      (isTable d = true → ∀ path, sections? path d = none) := by
  induction wide with
  | integer wide =>
    refine ⟨fun _ => ?_, fun table => Bool.noConfusion table⟩
    rw [valueText?, if_neg wide]
  | @table entries e there inner ih =>
    refine ⟨fun plain => Bool.noConfusion plain, fun _ path => ?_⟩
    rw [sections?_table]
    cases kind : isTable e.2 with
    | false =>
      have line : entryLine? e = none := by
        rw [entryLine?, ih.1 kind]
        rfl
      rw [mapM_eq_none (List.mem_filter.2 ⟨there, by simp [kind]⟩) line]
      rfl
    | true =>
      rw [mapM_eq_none (f := fun e => sections? (path ++ [e.1]) e.2) there (ih.2 kind _)]
      cases (entries.filter (!isTable ·.2)).mapM entryLine? <;> rfl

theorem print?_of_isWide {entries : List (String × Document)} (wide : IsWide (.table entries)) :
    print? (.table entries) = none := by
  rw [print?, (text_of_isWide wide).2 rfl []]
  rfl

end Reachability.Toml

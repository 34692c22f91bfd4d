/-
# Lines of TOML

A header opens its table, a line with a key and a value adds the value to the table that is open,
and an empty line does nothing.

Main definitions:

* `Toml.IsBare` : the names that need no quotes;
* `Toml.Runs` : reading some lines leads from one progress to another, whatever lines follow.

Main results:

* `keyParts_bare` : a key of bare names is read as these names;
* `runs_newline`, `runs_header`, `runs_entry` : single lines;
* `Runs.trans` : lines one after the other.
-/
import Reachability.Proofs.Document.Toml.Tree
import Reachability.Proofs.Document.Toml.Value

namespace Reachability.Toml

theorem ok_bind {ε α β : Type} (a : α) (f : α → Except ε β) : (Except.ok a >>= f) = f a := rfl

/-! ## Keys -/

/-- A name that needs no quotes. -/
def IsBare (name : String) : Prop := name ≠ "" ∧ ∀ c ∈ name.toList, isBareKey c = true

instance : DecidablePred IsBare := fun name =>
  decidable_of_iff (name ≠ "" ∧ name.toList.all isBareKey = true)
    (and_congr_right fun _ => List.all_eq_true)

theorem IsBare.keyText {name : String} (bare : IsBare name) : keyText name = name := by
  rw [Toml.keyText, if_pos]
  have filled : name.isEmpty = false := by simpa using bare.1
  simpa [filled] using bare.2

/-- Signs that stand in no bare name. -/
theorem ne_of_isBareKey {c d : Char} (bare : isBareKey c = true) (sign : isBareKey d = false) :
    c ≠ d := by
  rintro rfl
  rw [sign] at bare
  cases bare

theorem isVisible_of_isBareKey {c : Char} (bare : isBareKey c = true) : IsVisible c := by
  have other {d : Char} := ne_of_isBareKey (d := d) bare
  refine ⟨?_, other (by decide), other (by decide), other (by decide)⟩
  simp only [isBlank, Bool.or_eq_false_iff, beq_eq_false_iff_ne]
  exact ⟨other (by decide), other (by decide)⟩

theorem IsBare.exists_eq_cons {name : String} (bare : IsBare name) :
    ∃ c cs, name.toList = c :: cs ∧ isBareKey c = true := by
  obtain ⟨c, cs, parts⟩ := List.exists_cons_of_ne_nil
    (mt String.toList_eq_nil_iff.1 bare.1)
  exact ⟨c, cs, parts, bare.2 c (parts ▸ List.mem_cons_self)⟩

/-- A text that goes on no bare name. -/
def EndsName (rest : List Char) : Prop := ∀ c ∈ rest.head?, isBareKey c = false

theorem keyPart_bare {name : String} (bare : IsBare name) {rest : List Char}
    (ends : EndsName rest) : keyPart (name.toList ++ rest) = .ok (name, rest) := by
  obtain ⟨c, cs, parts, first⟩ := bare.exists_eq_cons
  have none : rest.takeWhile isBareKey = [] := by
    cases rest with
    | nil => rfl
    | cons d rest => exact List.takeWhile_cons_of_neg (by simp [ends d rfl])
  have taken : (name.toList ++ rest).takeWhile isBareKey = name.toList := by
    rw [List.takeWhile_append_of_pos bare.2, none, List.append_nil]
  have left : (name.toList ++ rest).drop name.toList.length = rest := List.drop_left
  have filled : name.toList.isEmpty = false := by rw [parts]; rfl
  rw [keyPart]
  · rw [taken, filled, left, if_neg Bool.false_ne_true, String.ofList_toList]
  all_goals
    rw [parts]
    exact fun _ same => absurd (List.cons.inj same).1 (ne_of_isBareKey first (by decide))

theorem skipBlanks_bare {name : String} (bare : IsBare name) (rest : List Char) :
    skipBlanks (name.toList ++ rest) = name.toList ++ rest := by
  obtain ⟨c, cs, parts, first⟩ := bare.exists_eq_cons
  rw [parts]
  exact skipBlanks_of_visible (isVisible_of_isBareKey first) _

/-- A key of bare names is read up to the sign behind it. -/
theorem keyParts_bare {path : List String} (bare : ∀ name ∈ path, IsBare name)
    (filled : path ≠ []) {rest : List Char} (ends : EndsName rest)
    (last : (skipBlanks rest).head? ≠ some '.') {fuel : Nat} (enough : path.length ≤ fuel) :
    keyParts fuel ((".".intercalate path).toList ++ rest) = .ok (path, skipBlanks rest) := by
  induction path generalizing fuel with
  | nil => exact absurd rfl filled
  | cons name path ih =>
    obtain ⟨fuel, rfl⟩ := Nat.exists_eq_succ_of_ne_zero (Nat.ne_zero_of_lt enough)
    rw [List.forall_mem_cons] at bare
    cases path with
    | nil =>
      rw [String.intercalate_singleton, keyParts, skipBlanks_bare bare.1, keyPart_bare bare.1 ends]
      dsimp only [Except.instMonad, Except.bind, bind]
      split
      case h_1 point => exact absurd (congrArg List.head? point) last
      case h_2 => rfl
    | cons second path =>
      have point : EndsName ('.' :: ((".".intercalate (second :: path)).toList ++ rest)) := by
        intro c first
        obtain rfl := Option.some.inj first
        decide
      have later := ih bare.2 (List.cons_ne_nil _ _) (Nat.le_of_succ_le_succ enough)
      have line : (".".intercalate (name :: second :: path)).toList ++ rest =
          name.toList ++ '.' :: ((".".intercalate (second :: path)).toList ++ rest) := by
        rw [String.intercalate_cons_cons, String.toList_append, String.toList_append,
          List.append_assoc, List.append_assoc]
        rfl
      rw [line, keyParts, skipBlanks_bare bare.1, keyPart_bare bare.1 point]
      change (keyParts fuel ((".".intercalate (second :: path)).toList ++ rest) >>= _) = _
      rw [later]
      rfl

/-! ## Lines -/

/-- Reading some lines leads from one progress to another, whatever lines follow. -/
def Runs (cs : List Char) (p q : Progress) : Prop :=
  ∀ fuel rest, cs.length + rest.length < fuel →
    ∃ fuel', rest.length < fuel' ∧ lines fuel p (cs ++ rest) = lines fuel' q rest

theorem Runs.refl (p : Progress) : Runs [] p p := by
  intro fuel rest enough
  rw [List.length_nil, Nat.zero_add] at enough
  exact ⟨fuel, enough, rfl⟩

theorem Runs.trans {cs ds : List Char} {p q r : Progress} (first : Runs cs p q)
    (second : Runs ds q r) : Runs (cs ++ ds) p r := by
  intro fuel rest enough
  rw [List.length_append, Nat.add_assoc, ← List.length_append] at enough
  obtain ⟨fuel', enough', read⟩ := first fuel (ds ++ rest) enough
  rw [List.length_append] at enough'
  obtain ⟨fuel'', enough'', read'⟩ := second fuel' rest enough'
  exact ⟨fuel'', enough'', by rw [List.append_assoc, read, read']⟩

/-- One line is read in one step. -/
theorem runs_of_step {cs : List Char} (filled : cs ≠ []) {p q : Progress}
    (step : ∀ fuel rest, cs.length + rest.length ≤ fuel →
      lines (fuel + 1) p (cs ++ rest) = lines fuel q rest) : Runs cs p q := by
  intro fuel rest enough
  obtain ⟨fuel, rfl⟩ := Nat.exists_eq_succ_of_ne_zero (Nat.ne_zero_of_lt enough)
  have some := List.length_pos_of_ne_nil filled
  exact ⟨fuel, by omega, step fuel rest (Nat.le_of_lt_succ enough)⟩

theorem runs_newline (p : Progress) : Runs ['\n'] p p :=
  runs_of_step (List.cons_ne_nil _ _) fun _ _ _ => rfl

theorem endOfLine?_newline (rest : List Char) : endOfLine? ('\n' :: rest) = some rest := rfl

/-- A key begins with a visible sign that opens no header. -/
theorem exists_path_eq_cons {path : List String} (bare : ∀ name ∈ path, IsBare name)
    (filled : path ≠ []) :
    ∃ c cs, (".".intercalate path).toList = c :: cs ∧ isBareKey c = true := by
  cases path with
  | nil => exact absurd rfl filled
  | cons name path =>
    obtain ⟨c, cs, parts, first⟩ := (bare name List.mem_cons_self).exists_eq_cons
    cases path with
    | nil => exact ⟨c, cs, by rw [String.intercalate_singleton, parts], first⟩
    | cons second path =>
      rw [String.intercalate_cons_cons, String.toList_append, String.toList_append, parts]
      exact ⟨c, _, rfl, first⟩

/-- A header opens its table. -/
theorem runs_header {path : List String} (bare : ∀ name ∈ path, IsBare name)
    (filled : path ≠ []) (deep : path.length < depthLimit) {p : Progress} {root : Entries}
    (opened : openTable? p.root path = some root) :
    Runs ('[' :: ((".".intercalate path).toList ++ [']', '\n'])) p ⟨root, path⟩ := by
  refine runs_of_step (List.cons_ne_nil _ _) fun fuel rest _ => ?_
  obtain ⟨c, cs, parts, first⟩ := exists_path_eq_cons bare filled
  have closes : EndsName (']' :: '\n' :: rest) := by
    rintro c ⟨⟩
    decide
  have read : key ((".".intercalate path).toList ++ ']' :: '\n' :: rest) =
      .ok (path, ']' :: '\n' :: rest) :=
    keyParts_bare bare filled closes (by rintro ⟨⟩) (Nat.le_sub_one_of_lt deep)
  have closed : closeHeader [']'] ["expected `.`, `]`"] (']' :: '\n' :: rest) = .ok rest := rfl
  have head : header p ('[' :: ((".".intercalate path).toList ++ ']' :: '\n' :: rest)) =
      .ok (⟨root, path⟩, rest) := by
    rw [header]
    · simp only [List.drop_succ_cons, List.drop_zero, read, ok_bind, closed, opened]
      rfl
    · rw [parts]
      exact fun _ same => absurd (List.cons.inj (List.cons.inj same).2).1
        (ne_of_isBareKey first (by decide))
  rw [List.cons_append, List.append_assoc]
  change (header p ('[' :: ((".".intercalate path).toList ++ ']' :: '\n' :: rest)) >>= _) = _
  rw [head]
  rfl

/-- A value under a bare name is added to the open table. -/
theorem runs_entry {name : String} (bare : IsBare name) {text : List Char} {d : Document}
    (told : Tells depthLimit text d) {p : Progress} {root : Entries}
    (added : change? (append? (name, .value d)) p.root p.path = some root) :
    Runs (name.toList ++ ' ' :: '=' :: ' ' :: (text ++ ['\n'])) p { p with root } := by
  refine runs_of_step (by simp) fun fuel rest _ => ?_
  obtain ⟨c, cs, parts, first⟩ := bare.exists_eq_cons
  obtain ⟨t, ts, begins, visible, -⟩ := told.begins
  have other {d : Char} := ne_of_isBareKey (d := d) first
  have blank : EndsName (' ' :: '=' :: ' ' :: (text ++ '\n' :: rest)) := by
    rintro c ⟨⟩
    decide
  have named : key (name.toList ++ ' ' :: '=' :: ' ' :: (text ++ '\n' :: rest)) =
      .ok ([name], '=' :: ' ' :: (text ++ '\n' :: rest)) := by
    have read := keyParts_bare (List.forall_mem_singleton.2 bare) (List.cons_ne_nil _ _) blank
      (by rintro ⟨⟩) (show 1 ≤ depthLimit - 1 by decide)
    rw [String.intercalate_singleton] at read
    exact read
  have skipped : skipBlanks (' ' :: (text ++ '\n' :: rest)) = text ++ '\n' :: rest := by
    rw [begins]
    exact skipBlanks_of_visible visible _
  have valued : value (2 * (' ' :: (text ++ '\n' :: rest)).length + 2) depthLimit
      (text ++ '\n' :: rest) = .ok (d, '\n' :: rest) := by
    refine told.reads _ _ _ ?_ (Nat.le_refl _) (.line rest)
    simp only [List.length_cons, List.length_append]
    omega
  have put : change? (fun entries => put? (1 < [name].length) false entries [name] d) p.root
      p.path = some root := by
    simpa only [List.length_singleton, Nat.lt_irrefl, decide_false, put?_singleton] using added
  have line : entry p (name.toList ++ ' ' :: '=' :: ' ' :: (text ++ '\n' :: rest)) =
      .ok ({ p with root }, rest) := by
    simp only [entry, named, ok_bind, skipped, valued, endOfLine?_newline, put]
    rfl
  have whole : name.toList ++ ' ' :: '=' :: ' ' :: (text ++ ['\n']) ++ rest =
      name.toList ++ ' ' :: '=' :: ' ' :: (text ++ '\n' :: rest) := by simp
  rw [whole, lines, skipBlanks_bare bare]
  rw [parts, List.cons_append] at line ⊢
  split
  case h_1 none => cases none
  case h_2 same => exact absurd (List.cons.inj same).1 (other (by decide))
  case h_3 same => exact absurd (List.cons.inj same).1 (other (by decide))
  case h_4 same =>
    rw [← same, lineEnd?_of_visible (isVisible_of_isBareKey first)]
    simp only [line, ok_bind]

end Reachability.Toml
